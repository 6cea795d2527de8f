import NamedConditions.Proofs.Context.History
/-!
What a pass hands to its conditions. The effective context is made of three layers: what the source
of the environment gives, the accumulated context and the argument. In a reachable session the slots
of accumulated contexts lie within the store, so taking the argument and reading the source changes
no value that they stand for.

Main statements: how an effective context comes about (`effectiveContext_run`), what it holds under
a key and the order of its keys (`find?_effective_of_distinct`, `keys_effective_of_distinct`), and
what its values are (`received_eq`): the overlay of the environment, the accumulated values and the
entries of the argument, whatever else happened to the session.
-/
namespace NamedConditions

namespace Context

/-! ## Effective contexts of accumulated contexts -/

/-- Each key is looked up in the runtime context, then in the accumulated one, and for `env` alone
the environment comes last. -/
theorem find?_effective_of_distinct {accumulated : Context} (h : Layer.Distinct accumulated)
    (env : Slot) (runtime : Context) (key : Value) :
    Layer.find? (effective env accumulated runtime) key =
      (Layer.find? (Layer.overlay runtime) key).or ((Layer.find? accumulated key).or
        (if envKey.sameKey key then some env else none)) := by
  rw [find?_effective, Layer.find?_overlay, Layer.find?_reverse_of_distinct h]

theorem effective_eq_overlay (env : Slot) (accumulated runtime : Context) :
    effective env accumulated runtime =
      Layer.overlay ((envKey, env) :: accumulated ++ runtime) := by
  rw [← Layer.ofEntries_eq_overlay, List.cons_append]
  exact (Layer.merge_append [(envKey, env)] accumulated runtime).symm

/-- What is made of the slots can be made of the slots of each layer. -/
theorem mapStored_effective {γ : Type} (f : Slot → γ) (env : Slot)
    (accumulated runtime : Context) :
    Layer.mapStored f (effective env accumulated runtime) =
      Layer.overlay ((envKey, f env) :: Layer.mapStored f accumulated ++
        Layer.mapStored f runtime) := by
  rw [effective, Layer.mapStored_merge, Layer.mapStored_merge, ← Layer.ofEntries_eq_overlay,
    List.cons_append]
  exact (Layer.merge_append [(envKey, f env)] _ _).symm

/-- The keys in order: `env`, then the other accumulated keys, then those that only the runtime
context has. -/
theorem keys_effective_of_distinct {accumulated : Context} (h : Layer.Distinct accumulated)
    (env : Slot) (runtime : Context) :
    Layer.keys (effective env accumulated runtime) =
      envKey :: (Layer.keys accumulated).filter (fun k => !envKey.sameKey k) ++
        (Layer.keys (Layer.overlay runtime)).filter fun k =>
          !(envKey.sameKey k || Layer.has accumulated k) := by
  have hf : Layer.firsts ((envKey, env) :: accumulated ++ runtime) =
      ((envKey, env) :: accumulated.filter fun x => !envKey.sameKey x.1) ++
        (Layer.firsts runtime).filter fun x =>
          !(envKey.sameKey x.1 || Layer.has accumulated x.1) := by
    rw [List.cons_append, Layer.firsts, Layer.firsts_append_of_distinct h, List.filter_append,
      List.filter_filter, List.cons_append]
    congr 3
    funext x
    rw [Bool.not_or]
  rw [effective_eq_overlay, Layer.keys_overlay, Layer.keys_overlay, hf]
  simp only [Layer.keys, List.map_append, List.map_cons, List.filter_map, Function.comp_def]

end Context

/-- What a source gives or raises when it is read. -/
def Provider.gives (process : Variables) : Provider → Except Raised Value
  | .fixed es => .ok (.dict es)
  | .varying outcomes => outcomes 0
  | .process => .ok (.dict process.entries)

/-- A reading gives a slot for what the source gives. -/
theorem Provider.map_read (p : Provider) (process : Variables) (s : Store) :
    (p.read process s).1.map (p.read process s).2.2.value = p.gives process := by
  cases p with
  | fixed es => exact congrArg Except.ok (Store.content_allocate_self s _)
  | varying outcomes =>
    rw [read, gives]
    cases outcomes 0 with
    | ok v => exact congrArg Except.ok (Store.value_slot_self s v)
    | error e => rfl
  | process => exact congrArg Except.ok (Store.content_allocate_self s _)

/-- What a source gives copies of, if it gives copies of something. -/
def Provider.original? (process : Variables) : Provider → Option Entries
  | .fixed es => some es
  | .varying _ => none
  | .process => some process.entries

/-- A reading of such a source gives a new cell and leaves the source as it is. -/
theorem Provider.read_of_original {p : Provider} {process : Variables} {es : Entries}
    (h : p.original? process = some es) (store : Store) :
    p.read process store =
      (.ok (.shared store.cells.length), p, (store.allocate (.dict es)).2) := by
  cases p with
  | varying outcomes => cases h
  | fixed | process =>
    cases h
    rfl

namespace Session

/-! ## Accumulated contexts lie within the store -/

/-- The slots of accumulated contexts lie within the store. -/
def Bounded (s : Session) : Prop :=
  ∀ (n : Nat) e, s.evaluators[n]? = some e → Context.Within s.store e.accumulated

/-- Whether a change writes an item of a cell. -/
def Change.isWrite : Change → Bool
  | .write .. => true
  | _ => false

/-- All other changes add cells at most. -/
theorem extends_perform {c : Change} (hc : c.isWrite = false) (s : Session) :
    s.store.Extends (c.perform s).store := by
  cases c with
  | write => cases hc
  | log | note | bind | setProcess | openSpan | closeSpan | mark | turn | clear =>
    exact .refl s.store
  | abandonSpan stop => cases stop <;> exact .refl s.store
  | hold v => exact Store.extends_slot s.store v
  | take argument =>
    rcases Change.perform_take argument s with ⟨es, -, hs⟩ | ⟨-, notes, hs⟩ <;> rw [hs]
    · exact Store.extends_context s.store es
    · exact .refl s.store
  | give number argument =>
    rcases Change.perform_give number argument s with ⟨es, -, hs⟩ | ⟨-, notes, hs⟩ <;> rw [hs]
    · exact Store.extends_context s.store es
    · exact .refl s.store
  | make setup =>
    rcases Change.perform_make setup s with hs | ⟨_, _, _, _, _, -, hs⟩ <;> rw [hs] <;>
      exact .refl s.store
  | fork number =>
    rcases Change.perform_fork number s with hs | ⟨e, specs, -, -, hs⟩ <;> rw [hs] <;>
      exact .refl s.store
  | read source =>
    rcases Change.perform_read source s with ⟨-, hs⟩ | ⟨p, -, hs⟩ <;> rw [hs]
    · exact .refl s.store
    · exact Store.extends_read p s.process s.store

/-- No change takes cells away, or turns what can change into what cannot. -/
theorem evolves_perform (c : Change) (s : Session) : s.store.Evolves (c.perform s).store := by
  cases hc : c.isWrite with
  | false => exact (extends_perform hc s).evolves
  | true =>
    cases c with
    | write number key v =>
      rw [Change.perform]
      cases hw : s.store.write number key v with
      | error e => exact (Store.Extends.refl s.store).evolves
      | ok t => exact Store.evolves_of_write hw
    | _ => cases hc

theorem length_cells_perform (c : Change) (s : Session) :
    s.store.cells.length ≤ (c.perform s).store.cells.length :=
  (evolves_perform c s).length

theorem within_perform (c : Change) {s : Session} {context : Context}
    (h : context.Within s.store) : context.Within (c.perform s).store :=
  fun x hx => Slot.within_of_length_le (length_cells_perform c s) (h x hx)

theorem within_merge {s : Store} {a b : Context} (ha : a.Within s) (hb : b.Within s) :
    Context.Within s (Layer.merge a b) := by
  intro x hx
  obtain ⟨y, hy, he⟩ := Layer.exists_of_mem_merge hx
  rw [← he]
  rcases List.mem_append.1 hy with hy | hy
  · exact ha y hy
  · exact hb y hy

/-- What holds of every evaluator still holds when the accumulated context of one of them is
changed, if it holds of that one. -/
theorem forall_onAccumulated {P : Evaluator → Prop} {s : Session} (number : Nat)
    (f : Context → Context) (h : ∀ (n : Nat) e, s.evaluators[n]? = some e → P e)
    (hf : ∀ e, s.evaluators[number]? = some e → P { e with accumulated := f e.accumulated }) :
    ∀ (n : Nat) e, (s.onAccumulated number f).evaluators[n]? = some e → P e := by
  intro n e he
  by_cases hn : n = number
  · subst hn
    rw [getElem?_onAccumulated_self] at he
    obtain ⟨e', he', rfl⟩ := Option.map_eq_some_iff.1 he
    exact hf e' he'
  · rw [getElem?_onAccumulated_of_ne hn] at he
    exact h n e he

/-- Every change keeps accumulated contexts within the store. -/
theorem bounded_perform (c : Change) {s : Session} (h : Bounded s) : Bounded (c.perform s) := by
  have hold : ∀ (n : Nat) e, s.evaluators[n]? = some e → e.accumulated.Within (c.perform s).store :=
    fun n e he => within_perform c (h n e he)
  cases effect_perform c s with
  | kept hs =>
    unfold Bounded
    rw [hs.1]
    exact hold
  | gave number layer hs hw =>
    unfold Bounded
    rw [hs.1]
    cases layer with
    | none => exact hold
    | some given =>
      refine forall_onAccumulated number (fun a => Layer.merge a given) hold ?_
      exact fun e he => within_merge (hold number e he) (hw given rfl)
  | cleared number hs =>
    unfold Bounded
    rw [hs.1]
    refine forall_onAccumulated number (fun _ => []) hold ?_
    intro e _ x hx
    cases hx
  | added new d hd he hh =>
    intro n e hn
    rw [he] at hn
    rcases getElem?_concat_cases hn with ⟨-, hn⟩ | ⟨-, rfl⟩
    · exact hold n e hn
    · cases hd with
      | made ha =>
        intro x hx
        rw [ha] at hx
        cases hx
      | forked hp ha =>
        rw [ha]
        exact hold _ _ hp

theorem bounded_of_reachable {s : Session} (h : Reachable s) : Bounded s := by
  induction h with
  | start process =>
    intro n e he
    cases he
  | change c _ ih => exact bounded_perform c ih

/-! ## How an effective context comes about -/

/-- The slots that a pass takes its argument into. -/
def taken (argument : PassArgument) (s : Session) : Context :=
  match argument with
  | .given v => (argumentEntries? v).elim [] fun es => (s.store.context es).1
  | .context c => c

/-- The session once a pass has taken its argument. -/
def afterTaking (argument : PassArgument) (s : Session) : Session :=
  match argument with
  | .given v => endState (takeArgument "runtime context" v s)
  | .context _ => s

/-- What the source of an evaluator gives or raises when it is read. -/
def environment (e : Evaluator) (s : Session) : Except Raised Value :=
  s.sources[e.source]?.elim (.ok .null) (·.gives s.process)

/-- A pass takes its argument, reads the source once and lays the layers over one another. -/
theorem effectiveContext_run (e : Evaluator) (argument : PassArgument) (s : Session) :
    effectiveContext e argument s =
      match readSource e.source (afterTaking argument s) with
      | .ok env t => .ok (Context.effective env e.accumulated (taken argument s)) t
      | .error stop t => .error stop t := by
  cases argument with
  | context c =>
    simp only [effectiveContext, afterTaking, taken, Bind.bind, EStateM.bind, pure, EStateM.pure]
    cases readSource e.source s <;> rfl
  | given v =>
    simp only [effectiveContext, afterTaking, taken, Bind.bind, EStateM.bind, Functor.map,
      EStateM.map]
    cases h : argumentEntries? v with
    | none =>
      rw [takeArgument_of_no_entries h, endState]
      dsimp only
      cases readSource e.source (ignore "runtime context" v s) <;> rfl
    | some es =>
      rw [takeArgument_of_entries h, endState]
      dsimp only
      cases readSource e.source { s with store := (s.store.context es).2 } <;> rfl

/-- Reading a source gives a new slot for what the source gives. -/
theorem readSource_environment (e : Evaluator) (s : Session) :
    (∃ env t, readSource e.source s = .ok env t ∧ s.store.Extends t.store ∧
      environment e s = .ok (t.store.value env)) ∨
    ∃ error t, readSource e.source s = .error (.failure (.raised error)) t ∧
      environment e s = .error error := by
  unfold environment
  cases h : s.sources[e.source]? with
  | none =>
    rw [readSource_of_none h]
    exact .inl ⟨_, _, rfl, .refl s.store, rfl⟩
  | some p =>
    have hg := p.map_read s.process s.store
    rw [readSource_of_some h, Option.elim_some, ← hg]
    cases (p.read s.process s.store).1 with
    | error error => exact .inr ⟨error, _, rfl, rfl⟩
    | ok env => exact .inl ⟨env, _, rfl, Store.extends_read p s.process s.store, rfl⟩

/-- Reading a source that gives copies gives a new cell with a copy and changes nothing else. -/
theorem readSource_of_original {s : Session} {source : Nat} {p : Provider} {es : Entries}
    (hs : s.sources[source]? = some p) (hp : p.original? s.process = some es) :
    ∃ j, readSource source s = .ok (.shared s.store.cells.length)
      { s with store := (s.store.allocate (.dict es)).2, journal := j } := by
  have hset : s.sources.set source p = s.sources := by
    obtain ⟨h, rfl⟩ := List.getElem?_eq_some_iff.1 hs
    exact List.set_getElem_self h
  refine ⟨(s.afterReading source p).journal, ?_⟩
  rw [readSource_of_some hs]
  simp only [afterReading, Provider.read_of_original hp, hset]
  rfl

/-- Taking an argument adds cells and a note at most, and keeps the argument's entries. -/
theorem afterTaking_given (argument : Option Value) (s : Session) :
    s.store.Extends (afterTaking (.given argument) s).store ∧
      (taken (.given argument) s).Within (afterTaking (.given argument) s).store ∧
      (afterTaking (.given argument) s).store.values (taken (.given argument) s) =
        (argumentEntries? argument).getD [] ∧
      (∀ e, environment e (afterTaking (.given argument) s) = environment e s) := by
  simp only [afterTaking, taken]
  cases h : argumentEntries? argument with
  | none =>
    obtain ⟨notes, hn⟩ := exists_notes_ignore "runtime context" argument s
    rw [takeArgument_of_no_entries h, endState, hn]
    refine ⟨.refl s.store, ?_, rfl, fun e => rfl⟩
    intro x hx
    cases hx
  | some es =>
    rw [takeArgument_of_entries h]
    exact ⟨Store.extends_context s.store es, Store.within_context s.store es,
      Store.values_context s.store es, fun e => rfl⟩

/-- What a pass hands to the first of its conditions, as values. -/
def received (e : Evaluator) (argument : Option Value) (s : Session) : Except Stop Entries :=
  match effectiveContext e (.given argument) s with
  | .ok c t => .ok (t.store.values c)
  | .error stop _ => .error stop

/-- What is received comes from the environment, the accumulated values and the argument alone. -/
theorem received_eq {e : Evaluator} {s : Session} (h : e.accumulated.Within s.store)
    (argument : Option Value) :
    received e argument s =
      match environment e s with
      | .ok env => .ok (Layer.overlay ((Context.envKey, env) :: s.accumulatedEntries e ++
          (argumentEntries? argument).getD []))
      | .error error => .error (.failure (.raised error)) := by
  obtain ⟨hext, htaken, hvalues, henv⟩ := afterTaking_given argument s
  rw [received, effectiveContext_run, ← henv e]
  rcases readSource_environment e (afterTaking (.given argument) s) with
    ⟨env, t, hr, hread, hv⟩ | ⟨error, t, hr, hv⟩
  · have hacc : t.store.values e.accumulated = s.accumulatedEntries e :=
      (hext.trans hread).values h
    have harg : t.store.values (taken (.given argument) s) = (argumentEntries? argument).getD [] :=
      (hread.values htaken).trans hvalues
    rw [hr, hv, ← hacc, ← harg]
    exact congrArg Except.ok (Context.mapStored_effective t.store.value env e.accumulated _)
  · rw [hr, hv]

end Session

end NamedConditions
