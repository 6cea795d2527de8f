import NamedConditions.Proofs.Context.Sound
import NamedConditions.Proofs.Trace.Outcome
/-!
Predicates that depend on the context that they receive and on nothing else, and that write nothing
but that context. Such a predicate may see which values its context has, but not in which cells they
are, nor anything of the session; and it leaves evaluators, sources, names and the cells of others
as they are.

Main statements: from a source with fixed entries, what a pass receives is sound and leaves the
session undisturbed (`effectiveContext_fixed`); and passes over such predicates that receive the
same give the same, and leave their sessions undisturbed too (`evaluate_confined`,
`explain_confined`).
-/
namespace NamedConditions

/-- The second session has the evaluators, the sources and the names of the first, and its cells,
which hold what they held. -/
structure Session.Undisturbed (s t : Session) : Prop where
  length : s.store.cells.length ≤ t.store.cells.length
  content : ∀ number < s.store.cells.length, t.store.content number = s.store.content number
  evaluators : s.evaluators <+: t.evaluators
  sources : s.sources <+: t.sources
  names : t.names = s.names

/-- What stands under `env` is in no cell below a bound. -/
def Subject.OwnsEnv (bound : Nat) (s : Subject) : Prop :=
  ∀ c number, s = .context c → Layer.find? c Context.envKey = some (.shared number) →
    bound ≤ number

namespace Frame

/-- The predicate is called with a context as sessions make them. -/
def Sound (f : Frame) : Prop := ∃ c, f.subject = .context c ∧ c.Sound f.session.store

/-- What the predicate is called with, as a value. -/
def received (f : Frame) : Value := f.subject.value f.session.store

/-- What the context of a frame is after a write. -/
theorem subject_write {f : Frame} {c : Context} (h : f.subject = .context c) (w : Write) :
    (f.write w).subject = .context (w.apply c) := by
  rw [Frame.write, h]
  rfl

/-- A frame by which an earlier session is undisturbed, and in which what the predicate is called
with is right for the cells that there were. -/
structure Kept (right : Nat → Subject → Prop) (s : Session) (f : Frame) : Prop where
  undisturbed : s.Undisturbed f.session
  sound : f.Sound
  right : right s.store.cells.length f.subject

end Frame

namespace Condition

/-- From frames in which the same is received, the check comes to the same, and leaves the same. -/
def DependsOnReceived (p : Passes) (c : Condition) : Prop :=
  ∀ f g : Frame, f.Sound → g.Sound → f.received = g.received →
    Ends (fun f g => f.received = g.received) Eq (Session.runCheck p c.check f)
      (Session.runCheck p c.check g)

/-- The check disturbs no session that is undisturbed so far, if what it is called with is right;
and it leaves that right. -/
def Spares (p : Passes) (right : Nat → Subject → Prop) (c : Condition) : Prop :=
  ∀ s : Session, Run.Keeps (Frame.Kept right s) (Session.runCheck p c.check)

/-- The check writes nothing but keys of the context. -/
def WritesKeys (p : Passes) (c : Condition) : Prop := c.Spares p fun _ _ => True

/-- The check writes nothing but keys of the context, and items of what stands under `env`, if that
is in a new cell. -/
def WritesEnv (p : Passes) (c : Condition) : Prop := c.Spares p Subject.OwnsEnv

end Condition

namespace Session

theorem Undisturbed.refl (s : Session) : s.Undisturbed s :=
  ⟨Nat.le_refl _, fun _ _ => rfl, List.prefix_rfl, List.prefix_rfl, rfl⟩

theorem Undisturbed.trans {s t u : Session} (hst : s.Undisturbed t) (htu : t.Undisturbed u) :
    s.Undisturbed u :=
  ⟨Nat.le_trans hst.length htu.length,
    fun n hn => (htu.content n (Nat.lt_of_lt_of_le hn hst.length)).trans (hst.content n hn),
    hst.evaluators.trans htu.evaluators, hst.sources.trans htu.sources,
    htu.names.trans hst.names⟩

/-- The journal is of no account. -/
theorem Undisturbed.withJournal {s t : Session} (h : s.Undisturbed t) (j : Journal) :
    s.Undisturbed { t with journal := j } :=
  ⟨h.length, h.content, h.evaluators, h.sources, h.names⟩

/-- Nor are new cells. -/
theorem undisturbed_withStore {s : Session} {store : Store} (h : s.store.Extends store) :
    s.Undisturbed { s with store := store } :=
  ⟨List.IsPrefix.length_le h, fun _ hn => h.content hn, List.prefix_rfl, List.prefix_rfl, rfl⟩

theorem getElem?_of_prefix {α : Type} {l m : List α} (h : l <+: m) {n : Nat} {a : α}
    (ha : l[n]? = some a) : m[n]? = some a := by
  obtain ⟨rest, rfl⟩ := h
  rw [List.getElem?_append_left (List.getElem?_eq_some_iff.1 ha).1, ha]

/-! ## What a pass receives -/

section

variable {e : Evaluator} {s : Session} {es : Entries}

/-- Taking an argument gives a context of new cells and changes nothing else. -/
theorem taken_given (argument : Option Value) (s : Session) :
    ∃ j store, afterTaking (.given argument) s = { s with store := store, journal := j } ∧
      s.store.Extends store ∧ Context.Sound store (taken (.given argument) s) ∧
      ∀ number ∈ Context.cells (taken (.given argument) s), s.store.cells.length ≤ number := by
  simp only [afterTaking, taken]
  cases h : argumentEntries? argument with
  | none =>
    obtain ⟨notes, hn⟩ := exists_notes_ignore "runtime context" argument s
    rw [takeArgument_of_no_entries h, endState, hn]
    refine ⟨_, s.store, rfl, .refl s.store, Context.sound_nil s.store, fun number hn => ?_⟩
    cases hn
  | some entries =>
    obtain ⟨hsound, hnew⟩ := s.store.sound_context entries
    rw [takeArgument_of_entries h]
    exact ⟨s.journal, _, rfl, s.store.extends_context entries, hsound, hnew⟩

/-- The layers of an effective context have no cell in common, so the context is sound. -/
theorem sound_effective {store store' : Store} {accumulated runtime : Context}
    (hacc : accumulated.Sound store) (hrun : runtime.Sound store')
    (hnew : ∀ number ∈ runtime.cells, store.cells.length ≤ number)
    (hext : store.Extends store') (es : Entries) :
    Context.Sound (store'.allocate (.dict es)).2
      (Context.effective (.shared store'.cells.length) accumulated runtime) := by
  have hall := (store'.extends_allocate (.dict es)).evolves
  have hlen : store.cells.length ≤ store'.cells.length := List.IsPrefix.length_le hext
  have hold : ∀ number ∈ accumulated.cells, number < store.cells.length :=
    fun _ hn => hacc.within.lt_of_mem_cells hn
  have hsettled : Slot.Settled (store'.allocate (.dict es)).2 (.shared store'.cells.length) := by
    rw [Slot.Settled, Store.value, show store'.cells.length = (store'.allocate (.dict es)).1 from
      rfl, Store.content_allocate_self]
    rfl
  -- the cell of the environment is the last one, those of the argument are between
  have henv : ∀ {number}, number ∈ Context.cells [(Context.envKey, .shared store'.cells.length)] →
      number = store'.cells.length := List.mem_singleton.1
  have hlower := (Context.sound_singleton Context.envKey (store'.within_allocate (.dict es))
    hsettled).merge ((hacc.evolve hext.evolves).evolve hall) fun number hn hn' => by
      have := henv hn
      have := hold number hn'
      omega
  refine hlower.merge (hrun.evolve hall) fun number hn hn' => ?_
  have hlt : number < store'.cells.length := hrun.within.lt_of_mem_cells hn'
  rcases Context.mem_cells_merge hn with hn | hn
  · exact absurd (henv hn) (Nat.ne_of_lt hlt)
  · exact absurd (hnew number hn') (Nat.not_le.2 (hold number hn))

/-- The accumulated context has nothing that can change under `env`, or the argument has something
under `env` instead. -/
def EnvApart (accumulated argument : Entries) : Prop :=
  (∀ x ∈ accumulated, x.1.sameKey Context.envKey = true → x.2.isChangeable = false) ∨
    Layer.has argument Context.envKey = true

/-- What stands under `env` in an effective context is in no old cell, if the accumulated context
has no cell there or the argument has something. -/
theorem ownsEnv_effective {bound number : Nat} {accumulated runtime : Context}
    (henv : bound ≤ number) (hnew : ∀ number ∈ runtime.cells, bound ≤ number)
    (h : (∀ x ∈ accumulated, x.1.sameKey Context.envKey = true → x.2.cell? = none) ∨
      Layer.has runtime Context.envKey = true) :
    Subject.OwnsEnv bound (.context (Context.effective (.shared number) accumulated runtime)) := by
  rintro c other ⟨⟩ hfind
  rw [Context.find?_effective] at hfind
  cases hr : Layer.find? runtime.reverse Context.envKey with
  | some slot =>
    rw [hr, Option.some_or] at hfind
    obtain ⟨x, hx, -, hxs⟩ := Layer.exists_of_find? hr
    rw [Option.some.inj hfind] at hxs
    exact hnew other (Context.mem_cells.2 ⟨x, List.mem_reverse.1 hx, hxs⟩)
  | none =>
    rw [hr, Option.none_or] at hfind
    cases ha : Layer.find? accumulated.reverse Context.envKey with
    | none =>
      rw [ha, Option.none_or, Context.sameKey_envKey, if_pos rfl] at hfind
      cases hfind
      exact henv
    | some slot =>
      rw [ha, Option.some_or] at hfind
      obtain ⟨x, hx, hk, hxs⟩ := Layer.exists_of_find? ha
      rcases h with hplain | hhas
      · have hcell := hplain x (List.mem_reverse.1 hx) hk
        rw [hxs, Option.some.inj hfind] at hcell
        cases hcell
      · rw [← Layer.has_reverse, Layer.has, hr] at hhas
        cases hhas

/-- That is so of what a pass takes, where the values are apart under `env`. -/
theorem EnvApart.cases {argument : Option Value} (hsound : e.accumulated.Sound s.store)
    (h : EnvApart (s.accumulatedEntries e) ((argumentEntries? argument).getD [])) :
    (∀ x ∈ e.accumulated, x.1.sameKey Context.envKey = true → x.2.cell? = none) ∨
      Layer.has (taken (.given argument) s) Context.envKey = true := by
  refine h.imp (fun hplain x hx hk => ?_) fun hhas => ?_
  · have hcell := hsound.settled x hx
    rw [Slot.Settled, hplain (x.1, s.store.value x.2) (List.mem_map_of_mem hx) hk] at hcell
    exact Option.isNone_iff_eq_none.1 (by rw [← Option.not_isSome, hcell]; rfl)
  · obtain ⟨-, -, hv, -⟩ := afterTaking_given argument s
    rwa [← hv, Layer.has, Store.values, Layer.find?_mapStored, Option.isSome_map] at hhas

/-- From a source with fixed entries a pass receives these under `env`, over them the accumulated
context, over that the argument, in a context that is sound; nothing else changes. What stands under
`env` is of the pass alone unless the accumulated context has something that can change there and
the argument has nothing. -/
theorem effectiveContext_fixed (hs : s.sources[e.source]? = some (.fixed es))
    (hsound : e.accumulated.Sound s.store) (argument : Option Value) :
    ∃ c t, effectiveContext e (.given argument) s = .ok c t ∧
      s.Undisturbed t ∧ c.Sound t.store ∧
      t.store.values c = Layer.overlay ((Context.envKey, .dict es) :: s.accumulatedEntries e ++
        (argumentEntries? argument).getD []) ∧
      (EnvApart (s.accumulatedEntries e) ((argumentEntries? argument).getD []) →
        Subject.OwnsEnv s.store.cells.length (.context c)) := by
  obtain ⟨j, store, htaken, hext, hrun, hnew⟩ := taken_given argument s
  obtain ⟨j', hread⟩ := readSource_of_original (s := { s with store := store, journal := j }) hs rfl
  have hc : effectiveContext e (.given argument) s =
      .ok (Context.effective (.shared store.cells.length) e.accumulated
        (taken (.given argument) s))
        { s with store := (store.allocate (.dict es)).2, journal := j' } := by
    rw [effectiveContext_run, htaken, hread]
  have hvalues := received_eq hsound.within argument
  rw [received, hc, environment, hs] at hvalues
  refine ⟨_, _, hc, ?_, sound_effective hsound hrun hnew hext es, Except.ok.inj hvalues,
    fun hapart => ?_⟩
  · exact (undisturbed_withStore (hext.trans (store.extends_allocate _))).withJournal j'
  · exact ownsEnv_effective (List.IsPrefix.length_le hext) hnew (hapart.cases hsound)

end

end Session

/-! ## Passes over confined predicates -/

namespace Frame

variable {p : Passes} {right : Nat → Subject → Prop} {s t : Session}

/-- Frames of two passes in which the same is received. -/
def Alongside (right : Nat → Subject → Prop) (s t : Session) (f g : Frame) : Prop :=
  f.Kept right s ∧ g.Kept right t ∧ f.received = g.received

theorem Kept.decide {f : Frame} (h : f.Kept right s) {c : Condition} (hc : c.Spares p right) :
    (Session.decide p c f).1.Kept right s := by
  rw [Session.decide_eq]
  exact hc s f h

theorem Kept.markFailure {f : Frame} (h : f.Kept right s) (c : ConditionFailure) :
    (Session.markFailure c f).Kept right s :=
  ⟨h.undisturbed.withJournal _, h.sound, h.right⟩

/-- Deciding a confined predicate goes the same way in both. -/
theorem agree_alongside {c : Condition} (hd : c.DependsOnReceived p) (hc : c.Spares p right) :
    Pass.Agree (Alongside right s t) (Session.decide p) (Session.decide p) c := by
  rintro f g ⟨hf, hg, hr⟩
  have he := hd f g hf.sound hg.sound hr
  refine ⟨?_, hf.decide hc, hg.decide hc, ?_⟩
  · rw [Session.decide_eq, Session.decide_eq]
    exact congrArg (Verdict.judge c.name) he.results
  · rw [Session.decide_eq, Session.decide_eq]
    exact he.states

end Frame

namespace Session

variable {p : Passes} {k : PassCalls} {right : Nat → Subject → Prop}

/-- What a pass is about to run its conditions on, in a session that it began in. -/
structure Handed (right : Nat → Subject → Prop) (e : Evaluator) (argument : PassArgument)
    (s : Session) (c : Context) (t : Session) : Prop where
  run : effectiveContext e argument s = .ok c t
  undisturbed : s.Undisturbed t
  sound : c.Sound t.store
  right : right s.store.cells.length (.context c)

theorem Handed.kept {e : Evaluator} {argument : PassArgument} {s t : Session} {c : Context}
    (h : Handed right e argument s c t) (name : String) (count : Nat) :
    (passFrame name count c t).Kept right s :=
  ⟨h.undisturbed.withJournal _, ⟨c, rfl, h.sound⟩, h.right⟩

section

variable {number : Nat} {argument : PassArgument} {s t : Session} {e : Evaluator} {c : Context}

theorem exists_journal_evaluate (he : s.evaluators[number]? = some e)
    (hc : effectiveContext e argument s = .ok c t) :
    ∃ j, endState (evaluate p number argument s) =
      { (endState (Pass.collect (decide p) e.conditions
        (passFrame "envname.evaluate" e.conditions.length c t))).session with journal := j } := by
  rw [evaluate_run he hc]
  cases Pass.collect (decide p) e.conditions
    (passFrame "envname.evaluate" e.conditions.length c t) with
  | ok names f => exact ⟨_, rfl⟩
  | error stop f => cases stop <;> exact ⟨_, rfl⟩

theorem exists_journal_explain (he : s.evaluators[number]? = some e)
    (hc : effectiveContext e argument s = .ok c t) :
    ∃ j, endState (explain p number argument s) =
      { (endState (Pass.survey (decide p) markFailure e.conditions
        (passFrame "envname.explain" e.conditions.length c t))).session with journal := j } := by
  rw [explain_run he hc]
  cases Pass.survey (decide p) markFailure e.conditions
    (passFrame "envname.explain" e.conditions.length c t) with
  | ok outcomes f => exact ⟨_, rfl⟩
  | error stop f => cases stop <;> exact ⟨_, rfl⟩

end

section

variable {number number' : Nat} {argument argument' : PassArgument} {s s₁ t t₁ : Session}
  {e e' : Evaluator} {c c' : Context} (h : k.Tells p)
  (he : s.evaluators[number]? = some e) (he' : t.evaluators[number']? = some e')
  (hspecs : e'.specs = e.specs) (hfallback : e'.fallback = e.fallback)
  (hd : ∀ d ∈ e.conditions, d.DependsOnReceived p ∧ d.Spares p right)
  (hc : Handed right e argument s c s₁) (hc' : Handed right e' argument' t c' t₁)
  (hvalues : s₁.store.values c = t₁.store.values c')

include h he he' hspecs hfallback hd hc hc' hvalues

/-- Evaluators with the same confined conditions and the same fallback evaluate to the same where
the same is received, and leave their sessions undisturbed. -/
theorem evaluate_confined :
    endResult (evaluate p number argument s) = endResult (evaluate p number' argument' t) ∧
      s.Undisturbed (endState (evaluate p number argument s)) := by
  have hconditions : e'.conditions = e.conditions := congrArg Condition.ofSpecs hspecs
  have hsim : Run.Simulates (Frame.Alongside right s t) Eq
      (Pass.collect (decide p) e.conditions) (Pass.collect (decide p) e.conditions) :=
    Pass.collect_simulates fun d hm => Frame.agree_alongside (hd d hm).1 (hd d hm).2
  have hends := hsim _ _ ⟨hc.kept "envname.evaluate" e.conditions.length,
    hc'.kept "envname.evaluate" e.conditions.length, congrArg Value.dict hvalues⟩
  constructor
  · rw [endResult_evaluate h he hc.run, endResult_evaluate h he' hc'.run, hconditions, hfallback,
      hends.results]
  · obtain ⟨j, hj⟩ := exists_journal_evaluate (p := p) he hc.run
    rw [hj]
    exact hends.states.1.undisturbed.withJournal j

/-- So they do when they explain. -/
theorem explain_confined :
    endResult (explain p number argument s) = endResult (explain p number' argument' t) ∧
      s.Undisturbed (endState (explain p number argument s)) := by
  have hconditions : e'.conditions = e.conditions := congrArg Condition.ofSpecs hspecs
  have hsim : Run.Simulates (Frame.Alongside right s t) Eq
      (Pass.survey (decide p) markFailure e.conditions)
      (Pass.survey (decide p) markFailure e.conditions) :=
    Pass.survey_simulates (fun d hm => Frame.agree_alongside (hd d hm).1 (hd d hm).2)
      fun x f g hfg => ⟨hfg.1.markFailure x, hfg.2.1.markFailure x, hfg.2.2⟩
  have hends := hsim _ _ ⟨hc.kept "envname.explain" e.conditions.length,
    hc'.kept "envname.explain" e.conditions.length, congrArg Value.dict hvalues⟩
  constructor
  · rw [endResult_explain h he hc.run, endResult_explain h he' hc'.run, hconditions, hfallback,
      hends.results]
  · obtain ⟨j, hj⟩ := exists_journal_explain (p := p) he hc.run
    rw [hj]
    exact hends.states.1.undisturbed.withJournal j

end

end Session

end NamedConditions
