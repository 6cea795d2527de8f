import NamedConditions.Proofs.Context.Readings
/-!
Sources that give copies. A source of fixed entries keeps a copy of what it was made from, and gives
a new copy at every reading; so does the source of the variables of the process. Neither what is
done to the first mapping nor what is done to a copy reaches the source or another copy.

Main statement (`copies_isolated`): whatever happens to a session, and whatever is done to any of
its cells, every reading of such a source gives a new cell with the same entries, in the same order;
and every pass of whoever has the source, where no layer above has `env`, begins with such a cell
under `env`.
-/
namespace NamedConditions

/-- Whether a source gives copies does not depend on the variables of the process. -/
theorem Provider.isSome_original? (p : Provider) (process process' : Variables) :
    (p.original? process).isSome = (p.original? process').isSome := by
  cases p <;> rfl

namespace Session

/-- The sessions that can come after one: the elementary changes lead there, and at any time
anything may be done to what a cell holds. -/
inductive Later (s : Session) : Session → Prop
  | now : Later s s
  | change (c : Change) {t : Session} (h : Later s t) : Later s (c.perform t)
  | rewrite (number : Nat) (v : Value) {t : Session} (h : Later s t) :
      Later s { t with store := t.store.replace number v }

/-! ## What stays -/

/-- Nothing but setting variables of the process changes them. -/
theorem process_perform {c : Change} (h : ∀ changes, c ≠ .setProcess changes) (s : Session) :
    (c.perform s).process = s.process := by
  cases c with
  | setProcess changes => exact absurd rfl (h changes)
  | log | note | bind | hold | write | clear | openSpan | closeSpan | mark | turn => rfl
  | abandonSpan stop => cases stop <;> rfl
  | take argument =>
    rcases Change.perform_take argument s with ⟨es, -, hs⟩ | ⟨-, notes, hs⟩ <;> rw [hs]
  | give number argument =>
    rcases Change.perform_give number argument s with ⟨es, -, hs⟩ | ⟨-, notes, hs⟩ <;> rw [hs] <;>
      rfl
  | make setup =>
    rcases Change.perform_make setup s with hs | ⟨_, _, _, _, _, -, hs⟩ <;> rw [hs]
    rfl
  | fork number =>
    rcases Change.perform_fork number s with hs | ⟨e, specs, -, -, hs⟩ <;> rw [hs]
    rfl
  | read source =>
    rcases Change.perform_read source s with ⟨-, hs⟩ | ⟨p, -, hs⟩ <;> rw [hs] <;> rfl

variable {s t : Session} {i : Nat} {p : Provider} {es : Entries}

/-- A source that gives copies stays what it is. -/
theorem source_perform (hp : (p.original? s.process).isSome = true) (hs : s.sources[i]? = some p)
    (c : Change) : (c.perform s).sources[i]? = some p := by
  cases c with
  | log | note | bind | setProcess | hold | write | clear | openSpan | closeSpan | mark | turn =>
    exact hs
  | abandonSpan stop => cases stop <;> exact hs
  | take argument =>
    rcases Change.perform_take argument s with ⟨es, -, h⟩ | ⟨-, notes, h⟩ <;> rw [h] <;> exact hs
  | give number argument =>
    rcases Change.perform_give number argument s with ⟨es, -, h⟩ | ⟨-, notes, h⟩ <;> rw [h] <;>
      exact hs
  | make setup =>
    rcases Change.perform_make setup s with h | ⟨_, _, _, _, _, -, h⟩ <;> rw [h]
    · exact hs
    · exact (List.getElem?_append_left (List.getElem?_eq_some_iff.1 hs).1).trans hs
  | fork number =>
    rcases Change.perform_fork number s with h | ⟨e, specs, -, -, h⟩ <;> rw [h] <;> exact hs
  | read source =>
    by_cases hi : source = i
    · subst hi
      obtain ⟨es, he⟩ := Option.isSome_iff_exists.1 hp
      obtain ⟨j, hj⟩ := readSource_of_original hs he
      rw [Change.perform, hj]
      exact hs
    · rcases Change.perform_read source s with ⟨-, h⟩ | ⟨q, -, h⟩ <;> rw [h]
      · exact hs
      · exact (List.getElem?_set_ne hi).trans hs

/-- At any later time a source that gives copies is what it was. -/
theorem Later.source (h : Later s t) (hp : (p.original? s.process).isSome = true)
    (hs : s.sources[i]? = some p) : t.sources[i]? = some p := by
  induction h with
  | now => exact hs
  | @change c u _ ih => exact source_perform (by rwa [p.isSome_original? _ s.process]) ih c
  | rewrite number v _ ih => exact ih

/-- An evaluator has its source for ever. -/
theorem Later.source_of_evaluator (h : Later s t) {n : Nat} {e : Evaluator}
    (he : s.evaluators[n]? = some e) :
    ∃ e', t.evaluators[n]? = some e' ∧ e'.source = e.source := by
  induction h with
  | now => exact ⟨e, he, rfl⟩
  | change c _ ih =>
    obtain ⟨e', he', hsource⟩ := ih
    obtain ⟨a, ha⟩ := evaluator_perform c he'
    exact ⟨_, ha, hsource⟩
  | rewrite number v _ ih => exact ih

/-! ## Copies -/

/-- A pass finds the copy under `env` where no layer above has the key. -/
theorem effectiveContext_of_original {e : Evaluator} (hs : s.sources[e.source]? = some p)
    (hp : p.original? s.process = some es) (argument : PassArgument)
    (ha : Layer.has e.accumulated Context.envKey = false)
    (hr : Layer.has (taken argument s) Context.envKey = false) :
    ∃ c t number, effectiveContext e argument s = .ok c t ∧
      Layer.find? c Context.envKey = some (.shared number) ∧ s.store.cells.length ≤ number ∧
      t.store.content number = .dict es := by
  have habsent : ∀ {c : Context}, Layer.has c Context.envKey = false →
      Layer.find? c.reverse Context.envKey = none := by
    intro c h
    rw [← Layer.has_reverse, Layer.has] at h
    exact Option.not_isSome_iff_eq_none.1 (by rw [h]; exact Bool.false_ne_true)
  have hs' : (afterTaking argument s).sources[e.source]? = some p := by
    cases argument with
    | context c => exact hs
    | given v => exact source_perform (Option.isSome_of_eq_some hp) hs (.take v)
  have hprocess : (afterTaking argument s).process = s.process := by
    cases argument with
    | context c => rfl
    | given v =>
      refine process_perform (c := .take v) (fun changes h => ?_) s
      cases h
  obtain ⟨j, hread⟩ := readSource_of_original hs' (hprocess ▸ hp)
  have hrun := effectiveContext_run e argument s
  rw [hread] at hrun
  exact ⟨_, _, (afterTaking argument s).store.cells.length, hrun,
    (Context.keepsEnv_of_absent (habsent ha) (habsent hr) _).2,
    (extends_afterTaking argument s).length_le, Store.content_allocate_self _ _⟩

/-! ## Runs -/

section

variable {P : Session → Prop} (h : ∀ (c : Change) (s : Session), P s → P (c.perform s))

include h

/-- What every elementary change keeps holds wherever an evaluation decides a condition. -/
theorem evaluated_keep (depth : Nat) {t : Session} (ht : P t) (e : Evaluator) (c : Context) :
    ∀ x ∈ evaluated (passes depth) e c t, P x.2.session := by
  refine Pass.forall_trail (P := fun f : Frame => P f.session) (fun d f g hf hg => ?_)
    e.conditions (h (.openSpan _ _) t ht)
  rw [decide_of_collectNext hg]
  exact decide_keeps h depth d hf

/-- So it does wherever an explanation decides one. -/
theorem explained_keep (depth : Nat) {t : Session} (ht : P t) (e : Evaluator) (c : Context) :
    ∀ x ∈ explained (passes depth) e c t, P x.2.session := by
  refine Pass.forall_trail (P := fun f : Frame => P f.session) (fun d f g hf hg => ?_)
    e.conditions (h (.openSpan _ _) t ht)
  have hd := decide_keeps h depth d hf
  unfold Pass.surveyNext at hg
  split at hg
  · cases hg
    exact hd
  · rename_i x _
    cases hg
    exact h (.mark x) _ hd
  · cases hg

end

/-- A new evaluator has a source of its own, with a copy of what it is made from. -/
theorem exists_source_of_make {conditions fallback : Option Value} {strict : Bool}
    {source : Source} {number : Nat} (hp : provider source = .ok p)
    (hm : make (.mk conditions fallback strict source) s = .ok number t) :
    ∃ e, t.evaluators[number]? = some e ∧ t.sources[e.source]? = some p := by
  rw [make_run, hp] at hm
  cases hv : validate (conditions.getD (.tuple [])) strict with
  | error fault =>
    rw [hv] at hm
    cases hm
  | ok specs =>
    rw [hv] at hm
    cases hm
    exact ⟨_, List.getElem?_concat_length, List.getElem?_concat_length⟩

/-- A fork has the source of its parent. -/
theorem exists_source_of_fork {number child : Nat} {e : Evaluator}
    (hf : fork number e s = .ok child t) :
    ∃ e', t.evaluators[child]? = some e' ∧ e'.source = e.source := by
  rw [fork_run] at hf
  cases hv : validate (.tuple (e.specs.map Spec.toValue)) e.strict with
  | error fault =>
    rw [hv] at hf
    cases hf
  | ok specs =>
    rw [hv] at hf
    cases hf
    exact ⟨_, List.getElem?_concat_length, rfl⟩

/-- Sources that give copies are isolated from what is done to what they were made from, from what
is done to copies, and from one another. What they were made from may be what a cell holds, which
later may be rewritten like any other. -/
theorem copies_isolated (depth : Nat) :
    (∀ conditions fallback strict values es s number t, values.entries? = some es →
      make (.mk conditions fallback strict (.fixed values)) s = .ok number t →
      ∃ e, t.evaluators[number]? = some e ∧ t.sources[e.source]? = some (.fixed es)) ∧
    (∀ conditions fallback strict s number t,
      make (.mk conditions fallback strict .process) s = .ok number t →
      ∃ e, t.evaluators[number]? = some e ∧ t.sources[e.source]? = some .process) ∧
    (∀ number e s child t, fork number e s = .ok child t →
      ∃ e', t.evaluators[child]? = some e' ∧ e'.source = e.source) ∧
    (∀ s t, Later s t →
      (∀ (number : Nat) e, s.evaluators[number]? = some e →
        ∃ e', t.evaluators[number]? = some e' ∧ e'.source = e.source) ∧
      (∀ st, Later s (userStep depth st t).2) ∧
      (∀ st, Later s (endState (step (passes depth) st t))) ∧
      (∀ body f, f.session = t → Later s (endState (Expr.run (passes depth) body f)).session) ∧
      ∀ e c, (∀ x ∈ evaluated (passes depth) e c t, Later s x.2.session) ∧
        ∀ x ∈ explained (passes depth) e c t, Later s x.2.session) ∧
    (∀ (c : Change) s, (∀ changes, c ≠ .setProcess changes) → (c.perform s).process = s.process) ∧
    ∀ s i p t es, s.sources[i]? = some p → Later s t → p.original? t.process = some es →
      (∃ u, readSource i t = .ok (.shared t.store.cells.length) u ∧
        u.store = (t.store.allocate (.dict es)).2 ∧
        u.store.content t.store.cells.length = .dict es ∧ u.process = t.process) ∧
      ∀ (e : Evaluator) argument, e.source = i →
        Layer.has e.accumulated Context.envKey = false →
        Layer.has (taken argument t) Context.envKey = false →
        ∃ c u cell, effectiveContext e argument t = .ok c u ∧
          Layer.find? c Context.envKey = some (.shared cell) ∧ t.store.cells.length ≤ cell ∧
          (∀ x rest, evaluated (passes depth) e c u = x :: rest →
            x.2.subject = .context c ∧ x.2.session.store.content cell = .dict es) ∧
          ∀ x rest, explained (passes depth) e c u = x :: rest →
            x.2.subject = .context c ∧ x.2.session.store.content cell = .dict es := by
  refine ⟨fun conditions fallback strict values es s number t hv hm => ?_,
    fun conditions fallback strict s number t hm => exists_source_of_make rfl hm,
    fun number e s child t hf => exists_source_of_fork hf, fun s t ht => ?_,
    fun c s hc => process_perform hc s, fun s i p t es hs ht hp => ?_⟩
  · refine exists_source_of_make (p := .fixed es) ?_ hm
    rw [provider, Value.asEntries_of_entries? hv]
    rfl
  · have hkeep : ∀ (c : Change) (u : Session), Later s u → Later s (c.perform u) :=
      fun c _ hu => .change c hu
    exact ⟨fun number e he => ht.source_of_evaluator he,
      fun st => userStep_keeps hkeep depth st ht, fun st => step_keeps hkeep depth st t ht,
      fun body f hf => run_keeps hkeep depth body (hf ▸ ht), fun e c =>
      ⟨evaluated_keep hkeep depth ht e c, explained_keep hkeep depth ht e c⟩⟩
  · have hsource : t.sources[i]? = some p := by
      refine ht.source ?_ hs
      rw [p.isSome_original? s.process t.process]
      exact Option.isSome_of_eq_some hp
    obtain ⟨j, hread⟩ := readSource_of_original hsource hp
    refine ⟨⟨_, hread, rfl, t.store.content_allocate_self _, rfl⟩, fun e argument hi ha hr => ?_⟩
    subst hi
    obtain ⟨c, u, cell, hc, hfind, hcell, hcontent⟩ :=
      effectiveContext_of_original hsource hp argument ha hr
    refine ⟨c, u, cell, hc, hfind, hcell, fun x rest hx => ?_, fun x rest hx => ?_⟩
    · rw [Pass.head_trail hx]
      exact ⟨rfl, hcontent⟩
    · rw [Pass.head_trail hx]
      exact ⟨rfl, hcontent⟩

/-- A session in which a cell holds a mapping. -/
def keptValues : Session := { start [] with store := ⟨[.dict [(.str "k", .str "v")]]⟩ }

/-- A session in which an evaluator was made from the mapping in that cell. -/
def madeFromKept : Session :=
  endState (make (.mk none none false (.fixed (keptValues.store.content 0))) keptValues)

/-- The mapping of a cell is copied: whatever is written into the cell, and into a copy that was
read, the next copy is as the mapping was. -/
theorem copies_isolated_keptValues :
    ∃ e, madeFromKept.evaluators[0]? = some e ∧ ∀ v w : Value,
      ∃ number u, readSource e.source (Change.perform (.write 1 (.str "k") w)
          (Change.perform (.read e.source)
            { madeFromKept with store := madeFromKept.store.replace 0 v })) =
            .ok (.shared number) u ∧
        u.store.content number = .dict [(.str "k", .str "v")] := by
  obtain ⟨hmake, -, -, -, -, hread⟩ := copies_isolated 1
  obtain ⟨e, he, hs⟩ := hmake none none false (keptValues.store.content 0)
    [(.str "k", .str "v")] keptValues 0 madeFromKept rfl rfl
  refine ⟨e, he, fun v w => ?_⟩
  have hlater : Later madeFromKept (Change.perform (.write 1 (.str "k") w)
      (Change.perform (.read e.source)
        { madeFromKept with store := madeFromKept.store.replace 0 v })) :=
    .change (.write 1 (.str "k") w) (.change (.read e.source) (.rewrite 0 v .now))
  obtain ⟨⟨u, hr, -, hcontent, -⟩, -⟩ :=
    hread madeFromKept e.source (.fixed [(.str "k", .str "v")]) _ _ hs hlater rfl
  exact ⟨_, u, hr, hcontent⟩

end Session

end NamedConditions
