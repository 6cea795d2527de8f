import NamedConditions.Proofs.Session.Confined
/-!
What of an evaluator its answers depend on. An evaluator with a source of fixed entries and with
confined conditions is seen through its specifications, its fallback, those entries and its
accumulated values; where the cells are, and what else is in the session, is not seen.

Main statement (`step_shown`): two evaluators that show the same give the same answer to the same
action, each shows afterwards what the action makes of what it showed, and all other evaluators show
what they did.
-/
namespace NamedConditions

/-! ## What is seen -/

/-- What a step gave, as its user sees it at the moment: the evaluator itself, an answer, a report,
or the values of a context. -/
inductive Seen
  | itself
  | answered (a : Answer)
  | reported (r : Report)
  | entries (es : Entries)
  | other

/-- How the result of a step is seen. -/
def StepResult.seen (store : Store) : StepResult → Seen
  | .same _ => .itself
  | .evaluated a => .answered a
  | .explained r => .reported r
  | .context c => .entries (store.values c)
  | _ => .other

/-- The evaluator on which a step acts. -/
def Step.target : Step → String
  | .mk on _ => on

/-- What a step does to it. -/
def Step.action : Step → Action
  | .mk _ action => action

/-- Whether an action gives a context, clears it, looks at it, or asks for a pass. -/
def Action.isAsked : Action → Bool
  | .withContext _ | .resetContext | .getContext | .evaluate _ | .explain _ => true
  | _ => false

/-- What an evaluator shows. -/
structure View where
  specs : List Spec
  fallback : Value
  /-- The entries of its source. -/
  env : Entries
  accumulated : Entries

namespace View

/-- What an action makes of what an evaluator shows. -/
def after (a : Action) (v : View) : View :=
  match a with
  | .withContext argument =>
    { v with
      accumulated := Layer.merge v.accumulated ((Session.argumentEntries? argument).getD []) }
  | .resetContext => { v with accumulated := [] }
  | _ => v

/-- The conditions depend on what they receive, and write nothing but what is right. -/
def Confined (p : Passes) (right : Nat → Subject → Prop) (v : View) : Prop :=
  ∀ c ∈ Condition.ofSpecs v.specs, c.DependsOnReceived p ∧ c.Spares p right

/-- What is right for the conditions is so with an argument: they write no cells, or what stands
under `env` is of the pass alone. -/
inductive Apt (v : View) (argument : Option Value) : (Nat → Subject → Prop) → Prop
  | keys : Apt v argument fun _ _ => True
  | env (h : Session.EnvApart v.accumulated ((Session.argumentEntries? argument).getD [])) :
      Apt v argument Subject.OwnsEnv

/-- An action asks for a pass with no other argument than one that is apt. -/
def Permits (right : Nat → Subject → Prop) (v : View) (a : Action) : Prop :=
  ∀ argument, a = .evaluate argument ∨ a = .explain argument → v.Apt argument right

theorem specs_after (a : Action) (v : View) : (v.after a).specs = v.specs := by
  cases a <;> rfl

theorem Confined.after {p : Passes} {right : Nat → Subject → Prop} {v : View}
    (h : v.Confined p right) (a : Action) : (v.after a).Confined p right := by
  unfold Confined
  rw [specs_after]
  exact h

end View

namespace Session

/-- What the session shows of the evaluator of a number. -/
def Shows (s : Session) (n : Nat) (v : View) : Prop :=
  ∃ e, s.evaluators[n]? = some e ∧ e.specs = v.specs ∧ e.fallback = v.fallback ∧
    s.sources[e.source]? = some (.fixed v.env) ∧ e.accumulated.Sound s.store ∧
    s.accumulatedEntries e = v.accumulated

/-- What a step of the user gives, as it is seen. -/
def seen (depth : Nat) (st : Step) (s : Session) : Except Stop Seen :=
  (userStep depth st s).1.map (StepResult.seen (userStep depth st s).2.store)

/-- What the steps of the user give one after another, with the evaluators on which they act. -/
def answers (depth : Nat) : List Step → Session → List (String × Except Stop Seen)
  | [], _ => []
  | st :: steps, s => (st.target, seen depth st s) :: answers depth steps (userStep depth st s).2

variable {s t : Session} {n m : Nat} {v w : View}

/-- What a reachable session shows of an evaluator with a source of fixed entries. -/
theorem shows_of_reachable {s : Session} (hs : Reachable s) {n : Nat} {e : Evaluator}
    (he : s.evaluators[n]? = some e) {es : Entries}
    (hsource : s.sources[e.source]? = some (.fixed es)) :
    s.Shows n ⟨e.specs, e.fallback, es, s.accumulatedEntries e⟩ :=
  ⟨e, he, rfl, rfl, hsource, sound_of_reachable hs n e he, rfl⟩

/-! ## What stays shown -/

/-- Accumulated contexts mean the same in a session that is disturbed nowhere. -/
theorem Undisturbed.sound {c : Context} (h : s.Undisturbed t)
    (hc : c.Sound s.store) : c.Sound t.store ∧ t.store.values c = s.store.values c := by
  refine ⟨hc.evolve ⟨h.length, fun number hn => by rw [h.content number hn]⟩, ?_⟩
  refine List.map_congr_left fun x hx => ?_
  have hw := hc.within x hx
  cases hs : x.2 with
  | plain u => rfl
  | shared number =>
    rw [hs] at hw
    rw [Store.value, Store.value, h.content number hw]

theorem Shows.undisturbed (h : s.Shows n v) (hst : s.Undisturbed t) :
    t.Shows n v := by
  obtain ⟨e, he, hspecs, hfallback, hsource, hsound, hacc⟩ := h
  obtain ⟨hsound', hvalues⟩ := hst.sound hsound
  exact ⟨e, getElem?_of_prefix hst.evaluators he, hspecs, hfallback,
    getElem?_of_prefix hst.sources hsource, hsound', hvalues.trans hacc⟩

theorem Shows.withJournal (h : s.Shows n v) (j : Journal) : Shows { s with journal := j } n v :=
  h.undisturbed ((Undisturbed.refl s).withJournal j)

/-! ## Giving and clearing -/

/-- A change of one evaluator's context leaves what the others show. -/
theorem Shows.onAccumulated (h : s.Shows m w) (hm : m ≠ n) (f : Context → Context) (d : Deed) :
    ((s.onAccumulated n f).record d).Shows m w := by
  obtain ⟨e, he, hrest⟩ := h
  exact ⟨e, (getElem?_onAccumulated_of_ne hm f s).trans he, hrest⟩

theorem Shows.clear (h : s.Shows n v) : (s.clear n).Shows n (v.after .resetContext) := by
  obtain ⟨e, he, hspecs, hfallback, hsource, -, -⟩ := h
  refine ⟨{ e with accumulated := [] }, ?_, hspecs, hfallback, hsource, Context.sound_nil _, rfl⟩
  rw [evaluators_clear, getElem?_onAccumulated_self, he]
  rfl

/-- Giving a context merges its entries into what is accumulated, and does nothing to others. -/
theorem shows_withContext (argument : Option Value) (s : Session) (n : Nat) :
    (∀ v, s.Shows n v →
      (endState (withContext n argument s)).Shows n (v.after (.withContext argument))) ∧
    (∀ m w, m ≠ n → s.Shows m w → (endState (withContext n argument s)).Shows m w) ∧
    (endState (withContext n argument s)).names = s.names := by
  cases ha : argumentEntries? argument with
  | none =>
    obtain ⟨notes, hn⟩ := exists_notes_ignore "context" argument s
    rw [withContext_of_no_entries ha, endState, hn]
    have hkept : ∀ m w, s.Shows m w →
        (give n none { s with journal := { s.journal with notes := notes } }).Shows m w :=
      fun m w h => h.withJournal { s.journal with notes := notes }
    refine ⟨fun v h => ?_, fun m w _ h => hkept m w h, rfl⟩
    rw [View.after, ha]
    exact hkept n v h
  | some es =>
    rw [withContext_of_entries ha]
    have hext := s.store.extends_context es
    refine ⟨fun v h => ?_, fun m w hm h => ?_, rfl⟩
    · obtain ⟨e, he, hspecs, hfallback, hsource, hsound, hacc⟩ := h
      refine ⟨{ e with accumulated := Layer.merge e.accumulated (s.store.context es).1 }, ?_,
        hspecs, hfallback, hsource, Store.sound_merge_context hsound es, ?_⟩
      · refine (getElem?_onAccumulated_self n (fun a => Layer.merge a (s.store.context es).1)
          { s with store := (s.store.context es).2 }).trans ?_
        rw [show ({ s with store := (s.store.context es).2 } : Session).evaluators[n]? = some e from
          he]
        rfl
      · have hmerge := Layer.mapStored_merge (s.store.context es).2.value e.accumulated
          (s.store.context es).1
        refine hmerge.trans ?_
        rw [View.after, ha, ← hacc]
        exact congr (congrArg Layer.merge (hext.values hsound.within)) (s.store.values_context es)
    · exact (h.undisturbed (undisturbed_withStore hext)).onAccumulated hm
        (fun a => Layer.merge a (s.store.context es).1) (.given n (some (s.store.context es).1))

/-! ## Passes -/

variable {right : Nat → Subject → Prop} {argument : Option Value}

/-- What a pass hands to its conditions comes from what is shown and the argument. -/
theorem Shows.handed (h : s.Shows n v) (ha : v.Apt argument right) :
    ∃ e c u, s.evaluators[n]? = some e ∧ e.specs = v.specs ∧ e.fallback = v.fallback ∧
      Handed right e (.given argument) s c u ∧
      u.store.values c = Layer.overlay ((Context.envKey, .dict v.env) :: v.accumulated ++
        (argumentEntries? argument).getD []) := by
  obtain ⟨e, he, hspecs, hfallback, hsource, hsound, hacc⟩ := h
  obtain ⟨c, u, hrun, hu, hc, hvalues, howns⟩ := effectiveContext_fixed hsource hsound argument
  rw [hacc] at hvalues howns
  refine ⟨e, c, u, he, hspecs, hfallback, ⟨hrun, hu, hc, ?_⟩, hvalues⟩
  cases ha with
  | keys => trivial
  | env hapart => exact howns hapart

section

variable {depth : Nat} (hs : s.Shows n v) (ht : t.Shows m v) (hc : v.Confined (passes depth) right)
  (ha : v.Apt argument right)

include hs ht hc ha

/-- Evaluators that show the same evaluate to the same, and nothing is disturbed. -/
theorem evaluate_shown :
    endResult ((passes (depth + 1)).evaluate n (.given argument) s) =
        endResult ((passes (depth + 1)).evaluate m (.given argument) t) ∧
      s.Undisturbed
        (endState ((passes (depth + 1)).evaluate n (.given argument) s)) := by
  obtain ⟨e, c, u, he, hspecs, hfallback, hhanded, hvalues⟩ := hs.handed ha
  obtain ⟨e', c', u', he', hspecs', hfallback', hhanded', hvalues'⟩ := ht.handed ha
  refine evaluate_confined (tells_passCalls depth) he he' (hspecs'.trans hspecs.symm)
    (hfallback'.trans hfallback.symm) ?_ hhanded hhanded' (hvalues.trans hvalues'.symm)
  rw [Evaluator.conditions, hspecs]
  exact hc

theorem explain_shown :
    endResult ((passes (depth + 1)).explain n (.given argument) s) =
        endResult ((passes (depth + 1)).explain m (.given argument) t) ∧
      s.Undisturbed
        (endState ((passes (depth + 1)).explain n (.given argument) s)) := by
  obtain ⟨e, c, u, he, hspecs, hfallback, hhanded, hvalues⟩ := hs.handed ha
  obtain ⟨e', c', u', he', hspecs', hfallback', hhanded', hvalues'⟩ := ht.handed ha
  refine explain_confined (tells_passCalls depth) he he' (hspecs'.trans hspecs.symm)
    (hfallback'.trans hfallback.symm) ?_ hhanded hhanded' (hvalues.trans hvalues'.symm)
  rw [Evaluator.conditions, hspecs]
  exact hc

end

/-! ## Steps -/

/-- What a step came to, as it is seen. -/
def seenEnd (r : EStateM.Result Stop Session StepResult) : Except Stop Seen :=
  (endResult r).map (StepResult.seen (endState r).store)

theorem seenEnd_bind_pure {α : Type} (r : Run Session α) (f : α → StepResult) (s : Session) :
    seenEnd ((r >>= fun a => pure (f a)) s) =
      (endResult (r s)).map fun a => (f a).seen (endState (r s)).store := by
  simp only [Bind.bind, EStateM.bind]
  cases r s <;> rfl

/-- After an action on one evaluator it shows what the action makes of what it showed, and the
others show what they did. -/
def ShownAfter (a : Action) (n : Nat) (v : View) (s t : Session) : Prop :=
  t.Shows n (v.after a) ∧ (∀ k w, k ≠ n → s.Shows k w → t.Shows k w) ∧ t.names = s.names

theorem ShownAfter.number? {a : Action} (h : ShownAfter a n v s t) (name : String) :
    t.number? name = s.number? name := by
  rw [Session.number?, h.2.2, Session.number?]

theorem shownAfter_of_undisturbed {a : Action} (ha : v.after a = v) (hs : s.Shows n v)
    (hst : s.Undisturbed t) : ShownAfter a n v s t := by
  refine ⟨?_, fun k w _ hw => hw.undisturbed hst, hst.names⟩
  rw [ha]
  exact hs.undisturbed hst

/-- Evaluators that show the same give the same answer to the same action. -/
theorem step_shown {depth : Nat} {on on' : String} (hn : s.number? on = some n)
    (hm : t.number? on' = some m) (hs : s.Shows n v) (ht : t.Shows m v)
    (hc : v.Confined (passes depth) right) {a : Action} (ha : a.isAsked = true)
    (hp : v.Permits right a) :
    seenEnd (step (passes (depth + 1)) (.mk on a) s) =
        seenEnd (step (passes (depth + 1)) (.mk on' a) t) ∧
      ShownAfter a n v s (endState (step (passes (depth + 1)) (.mk on a) s)) := by
  obtain ⟨e, he, -, -, -, -, hacc⟩ := id hs
  obtain ⟨e', he', -, -, -, -, hacc'⟩ := id ht
  cases a with
  | withContext argument =>
    simp only [step, actOnNamed_of_some hn he, actOnNamed_of_some hm he', actOn, seenEnd_bind_pure,
      endState_bind_pure]
    obtain ⟨hown, hother, hnames⟩ := shows_withContext argument s n
    refine ⟨?_, hown v hs, hother, hnames⟩
    cases hargument : argumentEntries? argument with
    | none => rw [withContext_of_no_entries hargument, withContext_of_no_entries hargument]; rfl
    | some es => rw [withContext_of_entries hargument, withContext_of_entries hargument]; rfl
  | resetContext =>
    simp only [step, actOnNamed_of_some hn he, actOnNamed_of_some hm he', actOn, seenEnd_bind_pure,
      endState_bind_pure]
    exact ⟨rfl, hs.clear, fun k w hk hw => hw.onAccumulated hk _ _, rfl⟩
  | getContext =>
    simp only [step, actOnNamed_of_some hn he, actOnNamed_of_some hm he', actOn]
    refine ⟨?_, shownAfter_of_undisturbed rfl hs (.refl s)⟩
    exact congrArg (fun es => Except.ok (Seen.entries es)) (hacc.trans hacc'.symm)
  | evaluate argument =>
    simp only [step, actOnNamed_of_some hn he, actOnNamed_of_some hm he', actOn, seenEnd_bind_pure,
      endState_bind_pure]
    obtain ⟨hends, hundisturbed⟩ := evaluate_shown hs ht hc (hp argument (.inl rfl))
    refine ⟨?_, shownAfter_of_undisturbed rfl hs hundisturbed⟩
    rw [hends]
    rfl
  | explain argument =>
    simp only [step, actOnNamed_of_some hn he, actOnNamed_of_some hm he', actOn, seenEnd_bind_pure,
      endState_bind_pure]
    obtain ⟨hends, hundisturbed⟩ := explain_shown hs ht hc (hp argument (.inr rfl))
    refine ⟨?_, shownAfter_of_undisturbed rfl hs hundisturbed⟩
    rw [hends]
    rfl
  | _ => cases ha

/-- A step of the user begins with a new journal. -/
theorem userStep_eq (depth : Nat) (st : Step) (s : Session) :
    userStep depth st s = (endResult (step (passes depth) st { s with journal := .empty }),
      endState (step (passes depth) st { s with journal := .empty })) := by
  unfold userStep
  cases step (passes depth) st { s with journal := .empty } <;> rfl

/-- So do they to the same step of the user. -/
theorem userStep_shown {depth : Nat} {on on' : String} (hn : s.number? on = some n)
    (hm : t.number? on' = some m) (hs : s.Shows n v) (ht : t.Shows m v)
    (hc : v.Confined (passes depth) right) {a : Action} (ha : a.isAsked = true)
    (hp : v.Permits right a) :
    seen (depth + 1) (.mk on a) s = seen (depth + 1) (.mk on' a) t ∧
      ShownAfter a n v s (userStep (depth + 1) (.mk on a) s).2 := by
  obtain ⟨hseen, hown, hother, hnames⟩ := step_shown (s := { s with journal := .empty })
    (t := { t with journal := .empty }) hn hm (hs.withJournal .empty) (ht.withJournal .empty) hc ha
    hp
  simp only [seen, userStep_eq]
  exact ⟨hseen, hown, fun k w hk hw => hother k w hk (hw.withJournal .empty), hnames⟩

end Session

end NamedConditions
