import NamedConditions.Proofs.Context.History
import NamedConditions.Proofs.Trace.Calls
/-!
What calls of passes do to what can be seen in a session. Much of a journal is changed by passes
alone: whatever else an expression or a step does leaves it as it is. What becomes of such a thing
is therefore known from the calls that are made, if it is known what each call does to it.

Main statements: a step and the condition of a pass do to such a thing what the calls do that they
make (`view_step`, `view_decide`), and so do the loops of passes (`view_collect`, `view_survey`).
-/
namespace NamedConditions

/-- Whether a change is made by passes alone, or begins a new step. -/
def Session.Change.isOfPass : Change → Bool
  | .read _ | .openSpan .. | .closeSpan _ | .abandonSpan _ | .mark _ | .turn => true
  | _ => false

/-- Something that is seen in sessions and that only passes change, with what calls do to it. -/
structure Observation (O : Type) where
  view : Session → O
  after : List Call → O → O
  after_nil (o : O) : after [] o = o
  after_append (a b : List Call) (o : O) : after (a ++ b) o = after b (after a o)
  still {c : Session.Change} (h : c.isOfPass = false) (s : Session) : view (c.perform s) = view s

variable {O : Type} {v : Observation O} {p : Passes} {k : PassCalls}

/-- The calls are what the passes do to what is seen. -/
structure Observation.Told (v : Observation O) (k : PassCalls) (p : Passes) : Prop where
  evaluate (number : Nat) (argument : PassArgument) (s : Session) :
    v.view (endState (p.evaluate number argument s)) =
      v.after (k.evaluate number argument s) (v.view s)
  explain (number : Nat) (argument : PassArgument) (s : Session) :
    v.view (endState (p.explain number argument s)) =
      v.after (k.explain number argument s) (v.view s)
  absent {number : Nat} {s : Session} (h : s.evaluators[number]? = none) (argument : PassArgument) :
    k.evaluate number argument s = [] ∧ k.explain number argument s = []

namespace Session

/-! ## What leaves alone what is seen -/

theorem view_make (v : Observation O) (setup : Setup) (s : Session) :
    v.view (endState (make setup s)) = v.view s :=
  v.still (c := .make setup) rfl s

theorem view_fork (v : Observation O) {number : Nat} {e : Evaluator} {s : Session}
    (he : s.evaluators[number]? = some e) : v.view (endState (fork number e s)) = v.view s := by
  have h := v.still (c := .fork number) rfl s
  rwa [Change.perform, he, Option.elim_some] at h

theorem view_withContext (v : Observation O) (number : Nat) (argument : Option Value)
    (s : Session) : v.view (endState (withContext number argument s)) = v.view s :=
  v.still (c := .give number argument) rfl s

/-! ## Steps -/

/-- An action on a name makes the calls that it makes on the evaluator of the name, and none where
there is no such evaluator. -/
theorem view_actOnNamed {on : String} {action : Action} {s : Session} (calls : List Call)
    (hgone : ∀ number, s.number? on = some number → s.evaluators[number]? = none → calls = [])
    (hnone : s.number? on = none → calls = [])
    (hsome : ∀ number e, s.number? on = some number → s.evaluators[number]? = some e →
      v.view (endState (actOn p number e action s)) = v.after calls (v.view s)) :
    v.view (endState (actOnNamed p on action s)) = v.after calls (v.view s) := by
  cases hn : s.number? on with
  | none =>
    rw [hnone hn, v.after_nil]
    simp only [actOnNamed, Bind.bind, EStateM.bind, Run.get_run]
    rw [hn]
    rfl
  | some number =>
    cases he : s.evaluators[number]? with
    | none =>
      rw [hgone number hn he, v.after_nil]
      simp only [actOnNamed, Bind.bind, EStateM.bind, Run.get_run]
      rw [hn]
      dsimp only
      rw [he]
      rfl
    | some e =>
      rw [actOnNamed_of_some hn he]
      exact hsome number e hn he

/-- An action on a name leaves alone what is seen if it does so on every evaluator. -/
theorem view_actOnNamed_still {on : String} {action : Action} {s : Session}
    (h : ∀ number e, s.evaluators[number]? = some e →
      v.view (endState (actOn p number e action s)) = v.view s) :
    v.view (endState (actOnNamed p on action s)) = v.view s := by
  have hcalls : v.view (endState (actOnNamed p on action s)) = v.after [] (v.view s) :=
    view_actOnNamed [] (fun _ _ _ => rfl) (fun _ => rfl) fun number e _ he =>
      (h number e he).trans (v.after_nil _).symm
  exact hcalls.trans (v.after_nil _)

/-- A step makes the calls that are told of it. -/
theorem view_step (h : v.Told k p) (st : Step) (s : Session) :
    v.view (endState (step p st s)) = v.after (callsOfStep k st s) (v.view s) := by
  rcases st with ⟨on, action⟩
  cases action with
  | make setup =>
    have hnone : v.after (callsOfStep k (.mk on (.make setup)) s) (v.view s) = v.view s :=
      v.after_nil _
    rw [hnone, ← view_make v setup s]
    simp only [step, Bind.bind, EStateM.bind]
    cases make setup s with
    | error stop t => rfl
    | ok number t =>
      have hbound := v.still (c := .bind on number) rfl t
      simp only [Run.modify_run, Run.get_run]
      cases he : (t.bind on number).evaluators[number]? with
      | none => exact hbound
      | some e =>
        dsimp only
        cases e.shown <;> exact hbound
  | setProcess changes =>
    exact (v.still (c := .setProcess changes) rfl s).trans (v.after_nil _).symm
  | evaluate argument =>
    refine view_actOnNamed _ (fun number hn he => ?_) (fun hn => ?_) fun number e hn he => ?_
    · rw [callsOfStep, hn]
      exact (h.absent he _).1
    · rw [callsOfStep, hn]
      rfl
    · rw [callsOfStep, hn, actOn, endState_bind_pure]
      exact h.evaluate number _ s
  | explain argument =>
    refine view_actOnNamed _ (fun number hn he => ?_) (fun hn => ?_) fun number e hn he => ?_
    · rw [callsOfStep, hn]
      exact (h.absent he _).2
    · rw [callsOfStep, hn]
      rfl
    · rw [callsOfStep, hn, actOn, endState_bind_pure]
      exact h.explain number _ s
  | withContext argument =>
    refine (view_actOnNamed_still fun number e he => ?_).trans (v.after_nil _).symm
    rw [actOn, endState_bind_pure]
    exact view_withContext v number argument s
  | fork name =>
    refine (view_actOnNamed_still fun number e he => ?_).trans (v.after_nil _).symm
    rw [← view_fork v he]
    simp only [actOn, Bind.bind, EStateM.bind]
    cases fork number e s with
    | error stop t => rfl
    | ok n t =>
      have hbound := v.still (c := .bind name n) rfl t
      cases e.shown <;> exact hbound
  | resetContext =>
    refine (view_actOnNamed_still fun number e he => ?_).trans (v.after_nil _).symm
    exact v.still (c := .clear number) rfl s
  | getContext =>
    exact (view_actOnNamed_still fun number e he => rfl).trans (v.after_nil _).symm
  | pokeContext key w =>
    refine (view_actOnNamed_still fun number e he => ?_).trans (v.after_nil _).symm
    rw [actOn, endState_bind_pure, Run.needKey]
    cases key.keyRefusal? <;> rfl
  | describe =>
    refine (view_actOnNamed_still fun number e he => ?_).trans (v.after_nil _).symm
    rw [actOn, endState_bind_pure, endState_ofExcept]

/-! ## What predicates start -/

/-- Something that a predicate starts makes the calls that it comes to. -/
theorem view_left (h : v.Told k p) (x : Start) :
    v.view (x.left p) = v.after (x.calls k) (v.view x.before) := by
  cases x with
  | step st s => exact view_step h st s
  | nested setup argument s =>
    have hmade := view_make v setup s
    simp only [Start.left, Start.calls, Start.before, Bind.bind, EStateM.bind]
    cases hm : make setup s with
    | error stop t =>
      rw [hm] at hmade
      exact hmade.trans (v.after_nil _).symm
    | ok number t =>
      rw [hm] at hmade
      have he := h.evaluate number argument t
      rwa [show v.view t = v.view s from hmade] at he

/-- Seeing the same is a relation that holds across what expressions do by themselves. -/
theorem still_view (v : Observation O) : Still Change.isOfExpr fun s t => v.view t = v.view s where
  refl _ := rfl
  trans hst htu := htu.trans hst
  change {c} h s := v.still (by cases c <;> first | rfl | cases h) s

/-- From one thing that is started to the next, the calls are made that these come to. -/
theorem view_bySteps (h : v.Told k p) {s t : Session} {xs : List Start}
    (hs : BySteps (fun s t => v.view t = v.view s) p s xs t) :
    v.view t = v.after (xs.flatMap (Start.calls k)) (v.view s) := by
  induction hs with
  | none hst => exact hst.trans (v.after_nil _).symm
  | @start s t x xs hx _ ih => rw [ih, view_left h, hx, List.flatMap_cons, v.after_append]

/-! ## The conditions of a pass -/

/-- Deciding a condition makes the calls of its check. -/
theorem view_decide (h : v.Told k p) (c : Condition) (f : Frame) :
    v.view (decide p c f).1.session = v.after (callsOfCondition p k (c, f)) (v.view f.session) :=
  view_bySteps h (bySteps_decide (still_view v) c f)

/-- `collect` makes the calls of the conditions that it reaches. -/
theorem view_collect (h : v.Told k p) (cs : List Condition) (f : Frame) :
    v.view (endState (Pass.collect (decide p) cs f)).session =
      v.after ((Pass.trail (Pass.collectNext (decide p)) cs f).flatMap (callsOfCondition p k))
        (v.view f.session) := by
  rw [view_bySteps h (bySteps_collect (still_view v) cs f), List.flatMap_assoc]
  rfl

/-- So does a survey, if nothing of what is seen shows that a failure was marked. -/
theorem view_survey (h : v.Told k p)
    (hmark : ∀ x f, v.view (markFailure x f).session = v.view f.session) (cs : List Condition)
    (f : Frame) :
    v.view (endState (Pass.survey (decide p) markFailure cs f)).session =
      v.after ((Pass.trail (Pass.surveyNext (decide p) markFailure) cs f).flatMap
        (callsOfCondition p k)) (v.view f.session) := by
  rw [view_bySteps h (bySteps_survey (still_view v) hmark cs f), List.flatMap_assoc]
  rfl

end Session

end NamedConditions
