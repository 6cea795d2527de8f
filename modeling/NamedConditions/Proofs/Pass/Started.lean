import NamedConditions.Proofs.Pass.Matches
/-!
What predicates start. A predicate may take steps, and it may make an evaluator and evaluate it on
its own context. What it starts is read off what runs, part by part as far as the parts run, each
with the session in which it is started; the predicates of a pass start what the conditions start
that the pass reaches.

Main statement (`bySteps_pass`): a pass goes from one thing that its predicates start to the next,
in their order, and in between nothing happens but quiet changes. So a relation that all quiet
changes respect can be broken by what predicates start and by nothing else.
-/
namespace NamedConditions

/-- Something that a predicate starts, with the session in which it starts it. -/
inductive Start
  | step (st : Step) (s : Session)
  /-- An evaluator that is made and evaluated on an argument. -/
  | nested (setup : Setup) (argument : PassArgument) (s : Session)

namespace Start

/-- The session in which it is started. -/
def before : Start → Session
  | step _ s | nested _ _ s => s

/-- The session that it leaves. -/
def left (p : Passes) : Start → Session
  | step st s => endState (Session.step p st s)
  | nested setup argument s => endState ((do p.evaluate (← Session.make setup) argument) s)

end Start

namespace Expr

/-- What comes after a run that came to its end. -/
def after {α β : Type} (r : EStateM.Result Stop Frame α) (next : α → Frame → List β) : List β :=
  match r with
  | .ok a f => next a f
  | .error _ _ => []

mutual

/-- What an expression starts. -/
def starts (p : Passes) : Expr → Frame → List Start
  | .eq a b, f => starts p a f ++ after (run p a f) fun _ => starts p b
  | .not e, f => starts p e f
  | .all es, f => startsOfAll p es f
  | .any es, f => startsOfAny p es f
  | .seq es, f => startsOfSeq p es f
  | .log e, f => starts p e f
  | .attempt e, f => starts p e f
  | .nested setup, f => [.nested setup f.subject.argument f.session]
  | .step st, f => [.step st f.session]
  | _, _ => []

/-- What expressions start up to the first that is not true. -/
def startsOfAll (p : Passes) : List Expr → Frame → List Start
  | [], _ => []
  | e :: es, f =>
    starts p e f ++ after (truthOf (run p e) f) fun b g => if b then startsOfAll p es g else []

/-- What expressions start up to the first that is true. -/
def startsOfAny (p : Passes) : List Expr → Frame → List Start
  | [], _ => []
  | e :: es, f =>
    starts p e f ++ after (truthOf (run p e) f) fun b g => if b then [] else startsOfAny p es g

/-- What expressions start one after another. -/
def startsOfSeq (p : Passes) : List Expr → Frame → List Start
  | [], _ => []
  | e :: es, f => starts p e f ++ after (run p e f) fun _ => startsOfSeq p es

end

end Expr

namespace Session

/-- What the check of a condition starts. -/
def startsOfCondition (p : Passes) (x : Condition × Frame) : List Start :=
  match x.1.check with
  | .predicate (.expression body) => body.starts p x.2
  | _ => []

/-- What the predicates of an evaluation start. -/
def startsOfEvaluate (p : Passes) (number : Nat) (argument : PassArgument) (s : Session) :
    List Start :=
  s.evaluators[number]?.elim [] fun e =>
    match effectiveContext e argument s with
    | .error _ _ => []
    | .ok c t => (evaluated p e c t).flatMap (startsOfCondition p)

/-- What the predicates of an explanation start. -/
def startsOfExplain (p : Passes) (number : Nat) (argument : PassArgument) (s : Session) :
    List Start :=
  s.evaluators[number]?.elim [] fun e =>
    match effectiveContext e argument s with
    | .error _ _ => []
    | .ok c t => (explained p e c t).flatMap (startsOfCondition p)

/-! ## From one to the next -/

/-- The second session comes from the first by what is started, one after another and each in the
session that is told of it; in between, sessions are related. -/
inductive BySteps (R : Session → Session → Prop) (p : Passes) :
    Session → List Start → Session → Prop
  | none {s t : Session} (h : R s t) : BySteps R p s [] t
  | start {s t : Session} {x : Start} {xs : List Start} (h : R s x.before)
      (hx : BySteps R p (x.left p) xs t) : BySteps R p s (x :: xs) t

/-- Whether a change is one that an expression makes by itself. -/
def Change.isOfExpr : Change → Bool
  | log _ | hold _ | write .. => true
  | _ => false

/-- A relation of a session and a later one that holds across changes of a kind. -/
structure Still (kind : Change → Bool) (R : Session → Session → Prop) : Prop where
  refl (s : Session) : R s s
  trans {s t u : Session} : R s t → R t u → R s u
  change {c : Change} (h : kind c = true) (s : Session) : R s (c.perform s)

variable {kind : Change → Bool} {R : Session → Session → Prop} {p : Passes}

/-- What holds across quiet changes holds across what an expression does by itself. -/
theorem Still.ofExpr (law : Still Change.isQuiet R) : Still Change.isOfExpr R where
  refl := law.refl
  trans := law.trans
  change {c} h := law.change (by cases c <;> first | rfl | cases h)

namespace BySteps

variable {s t u : Session} {xs ys : List Start}

theorem of_related (law : Still kind R) (hst : R s t) (h : BySteps R p t xs u) :
    BySteps R p s xs u := by
  cases h with
  | none h => exact .none (law.trans hst h)
  | start h hx => exact .start (law.trans hst h) hx

theorem append (law : Still kind R) (h : BySteps R p s xs t) (h' : BySteps R p t ys u) :
    BySteps R p s (xs ++ ys) u := by
  induction h with
  | none hst => exact h'.of_related law hst
  | start hx _ ih => exact .start hx (ih h')

theorem trans (law : Still kind R) (h : BySteps R p s xs t) (htu : R t u) : BySteps R p s xs u := by
  rw [← List.append_nil xs]
  exact h.append law (.none htu)

/-- One thing is started, and nothing happens before and after. -/
theorem single (law : Still kind R) (x : Start) : BySteps R p x.before [x] (x.left p) :=
  .start (law.refl _) (.none (law.refl _))

end BySteps

end Session

/-! ## Expressions -/

theorem Frame.session_inSession {α : Type} (r : Run Session α) (f : Frame) :
    (endState (inSession r f)).session = endState (r f.session) := by
  simp only [inSession]
  cases r f.session <;> rfl

namespace Expr

open Session

variable {R : Session → Session → Prop} {p : Passes}

/-- What a quiet expression does leaves the session related to any that it was related to. -/
theorem quietLaw_of_still (law : Still Change.isOfExpr R) (s : Session) :
    Frame.QuietLaw fun f g => f = g ∧ R s f.session := by
  refine .ofInvariant (.ofInvariant (fun v f h => ?_) (fun key v f h => ?_) fun _ _ h => h)
    (fun h _ _ _ => h) fun {f c number key v store} h _ _ hw => ?_
  · exact law.trans h (law.change (c := .log v) rfl f.session)
  · exact law.trans h (law.change (c := .hold v) rfl f.session)
  · have hc := law.change (c := .write number key v) rfl f.session
    simp only [Change.perform, hw, Except.toOption, Option.getD_some] at hc
    exact law.trans h hc

theorem related_run_of_quiet (law : Still Change.isOfExpr R) {e : Expr} (hq : e.isQuiet = true)
    (f : Frame) : R f.session (endState (run p e f)).session := by
  have hs : Run.Simulates _ Eq (run p e) (run p e) :=
    run_simulates (quietLaw_of_still law f.session) e fun h => Bool.noConfusion (hq.symm.trans h)
  exact (hs f f ⟨rfl, law.refl _⟩).states.2

/-- What is done after a run starts its things after those of the run. -/
theorem bySteps_bind (law : Still Change.isOfExpr R) {α β : Type} {r : Run Frame α}
    {m : α → Run Frame β} {f : Frame} {xs : List Start} {further : α → Frame → List Start}
    (hr : BySteps R p f.session xs (endState (r f)).session)
    (hm : ∀ a g, BySteps R p g.session (further a g) (endState (m a g)).session) :
    BySteps R p f.session (xs ++ after (r f) further) (endState ((r >>= m) f)).session := by
  refine hr.append law ?_
  simp only [Bind.bind, EStateM.bind]
  cases r f with
  | ok a g => exact hm a g
  | error stop g => exact .none (law.refl _)

/-- What is done after a run, if it starts nothing. -/
theorem bySteps_bind_still (law : Still Change.isOfExpr R) {α β : Type} {r : Run Frame α}
    {m : α → Run Frame β} {f : Frame} {xs : List Start}
    (hr : BySteps R p f.session xs (endState (r f)).session)
    (hm : ∀ a g, R g.session (endState (m a g)).session) :
    BySteps R p f.session xs (endState ((r >>= m) f)).session := by
  refine hr.trans law ?_
  simp only [Bind.bind, EStateM.bind]
  cases r f with
  | ok a g => exact hm a g
  | error stop g => exact law.refl _

theorem bySteps_truthOf (law : Still Change.isOfExpr R) {r : Run Frame Operand} {f : Frame}
    {xs : List Start} (hr : BySteps R p f.session xs (endState (r f)).session) :
    BySteps R p f.session xs (endState (truthOf r f)).session := by
  refine bySteps_bind_still law hr fun o g => ?_
  simp only [Bind.bind, EStateM.bind, Run.get_run, Session.endState_ofExcept]
  exact law.refl _

mutual

/-- An expression goes from one thing that it starts to the next. -/
theorem bySteps_run (law : Still Change.isOfExpr R) : (e : Expr) → (f : Frame) →
    BySteps R p f.session (starts p e f) (endState (run p e f)).session
  | .eq a b, f => by
    rw [starts, run]
    refine bySteps_bind law (bySteps_run law a f) fun x g => ?_
    refine bySteps_bind_still law (bySteps_run law b g) fun y g' => ?_
    simp only [Bind.bind, EStateM.bind, Run.get_run]
    cases (g'.resolve x).equal? (g'.resolve y) <;> exact law.refl _
  | .not e, f => by
    rw [starts, run]
    exact bySteps_bind_still law (bySteps_truthOf law (bySteps_run law e f)) fun _ _ => law.refl _
  | .all es, f => by
    rw [starts, run]
    exact bySteps_bind_still law (bySteps_runAll law es f) fun _ _ => law.refl _
  | .any es, f => by
    rw [starts, run]
    exact bySteps_bind_still law (bySteps_runAny law es f) fun _ _ => law.refl _
  | .seq es, f => by
    rw [starts, run]
    exact bySteps_runSeq law es f _
  | .log e, f => by
    rw [starts, run]
    exact bySteps_bind_still law (bySteps_run law e f) fun o g =>
      law.change (c := .log (g.resolve o)) rfl g.session
  | .attempt e, f => by
    rw [starts, run, Run.endState_attempt]
    exact bySteps_run law e f
  | .nested setup, f => by
    have hrun : run p (.nested setup) f =
        (Frame.inSession (do p.evaluate (← Session.make setup) f.subject.argument) >>=
          fun a => pure (.ofValue a.value)) f := by
      rw [run]
      rfl
    rw [starts, hrun, endState_bind_pure, Frame.session_inSession]
    exact .single law (.nested setup f.subject.argument f.session)
  | .step st, f => by
    rw [starts, run, endState_bind_pure, Frame.session_inSession]
    exact .single law (.step st f.session)
  | .lit _, f | .context, f | .keys, f | .lookUp .., f | .has _, f | .item _, f | .raise _, f
  | .assign .., f | .remove _, f | .assignEnv .., f => by
    simp only [starts]
    exact .none (related_run_of_quiet law rfl f)

theorem bySteps_runAll (law : Still Change.isOfExpr R) : (es : List Expr) → (f : Frame) →
    BySteps R p f.session (startsOfAll p es f) (endState (runAll p es f)).session
  | [], f => by
    rw [startsOfAll, runAll]
    exact .none (law.refl _)
  | e :: es, f => by
    rw [startsOfAll, runAll]
    refine bySteps_bind law (bySteps_truthOf law (bySteps_run law e f)) fun b g => ?_
    cases b with
    | true => exact bySteps_runAll law es g
    | false => exact .none (law.refl _)

theorem bySteps_runAny (law : Still Change.isOfExpr R) : (es : List Expr) → (f : Frame) →
    BySteps R p f.session (startsOfAny p es f) (endState (runAny p es f)).session
  | [], f => by
    rw [startsOfAny, runAny]
    exact .none (law.refl _)
  | e :: es, f => by
    rw [startsOfAny, runAny]
    refine bySteps_bind law (bySteps_truthOf law (bySteps_run law e f)) fun b g => ?_
    cases b with
    | true => exact .none (law.refl _)
    | false => exact bySteps_runAny law es g

theorem bySteps_runSeq (law : Still Change.isOfExpr R) :
    (es : List Expr) → (f : Frame) → (o : Operand) →
      BySteps R p f.session (startsOfSeq p es f) (endState (runSeq p es o f)).session
  | [], f, o => by
    rw [startsOfSeq, runSeq]
    exact .none (law.refl _)
  | e :: es, f, _ => by
    rw [startsOfSeq, runSeq]
    exact bySteps_bind law (bySteps_run law e f) fun o g => bySteps_runSeq law es g o

end

end Expr

/-! ## Passes -/

namespace Session

variable {R : Session → Session → Prop} {p : Passes}

/-- Deciding a condition starts what its check starts. -/
theorem bySteps_decide (law : Still Change.isOfExpr R) (c : Condition) (f : Frame) :
    BySteps R p f.session (startsOfCondition p (c, f)) (decide p c f).1.session := by
  rw [decide_eq]
  rcases c with ⟨index, name, check⟩
  cases check with
  | static w => exact .none (law.refl _)
  | predicate x =>
    cases x with
    | native n =>
      refine .none ?_
      simp only [runCheck, Callable.call, Bind.bind, EStateM.bind, Run.get_run, endState_ofExcept]
      exact law.refl _
    | expression body =>
      exact Expr.bySteps_bind_still law (body.bySteps_run law f) fun _ _ => law.refl _

/-- `collect` goes through what the conditions start that it reaches. -/
theorem bySteps_collect (law : Still Change.isOfExpr R) (cs : List Condition) (f : Frame) :
    BySteps R p f.session
      ((Pass.trail (Pass.collectNext (decide p)) cs f).flatMap (startsOfCondition p))
      (endState (Pass.collect (decide p) cs f)).session := by
  induction cs generalizing f with
  | nil => exact .none (law.refl _)
  | cons c cs ih =>
    rw [Pass.trail, List.flatMap_cons]
    refine (bySteps_decide law c f).append law ?_
    rw [Pass.collectNext]
    cases hv : (decide p c f).2.stop? with
    | some stop =>
      rw [Pass.collect_cons_of_stop hv]
      exact .none (law.refl _)
    | none =>
      have hrest := ih (decide p c f).1
      rw [Pass.collect_cons_of_decided hv, Option.isNone_none, if_pos rfl, Option.elim_some]
      generalize Pass.collect (decide p) cs (decide p c f).1 = r at hrest
      cases r <;> exact hrest

/-- A survey goes through what the conditions start that it reaches, if marking a failure is
respected too. -/
theorem bySteps_survey (law : Still Change.isOfExpr R)
    (hmark : ∀ x f, R f.session (markFailure x f).session) (cs : List Condition) (f : Frame) :
    BySteps R p f.session
      ((Pass.trail (Pass.surveyNext (decide p) markFailure) cs f).flatMap (startsOfCondition p))
      (endState (Pass.survey (decide p) markFailure cs f)).session := by
  induction cs generalizing f with
  | nil => exact .none (law.refl _)
  | cons c cs ih =>
    rw [Pass.trail, List.flatMap_cons]
    refine (bySteps_decide law c f).append law ?_
    cases hn : Pass.surveyNext (decide p) markFailure c f with
    | none =>
      obtain ⟨stop, -, hs⟩ := Pass.survey_cons_of_no_next hn cs
      rw [hs]
      exact .none (law.refl _)
    | some g =>
      have hg : R (decide p c f).1.session g.session := by
        unfold Pass.surveyNext at hn
        split at hn <;> cases hn
        · exact law.refl _
        · exact hmark _ _
      have hrest := ih g
      rw [Pass.survey_cons_of_next hn, Option.elim_some]
      generalize Pass.survey (decide p) markFailure cs g = r at hrest
      cases r <;> exact hrest.of_related law hg

theorem related_effectiveContext (law : Still Change.isQuiet R) (e : Evaluator)
    (argument : PassArgument) (s : Session) : R s (endState (effectiveContext e argument s)) := by
  have hlaw : QuietLaw fun t u => t = u ∧ R s t :=
    QuietLaw.ofInvariant fun c hc t ht => law.trans ht (law.change hc t)
  exact (effectiveContext_simulates hlaw e argument s s ⟨rfl, law.refl s⟩).states.2

/-- A loop in a span starts what it starts without one. -/
theorem bySteps_inSpan (law : Still Change.isQuiet R) {α : Type} {name : String} {count : Nat}
    {c : Context} {loop : Run Frame α} {s : Session} {xs : List Start}
    (h : BySteps R p (passFrame name count c s).session xs
      (endState (loop (passFrame name count c s))).session) (found : α → Nat) :
    BySteps R p s xs (endState (inSpan name count c loop found s)) := by
  have hopen := h.of_related law (law.change (c := .openSpan name count) rfl s)
  unfold inSpan
  generalize loop (passFrame name count c s) = r at hopen
  cases r with
  | ok a f => exact hopen.trans law (law.change (c := .closeSpan (found a)) rfl f.session)
  | error stop f => exact hopen.trans law (law.change (c := .abandonSpan stop) rfl f.session)

theorem bySteps_evaluate (law : Still Change.isQuiet R) (number : Nat) (argument : PassArgument)
    (s : Session) :
    BySteps R p s (startsOfEvaluate p number argument s)
      (endState (evaluate p number argument s)) := by
  rw [startsOfEvaluate]
  cases he : s.evaluators[number]? with
  | none =>
    rw [evaluate_absent he]
    exact .none (law.refl s)
  | some e =>
    have hc := related_effectiveContext law e argument s
    rw [Option.elim_some]
    cases hx : effectiveContext e argument s with
    | error stop t =>
      rw [hx] at hc
      rw [evaluate_of_no_context he hx]
      exact .none hc
    | ok c t =>
      rw [hx] at hc
      have hloop := (bySteps_inSpan law (bySteps_collect (p := p) law.ofExpr e.conditions
        (passFrame "envname.evaluate" e.conditions.length c t)) List.length).of_related law hc
      rw [evaluate_inSpan he hx]
      simp only [Bind.bind, EStateM.bind]
      generalize inSpan "envname.evaluate" e.conditions.length c (Pass.collect (decide p)
        e.conditions) List.length t = r at hloop
      cases r with
      | ok names u => exact hloop.trans law (law.change (c := .note _) rfl u)
      | error stop u => exact hloop

theorem bySteps_explain (law : Still Change.isQuiet R) (number : Nat) (argument : PassArgument)
    (s : Session) :
    BySteps R p s (startsOfExplain p number argument s)
      (endState (explain p number argument s)) := by
  rw [startsOfExplain]
  cases he : s.evaluators[number]? with
  | none =>
    rw [explain_absent he]
    exact .none (law.refl s)
  | some e =>
    have hc := related_effectiveContext law e argument s
    rw [Option.elim_some]
    cases hx : effectiveContext e argument s with
    | error stop t =>
      rw [hx] at hc
      rw [explain_of_no_context he hx]
      exact .none hc
    | ok c t =>
      rw [hx] at hc
      have hmark : ∀ x f, R f.session (markFailure x f).session :=
        fun x f => law.change (c := .mark x) rfl f.session
      rw [explain_inSpan he hx, endState_bind_pure]
      exact (bySteps_inSpan law (bySteps_survey law.ofExpr hmark e.conditions
        (passFrame "envname.explain" e.conditions.length c t)) _).of_related law hc

/-- A pass goes from one thing that its predicates start to the next, in their order, and does
nothing in between that a relation does not hold across which all quiet changes respect. -/
theorem bySteps_pass (law : Still Change.isQuiet R) (p : Passes) (number : Nat)
    (argument : PassArgument) (s : Session) :
    BySteps R p s (startsOfEvaluate p number argument s)
      (endState (evaluate p number argument s)) ∧
    BySteps R p s (startsOfExplain p number argument s)
      (endState (explain p number argument s)) :=
  ⟨bySteps_evaluate law number argument s, bySteps_explain law number argument s⟩

end Session

end NamedConditions
