import Mathlib.Data.List.Forall2
import NamedConditions.Proofs.Condition.Faults
import NamedConditions.Proofs.Context.Layers
import NamedConditions.Proofs.Pass.Agreement
import NamedConditions.Proofs.Pass.Matches
import NamedConditions.Proofs.Session.Valid
/-!
Explaining as evaluating without failures. Explaining goes on behind a condition that fails, in the
state that the failing check left. Evaluating does the same where that condition is replaced by one
that does what the failing check did and then gives what is false.

The loops come first, for any way to decide conditions: where conditions stand in for those of a
survey in this way, `collect` goes through them in the states of the survey. Then the passes, of
which the two run in spans of their own. Every condition list has a list that stands in for it like
this: a failing predicate can be attempted, and what it gives can be replaced.

Main statement (`explain_eq_evaluate_silenced`): explaining gives a report, and evaluating a list
that stands in for the conditions, with the same fallback, source and context, gives the answer of
that report.
-/
namespace NamedConditions

namespace Pass

variable {σ : Type} {decide : Condition → σ → σ × Verdict} {note : ConditionFailure → σ → σ}
  {R : σ → σ → Prop}

/-- A condition stands in for one on the trail of a survey: it is the same one if that is decided,
and if that fails, it leaves what that leaves and does not hold. -/
def StandsIn (decide : Condition → σ → σ × Verdict) (x : Condition × σ) (c : Condition) : Prop :=
  match (decide x.1 x.2).2 with
  | .decided _ => c = x.1
  | .failed _ => decide c x.2 = ((decide x.1 x.2).1, .decided false)
  | .stopped _ => True

/-- What stands in for the conditions of a survey collects the names that hold in it. -/
theorem collect_of_standsIn (hd : ∀ c, Agree R decide decide c)
    (hn : ∀ f s t, R s t → R s (note f t)) {cs cs' : List Condition} {s t t' : σ}
    {outcomes : List Outcome} (h : R s t) (hs : survey decide note cs t = .ok outcomes t')
    (hc : List.Forall₂ (StandsIn decide) (trail (surveyNext decide note) cs t) cs') :
    ∃ s', collect decide cs' s = .ok (holding outcomes) s' ∧ R s' t' := by
  induction cs generalizing s t outcomes cs' with
  | nil =>
    cases hs
    cases hc
    exact ⟨s, rfl, h⟩
  | cons c cs ih =>
    rcases survey_cons_ok hs with ⟨holds, rest, hv, hrest, rfl⟩ | ⟨f, rest, hv, hrest, rfl⟩
    · have hnext : surveyNext decide note c t = some (decide c t).1 := by rw [surveyNext, hv]
      rw [trail, hnext, Option.elim_some] at hc
      cases hc with
      | @cons _ c' _ cs'' hstands hc =>
        rw [StandsIn, hv] at hstands
        subst hstands
        obtain ⟨hv', hr⟩ := hd c' s t h
        obtain ⟨s', hcol, hr'⟩ := ih hr hrest hc
        rw [collect_cons, hv', hv]
        dsimp only
        rw [hcol]
        refine ⟨s', ?_, hr'⟩
        cases holds <;> rfl
    · have hnext : surveyNext decide note c t = some (note f (decide c t).1) := by
        rw [surveyNext, hv]
      rw [trail, hnext, Option.elim_some] at hc
      cases hc with
      | @cons _ c' _ cs'' hstands hc =>
        rw [StandsIn, hv] at hstands
        obtain ⟨hv', hr⟩ := hd c' s t h
        rw [hstands] at hv' hr
        obtain ⟨s', hcol, hr'⟩ := ih (hn f _ _ hr) hrest hc
        rw [collect_cons, hv']
        dsimp only
        rw [hcol]
        exact ⟨s', rfl, hr'⟩

end Pass

/-! ## Silencing -/

namespace Spec

/-- A specification whose check does what the check of another does and then gives what is false,
also where the other fails. -/
def silenced (s : Spec) : Spec :=
  match s.check with
  | .object id (.predicate truth body) =>
    ⟨.object id (.predicate truth (.seq [.attempt body, .lit (.bool false)])), s.name⟩
  | _ => ⟨.object 0 (.predicate none (.lit (.bool false))), s.name⟩

theorem isPredicate_silenced (s : Spec) : (Check.ofValue s.silenced.check).isPredicate = true := by
  unfold silenced
  split <;> rfl

theorem isStrict_silenced (s : Spec) : s.silenced.isStrict = true := by
  unfold silenced
  split <;> rfl

end Spec

/-- The specifications of which a report was made, with those silenced that failed. -/
def Report.silence (r : Report) (specs : List Spec) : List Spec :=
  List.zipWith (fun o s => if o.error?.isSome then s.silenced else s) r.outcomes specs

theorem Report.getElem?_silence {r : Report} {specs : List Spec} {i : Nat} {o : Outcome} {s : Spec}
    (ho : r.outcomes[i]? = some o) (hs : specs[i]? = some s) :
    (r.silence specs)[i]? = some (if o.error?.isSome then s.silenced else s) := by
  rw [silence, List.getElem?_zipWith, ho, hs]

theorem Report.mem_silence {r : Report} {specs : List Spec} {s : Spec} (h : s ∈ r.silence specs) :
    s ∈ specs ∨ ∃ s' : Spec, s = s'.silenced := by
  obtain ⟨i, hi⟩ := List.mem_iff_getElem?.1 h
  rw [silence, List.getElem?_zipWith] at hi
  split at hi
  · rename_i o s' ho hs'
    split at hi
    · exact .inr ⟨s', (Option.some.inj hi).symm⟩
    · exact .inl (Option.some.inj hi ▸ List.mem_of_getElem? hs')
  · cases hi

namespace Session

variable {p : Passes}

/-- A silenced expression leaves what the expression leaves. -/
theorem value_silenced {body : Expr} {f : Frame}
    (h : ∀ stop, endResult (body.value p f) = .error stop →
      ∃ x : Failure, stop = .failure x ∧ x.isInterrupt = false) :
    (Expr.seq [.attempt body, .lit (.bool false)]).value p f =
      .ok (.bool false) (endState (body.value p f)) := by
  simp only [Expr.value, Expr.run, Expr.runSeq, Bind.bind, EStateM.bind, Run.attempt] at h ⊢
  cases hr : body.run p f with
  | ok o g => rfl
  | error stop g =>
    rw [hr] at h
    obtain ⟨x, rfl, hx⟩ := h stop rfl
    dsimp only
    rw [hx]
    rfl

/-- A silenced check leaves what the check leaves, unless that is cut short. -/
theorem runCheck_silenced {s : Spec} {f : Frame}
    (h : ∀ stop, endResult (runCheck p (.ofValue s.check) f) = .error stop →
      ∃ x : Failure, stop = .failure x ∧ x.isInterrupt = false) :
    runCheck p (.ofValue s.silenced.check) f =
      .ok (.bool false) (endState (runCheck p (.ofValue s.check) f)) := by
  rcases s with ⟨check, name⟩
  unfold Spec.silenced
  split
  · rename_i id truth body hcheck
    cases hcheck
    exact value_silenced h
  · rename_i hcheck
    have hstill : endState (runCheck p (.ofValue check) f) = f := by
      unfold Check.ofValue
      split
      · rename_i k hk
        unfold Value.callable? at hk
        split at hk
        · cases hk
          exact endState_ofExcept _ f
        · exact absurd rfl (hcheck _ _ _)
        · cases hk
      · rfl
    dsimp only at hstill ⊢
    rw [hstill]
    rfl

/-! ## Standing in for the conditions of a report -/

/-- A condition stands in for one of which a report has an outcome: it is the same one if no failure
is reported, and else a predicate that does the same in its place and then gives what is false. -/
inductive Silences (p : Passes) (o : Outcome) (x : Condition × Frame) (c : Condition) : Prop
  | kept (ho : o.error? = none) (hc : c = x.1)
  | silenced (ho : o.error?.isSome = true) (hp : c.check.isPredicate = true)
      (hr : runCheck p c.check x.2 = .ok (.bool false) (endState (runCheck p x.1.check x.2)))

/-- Conditions stand in for those of a report, each in the place of one. -/
structure Silenced (p : Passes) (report : Report) (xs : List (Condition × Frame))
    (cs : List Condition) : Prop where
  length : cs.length = report.outcomes.length
  silences (i : Nat) (o : Outcome) (x : Condition × Frame) (c : Condition)
    (ho : report.outcomes[i]? = some o) (hx : xs[i]? = some x) (hc : cs[i]? = some c) :
    Silences p o x c

theorem standsIn_of_silences {x : Condition × Frame} {c : Condition}
    (h : Silences p ((decide p x.1 x.2).2.outcome x.1) x c) : Pass.StandsIn (decide p) x c := by
  unfold Pass.StandsIn
  cases hv : (decide p x.1 x.2).2 with
  | stopped stop => trivial
  | decided holds =>
    rw [hv] at h
    cases h with
    | kept _ hc => exact hc
    | silenced ho _ _ => cases ho
  | failed f =>
    rw [hv] at h
    cases h with
    | kept ho _ => cases ho
    | silenced _ _ hr =>
      dsimp only
      rw [decide_eq, decide_eq, hr]
      rfl

theorem forall₂_standsIn {report : Report} {xs : List (Condition × Frame)} {cs : List Condition}
    (ho : report.outcomes = xs.map fun x => (decide p x.1 x.2).2.outcome x.1)
    (h : Silenced p report xs cs) : List.Forall₂ (Pass.StandsIn (decide p)) xs cs := by
  have hlen : xs.length = cs.length := by rw [h.length, ho, List.length_map]
  refine List.forall₂_of_length_eq_of_get hlen fun i hx hc => standsIn_of_silences ?_
  refine h.silences i _ _ _ ?_ (List.getElem?_eq_getElem hx) (List.getElem?_eq_getElem hc)
  rw [ho, List.getElem?_map, List.getElem?_eq_getElem hx]
  rfl

variable {number : Nat} {argument : PassArgument} {s s₁ : Session} {e : Evaluator} {c : Context}
  {depth : Nat}

/-- The outcomes of a report are those of the conditions that explaining reached, and these are all
conditions. -/
theorem outcomes_eq {report : Report} {t : Session} (he : s.evaluators[number]? = some e)
    (hc : effectiveContext e argument s = .ok c s₁)
    (hr : explain p number argument s = .ok report t) :
    report.outcomes =
        (explained p e c s₁).map (fun x => (decide p x.1 x.2).2.outcome x.1) ∧
      (explained p e c s₁).map Prod.fst = e.conditions := by
  rcases explain_trail (p := p) he hc with ⟨t', hs, hall, -⟩ | ⟨x, -, stop, -, hs⟩
  · cases hr.symm.trans hs
    exact ⟨rfl, hall⟩
  · cases hr.symm.trans hs

/-- The context of a pass is made from the source, the accumulated context and the argument. -/
theorem effectiveContext_congr {e e' : Evaluator} (hs : e'.source = e.source)
    (ha : e'.accumulated = e.accumulated) (argument : PassArgument) (s : Session) :
    effectiveContext e' argument s = effectiveContext e argument s := by
  rw [effectiveContext_run, effectiveContext_run, hs, ha]

/-- A report of a failure in the span is not seen. -/
theorem onFrames_markFailure (f : ConditionFailure) {g h : Frame} (hgh : OnFrames TraceBlind g h) :
    OnFrames TraceBlind g (markFailure f h) := by
  obtain ⟨⟨hsame, hlen⟩, hrest⟩ := hgh
  refine ⟨⟨?_, ?_⟩, hrest⟩
  · unfold SameButTrace at hsame ⊢
    rw [markFailure, hsame]
    rfl
  · rw [hlen]
    exact (Trace.length_opened_onInnermost _ _).symm

/-- Evaluating what stands in for the conditions of a report. -/
theorem evaluate_of_silenced {report : Report} {t : Session} (he : s.evaluators[number]? = some e)
    (hc : effectiveContext e argument s = .ok c s₁)
    (hr : explain (passes depth) number argument s = .ok report t) {number' : Nat} {e' : Evaluator}
    (he' : s.evaluators[number']? = some e') (hfb : e'.fallback = e.fallback)
    (hsrc : e'.source = e.source) (hacc : e'.accumulated = e.accumulated)
    (hsil : Silenced (passes depth) report (explained (passes depth) e c s₁) e'.conditions) :
    ∃ u, evaluate (passes depth) number' argument s = .ok report.answer u ∧
      SameButTrace
        (t.note (evaluationNote report.outcomes.length report.matchedNames.length)) u := by
  have hc' : effectiveContext e' argument s = .ok c s₁ := by
    rw [effectiveContext_congr hsrc hacc, hc]
  have hstands := forall₂_standsIn (outcomes_eq he hc hr).1 hsil
  obtain ⟨e₀, c₀, s₀, g, he₀, hc₀, hsur, hfb₀, rfl⟩ := exists_of_explain_eq_ok hr
  cases he.symm.trans he₀
  cases hc.symm.trans hc₀
  have hlen : e.conditions.length = report.outcomes.length := (Pass.length_of_survey hsur).symm
  have hf := onFrames_passFrame "envname.evaluate" "envname.explain" e.conditions.length c s₁
  obtain ⟨f, hcol, hfg⟩ := Pass.collect_of_standsIn (agree_decide depth)
    (fun k _ _ h => onFrames_markFailure k h) hf hsur hstands
  rw [evaluate_run he' hc', hsil.length, ← hlen, hcol, hfb, ← hfb₀]
  exact ⟨_, rfl, sameButTrace_closed hfg _ _⟩

/-- The conditions with those silenced that failed stand in for the conditions. -/
theorem silenced_silence {report : Report} {t : Session} (he : s.evaluators[number]? = some e)
    (hc : effectiveContext e argument s = .ok c s₁)
    (hu : Uninterrupted p (explained p e c s₁))
    (hr : explain p number argument s = .ok report t) :
    Silenced p report (explained p e c s₁) (Condition.ofSpecs (report.silence e.specs)) := by
  obtain ⟨houtcomes, hall⟩ := outcomes_eq he hc hr
  have hspecs : e.specs.length = report.outcomes.length := by
    rw [houtcomes, List.length_map, ← List.length_map (f := Prod.fst), hall, Evaluator.conditions,
      Condition.length_ofSpecs]
  refine ⟨?_, fun i o x c' ho hx hc' => ?_⟩
  · rw [Condition.length_ofSpecs, Report.silence, List.length_zipWith, hspecs, Nat.min_self]
  · have hxc : e.conditions[i]? = some x.1 := by
      rw [← hall, List.getElem?_map, hx]
      rfl
    rw [Evaluator.conditions, Condition.ofSpecs, Condition.getElem?_ofSpecsFrom, Nat.zero_add,
      Option.map_eq_some_iff] at hxc
    obtain ⟨spec, hspec, hx1⟩ := hxc
    rw [Condition.ofSpecs, Condition.getElem?_ofSpecsFrom, Nat.zero_add,
      Report.getElem?_silence ho hspec, Option.map_some] at hc'
    cases hfail : o.error? with
    | none =>
      rw [hfail] at hc'
      cases hc'
      exact .kept hfail hx1
    | some text =>
      rw [hfail] at hc'
      cases hc'
      refine .silenced (by rw [hfail]; rfl) spec.isPredicate_silenced ?_
      rw [← hx1]
      refine runCheck_silenced fun stop hstop => ?_
      refine hu x (List.mem_of_getElem? hx) stop ?_
      rw [tried, ← hx1, Condition.ofSpec, hstop]
      rfl

/-- Explaining gives a report. Take for the conditions of which it reports a failure predicates that
do the same in their places and then give what is false; evaluating these, with the same fallback,
source and accumulated context and from the same session, gives the answer of the report: the
fallback itself exactly if that was used, and else the reported matches. There are such predicates,
and they make up a valid condition list. -/
theorem explain_eq_evaluate_silenced (depth number : Nat) (argument : PassArgument)
    {s s₁ : Session} {e : Evaluator} {c : Context} (he : s.evaluators[number]? = some e)
    (hc : effectiveContext e argument s = .ok c s₁)
    (hu : Uninterrupted (passes depth) (explained (passes depth) e c s₁))
    (ht : ∀ x ∈ explained (passes depth) e c s₁, ∀ cause,
      Verdict.ending? (tried (passes depth) x) = some (.failure cause) →
      Failure.HasTexts x.1.name cause) :
    ∃ report t, explain (passes depth) number argument s = .ok report t ∧
      (∀ (number' : Nat) (e' : Evaluator), s.evaluators[number']? = some e' →
        e'.fallback = e.fallback → e'.source = e.source → e'.accumulated = e.accumulated →
        Silenced (passes depth) report (explained (passes depth) e c s₁) e'.conditions →
        ∃ answer u, evaluate (passes depth) number' argument s = .ok answer u ∧
          answer.value = report.answer.value ∧
          (report.defaultUsed = true → answer = .fallback e.fallback ∧ report.matchedNames = []) ∧
          (report.defaultUsed = false → answer = .names report.matchedNames) ∧
          SameButTrace
            (t.note (evaluationNote report.outcomes.length report.matchedNames.length)) u) ∧
      Silenced (passes depth) report (explained (passes depth) e c s₁)
        (Condition.ofSpecs (report.silence e.specs)) ∧
      (e.Valid → validate (.tuple ((report.silence e.specs).map Spec.toValue)) e.strict =
        .ok (report.silence e.specs)) := by
  rcases explain_attributes he hc hu with
    ⟨report, t, hr, -, -⟩ | ⟨error, t, hr, x, hx, cause, hf, hno⟩
  · refine ⟨report, t, hr, fun number' e' he' hfb hsrc hacc hsil => ?_,
      silenced_silence he hc hu hr, fun hv => validate_specs fun spec hspec => ?_⟩
    · obtain ⟨u, hev, hsame⟩ := evaluate_of_silenced he hc hr he' hfb hsrc hacc hsil
      obtain ⟨e₀, -, -, -, he₀, -, -, hfb₀, -⟩ := exists_of_explain_eq_ok hr
      cases he.symm.trans he₀
      refine ⟨report.answer, u, hev, rfl, fun hd => ?_, fun hd => ?_, hsame⟩
      · have hnil : report.matchedNames = [] := List.isEmpty_iff.1 hd
        rw [Report.answer, hnil, hfb₀]
        exact ⟨rfl, rfl⟩
      · have hne : report.matchedNames.isEmpty = false := hd
        rw [Report.answer, Answer.ofNames, hne]
        rfl
    · rcases Report.mem_silence hspec with hspec | ⟨spec, rfl⟩
      · exact isStrict_of_validate hv hspec
      · rw [Spec.isStrict_silenced]
        exact Bool.and_false _
  · exact absurd (ht x hx cause hf) hno

/-- A session with two evaluators. A condition of the first writes a key and fails, and the next
condition looks the key up; in the second, the first condition writes the key and gives what is
false. -/
def writesAndFails : Session :=
  let reads : Spec := ⟨.object 1 (.predicate none (.lookUp (.str "k") .null)), .str "reads"⟩
  let writes (last : Expr) : Spec :=
    ⟨.object 0 (.predicate none (.seq [.assign (.str "k") (.bool true), last])), .str "writes"⟩
  { start [] with
    sources := [.process]
    evaluators :=
      [⟨[writes (.raise (.ofText .badValue "no number")), reads], .list [], false, 0, []⟩,
        ⟨[writes (.lit (.bool false)), reads], .list [], false, 0, []⟩] }

theorem explain_eq_evaluate_silenced_writesAndFails :
    ∃ report t answer u, explain (passes 1) 0 (.given none) writesAndFails = .ok report t ∧
      report.errors.length = 1 ∧
      evaluate (passes 1) 1 (.given none) writesAndFails = .ok answer u ∧
      answer = .names [.str "reads"] ∧ report.matchedNames = [.str "reads"] := by
  have hmain := explain_eq_evaluate_silenced 1 0 (.given none) (s := writesAndFails) rfl rfl
  obtain ⟨report, t, hr, heval, -, -⟩ := hmain
    (by
      intro x hx stop h
      rcases List.mem_cons.1 hx with rfl | hx
      · cases h
        exact ⟨_, rfl, rfl⟩
      · rcases List.mem_singleton.1 hx with rfl
        cases h)
    (by
      intro x hx cause h
      rcases List.mem_cons.1 hx with rfl | hx
      · cases h
        exact ⟨⟨_, rfl⟩, _, rfl⟩
      · rcases List.mem_singleton.1 hx with rfl
        cases h)
  cases hr
  obtain ⟨answer, u, hev, -, -, hnames, -⟩ := heval 1 _ rfl rfl rfl rfl
    { length := rfl
      silences := by
        intro i o x c ho hx hc
        match i with
        | 0 =>
          cases ho
          cases hx
          cases hc
          exact .silenced rfl rfl rfl
        | 1 =>
          cases ho
          cases hx
          cases hc
          exact .kept rfl rfl
        | i + 2 => cases ho }
  exact ⟨_, _, answer, u, rfl, rfl, hev, hnames rfl, rfl⟩

end Session

end NamedConditions
