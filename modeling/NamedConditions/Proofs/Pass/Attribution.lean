import NamedConditions.Proofs.Pass.Trail
import NamedConditions.Proofs.Session.Passes
/-!
What becomes of failing checks. A failing check is attributed to its condition by a text that is
made of the texts of the condition's name and of the failure. Where one of these cannot be had, the
error of asking for it takes the place of the failure, and neither loop absorbs it.

Main statement (`attributed_iff_hasTexts`): where no check is cut short, explaining gives a report
with one outcome a condition if every failure that it meets has its texts, and raises an error that
names no condition if one has not; and the first failure that evaluating meets comes out under the
name of its condition, with the very failure as its cause, if it has its texts, and as an error that
names no condition if it has not.
-/
namespace NamedConditions

/-- Why a condition is not decided, by what its check gives: what the check ends with, or the error
of asking for the truth of what it gives. -/
def Verdict.ending? : Except Stop Value → Option Stop
  | .error stop => some stop
  | .ok v =>
    match v.truth with
    | .ok _ => none
    | .error e => some (.failure (.raised e))

/-- The texts can be had that a failure is attributed with. -/
def Failure.HasTexts (name : Value) (cause : Failure) : Prop :=
  (∃ n, name.asText = .ok n) ∧ ∃ m, cause.text = .ok m

namespace Verdict

/-! ## Judging -/

theorem judge_of_no_ending {r : Except Stop Value} (h : ending? r = none) (name : Value) :
    ∃ b, judge name r = decided b := by
  cases r with
  | error stop => cases h
  | ok v =>
    rw [ending?] at h
    cases ht : v.truth with
    | error e =>
      rw [ht] at h
      cases h
    | ok b => exact ⟨b, judge_of_truth name ht⟩

theorem judge_of_failure {r : Except Stop Value} {f : Failure}
    (h : ending? r = some (.failure f)) (name : Value) : judge name r = ofFailure name f := by
  cases r with
  | error stop =>
    cases h
    rfl
  | ok v =>
    rw [ending?] at h
    cases ht : v.truth with
    | ok b =>
      rw [ht] at h
      cases h
    | error e =>
      rw [ht] at h
      cases h
      simp only [judge, ht]

/-- A failure with its texts is attributed. -/
theorem ofFailure_of_hasTexts {name : Value} {f : Failure} {n m : String}
    (hi : f.isInterrupt = false) (hn : name.asText = .ok n) (hm : f.text = .ok m) :
    ofFailure name f = failed ⟨name, f, Failure.attributedText n m⟩ := by
  rw [ofFailure, hi, Failure.attributeTo_of_ok hn hm]
  rfl

/-- A failure without its texts gives way to an error. -/
theorem ofFailure_of_no_texts {name : Value} {f : Failure} (hi : f.isInterrupt = false)
    (h : ¬ Failure.HasTexts name f) :
    ∃ error, ofFailure name f = stopped (.failure (.raised error)) := by
  rw [ofFailure, hi, Failure.attributeTo]
  cases hn : name.asText with
  | error e => exact ⟨e, rfl⟩
  | ok n =>
    cases hm : f.text with
    | error e => exact ⟨e, rfl⟩
    | ok m => exact absurd ⟨⟨n, hn⟩, m, hm⟩ h

theorem place_outcome (c : Condition) (v : Verdict) :
    ((v.outcome c).index, (v.outcome c).name) = (c.index, c.name) := by
  cases v <;> rfl

theorem kind_outcome (c : Condition) (v : Verdict) : (v.outcome c).kind = c.check.kind := by
  rcases c with ⟨index, name, check⟩
  cases v <;> cases check <;> rfl

end Verdict

namespace Session

/-! ## Trails -/

/-- What the check of a condition on a trail gives. -/
def tried (p : Passes) (x : Condition × Frame) : Except Stop Value :=
  endResult (runCheck p x.1.check x.2)

theorem decide_eq_judge_tried (p : Passes) (x : Condition × Frame) :
    (decide p x.1 x.2).2 = .judge x.1.name (tried p x) := by
  unfold decide tried
  cases runCheck p x.1.check x.2 <;> rfl

/-- The conditions that explaining reaches in a context. -/
def explained (p : Passes) (e : Evaluator) (c : Context) (s : Session) : List (Condition × Frame) :=
  Pass.trail (Pass.surveyNext (decide p) markFailure) e.conditions
    (passFrame "envname.explain" e.conditions.length c s)

/-- The conditions that evaluating reaches in a context. -/
def evaluated (p : Passes) (e : Evaluator) (c : Context) (s : Session) : List (Condition × Frame) :=
  Pass.trail (Pass.collectNext (decide p)) e.conditions
    (passFrame "envname.evaluate" e.conditions.length c s)

/-- No check on a trail is cut short, by an interrupt or by the bound on nesting. -/
def Uninterrupted (p : Passes) (xs : List (Condition × Frame)) : Prop :=
  ∀ x ∈ xs, ∀ stop, Verdict.ending? (tried p x) = some stop →
    ∃ f : Failure, stop = .failure f ∧ f.isInterrupt = false

variable {p : Passes} {x : Condition × Frame}

theorem decide_of_no_ending (h : Verdict.ending? (tried p x) = none) :
    ∃ b, (decide p x.1 x.2).2 = .decided b := by
  rw [decide_eq_judge_tried]
  exact Verdict.judge_of_no_ending h x.1.name

/-- A condition on an uninterrupted trail is decided, or it fails with a failure that is attributed
or gives way to an error. -/
theorem decide_cases {xs : List (Condition × Frame)} (hu : Uninterrupted p xs) (hx : x ∈ xs) :
    (Verdict.ending? (tried p x) = none ∧ ∃ b, (decide p x.1 x.2).2 = .decided b) ∨
    (∃ cause n m, Verdict.ending? (tried p x) = some (.failure cause) ∧
      x.1.name.asText = .ok n ∧ cause.text = .ok m ∧
      (decide p x.1 x.2).2 = .failed ⟨x.1.name, cause, Failure.attributedText n m⟩) ∨
    ∃ cause error, Verdict.ending? (tried p x) = some (.failure cause) ∧
      ¬ Failure.HasTexts x.1.name cause ∧
      (decide p x.1 x.2).2 = .stopped (.failure (.raised error)) := by
  cases he : Verdict.ending? (tried p x) with
  | none => exact .inl ⟨rfl, decide_of_no_ending he⟩
  | some stop =>
    obtain ⟨cause, rfl, hi⟩ := hu x hx stop he
    rw [decide_eq_judge_tried, Verdict.judge_of_failure he]
    by_cases ht : Failure.HasTexts x.1.name cause
    · obtain ⟨⟨n, hn⟩, m, hm⟩ := ht
      exact .inr (.inl ⟨cause, n, m, rfl, hn, hm, Verdict.ofFailure_of_hasTexts hi hn hm⟩)
    · obtain ⟨error, hv⟩ := Verdict.ofFailure_of_no_texts hi ht
      exact .inr (.inr ⟨cause, error, rfl, ht, hv⟩)

/-- An error that leaves a span is an error still. -/
theorem exists_abandonSpan_raised (error : Raised) (s : Session) :
    ∃ error' t, s.abandonSpan (.failure (.raised error)) = (.failure (.raised error'), t) := by
  simp only [abandonSpan, Trace.recordFailure]
  split
  · exact ⟨error, _, rfl⟩
  · split
    · exact ⟨error, _, rfl⟩
    · exact ⟨_, _, rfl⟩

/-- An attributed failure leaves a span as it is. -/
theorem exists_abandonSpan_condition (name : Value) (cause : Failure) (text : String)
    (s : Session) :
    ∃ t, s.abandonSpan (.failure (.condition name cause text)) =
      (.failure (.condition name cause text), t) := by
  refine ⟨_, Prod.ext ?_ rfl⟩
  exact congrArg Stop.failure (Trace.recordFailure_of_text rfl _)

/-! ## The two passes -/

variable {number : Nat} {argument : PassArgument} {s s₁ : Session} {e : Evaluator} {c : Context}

/-- Explaining gives a report of its trail, on which all conditions are and of which none stops it,
or it ends with a condition of its trail that does. -/
theorem explain_trail (he : s.evaluators[number]? = some e)
    (hc : effectiveContext e argument s = .ok c s₁) :
    (∃ t, explain p number argument s = .ok ⟨e.fallback,
        (explained p e c s₁).map fun x => (decide p x.1 x.2).2.outcome x.1⟩ t ∧
      (explained p e c s₁).map Prod.fst = e.conditions ∧
      ∀ x ∈ explained p e c s₁, ∀ stop, (decide p x.1 x.2).2 ≠ .stopped stop) ∨
    ∃ x ∈ explained p e c s₁, ∃ stop, (decide p x.1 x.2).2 = .stopped stop ∧
      explain p number argument s = .error ((decide p x.1 x.2).1.session.abandonSpan stop).1
        ((decide p x.1 x.2).1.session.abandonSpan stop).2 := by
  rw [explain_run he hc]
  rcases Pass.survey_trail (decide p) markFailure e.conditions
      (passFrame "envname.explain" e.conditions.length c s₁) with
    ⟨f, hs, hall, hnext⟩ | ⟨x, hx, stop, hv, hs⟩
  · rw [hs]
    refine .inl ⟨_, rfl, hall, fun x hx stop hv => hnext x hx ?_⟩
    rw [Pass.surveyNext, hv]
  · rw [hs]
    exact .inr ⟨x, hx, stop, hv, rfl⟩

/-- What explaining does with failures. -/
theorem explain_attributes (he : s.evaluators[number]? = some e)
    (hc : effectiveContext e argument s = .ok c s₁)
    (hu : Uninterrupted p (explained p e c s₁)) :
    (∃ report t, explain p number argument s = .ok report t ∧
      report.outcomes.map (fun o => (o.index, o.name)) =
        e.conditions.map (fun c => (c.index, c.name)) ∧
      ∀ x ∈ explained p e c s₁, ∀ cause,
        Verdict.ending? (tried p x) = some (.failure cause) → Failure.HasTexts x.1.name cause) ∨
    ∃ error t, explain p number argument s = .error (.failure (.raised error)) t ∧
      ∃ x ∈ explained p e c s₁, ∃ cause,
        Verdict.ending? (tried p x) = some (.failure cause) ∧
        ¬ Failure.HasTexts x.1.name cause := by
  rcases explain_trail (p := p) he hc with ⟨t, hs, hall, hnext⟩ | ⟨x, hx, stop, hv, hs⟩
  · refine .inl ⟨_, t, hs, ?_, ?_⟩
    · have hplaces := congrArg (List.map fun c => (c.index, c.name)) hall
      rw [List.map_map] at hplaces
      rw [← hplaces, List.map_map]
      refine List.map_congr_left fun x _ => ?_
      exact Verdict.place_outcome x.1 (decide p x.1 x.2).2
    · intro x hx cause hcause
      rcases decide_cases hu hx with ⟨hn, -⟩ | ⟨cause', n, m, hf, hn, hm, -⟩ |
        ⟨cause', error, -, -, hv⟩
      · rw [hn] at hcause
        cases hcause
      · rw [hf] at hcause
        cases hcause
        exact ⟨⟨n, hn⟩, m, hm⟩
      · exact absurd hv (hnext x hx _)
  · rcases decide_cases hu hx with ⟨-, b, hd⟩ | ⟨cause, n, m, -, -, -, hd⟩ |
      ⟨cause, error, hf, ht, hd⟩
    · rw [hd] at hv
      cases hv
    · rw [hd] at hv
      cases hv
    · rw [hd] at hv
      cases hv
      obtain ⟨error', t, hr⟩ := exists_abandonSpan_raised error (decide p x.1 x.2).1.session
      rw [hr] at hs
      exact .inr ⟨error', t, hs, x, hx, cause, hf, ht⟩

/-- What evaluating does with failures. -/
theorem evaluate_attributes (he : s.evaluators[number]? = some e)
    (hc : effectiveContext e argument s = .ok c s₁)
    (hu : Uninterrupted p (evaluated p e c s₁)) :
    (∃ answer t, evaluate p number argument s = .ok answer t ∧
      ∀ x ∈ evaluated p e c s₁, Verdict.ending? (tried p x) = none) ∨
    ∃ before x cause, evaluated p e c s₁ = before ++ [x] ∧
      (∀ y ∈ before, Verdict.ending? (tried p y) = none) ∧
      Verdict.ending? (tried p x) = some (.failure cause) ∧
      ((∃ n m t, x.1.name.asText = .ok n ∧ cause.text = .ok m ∧
        evaluate p number argument s =
          .error (.failure (.condition x.1.name cause (Failure.attributedText n m))) t) ∨
      (¬ Failure.HasTexts x.1.name cause ∧
        ∃ error t, evaluate p number argument s = .error (.failure (.raised error)) t)) := by
  have hdecided : ∀ y ∈ evaluated p e c s₁, (decide p y.1 y.2).2.stop? = none →
      Verdict.ending? (tried p y) = none := by
    intro y hy hstop
    rcases decide_cases hu hy with ⟨hn, -⟩ | ⟨cause, n, m, -, -, -, hd⟩ | ⟨cause, error, -, -, hd⟩
    · exact hn
    · rw [hd] at hstop
      cases hstop
    · rw [hd] at hstop
      cases hstop
  rw [evaluate_run he hc]
  rcases Pass.collect_trail (decide p) e.conditions
      (passFrame "envname.evaluate" e.conditions.length c s₁) with
    ⟨t, hs, -, hall⟩ | ⟨before, x, stop, htrail, hbefore, hv, hs⟩
  · rw [hs]
    exact .inl ⟨_, _, rfl, fun x hx => hdecided x hx (hall x hx)⟩
  · have htrail : evaluated p e c s₁ = before ++ [x] := htrail
    have hx : x ∈ evaluated p e c s₁ := by
      rw [htrail]
      exact List.mem_append_right _ List.mem_cons_self
    have hb : ∀ y ∈ before, Verdict.ending? (tried p y) = none := by
      intro y hy
      refine hdecided y ?_ (hbefore y hy)
      rw [htrail]
      exact List.mem_append_left _ hy
    rw [hs]
    rcases decide_cases hu hx with ⟨-, b, hd⟩ | ⟨cause, n, m, hf, hn, hm, hd⟩ |
      ⟨cause, error, hf, ht, hd⟩
    · rw [hd] at hv
      cases hv
    · rw [hd] at hv
      cases hv
      obtain ⟨t, hr⟩ := exists_abandonSpan_condition x.1.name cause (Failure.attributedText n m)
        (decide p x.1 x.2).1.session
      refine .inr ⟨before, x, cause, htrail, hb, hf, .inl ⟨n, m, t, hn, hm, ?_⟩⟩
      dsimp only [ConditionFailure.toFailure]
      rw [hr]
    · rw [hd] at hv
      cases hv
      obtain ⟨error', t, hr⟩ := exists_abandonSpan_raised error (decide p x.1 x.2).1.session
      refine .inr ⟨before, x, cause, htrail, hb, hf, .inr ⟨ht, error', t, ?_⟩⟩
      dsimp only
      rw [hr]

/-- Failures are attributed exactly as far as their texts can be had. -/
theorem attributed_iff_hasTexts (p : Passes) (number : Nat) (argument : PassArgument)
    {s s₁ : Session} {e : Evaluator} {c : Context} (he : s.evaluators[number]? = some e)
    (hc : effectiveContext e argument s = .ok c s₁) :
    (Uninterrupted p (explained p e c s₁) →
      ((∃ report t, explain p number argument s = .ok report t ∧
        report.outcomes.map (fun o => (o.index, o.name)) =
          e.conditions.map (fun c => (c.index, c.name))) ↔
        ∀ x ∈ explained p e c s₁, ∀ cause,
          Verdict.ending? (tried p x) = some (.failure cause) →
          Failure.HasTexts x.1.name cause) ∧
      ((∃ x ∈ explained p e c s₁, ∃ cause, Verdict.ending? (tried p x) = some (.failure cause) ∧
          ¬ Failure.HasTexts x.1.name cause) →
        ∃ error t, explain p number argument s = .error (.failure (.raised error)) t)) ∧
    (Uninterrupted p (evaluated p e c s₁) →
      (∃ answer t, evaluate p number argument s = .ok answer t ∧
        ∀ x ∈ evaluated p e c s₁, Verdict.ending? (tried p x) = none) ∨
      ∃ before x cause, evaluated p e c s₁ = before ++ [x] ∧
        (∀ y ∈ before, Verdict.ending? (tried p y) = none) ∧
        Verdict.ending? (tried p x) = some (.failure cause) ∧
        ((∃ n m t, x.1.name.asText = .ok n ∧ cause.text = .ok m ∧
          evaluate p number argument s =
            .error (.failure (.condition x.1.name cause (Failure.attributedText n m))) t) ∨
        (¬ Failure.HasTexts x.1.name cause ∧
          ∃ error t, evaluate p number argument s = .error (.failure (.raised error)) t))) := by
  refine ⟨fun hu => ?_, evaluate_attributes he hc⟩
  rcases explain_attributes he hc hu with
    ⟨report, t, hr, hplaces, htexts⟩ | ⟨error, t, hr, x, hx, cause, hf, ht⟩
  · refine ⟨⟨fun _ => htexts, fun _ => ⟨report, t, hr, hplaces⟩⟩, ?_⟩
    rintro ⟨x, hx, cause, hf, ht⟩
    exact absurd (htexts x hx cause hf) ht
  · refine ⟨⟨?_, fun h => absurd (h x hx cause hf) ht⟩, fun _ => ⟨error, t, hr⟩⟩
    rintro ⟨report, t', hr', -⟩
    rw [hr] at hr'
    cases hr'

/-- A session with an evaluator of a condition that raises an error without a text. -/
def textless : Session :=
  { start [] with
    sources := [.process]
    evaluators := [⟨[⟨.object 0 (.predicate none (.raise (.mk .badValue
      [.object 1 (.textFails (.ofText (.other "RuntimeError") "no text"))]))), .str "n"⟩],
      .str "default", false, 0, []⟩] }

theorem attributed_iff_hasTexts_textless :
    ∃ error t,
      explain (passes 1) 0 (.given none) textless = .error (.failure (.raised error)) t := by
  refine ((attributed_iff_hasTexts (passes 1) 0 (.given none) (s := textless) rfl rfl).1 ?_).2 ?_
  · intro x hx stop h
    rcases List.mem_singleton.1 hx with rfl
    cases h
    exact ⟨_, rfl, rfl⟩
  · refine ⟨_, List.mem_cons_self, _, rfl, ?_⟩
    rintro ⟨-, m, hm⟩
    cases hm

end Session

end NamedConditions
