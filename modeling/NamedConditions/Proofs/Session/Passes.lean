import NamedConditions.Proofs.Session.Interpreter
/-!
Passes taken apart. A pass on an evaluator that exists makes its context and then runs one of the
two loops inside a span; what the pass gives is what the loop gives.

Main statements: a pass with a context is its loop (`evaluate_run`, `explain_run`), and a pass that
answers had an evaluator, a context and a loop that came to its end (`exists_of_evaluate_eq_ok`,
`exists_of_explain_eq_ok`).
-/
namespace NamedConditions.Session

/-- Verdicts are attributed to the condition that is decided. -/
theorem attributes_decide (p : Passes) : Pass.Attributes (decide p) := by
  have hf : ∀ (name : Value) (x : Failure) (f : ConditionFailure),
      Verdict.ofFailure name x = .failed f → f.name = name := by
    intro name x f h
    unfold Verdict.ofFailure at h
    split at h
    · cases h
    · split at h
      · rename_i ha
        cases h
        exact (Failure.attributeTo_eq_condition ha).1
      · cases h
  intro c s f h
  unfold decide at h
  cases hr : runCheck p c.check s with
  | ok v t =>
    rw [hr] at h
    simp only [Verdict.judge] at h
    cases hv : v.truth with
    | ok b =>
      rw [hv] at h
      cases h
    | error e =>
      rw [hv] at h
      exact hf _ _ _ h
  | error stop t =>
    rw [hr] at h
    cases stop with
    | failure x => exact hf _ _ _ h
    | exhausted => cases h

variable {p : Passes} {number : Nat} {argument : PassArgument} {s s₁ t : Session} {e : Evaluator}
  {c : Context} {stop : Stop}

/-! ## Evaluating -/

theorem evaluate_absent (he : s.evaluators[number]? = none) :
    evaluate p number argument s = .error .exhausted s := by
  simp only [evaluate, Bind.bind, EStateM.bind, Run.get_run, he]
  rfl

theorem evaluate_of_no_context (he : s.evaluators[number]? = some e)
    (hc : effectiveContext e argument s = .error stop s₁) :
    evaluate p number argument s = .error stop s₁ := by
  simp only [evaluate, Bind.bind, EStateM.bind, Run.get_run, he, hc]

/-- Evaluating is its loop inside a span, and a note. -/
theorem evaluate_inSpan (he : s.evaluators[number]? = some e)
    (hc : effectiveContext e argument s = .ok c s₁) :
    evaluate p number argument s = (do
      let names ← inSpan "envname.evaluate" e.conditions.length c
        (Pass.collect (decide p) e.conditions) List.length
      modify (note (evaluationNote e.conditions.length names.length))
      return .ofNames e.fallback names : Run Session Answer) s₁ := by
  simp only [evaluate, Bind.bind, EStateM.bind, Run.get_run, he, hc]

theorem evaluate_run (he : s.evaluators[number]? = some e)
    (hc : effectiveContext e argument s = .ok c s₁) :
    evaluate p number argument s =
      match Pass.collect (decide p) e.conditions
          (passFrame "envname.evaluate" e.conditions.length c s₁) with
      | .ok names f => .ok (.ofNames e.fallback names)
          ((f.session.closeSpan names.length).note
            (evaluationNote e.conditions.length names.length))
      | .error stop f => .error (f.session.abandonSpan stop).1 (f.session.abandonSpan stop).2 := by
  simp only [evaluate, Bind.bind, EStateM.bind, Run.get_run, he, hc,
    inSpan]
  cases Pass.collect (decide p) e.conditions
    (passFrame "envname.evaluate" e.conditions.length c s₁) <;> rfl

/-- What evaluating answers is what the loop over the conditions collected. -/
theorem exists_of_evaluate_eq_ok {answer : Answer}
    (h : evaluate p number argument s = .ok answer t) :
    ∃ e c s₁ names f, s.evaluators[number]? = some e ∧ effectiveContext e argument s = .ok c s₁ ∧
      Pass.collect (decide p) e.conditions
        (passFrame "envname.evaluate" e.conditions.length c s₁) = .ok names f ∧
      answer = .ofNames e.fallback names ∧
      t = (f.session.closeSpan names.length).note
        (evaluationNote e.conditions.length names.length) := by
  cases he : s.evaluators[number]? with
  | none =>
    rw [evaluate_absent he] at h
    cases h
  | some e =>
    cases hc : effectiveContext e argument s with
    | error stop s₁ =>
      rw [evaluate_of_no_context he hc] at h
      cases h
    | ok c s₁ =>
      rw [evaluate_run he hc] at h
      cases hl : Pass.collect (decide p) e.conditions
        (passFrame "envname.evaluate" e.conditions.length c s₁) with
      | ok names f =>
        rw [hl] at h
        cases h
        exact ⟨e, c, s₁, names, f, rfl, hc, hl, rfl, rfl⟩
      | error stop f =>
        rw [hl] at h
        cases h

/-! ## Explaining -/

theorem explain_absent (he : s.evaluators[number]? = none) :
    explain p number argument s = .error .exhausted s := by
  simp only [explain, Bind.bind, EStateM.bind, Run.get_run, he]
  rfl

theorem explain_of_no_context (he : s.evaluators[number]? = some e)
    (hc : effectiveContext e argument s = .error stop s₁) :
    explain p number argument s = .error stop s₁ := by
  simp only [explain, Bind.bind, EStateM.bind, Run.get_run, he, hc]

/-- Explaining is its loop inside a span. -/
theorem explain_inSpan (he : s.evaluators[number]? = some e)
    (hc : effectiveContext e argument s = .ok c s₁) :
    explain p number argument s = (do
      let outcomes ← inSpan "envname.explain" e.conditions.length c
        (Pass.survey (decide p) markFailure e.conditions)
        fun outcomes => (Report.mk e.fallback outcomes).matchedNames.length
      return ⟨e.fallback, outcomes⟩ : Run Session Report) s₁ := by
  simp only [explain, Bind.bind, EStateM.bind, Run.get_run, he, hc]

theorem explain_run (he : s.evaluators[number]? = some e)
    (hc : effectiveContext e argument s = .ok c s₁) :
    explain p number argument s =
      match Pass.survey (decide p) markFailure e.conditions
          (passFrame "envname.explain" e.conditions.length c s₁) with
      | .ok outcomes f => .ok ⟨e.fallback, outcomes⟩
          (f.session.closeSpan (Report.mk e.fallback outcomes).matchedNames.length)
      | .error stop f => .error (f.session.abandonSpan stop).1 (f.session.abandonSpan stop).2 := by
  simp only [explain, Bind.bind, EStateM.bind, Run.get_run, he, hc,
    inSpan]
  cases Pass.survey (decide p) markFailure e.conditions
    (passFrame "envname.explain" e.conditions.length c s₁) <;> rfl

/-- What explaining reports is what the loop over the conditions found. -/
theorem exists_of_explain_eq_ok {report : Report}
    (h : explain p number argument s = .ok report t) :
    ∃ e c s₁ f, s.evaluators[number]? = some e ∧ effectiveContext e argument s = .ok c s₁ ∧
      Pass.survey (decide p) markFailure e.conditions
        (passFrame "envname.explain" e.conditions.length c s₁) = .ok report.outcomes f ∧
      report.fallback = e.fallback ∧ t = f.session.closeSpan report.matchedNames.length := by
  cases he : s.evaluators[number]? with
  | none =>
    rw [explain_absent he] at h
    cases h
  | some e =>
    cases hc : effectiveContext e argument s with
    | error stop s₁ =>
      rw [explain_of_no_context he hc] at h
      cases h
    | ok c s₁ =>
      rw [explain_run he hc] at h
      cases hl : Pass.survey (decide p) markFailure e.conditions
        (passFrame "envname.explain" e.conditions.length c s₁) with
      | ok outcomes f =>
        rw [hl] at h
        cases h
        exact ⟨e, c, s₁, f, rfl, hc, hl, rfl, rfl⟩
      | error stop f =>
        rw [hl] at h
        cases h

end NamedConditions.Session
