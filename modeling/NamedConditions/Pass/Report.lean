import NamedConditions.Pass.Basic
/-!
What a pass answers. Evaluating answers with the names that hold, or with the evaluator's own
fallback if none does; explaining gives a report of all outcomes beside the same answer.

Main statements: names make a fallback exactly when there is none of them, and a report has an error
exactly when one of its outcomes has.
-/
namespace NamedConditions

/-- The answer of a pass: the names that hold, at least one, or the fallback itself. -/
inductive Answer
  | names (ns : List Value)
  | fallback (v : Value)

namespace Answer

/-- The answer for the names that hold. -/
def ofNames (fallback : Value) (names : List Value) : Answer :=
  if names.isEmpty then .fallback fallback else .names names

/-- One match, as a value: `Match`. -/
def entry (name : Value) : Value := .tuple [.bool true, name]

/-- The answer as a value. -/
def value : Answer → Value
  | names ns => .list (ns.map entry)
  | fallback v => v

/-- Whether the answer is the fallback itself. -/
def isFallback : Answer → Bool
  | names _ => false
  | fallback _ => true

@[simp] theorem isFallback_ofNames (fallback : Value) (names : List Value) :
    (ofNames fallback names).isFallback = names.isEmpty := by
  cases names <;> rfl

end Answer

/-- The report of a survey: `EvaluationReport`, of which all but the fallback is read off the
outcomes. -/
structure Report where
  fallback : Value
  outcomes : List Outcome

namespace Report

/-- The names of the conditions that hold: `matched_names`. -/
def matchedNames (r : Report) : List Value := (r.outcomes.filter (·.matched)).map (·.name)

/-- The outcomes that failed. -/
def errors (r : Report) : List Outcome := r.outcomes.filter fun o => o.error?.isSome

/-- Whether an outcome failed. -/
def hasError (r : Report) : Bool := r.outcomes.any fun o => o.error?.isSome

/-- Whether no condition holds. -/
def defaultUsed (r : Report) : Bool := r.matchedNames.isEmpty

/-- The answer beside the outcomes. -/
def answer (r : Report) : Answer := .ofNames r.fallback r.matchedNames

theorem hasError_eq_not_isEmpty_errors (r : Report) : r.hasError = !r.errors.isEmpty := by
  rcases r with ⟨f, os⟩
  induction os with
  | nil => rfl
  | cons o os ih =>
    simp only [hasError, errors, List.any_cons, List.filter_cons] at ih ⊢
    cases o.error?.isSome <;> simp_all

end Report

end NamedConditions
