import NamedConditions.Condition.Basic
import NamedConditions.Failure.Basic
import NamedConditions.Value.Truth
/-!
Passes over a condition list. A pass decides the conditions in order, each in the state that the one
before left. `collect` stops at the first failure and gives the names that hold; `survey` records a
failure and goes on. What neither absorbs, an interrupt for instance, stops both.

Main statements: a survey has one outcome a condition, and what was judged as a value's truth is
that truth.
-/
namespace NamedConditions

/-- Why a run ends early: a failure, or a nesting deeper than the run allows. -/
inductive Stop
  | failure (f : Failure)
  | exhausted

/-- Runs that keep their state when they end early. -/
abbrev Run (σ : Type) := EStateM Stop σ

@[simp] theorem Run.get_run {σ : Type} (s : σ) : (get : Run σ σ) s = .ok s s := rfl

@[simp] theorem Run.modify_run {σ : Type} (f : σ → σ) (s : σ) :
    (modify f : Run σ Unit) s = .ok () (f s) := rfl

/-- Ends a run with an error. -/
def Run.raise {σ α : Type} (error : Raised) : Run σ α := throw (.failure (.raised error))

/-- Ends a run if an answer is an error. -/
def Run.ofExcept {σ α : Type} : Except Raised α → Run σ α
  | .ok a => pure a
  | .error e => Run.raise e

/-- Gives an answer where a run fails; what the run did until then stays done. An interrupt is no
failure to answer for. -/
def Run.attempt {σ α : Type} (answer : α) (r : Run σ α) : Run σ α := fun s =>
  match r s with
  | .error (.failure f) s => if f.isInterrupt then .error (.failure f) s else .ok answer s
  | result => result

/-- The failure of a condition, `ConditionEvaluationError`: its name, what it failed with, and the
text of both. -/
structure ConditionFailure where
  name : Value
  cause : Failure
  text : String

/-- The same as a failure. -/
def ConditionFailure.toFailure (f : ConditionFailure) : Failure := .condition f.name f.cause f.text

/-- How a condition comes out. -/
inductive Verdict
  | decided (holds : Bool)
  | failed (f : ConditionFailure)
  /-- Ends the pass whatever it does about failures. -/
  | stopped (stop : Stop)

namespace Verdict

/-- A failure, attributed to a condition unless it is an interrupt: what `_holds` catches. -/
def ofFailure (name : Value) (f : Failure) : Verdict :=
  if f.isInterrupt then stopped (.failure f)
  else
    match Failure.attributeTo name f with
    | .condition name cause text => failed ⟨name, cause, text⟩
    | other => stopped (.failure other)

/-- What a check's value, or the reason why it has none, says about its condition: `_holds` once the
check is run. -/
def judge (name : Value) : Except Stop Value → Verdict
  | .error .exhausted => stopped .exhausted
  | .error (.failure f) => ofFailure name f
  | .ok v =>
    match v.truth with
    | .ok b => decided b
    | .error e => ofFailure name (.raised e)

theorem judge_of_truth (name : Value) {v : Value} {b : Bool} (h : v.truth = .ok b) :
    judge name (.ok v) = decided b := by
  simp [judge, h]

end Verdict

/-- The outcome of one condition in a survey: `ConditionResult`. -/
structure Outcome where
  index : Nat
  name : Value
  isPredicate : Bool
  matched : Bool
  error? : Option String

/-- The word for the sort of check. -/
def Outcome.kind (o : Outcome) : String := if o.isPredicate then "predicate" else "static"

namespace Pass

variable {σ : Type}

/-- Decides conditions in order up to the first that fails, and gives the names of those that hold:
the loop of `evaluate`. -/
def collect (decide : Condition → σ → σ × Verdict) :
    List Condition → σ → EStateM.Result Stop σ (List Value)
  | [], s => .ok [] s
  | c :: cs, s =>
    match decide c s with
    | (s, .decided holds) =>
      match collect decide cs s with
      | .ok names s => .ok (if holds then c.name :: names else names) s
      | .error stop s => .error stop s
    | (s, .failed f) => .error (.failure f.toFailure) s
    | (s, .stopped stop) => .error stop s

/-- Decides all conditions in order and notes those that fail: the loop of `explain`. -/
def survey (decide : Condition → σ → σ × Verdict) (note : ConditionFailure → σ → σ) :
    List Condition → σ → EStateM.Result Stop σ (List Outcome)
  | [], s => .ok [] s
  | c :: cs, s =>
    let go (outcome : Outcome) (s : σ) : EStateM.Result Stop σ (List Outcome) :=
      match survey decide note cs s with
      | .ok rest s => .ok (outcome :: rest) s
      | .error stop s => .error stop s
    match decide c s with
    | (s, .decided holds) => go ⟨c.index, c.name, c.check.isPredicate, holds, none⟩ s
    | (s, .failed f) =>
      go ⟨c.index, c.name, c.check.isPredicate, false, some f.text⟩ (note f s)
    | (s, .stopped stop) => .error stop s

theorem length_of_survey {decide : Condition → σ → σ × Verdict}
    {note : ConditionFailure → σ → σ} {cs : List Condition} {s t : σ} {outcomes : List Outcome}
    (h : survey decide note cs s = .ok outcomes t) : outcomes.length = cs.length := by
  induction cs generalizing s outcomes with
  | nil =>
    cases h
    rfl
  | cons c cs ih =>
    unfold survey at h
    rcases hd : decide c s with ⟨u, v⟩
    simp only [hd] at h
    cases v with
    | decided holds =>
      simp only at h
      cases hr : survey decide note cs u with
      | ok rest w =>
        rw [hr] at h
        cases h
        simp [ih hr]
      | error stop w =>
        rw [hr] at h
        cases h
    | failed f =>
      simp only at h
      cases hr : survey decide note cs (note f u) with
      | ok rest w =>
        rw [hr] at h
        cases h
        simp [ih hr]
      | error stop w =>
        rw [hr] at h
        cases h
    | stopped stop => cases h

end Pass

end NamedConditions
