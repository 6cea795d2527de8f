import NamedConditions.Proofs.Session.Invariant
/-!
Evaluators hold valid specifications: what a condition list was read into is read into itself again.
So an evaluator can be made again with its own specifications, and a fork of it has them.

Main statement (`valid_of_reachable`): every evaluator of a reachable session is like this.
-/
namespace NamedConditions

namespace Spec

theorem isStrict_of_ofEntryIn {strict : Bool} {index : Nat} {entry : Value} {s : Spec}
    (h : ofEntryIn strict index entry = .ok s) : (strict && !s.isStrict) = false := by
  unfold ofEntryIn at h
  cases he : ofEntry index entry with
  | error f =>
    rw [he] at h
    cases h
  | ok s' =>
    rw [he] at h
    dsimp only at h
    split at h
    · cases h
    · rename_i hs
      cases h
      exact Bool.eq_false_iff.2 hs

/-- Specifications that were read from entries are read from themselves, in any place. -/
theorem ofEntriesFrom_toValue {strict : Bool} {index : Nat} {entries : List Value}
    {specs : List Spec} (h : ofEntriesFrom strict index entries = .ok specs) (place : Nat) :
    ofEntriesFrom strict place (specs.map toValue) = .ok specs := by
  induction entries generalizing index specs place with
  | nil =>
    cases h
    rfl
  | cons entry rest ih =>
    rw [ofEntriesFrom] at h
    cases hs : ofEntryIn strict index entry with
    | error f =>
      rw [hs] at h
      cases h
    | ok s =>
      rw [hs] at h
      cases hr : ofEntriesFrom strict (index + 1) rest with
      | error f =>
        rw [hr] at h
        cases h
      | ok more =>
        rw [hr] at h
        cases h
        have hself : ofEntryIn strict place s.toValue = .ok s := by
          rw [ofEntryIn, ofEntry_toValue]
          dsimp only
          rw [isStrict_of_ofEntryIn hs]
          rfl
        rw [List.map_cons, ofEntriesFrom, hself, ih hr (place + 1)]

end Spec

/-- Valid specifications are valid as they are. -/
theorem validate_toValue {conditions : Value} {strict : Bool} {specs : List Spec}
    (h : validate conditions strict = .ok specs) :
    validate (.tuple (specs.map Spec.toValue)) strict = .ok specs := by
  have htuple : validate (.tuple (specs.map Spec.toValue)) strict =
      Spec.ofEntriesFrom strict 0 (specs.map Spec.toValue) := validate_of_items? rfl strict
  rw [htuple]
  cases hi : conditions.items? with
  | none =>
    rw [validate_of_no_sequence hi] at h
    cases h
  | some entries =>
    rw [validate_of_items? hi] at h
    exact Spec.ofEntriesFrom_toValue h 0

/-- An evaluator could be made again with its specifications. -/
def Evaluator.Valid (e : Evaluator) : Prop :=
  validate (.tuple (e.specs.map Spec.toValue)) e.strict = .ok e.specs

namespace Session

theorem validLaw : EvaluatorLaw fun _ e => e.Valid where
  evolve h _ := h
  give _ h := h
  clear h := h
  make hv _ := validate_toValue hv
  fork _ hv := validate_toValue hv

theorem valid_of_reachable {s : Session} (h : Reachable s) (n : Nat) (e : Evaluator)
    (he : s.evaluators[n]? = some e) : e.Valid :=
  validLaw.of_reachable h n e he

end Session

end NamedConditions
