import NamedConditions.Condition.Basic
import NamedConditions.Failure.Basic
/-!
Validation of a condition list. The list is a sequence; each entry is a specification or a mapping
with a `check` and a `name`; a strict list admits only truth values and things to call as checks.
The first entry at fault is reported, and of its faults the first in that order.

Main statements: a sequence is validated entry by entry, nothing else is a list, and a specification
is accepted as it is.
-/
namespace NamedConditions

/-- What is wrong with a condition list: the first fault, with the place of its entry. -/
inductive Fault
  | noSequence
  | noObject (index : Nat)
  | noCheck (index : Nat)
  | noName (index : Nat)
  | badCheck (index : Nat)
  deriving DecidableEq

namespace Fault

/-- Where a fault is, and what it is. -/
def message : Fault → String
  | noSequence => "Conditions must be an array"
  | noObject i => "Condition at index " ++ toString i ++ " must be an object"
  | noCheck i => "Condition at index " ++ toString i ++ " missing required property 'check'"
  | noName i => "Condition at index " ++ toString i ++ " missing required property 'name'"
  | badCheck i =>
    "Condition at index " ++ toString i ++ " property 'check' must be a boolean or function"

/-- The failure with which a list at fault is refused: `InvalidArgumentError`. -/
def failure (f : Fault) : Failure := .raised (.ofText .invalidArgument f.message)

end Fault

namespace Spec

/-- The specification that an entry stands for: `_to_spec` up to its strict rule. -/
def ofEntry (index : Nat) (entry : Value) : Except Fault Spec :=
  match entry with
  | .spec check name => .ok ⟨check, name⟩
  | entry =>
    match entry.entries? with
    | none => .error (.noObject index)
    | some es =>
      match Layer.find? es (.str "check"), Layer.find? es (.str "name") with
      | none, _ => .error (.noCheck index)
      | some _, none => .error (.noName index)
      | some check, some name => .ok ⟨check, name⟩

/-- Whether a strict list admits the check. -/
def isStrict (s : Spec) : Bool := s.check.isBool || s.check.isCallable

/-- An entry, held to the strict rule if asked: `_to_spec`. -/
def ofEntryIn (strict : Bool) (index : Nat) (entry : Value) : Except Fault Spec :=
  match ofEntry index entry with
  | .error f => .error f
  | .ok s => if strict && !s.isStrict then .error (.badCheck index) else .ok s

/-- The specifications of a run of entries, from a place on. -/
def ofEntriesFrom (strict : Bool) (index : Nat) : List Value → Except Fault (List Spec)
  | [] => .ok []
  | entry :: rest =>
    match ofEntryIn strict index entry with
    | .error f => .error f
    | .ok s =>
      match ofEntriesFrom strict (index + 1) rest with
      | .error f => .error f
      | .ok specs => .ok (s :: specs)

end Spec

/-- The specifications of a condition list, or its first fault: `validate_conditions`. The items of
a range are no entries, so only whether there is a first one matters. -/
def validate (conditions : Value) (strict : Bool) : Except Fault (List Spec) :=
  match conditions with
  | .range stop => if 0 < stop then .error (.noObject 0) else .ok []
  | conditions =>
    match conditions.items? with
    | none => .error .noSequence
    | some entries => Spec.ofEntriesFrom strict 0 entries

namespace Spec

@[simp] theorem ofEntry_toValue (index : Nat) (s : Spec) : ofEntry index s.toValue = .ok s := rfl

end Spec

theorem validate_of_items? {conditions : Value} {entries : List Value}
    (h : conditions.items? = some entries) (strict : Bool) :
    validate conditions strict = Spec.ofEntriesFrom strict 0 entries := by
  cases conditions with
  | range stop =>
    simp only [Value.items?, Option.some.injEq] at h
    subst h
    by_cases hs : 0 < stop
    · obtain ⟨n, hn⟩ : ∃ n, stop.toNat = n + 1 := ⟨stop.toNat - 1, by omega⟩
      simp [validate, hs, hn, List.range_succ_eq_map, Spec.ofEntriesFrom, Spec.ofEntryIn,
        Spec.ofEntry, Value.entries?]
    · have hn : stop.toNat = 0 := by omega
      simp [validate, hs, hn, Spec.ofEntriesFrom]
  | _ => simp [validate, h]

theorem validate_of_no_sequence {conditions : Value} (h : conditions.items? = none)
    (strict : Bool) : validate conditions strict = .error .noSequence := by
  cases conditions with
  | range stop => cases h
  | _ => simp [validate, h]

end NamedConditions
