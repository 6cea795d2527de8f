import NamedConditions.Value.Layer
/-!
Named conditions. A specification is a check with a name, as the user gives it; a condition is a
specification made ready: its place in the list, and its check sorted into a static value or
something to call.

Main statements: making ready keeps number, order, places and names, and a condition is a predicate
exactly when its check can be called.
-/
namespace NamedConditions

/-- A named check as it was given: `ConditionSpec`. -/
structure Spec where
  check : Value
  name : Value

/-- What can be called with a context. -/
inductive Callable
  | native (f : Native)
  | expression (body : Expr)

/-- What a value does when it is called, if it can be. -/
def Value.callable? : Value → Option Callable
  | .object _ (.native f) => some (.native f)
  | .object _ (.predicate _ body) => some (.expression body)
  | _ => none

/-- A check: a value (`StaticCheck`), or something that gives one (`PredicateCheck`). -/
inductive Check
  | static (v : Value)
  | predicate (f : Callable)

/-- A condition made ready: `CompiledCondition`. -/
structure Condition where
  index : Nat
  name : Value
  check : Check

namespace Spec

/-- The specification as a value. -/
def toValue (s : Spec) : Value := .spec s.check s.name

end Spec

namespace Check

/-- The sort of check that a value makes. -/
def ofValue (v : Value) : Check :=
  match v.callable? with
  | some f => predicate f
  | none => static v

/-- The word for the sort of check in reports. -/
def kind : Check → String
  | static _ => "static"
  | predicate _ => "predicate"

/-- Whether the check is called. -/
def isPredicate : Check → Bool
  | static _ => false
  | predicate _ => true

theorem isPredicate_ofValue (v : Value) : (ofValue v).isPredicate = v.callable?.isSome := by
  unfold ofValue
  split <;> simp_all [isPredicate]

end Check

theorem Value.isSome_callable? (v : Value) : v.callable?.isSome = v.isCallable := by
  cases v with
  | object id o => cases o <;> rfl
  | _ => rfl

namespace Condition

/-- The condition at a place of the list: `CompiledCondition.from_spec`. -/
def ofSpec (index : Nat) (s : Spec) : Condition := ⟨index, s.name, .ofValue s.check⟩

/-- The conditions of a list of specifications, from a place on. -/
def ofSpecsFrom (index : Nat) : List Spec → List Condition
  | [] => []
  | s :: rest => ofSpec index s :: ofSpecsFrom (index + 1) rest

/-- The conditions of a list of specifications. -/
def ofSpecs (specs : List Spec) : List Condition := ofSpecsFrom 0 specs

theorem length_ofSpecsFrom (index : Nat) (specs : List Spec) :
    (ofSpecsFrom index specs).length = specs.length := by
  induction specs generalizing index with
  | nil => rfl
  | cons s rest ih => simp [ofSpecsFrom, ih]

@[simp] theorem length_ofSpecs (specs : List Spec) : (ofSpecs specs).length = specs.length :=
  length_ofSpecsFrom 0 specs

theorem getElem?_ofSpecsFrom (index : Nat) (specs : List Spec) (i : Nat) :
    (ofSpecsFrom index specs)[i]? = specs[i]?.map (ofSpec (index + i)) := by
  induction specs generalizing index i with
  | nil => simp [ofSpecsFrom]
  | cons s rest ih =>
    cases i with
    | zero => simp [ofSpecsFrom]
    | succ i =>
      have hi : index + 1 + i = index + (i + 1) := by omega
      simp [ofSpecsFrom, ih, hi]

theorem ofSpecsFrom_append (index : Nat) (a b : List Spec) :
    ofSpecsFrom index (a ++ b) = ofSpecsFrom index a ++ ofSpecsFrom (index + a.length) b := by
  induction a generalizing index with
  | nil => simp [ofSpecsFrom]
  | cons s rest ih =>
    have hi : index + 1 + rest.length = index + (rest.length + 1) := by omega
    simp [ofSpecsFrom, ih, hi]

end Condition

end NamedConditions
