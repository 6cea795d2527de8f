import NamedConditions.Value.Equality
/-!
Truth of values. A check holds by the rules of `Value.truth`: absence, falsehood, zero, an undefined
number and an empty text are false, every container is true even when it is empty, and anything
else is asked. The host's own rule, `Value.hostTruth`, differs: an empty container is false there,
an undefined number true.
-/
namespace NamedConditions.Value

/-- The error of comparing a signalling number. -/
def signallingError : Raised :=
  .ofText (.other "InvalidOperation") "[<class 'decimal.InvalidOperation'>]"

/-- What an object answers when it is asked for its truth and gives a value back. -/
def truthAnswer : Value → Except Raised Bool
  | bool b => .ok b
  | v => .error (.ofText .badType ("__bool__ should return bool, returned " ++ v.typePath))

/-- The first length that is too great for any object. -/
def lengthBound : Int := Whole.wordBound

/-- What an object's length says about its truth. -/
def lengthAnswer (length : Int) : Except Raised Bool :=
  if length < 0 then .error (.ofText .badValue "__len__() should return >= 0")
  else if lengthBound ≤ length then
    .error (.ofText (.other "OverflowError") "cannot fit 'int' into an index-sized integer")
  else .ok (length ≠ 0)

/-- What an object answers when it is asked for its truth. -/
def objectTruth : Object → Except Raised Bool
  | .predicate (some v) _ => truthAnswer v
  | .truth v => truthAnswer v
  | .truthFails error => .error error
  | .sized length => lengthAnswer length
  | .collection length => lengthAnswer length
  | _ => .ok true

/-- The number of items of a container of any kind. -/
def size? : Value → Option Nat
  | set xs => some xs.length
  | frozenSet xs => some xs.length
  | object _ (.keys es) => some es.length
  | object _ (.collection _) => some 0
  | v =>
    match v.length?, v.entries? with
    | some n, _ => some n
    | none, some es => some es.length
    | none, none => none

/-- The length of a text or octet string of any kind. -/
def textLength? (v : Value) : Option Nat :=
  match v with
  | brokenStr codes => some codes.length
  | v =>
    match v.text?, v.octets? with
    | some s, _ => some s.length
    | none, some os => some os.length
    | none, none => none

/-- The truth of a value as the outcome of a check: `truthy`. -/
def truth (v : Value) : Except Raised Bool :=
  match v with
  | null => .ok false
  | bool b => .ok b
  | object _ (.decimal d) => d.truth?.elim (.error signallingError) .ok
  | v =>
    match v.textLength?, v.number?, v.size? with
    | some n, _, _ => .ok (n ≠ 0)
    | none, some x, _ => x.truth?.elim (.error signallingError) .ok
    | none, none, some _ => .ok true
    | none, none, none =>
      match v with
      | object _ o => objectTruth o
      | _ => .ok true

/-- Whether a number is zero. -/
def isZero (x : Number) : Bool := x.re = .zero && x.im = .zero

/-- The truth of a value by the host's own rule. -/
def hostTruth (v : Value) : Except Raised Bool :=
  match v with
  | null => .ok false
  | object _ (.collection length) => lengthAnswer length
  | object _ (.decimal d) => .ok !d.isZero
  | v =>
    match v.textLength?, v.number?, v.size? with
    | some n, _, _ => .ok (n ≠ 0)
    | none, some x, _ => .ok (!isZero x)
    | none, none, some n => .ok (n ≠ 0)
    | none, none, none =>
      match v with
      | object _ o => objectTruth o
      | _ => .ok true

@[simp] theorem truth_bool (b : Bool) : (bool b).truth = .ok b := rfl

@[simp] theorem truth_str (s : String) : (str s).truth = .ok (decide (s.length ≠ 0)) := rfl

end NamedConditions.Value
