import NamedConditions.Value.Layer
/-!
Writing an item of a value that can change. A dictionary takes a key; what has its items in order
takes a place, counted from the end if it is negative, and keeps its length. Nothing else takes an
item.
-/
namespace NamedConditions.Value

/-- Whether a value can change in place. -/
def isChangeable : Value → Bool
  | dict _ | list _ | byteArray _ => true
  | object _ (.userList _) | object _ (.deque _) => true
  | _ => false

/-- Whether a whole number can be a place at all. -/
def isPlace (n : Int) : Bool := Whole.fitsWord n

/-- The error of a place that no place can be. -/
def noPlace : Raised := .ofText (.other "IndexError") "cannot fit 'int' into an index-sized integer"

/-- The error of a place that is not there. -/
def outOfRange (sort : String) : Raised :=
  .ofText (.other "IndexError") (sort ++ " index out of range")

/-- A place among so many, counted from the start. -/
def fromStart (count : Nat) (place : Int) : Int :=
  if place < 0 then place + Int.ofNat count else place

/-- Writes a place of some items. -/
def setAt {α : Type} (sort : String) (items : List α) (place : Int) (item : α) :
    Except Raised (List α) :=
  if 0 ≤ fromStart items.length place ∧ fromStart items.length place < Int.ofNat items.length then
    .ok (items.set (fromStart items.length place).toNat item)
  else .error (if isPlace place then outOfRange sort else noPlace)

/-- A value as an octet. -/
def asOctet (v : Value) : Except Raised UInt8 :=
  match v.whole? with
  | none => .error (.ofText .badType
      ("'" ++ v.typePath ++ "' object cannot be interpreted as an integer"))
  | some n =>
    if 0 ≤ n ∧ n < 256 then .ok (UInt8.ofNat n.toNat)
    else .error (.ofText .badValue "byte must be in range(0, 256)")

/-- Writes a place of some octets; that the value is an octet is settled before the place. -/
def setOctetAt (octets : List UInt8) (place : Int) (v : Value) : Except Raised (List UInt8) :=
  if isPlace place then v.asOctet.bind (setAt "bytearray" octets place) else .error noPlace

/-- The place that a key is, or why it is none. -/
def placeOr (refusal : String → String) (key : Value) : Except Raised Int :=
  match key.whole? with
  | some n => .ok n
  | none => .error (.ofText .badType (refusal key.typePath))

/-- A value with an item written. -/
def withItem (key v w : Value) : Except Raised Value :=
  let slices (sort type : String) : String :=
    sort ++ " indices must be integers or slices, not " ++ type
  match w with
  | dict es =>
    match key.keyRefusal? with
    | some reason => .error (.ofText .badType reason)
    | none => .ok (dict (Layer.insert key v es))
  | list xs => do return list (← setAt "list assignment" xs (← placeOr (slices "list") key) v)
  | object id (.userList xs) => do
    let place ← placeOr (slices "list") key
    return object id (.userList (← setAt "list assignment" xs place v))
  | object id (.deque xs) => do
    let refusal (type : String) : String := "sequence index must be integer, not '" ++ type ++ "'"
    return object id (.deque (← setAt "deque" xs (← placeOr refusal key) v))
  | byteArray os => do
    return byteArray (← setOctetAt os (← placeOr (slices "bytearray") key) v)
  | object _ (.byteView _) => .error (.ofText .badType "cannot modify read-only memory")
  | w =>
    .error (.ofText .badType ("'" ++ w.typePath ++ "' object does not support item assignment"))

end NamedConditions.Value
