import NamedConditions.Value.Layer
/-!
JSON documents as trees, and how they stand to values. A document becomes a value as it is, the last
of several members of one name counting in the place of the first; a value becomes a document if its
dictionaries have keys that can be names and its whole numbers are not too long to be written, and
what JSON has no form for becomes its text.

A text in a document is a run of code points, since escapes can name halves of surrogate pairs that
stand alone.
-/
namespace NamedConditions.Json

/-- A document. Numbers need not be finite: the format's readers and writers know three words for
those that are not. -/
inductive Document
  | null
  | bool (b : Bool)
  | int (n : Int)
  | float (x : Binary64)
  | str (codes : CodePoints)
  | array (items : List Document)
  | object (members : List (CodePoints × Document))

namespace Document

/-- A text of characters. -/
def text (s : String) : Document := str (.ofString s)

/-- An object whose members have names of characters. -/
def ofMembers (members : List (String × Document)) : Document :=
  object (members.map fun m => (.ofString m.1, m.2))

mutual

/-- The value that a document stands for. -/
def toValue : Document → Value
  | null => .null
  | bool b => .bool b
  | int n => .int n
  | float x => .float x
  | str codes => .ofCodePoints codes
  | array items => .list (toValues items)
  | object members => .dict (Layer.ofEntries (toEntries members))

/-- The values of the items of an array. -/
def toValues : List Document → List Value
  | [] => []
  | d :: ds => toValue d :: toValues ds

/-- The entries of the members of an object. -/
def toEntries : List (CodePoints × Document) → Entries
  | [] => []
  | (name, d) :: ds => (.ofCodePoints name, toValue d) :: toEntries ds

end

/-- The word for a truth value. -/
def truthWord (b : Bool) : String := if b then "true" else "false"

/-- A binary number: three words for those that are not finite, else its text. -/
def numberText (x : Binary64) : String :=
  match x with
  | .nan _ => "NaN"
  | .infinite negative => if negative then "-Infinity" else "Infinity"
  | x => x.text

/-- The name under which a key stands in an object. -/
def memberName (key : Value) : Except Raised CodePoints :=
  match key with
  | .null => .ok (.ofString "null")
  | .bool b => .ok (.ofString (truthWord b))
  | .int n => (Value.wholeText n).map .ofString
  | .float x => .ok (.ofString (numberText x))
  | .brokenStr codes => .ok codes
  | key =>
    match key.text? with
    | some s => .ok (.ofString s)
    | none => .error (.ofText .badType
        ("keys must be str, int, float, bool or None, not " ++ key.typeName))

mutual

/-- The document for a value. -/
def ofValue : Value → Except Raised Document
  | .null => .ok null
  | .bool b => .ok (bool b)
  | .int n => (Value.wholeText n).map fun _ => int n
  | .float x => .ok (float x)
  | .str s => .ok (text s)
  | .brokenStr codes => .ok (str codes)
  | .object _ (.subText s) => .ok (text s)
  | .list vs => (ofValues vs).map array
  | .tuple vs => (ofValues vs).map array
  | .dict es => (ofEntries es).map object
  | v => v.asText.map text

/-- The documents for values, up to the first that has none. -/
def ofValues : List Value → Except Raised (List Document)
  | [] => .ok []
  | v :: vs =>
    match ofValue v with
    | .error e => .error e
    | .ok d => (ofValues vs).map (d :: ·)

/-- The members for entries, up to the first that has none. -/
def ofEntries : List (Value × Value) → Except Raised (List (CodePoints × Document))
  | [] => .ok []
  | (key, v) :: es =>
    match memberName key with
    | .error e => .error e
    | .ok name =>
      match ofValue v with
      | .error e => .error e
      | .ok d => (ofEntries es).map ((name, d) :: ·)

end

@[simp] theorem ofValue_str (s : String) : ofValue (.str s) = .ok (text s) := by
  simp [ofValue]

@[simp] theorem ofValue_bool (b : Bool) : ofValue (.bool b) = .ok (bool b) := by
  simp [ofValue]

theorem ofValue_int {n : Int} {s : String} (h : Value.wholeText n = .ok s) :
    ofValue (.int n) = .ok (int n) := by
  rw [ofValue, h]
  rfl

end Document

end NamedConditions.Json
