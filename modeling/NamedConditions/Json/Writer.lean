import NamedConditions.Json.Document
import NamedConditions.Text.Quoted
/-!
How a JSON document is written: in ASCII alone, one item or member a line, each level indented by
two blanks more. An empty array or object is a pair of brackets.

Main statement: the items of an array and the members of an object are written one by one.
-/
namespace NamedConditions.Json

/-- The UTF-16 units of a code point. -/
def units (n : Nat) : List Nat :=
  if n < 0x10000 then [n]
  else [0xd800 + (n - 0x10000) / 0x400, 0xdc00 + (n - 0x10000) % 0x400]

/-- The letter that stands for a code point behind a backslash, if one does. -/
def letter? (n : Nat) : Option Char :=
  [('"'.toNat, '"'), ('\\'.toNat, '\\'), (10, 'n'), (13, 'r'), (9, 't'), (8, 'b'),
    (12, 'f')].lookup n

/-- A code point inside a text. -/
def writeCode (n : Nat) : List Char :=
  match letter? n with
  | some c => ['\\', c]
  | none =>
    if ' '.toNat ≤ n ∧ n ≤ '~'.toNat then [Char.ofNat n]
    else (units n).flatMap fun u => '\\' :: 'u' :: Text.hex 4 u

/-- A text in quotes. -/
def writeText (codes : CodePoints) : String :=
  String.ofList ('"' :: codes.flatMap writeCode ++ ['"'])

/-- The start of a line at a depth. -/
def newLine (depth : Nat) : String := "\n" ++ String.ofList (List.replicate (2 * depth) ' ')

/-- Written items between brackets, each on a line of its own. -/
def enclosed (left right : String) (depth : Nat) (items : List String) : String :=
  if items.isEmpty then left ++ right
  else
    left ++ newLine (depth + 1) ++ ("," ++ newLine (depth + 1)).intercalate items ++
      newLine depth ++ right

namespace Document

mutual

/-- A document that starts at a depth. -/
def writeAt (depth : Nat) : Document → String
  | null => "null"
  | bool b => truthWord b
  | int n => toString n
  | float x => numberText x
  | str codes => writeText codes
  | array items => enclosed "[" "]" depth (writeItems (depth + 1) items)
  | object members => enclosed "\x7b" "\x7d" depth (writeMembers (depth + 1) members)

/-- The items of an array. -/
def writeItems (depth : Nat) : List Document → List String
  | [] => []
  | d :: ds => writeAt depth d :: writeItems depth ds

/-- The members of an object. -/
def writeMembers (depth : Nat) : List (CodePoints × Document) → List String
  | [] => []
  | (name, d) :: ds => (writeText name ++ ": " ++ writeAt depth d) :: writeMembers depth ds

end

/-- A whole document. -/
def write (d : Document) : String := d.writeAt 0

theorem writeItems_eq_map (depth : Nat) (ds : List Document) :
    writeItems depth ds = ds.map (writeAt depth) := by
  induction ds with
  | nil => simp [writeItems]
  | cons d ds ih => simp [writeItems, ih]

theorem writeMembers_eq_map (depth : Nat) (ds : List (CodePoints × Document)) :
    writeMembers depth ds = ds.map fun m => writeText m.1 ++ ": " ++ writeAt depth m.2 := by
  induction ds with
  | nil => simp [writeMembers]
  | cons d ds ih => simp [writeMembers, ih]

end Document

end NamedConditions.Json
