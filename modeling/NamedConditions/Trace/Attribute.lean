import NamedConditions.Value.Place
import NamedConditions.Value.Truth
/-!
Attributes of a span. Absence, truth values, numbers and texts are attributes as they are; octets
are read as a text; sequences are lists of attributes and mappings have attributes under names;
anything else is its text. What gives no text, or one that tells a place, is absent.
-/
namespace NamedConditions.Value

/-- An octet string as the text that it encodes. -/
def decodedText? (octets : List UInt8) : Option Value :=
  (String.fromUTF8? ⟨octets.toArray⟩).map .str

/-- The text of a value that tells no place, if it has one. -/
def steadyText? (v : Value) : Option String := if v.tellsPlace then none else v.asText.toOption

/-- The text of a value as an attribute. -/
def textAttribute (v : Value) : Value := v.steadyText?.elim null str

/-- Octets as whole numbers. -/
def octetNumbers (octets : List UInt8) : List Value := octets.map fun o => int (Int.ofNat o.toNat)

/-- The name of an attribute in a mapping: the text of a key that the host takes for true. -/
def attributeName? (key : Value) : Option Value :=
  match key.hostTruth with
  | .ok true => key.steadyText?.map str
  | _ => none

mutual

/-- A value as an attribute. -/
def asAttribute : Value → Value
  | null => null
  | bool b => bool b
  | int n => int n
  | float x => float x
  | str s => str s
  | brokenStr codes => brokenStr codes
  | bytes octets => (decodedText? octets).getD null
  | byteArray octets => list (octetNumbers octets)
  | list items => list (attributeItems items)
  | tuple items => list (attributeItems items)
  | range stop => list ((List.range stop.toNat).map fun i => int (Int.ofNat i))
  | dict entries => dict (Layer.ofEntries (attributeEntries entries))
  | complex re im => textAttribute (complex re im)
  | set items => textAttribute (set items)
  | frozenSet items => textAttribute (frozenSet items)
  | spec check name => textAttribute (spec check name)
  | evaluator number count keys => textAttribute (evaluator number count keys)
  | object id o => objectAttribute id o

/-- An object as an attribute. -/
def objectAttribute (id : Nat) : Object → Value
  | .subText s => str s
  | .byteView octets => list (octetNumbers octets)
  | .deque items => list (attributeItems items)
  | .userList items => list (attributeItems items)
  | .mapping entries => dict (Layer.ofEntries (attributeEntries entries))
  | .readOnly entries => dict (Layer.ofEntries (attributeEntries entries))
  | o => textAttribute (object id o)

/-- Items as attributes. -/
def attributeItems : List Value → List Value
  | [] => []
  | v :: vs => asAttribute v :: attributeItems vs

/-- Entries as attributes under names. -/
def attributeEntries : List (Value × Value) → List (Value × Value)
  | [] => []
  | (key, v) :: es =>
    match attributeName? key with
    | some name => (name, asAttribute v) :: attributeEntries es
    | none => attributeEntries es

end

end NamedConditions.Value
