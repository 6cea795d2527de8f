import NamedConditions.Text.Blank
import NamedConditions.Text.Split
import NamedConditions.Value.Layer
/-!
Resource attributes written as one text: pieces between commas, each a name, an equals sign and a
value with any blanks around both. A piece without an equals sign says nothing; of a repeated name
the last value counts, in the first one's place.

Main statements: the attributes of two texts with a comma between them are those of the first and
then those of the second; a piece is a name and a value around its first equals sign, and without
one it is nothing.
-/
namespace NamedConditions.Resource

/-- The attribute that a piece gives. -/
def attribute? (piece : List Char) : Option (List Char × List Char) :=
  (Text.cut? '=' piece).map fun p => (Text.strip p.1, Text.strip p.2)

/-- The attributes that a text gives, one after another. -/
def attributes (raw : List Char) : List (List Char × List Char) :=
  (Text.pieces ',' raw).filterMap attribute?

/-- An attribute as the entry of a dictionary. -/
def entry (a : List Char × List Char) : Value × Value :=
  (.str (String.ofList a.1), .str (String.ofList a.2))

/-- The dictionary of the attributes that a text gives: `_parse_resource_attributes`. -/
def parse (raw : String) : Entries := Layer.ofEntries ((attributes raw.toList).map entry)

theorem attributes_append_comma (a b : List Char) :
    attributes (a ++ ',' :: b) = attributes a ++ attributes b := by
  simp [attributes, Text.pieces_append_separator]

theorem attribute?_of_not_mem {piece : List Char} (h : '=' ∉ piece) :
    attribute? piece = none := by
  simp [attribute?, (Text.cut?_eq_none_iff _ _).2 h]

theorem attribute?_append {name : List Char} (h : '=' ∉ name) (value : List Char) :
    attribute? (name ++ '=' :: value) = some (Text.strip name, Text.strip value) := by
  simp [attribute?, Text.cut?_append h]

end NamedConditions.Resource
