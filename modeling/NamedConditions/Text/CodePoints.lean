import NamedConditions.Text.Quoted
/-!
Texts as runs of code points. Beside characters such a run may hold halves of surrogate pairs that
stand alone, which no text of characters can; documents escaped by UTF-16 units can name them.

Main statements: the code points of a text of characters give that text back, also where they are
written as they are, and its quotation by code points is its quotation by characters.
-/
namespace NamedConditions

/-- A text by code points. -/
abbrev CodePoints := List Nat

namespace CodePoints

/-- The code points of a text. -/
def ofString (s : String) : CodePoints := s.toList.map Char.toNat

/-- The character of a code point; a half of a pair has none. -/
def char? (n : Nat) : Option Char := if h : n.isValidChar then some (Char.ofNatAux n h) else none

/-- The characters of a run of code points, if all have one. -/
def chars? : CodePoints → Option (List Char)
  | [] => some []
  | n :: ns =>
    match char? n, chars? ns with
    | some c, some cs => some (c :: cs)
    | _, _ => none

/-- The text of characters, if no half of a pair stands alone. -/
def toString? (ns : CodePoints) : Option String := ns.chars?.map String.ofList

/-- A half of a pair, which no character stands for, by its number. -/
def half (n : Nat) : List Char := '\\' :: 'u' :: Text.hex 4 n

/-- Code points as they are, but for halves of pairs, which no text of characters holds. -/
def text (ns : CodePoints) : String :=
  String.ofList (ns.flatMap fun n => (char? n).elim (half n) fun c => [c])

/-- A code point inside quotes: a character as in any text, a half of a pair by its number. -/
def escape (quote : Char) (n : Nat) : List Char :=
  (char? n).elim (half n) (Text.escapeChar Text.isPrintable quote)

/-- Code points in quotes. -/
def quoted (ns : CodePoints) : List Char :=
  let quote := Text.quoteFor (ns.filterMap char?)
  quote :: ns.flatMap (escape quote) ++ [quote]

@[simp] theorem char?_toNat (c : Char) : char? c.toNat = some c := by
  have h : c.toNat.isValidChar := c.valid
  rw [char?, dif_pos h]
  rfl

theorem chars?_map_toNat (cs : List Char) : chars? (cs.map Char.toNat) = some cs := by
  induction cs with
  | nil => rfl
  | cons c cs ih => simp [chars?, ih]

@[simp] theorem toString?_ofString (s : String) : (ofString s).toString? = some s := by
  simp [ofString, toString?, chars?_map_toNat]

/-- A text of characters is as it is. -/
theorem text_ofString (s : String) : (ofString s).text = s := by
  have hsingle (cs : List Char) :
      (cs.map Char.toNat).flatMap (fun n => (char? n).elim (half n) fun c => [c]) = cs := by
    induction cs with
    | nil => rfl
    | cons c cs ih =>
      rw [List.map_cons, List.flatMap_cons, ih, char?_toNat, Option.elim_some,
        List.singleton_append]
  rw [text, ofString, hsingle, String.ofList_toList]

theorem filterMap_char?_map_toNat (cs : List Char) : (cs.map Char.toNat).filterMap char? = cs := by
  induction cs with
  | nil => rfl
  | cons c cs ih => simp [ih]

theorem escape_toNat (quote c : Char) :
    escape quote c.toNat = Text.escapeChar Text.isPrintable quote c := by
  simp [escape]

theorem quoted_ofString (s : String) : (ofString s).quoted = Text.quoted s.toList := by
  unfold quoted ofString Text.quoted
  simp only [filterMap_char?_map_toNat, List.flatMap_map, escape_toNat]

end CodePoints

end NamedConditions
