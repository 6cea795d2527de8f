import NamedConditions.Number.Binary64
import NamedConditions.Number.Whole
import NamedConditions.Text.Blank
import NamedConditions.Text.Digit
/-!
Numerals as people write them: blanks around, a sign in front, digits of any script, and single low
lines between the digits to group them. Whole numbers are read with the reason why a text is none;
floating-point numbers also with a point, an exponent, and words for what is not finite.
-/
namespace NamedConditions

namespace Numeral

/-- Whether a character may stand around a numeral of a whole number. -/
def isSpace (c : Char) : Bool := Text.isBlank c && !(0x1c ≤ c.toNat && c.toNat ≤ 0x1f)

/-- A text without the blanks around it. -/
def trim (s : List Char) : List Char :=
  ((s.dropWhile isSpace).reverse.dropWhile isSpace).reverse

/-- Whether a text starts with a digit. -/
def startsWithDigit (s : List Char) : Bool := s.head?.any Char.isDigit

/-- Splits the leading digits off, which single low lines may group, adding them to a value and to a
number of digits read so far; none if a low line groups nothing. -/
def digits (value count : Nat) : List Char → Option (Nat × Nat × List Char)
  | [] => some (value, count, [])
  | c :: s =>
    if c = '_' then
      if 0 < count && startsWithDigit s then digits value count s else none
    else
      match Scientific.digit? c with
      | some d => digits (10 * value + d) (count + 1) s
      | none => some (value, count, c :: s)

/-- A text without the low lines that stand between two digits. -/
def ungrouped : List Char → List Char
  | c :: '_' :: s =>
    if c.isDigit && startsWithDigit s then c :: ungrouped s else c :: '_' :: ungrouped s
  | c :: s => c :: ungrouped s
  | [] => []

end Numeral

namespace Whole

/-- Why a text is no whole number. -/
inductive NumeralProblem
  | malformed
  /-- There are more digits than are read. -/
  | tooManyDigits (count : Nat)
  deriving DecidableEq

/-- Reads a whole number. -/
def read (text : List Char) : Except NumeralProblem Int :=
  let (negative, unsigned) := Scientific.sign (Text.withAsciiDigits (Numeral.trim text))
  match Numeral.digits 0 0 unsigned with
  | none => .error .malformed
  | some (value, count, rest) =>
    if digitLimit < count then .error (.tooManyDigits count)
    else if count = 0 || !rest.isEmpty then .error .malformed
    else .ok (if negative then -(value : Int) else value)

end Whole

namespace Binary64

/-- The words for what is not finite, without a sign. -/
def infiniteWords : List (List Char) := ["inf".toList, "infinity".toList]

/-- Reads a floating-point number; an undefined one gets a mark. -/
def readNumeral? (mark : Nat) (text : List Char) : Option Binary64 :=
  let plain := Text.withAsciiDigits (Text.strip text)
  let (negative, unsigned) := Scientific.sign plain
  let word := unsigned.map Char.toLower
  if word ∈ infiniteWords then some (.infinite negative)
  else if word = "nan".toList then some (.nan mark)
  else (Scientific.read? (Numeral.ungrouped plain)).map ofScientific

end Binary64

end NamedConditions
