import NamedConditions.Number.Scientific
import NamedConditions.Number.Whole
import NamedConditions.Text.Blank
import NamedConditions.Text.Digit
/-!
Decimal numbers that remember how they were written (`1.50` is not `1.5` as a text), with signed
infinities and two sorts of undefined value, and fractions of whole numbers.
-/
namespace NamedConditions

/-- A decimal number. An undefined one may be signalling: to compare it is refused. -/
inductive Decimal
  | finite (x : Scientific)
  | infinite (negative : Bool)
  | undefined (negative signalling : Bool) (payload : String)
  deriving DecidableEq

namespace Decimal

/-- A numeral without blanks around it and without the low lines that may group its digits, which
may be those of any script. -/
def ungrouped (text : String) : List Char :=
  (Text.withAsciiDigits (Text.strip text.toList)).filter (· ≠ '_')

/-- A run of digits without the zeros in front. -/
def payload (digits : List Char) : String := String.ofList (digits.dropWhile (· = '0'))

/-- Reads a numeral, `Infinity` or `inf`, or `NaN` or `sNaN` with digits behind; letters of either
case, a sign in front. -/
def read? (text : String) : Option Decimal :=
  let (negative, rest) := Scientific.sign (ungrouped text)
  let word := rest.map Char.toLower
  if word = "infinity".toList ∨ word = "inf".toList then some (.infinite negative)
  else if word.take 3 = "nan".toList ∧ (word.drop 3).all Char.isDigit then
    some (.undefined negative false (payload (word.drop 3)))
  else if word.take 4 = "snan".toList ∧ (word.drop 4).all Char.isDigit then
    some (.undefined negative true (payload (word.drop 4)))
  else (Scientific.read? (ungrouped text)).map .finite

/-- The text without a sign: positional while the last digit is no later than the units and the
first is within six places of the point, else with an exponent. -/
def magnitudeText (x : Scientific) : String :=
  let digits := (toString x.coefficient).toList
  let point : Int := x.exponent + digits.length
  String.ofList <|
    if x.exponent ≤ 0 ∧ -6 < point then Scientific.positional digits point
    else Scientific.exponential 'E' 0 digits (point - 1)

/-- A minus sign, if there is one to write. -/
def signText (negative : Bool) : String := if negative then "-" else ""

/-- The text of a decimal number. -/
def text : Decimal → String
  | finite x => signText x.negative ++ magnitudeText x
  | infinite negative => signText negative ++ "Infinity"
  | undefined negative signalling payload =>
    signText negative ++ (if signalling then "sNaN" else "NaN") ++ payload

/-- Whether the number is a zero, however it is written. -/
def isZero : Decimal → Bool
  | finite x => x.coefficient = 0
  | _ => false

/-- Truth of a decimal number, which is known without its power of ten: it is neither zero nor
undefined; none if it is signalling. -/
def truth? : Decimal → Option Bool
  | finite x => some (x.coefficient ≠ 0)
  | infinite _ => some true
  | undefined _ signalling _ => if signalling then none else some false

end Decimal

namespace Fraction

/-- A whole number with an optional sign. -/
def readInt? (text : List Char) : Option Int :=
  let (negative, rest) := Scientific.sign text
  match Scientific.digits 0 0 rest with
  | (_, 0, _) => none
  | (n, _, []) => some (if negative then -(n : Int) else n)
  | _ => none

/-- Reads `n/d` with a positive `d`, or a decimal numeral. -/
def read? (text : String) : Option Rat :=
  let (top, rest) := (Decimal.ungrouped text).span (· ≠ '/')
  match rest with
  | [] => (Scientific.read? top).map Scientific.value
  | _ :: bottom =>
    match readInt? top, readInt? bottom with
    | some n, some d => if 0 < d then some (mkRat n d.toNat) else none
    | _, _ => none

/-- The text of a fraction in lowest terms; a whole one has no denominator. None if one of the two
whole numbers has too many digits. -/
def text? (q : Rat) : Option String :=
  if q.den = 1 then Whole.text? q.num
  else
    match Whole.text? q.num, Whole.text? q.den with
    | some n, some d => some (n ++ "/" ++ d)
    | _, _ => none

end Fraction

end NamedConditions
