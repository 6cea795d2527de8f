import NamedConditions.Number.Scientific
/-!
Binary floating-point numbers of 64 bits, as mathematics: not a number, a signed infinity, or a
signed whole mantissa times a power of two. What is not a number carries a mark. Rounding is exact
rational arithmetic, to nearest with ties to even, and the text of a number has the fewest digits
that read back.
-/
namespace NamedConditions

/-- A binary64 number. A finite one is `(-1)^negative · mantissa · 2^exponent`, where either the
mantissa has 53 bits or the exponent is the least one, -1074. What is not a number equals nothing;
the mark says which of several such it is. -/
inductive Binary64
  | nan (mark : Nat)
  | infinite (negative : Bool)
  | finite (negative : Bool) (mantissa : Nat) (exponent : Int)
  deriving DecidableEq

namespace Binary64

/-- Zero without a sign. -/
def zero : Binary64 := .finite false 0 (-1074)

/-! ## Rounding -/

/-- The greatest `e` with `2^e ≤ q`, for a positive `q`. -/
def log2 (q : Rat) : Int :=
  let e : Int := (q.num.natAbs.log2 : Int) - q.den.log2
  if q < (2 : Rat) ^ e then e - 1 else e

/-- The nearest whole number; of two the even one. -/
def roundHalfEven (q : Rat) : Int :=
  let f := q.floor
  let r := q - f
  if r < 1 / 2 then f else if 1 / 2 < r then f + 1 else if f % 2 = 0 then f else f + 1

/-- The least mantissa of 53 bits. -/
def leastFull : Nat := 1 <<< 52

/-- The number nearest to `q ≥ 0` with the given sign; beyond the greatest one, infinity. -/
def nearest (negative : Bool) (q : Rat) : Binary64 :=
  if q = 0 then .finite negative 0 (-1074)
  else
    let e := max (log2 q - 52) (-1074)
    let m := (roundHalfEven (q / (2 : Rat) ^ e)).toNat
    let (m, e) := if m = 2 * leastFull then (leastFull, e + 1) else (m, e)
    if 971 < e then .infinite negative else .finite negative m e

/-- The number nearest to a decimal numeral. Numerals far outside the range are not multiplied
out. -/
def ofScientific (x : Scientific) : Binary64 :=
  if x.coefficient = 0 then .finite x.negative 0 (-1074)
  else
    let size : Int := x.exponent + (toString x.coefficient).length
    if 400 < size then .infinite x.negative
    else if size < -400 then .finite x.negative 0 (-1074)
    else nearest x.negative x.magnitude

/-- Reads `nan`, which gets a mark, `inf`, `-inf` or a decimal numeral. -/
def read? (mark : Nat) (text : String) : Option Binary64 :=
  if text = "nan" then some (.nan mark)
  else if text = "inf" then some (.infinite false)
  else if text = "-inf" then some (.infinite true)
  else (Scientific.read? text.toList).map ofScientific

/-! ## The fewest digits that read back -/

/-- The greatest `e` with `10^e ≤ q`, for a positive `q`; found from the power of two. -/
def log10 (q : Rat) : Int :=
  let guess := log2 q * 30103 / 100000
  if (10 : Rat) ^ (guess + 1) ≤ q then guess + 1
  else if (10 : Rat) ^ guess ≤ q then guess
  else guess - 1

/-- The reals that round to `mantissa · 2^exponent`: from, to, and whether the ends belong. -/
def interval (mantissa : Nat) (exponent : Int) : Rat × Rat × Bool :=
  let half := (2 : Rat) ^ (exponent - 1)
  let low : Rat :=
    if mantissa = leastFull ∧ -1074 < exponent then
      (4 * mantissa - 1) * (2 : Rat) ^ (exponent - 2)
    else (2 * mantissa - 1) * half
  (low, (2 * mantissa + 1) * half, mantissa % 2 = 0)

/-- Whether a real lies in such an interval. -/
def within (q : Rat) : Rat × Rat × Bool → Bool
  | (low, high, closed) =>
    if closed then low ≤ q && q ≤ high else low < q && q < high

/-- The neighbour of `v` on the grid `10^k` that reads back; of two the nearer, of two equally near
the even one. -/
def gridHit? (v : Rat) (bounds : Rat × Rat × Bool) (k : Int) : Option Nat :=
  let unit := (10 : Rat) ^ k
  let below := (v / unit).floor.toNat
  let lower : Rat := below * unit
  let upper : Rat := (below + 1 : Nat) * unit
  match within lower bounds, within upper bounds with
  | true, true =>
    some (if v - lower < upper - v ∨ (v - lower = upper - v ∧ below % 2 = 0) then below
      else below + 1)
  | true, false => some below
  | false, true => some (below + 1)
  | false, false => none

/-- Tries `count` further digits, one more each time; 17 digits always read back. -/
def search (v : Rat) (bounds : Rat × Rat × Bool) (k : Int) : Nat → Nat × Int
  | 0 => ((v / (10 : Rat) ^ k).floor.toNat, k)
  | count + 1 =>
    match gridHit? v bounds k with
    | some n => (n, k)
    | none => search v bounds (k - 1) count

/-- Strips trailing zeros off a numeral, at most `count` of them. -/
def stripZeros (n : Nat) (k : Int) : Nat → Nat × Int
  | 0 => (n, k)
  | count + 1 => if n ≠ 0 ∧ n % 10 = 0 then stripZeros (n / 10) (k + 1) count else (n, k)

/-- Digits and power of ten of the shortest decimal that rounds to `mantissa · 2^exponent`. -/
def shortest (mantissa : Nat) (exponent : Int) : Nat × Int :=
  if mantissa = 0 then (0, 0)
  else
    let v : Rat := mantissa * (2 : Rat) ^ exponent
    let (n, k) := search v (interval mantissa exponent) (log10 v) 17
    stripZeros n k 20

/-! ## Text -/

/-- The text without a sign: positional for decimal exponents from -4 to 15, else with an
exponent of at least two digits. A whole number gets the suffix. -/
def magnitudeText (wholeSuffix : String) (mantissa : Nat) (exponent : Int) : String :=
  let (n, k) := shortest mantissa exponent
  let digits := (toString n).toList
  let point : Int := k + digits.length
  let text :=
    if -4 ≤ point - 1 ∧ point - 1 < 16 then
      let text := Scientific.positional digits point
      if '.' ∈ text then text else text ++ wholeSuffix.toList
    else Scientific.exponential 'e' 2 digits (point - 1)
  String.ofList text

/-- The text of a number, with a suffix for whole ones. -/
def textWith (wholeSuffix : String) : Binary64 → String
  | nan _ => "nan"
  | infinite negative => if negative then "-inf" else "inf"
  | finite negative mantissa exponent =>
    (if negative then "-" else "") ++ magnitudeText wholeSuffix mantissa exponent

/-- The text of a number by itself: a whole one ends in `.0`. -/
def text (x : Binary64) : String := x.textWith ".0"

/-- Whether the sign bit is set. -/
def isNegative : Binary64 → Bool
  | nan _ => false
  | infinite negative => negative
  | finite negative _ _ => negative

/-- The marks of what is not a number. -/
def marks : Binary64 → List Nat
  | nan mark => [mark]
  | _ => []

/-- Whether the number is a zero of either sign. -/
def isZero : Binary64 → Bool
  | finite _ mantissa _ => mantissa = 0
  | _ => false

/-- The text of a complex number: a real part that is plain zero is left out, and else both parts
stand in parentheses, the second with its sign. -/
def complexText (re im : Binary64) : String :=
  let imText := im.textWith ""
  if re.isZero && !re.isNegative then imText ++ "j"
  else
    let sign := if imText.startsWith "-" then "" else "+"
    "(" ++ re.textWith "" ++ sign ++ imText ++ "j)"

end Binary64

end NamedConditions
