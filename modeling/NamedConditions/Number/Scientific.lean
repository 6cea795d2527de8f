/-!
Decimal numerals: a sign, a whole coefficient and a power of ten. The module reads the usual
spellings (`12`, `-0.50`, `1e+16`, `.5`) and lays digits out positionally or with an exponent.
-/
namespace NamedConditions

/-- `(-1)^negative · coefficient · 10^exponent`, with the spelling's trailing zeros kept. -/
structure Scientific where
  negative : Bool
  coefficient : Nat
  exponent : Int
  deriving DecidableEq

namespace Scientific

/-- The number without its sign. -/
def magnitude (x : Scientific) : Rat := x.coefficient * (10 : Rat) ^ x.exponent

/-- The coefficient with its sign. -/
def signed (x : Scientific) : Int := if x.negative then -x.coefficient else x.coefficient

/-- The number itself; the sign of a zero is lost. -/
def value (x : Scientific) : Rat := if x.negative then -x.magnitude else x.magnitude

/-! ## Reading -/

/-- The value of a decimal digit. -/
def digit? (c : Char) : Option Nat := if c.isDigit then some (c.toNat - '0'.toNat) else none

/-- Splits the leading digits off, adding them to a value read so far; also counts them. -/
def digits (acc count : Nat) : List Char → Nat × Nat × List Char
  | [] => (acc, count, [])
  | c :: rest =>
    match digit? c with
    | some d => digits (10 * acc + d) (count + 1) rest
    | none => (acc, count, c :: rest)

/-- A sign that may stand in front of digits. -/
def sign : List Char → Bool × List Char
  | '-' :: rest => (true, rest)
  | '+' :: rest => (false, rest)
  | rest => (false, rest)

/-- The exponent part, if any: `e` or `E`, a sign and at least one digit, then nothing more. -/
def exponentPart? : List Char → Option Int
  | [] => some 0
  | c :: rest =>
    if c = 'e' ∨ c = 'E' then
      let (negative, rest) := sign rest
      match digits 0 0 rest with
      | (_, 0, _) => none
      | (n, _, []) => some (if negative then -(n : Int) else n)
      | _ => none
    else none

/-- Reads a whole numeral. At least one digit stands before the exponent part. -/
def read? (text : List Char) : Option Scientific :=
  let (negative, rest) := sign text
  let (whole, wholeCount, rest) := digits 0 0 rest
  let (coefficient, count, places, rest) : Nat × Nat × Nat × List Char :=
    match rest with
    | '.' :: rest =>
      let (coefficient, places, rest) := digits whole 0 rest
      (coefficient, wholeCount + places, places, rest)
    | rest => (whole, wholeCount, 0, rest)
  if count = 0 then none
  else (exponentPart? rest).map fun e => ⟨negative, coefficient, e - places⟩

/-! ## Layout -/

/-- Digits with the point after the first `point` of them; zeros fill both sides, and a whole
number has no point. -/
def positional (digits : List Char) (point : Int) : List Char :=
  if point ≤ 0 then '0' :: '.' :: (List.replicate (-point).toNat '0' ++ digits)
  else if digits.length ≤ point.toNat then
    digits ++ List.replicate (point.toNat - digits.length) '0'
  else digits.take point.toNat ++ '.' :: digits.drop point.toNat

/-- The first digit, a point if more follow, and the exponent with its sign, padded to `width`
digits. -/
def exponential (mark : Char) (width : Nat) (digits : List Char) (exponent : Int) : List Char :=
  let tail := match digits.tail with
    | [] => []
    | rest => '.' :: rest
  let size := (toString exponent.natAbs).toList
  digits.take 1 ++ tail ++ mark :: (if exponent < 0 then '-' else '+') ::
    (List.replicate (width - size.length) '0' ++ size)

/-! ## Small facts -/

theorem signed_eq_zero_iff (x : Scientific) : x.signed = 0 ↔ x.coefficient = 0 := by
  unfold signed
  split <;> omega

end Scientific

end NamedConditions
