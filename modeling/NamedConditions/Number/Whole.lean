/-!
Whole numbers as numerals. There is a greatest number of digits with which a whole number is read or
written.
-/
namespace NamedConditions.Whole

/-- The greatest number of digits with which a whole number is read or written. -/
def digitLimit : Nat := 4300

/-- The first number that is too great for a signed word of 64 bits. -/
def wordBound : Int := 0x8000000000000000

/-- Whether a number fits a signed word of 64 bits. -/
def fitsWord (n : Int) : Bool := -wordBound ≤ n && n < wordBound

/-- The numeral of a whole number; none if it has too many digits. -/
def text? (n : Int) : Option String :=
  if (toString n.natAbs).length ≤ digitLimit then some (toString n) else none

/-- Why a numeral with too many digits is not read, in words. -/
def tooManyDigitsText (count : Nat) : String :=
  "Exceeds the limit (" ++ toString digitLimit ++ " digits) for integer string conversion: " ++
    "value has " ++ toString count ++
    " digits; use sys.set_int_max_str_digits() to increase the limit"

end NamedConditions.Whole
