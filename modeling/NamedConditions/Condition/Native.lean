import NamedConditions.Context.Source
import NamedConditions.Number.Numeral
/-!
Calling functions of the host. Each is called with a single value, a dictionary or a text, and looks
at what the value gives item by item: the keys of a dictionary, the characters of a text.
-/
namespace NamedConditions

/-- Whether, by the host's rule, one of some values is as wanted; used for `any` and, with the
answer turned, for `all`. -/
def anyHostTruth (wanted : Bool) : List Value → Except Raised Bool
  | [] => .ok false
  | v :: vs =>
    match v.hostTruth with
    | .error e => .error e
    | .ok b => if b = wanted then .ok true else anyHostTruth wanted vs

namespace Value

/-- How much of a text is shown that is no whole number. -/
def shownNumeralLength : Nat := 200

/-- The error of reading a text as a whole number. -/
def numeralError (s : String) : Whole.NumeralProblem → Raised
  | .malformed => .ofText .badValue ("invalid literal for int() with base 10: " ++
      String.ofList ((Text.quoted s.toList).take shownNumeralLength))
  | .tooManyDigits count => .ofText .badValue (Whole.tooManyDigitsText count)

/-- The whole number that a text is read as. -/
def wholeOfText (s : String) : Except Raised Int :=
  match Whole.read s.toList with
  | .ok n => .ok n
  | .error problem => .error (numeralError s problem)

/-- The whole number that is made of a dictionary or a text. -/
def asWhole (v : Value) : Except Raised Int :=
  match v.text? with
  | some s => wholeOfText s
  | none => .error (.ofText .badType ("int() argument must be a string, a bytes-like object or " ++
      "a real number, not '" ++ v.typePath ++ "'"))

end Value

namespace Native

/-- What a function of the host gives for a dictionary or a text. -/
def call (f : Native) (v : Value) : Except Raised Value :=
  let items := v.iterate?.getD []
  match f with
  | .len => .ok (.int (Int.ofNat items.length))
  | .bool => .ok (.bool !items.isEmpty)
  | .list => .ok (.list items)
  | .dict => v.asEntries.map .dict
  | .int => v.asWhole.map .int
  | .any => (anyHostTruth true items).map .bool
  | .all => (anyHostTruth false items).map fun b => .bool !b
  | .callable => .ok (.bool false)

end Native

end NamedConditions
