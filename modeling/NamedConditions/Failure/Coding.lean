import NamedConditions.Value.Render
/-!
Errors of coding a text: octets that encode no text, or characters that cannot be encoded or
translated. Such an error is made from a fixed list of parameters, a codec's name, what was coded,
the place where it failed, from and to, and a reason, and tells of one unit or of a run of them.
-/
namespace NamedConditions

/-- What an argument of an error of coding must be. -/
inductive Parameter
  | text
  | octets
  /-- A place, as a whole number. -/
  | place

namespace Parameter

/-- What a kind of error is made from, if it is held to that. -/
def ofKind? : ErrorKind → Option (List Parameter)
  | .other name =>
    [("UnicodeDecodeError", [text, octets, place, place, text]),
      ("UnicodeEncodeError", [text, text, place, place, text]),
      ("UnicodeTranslateError", [text, place, place, text])].lookup name
  | _ => none

/-- Why the argument of a number is refused; whether octets are, is asked later. -/
def refusal? (number : Nat) (p : Parameter) (v : Value) : Option Raised :=
  match p, v with
  | text, .str _ | text, .brokenStr _ | text, .object _ (.subText _) | octets, _ => none
  | text, v =>
    some (.ofText .badType ("argument " ++ toString number ++ " must be str, not " ++ v.sortName))
  | place, v =>
    match v.whole? with
    | none => some (.ofText .badType
        ("'" ++ v.typePath ++ "' object cannot be interpreted as an integer"))
    | some n =>
      if Whole.fitsWord n then none
      else some (.ofText (.other "OverflowError") "Python int too large to convert to C ssize_t")

/-- Why an argument that must be octets is refused. -/
def octetsRefusal? (p : Parameter) (v : Value) : Option Raised :=
  match p with
  | octets =>
    if v.viewedOctets?.isSome then none
    else some (.ofText .badType ("a bytes-like object is required, not '" ++ v.typePath ++ "'"))
  | _ => none

/-- The first refusal of arguments by their parameters, the arguments counted from a number. -/
def firstRefusal? (number : Nat) : List Parameter → List Value → Option Raised
  | p :: ps, v :: vs => (p.refusal? number v).or (firstRefusal? (number + 1) ps vs)
  | _, _ => none

/-- The first refusal of arguments that must be octets. -/
def firstOctetsRefusal? : List Parameter → List Value → Option Raised
  | p :: ps, v :: vs => (p.octetsRefusal? v).or (firstOctetsRefusal? ps vs)
  | _, _ => none

/-- Why an error is not made from arguments. -/
def argumentsRefusal? (ps : List Parameter) (arguments : List Value) : Option Raised :=
  if arguments.length = ps.length then
    (firstRefusal? 1 ps arguments).or (firstOctetsRefusal? ps arguments)
  else
    some (.ofText .badType ("function takes exactly " ++ toString ps.length ++ " arguments (" ++
      toString arguments.length ++ " given)"))

end Parameter

namespace Raised

/-- Why an error of coding is not made from arguments. -/
def codingRefusal? (kind : ErrorKind) (arguments : List Value) : Option Raised :=
  (Parameter.ofKind? kind).bind fun ps => Parameter.argumentsRefusal? ps arguments

/-- The last place before another one; places are words of 64 bits, and before the least comes the
greatest. -/
def placeBefore (place : Int) : Int :=
  if place = -Whole.wordBound then Whole.wordBound - 1 else place - 1

/-- What was not coded: one unit as it is shown, or a run of them. -/
def codingText (action unit : String) (shown? : Option String) (start stop : Int)
    (reason : String) : String :=
  "can't " ++ action ++ " " ++ unit ++ (match shown? with
    | some shown => " " ++ shown ++ " in position " ++ toString start
    | none => "s in position " ++ toString start ++ "-" ++ toString (placeBefore stop)) ++
    ": " ++ reason

/-- The only unit between two places, if there is one. -/
def onlyUnit? {α : Type} (units : List α) (start stop : Int) : Option α :=
  if 0 ≤ start ∧ stop = start + 1 then units[start.toNat]? else none

/-- An octet by its number. -/
def octetText (o : UInt8) : String := "0x" ++ String.ofList (Text.hex 2 o.toNat)

/-- A code point by its number, in quotes. -/
def codePointText (n : Nat) : String :=
  String.ofList ('\'' :: '\\' ::
    (if n < 0x100 then 'x' :: Text.hex 2 n
      else if n < 0x10000 then 'u' :: Text.hex 4 n
      else 'U' :: Text.hex 8 n) ++ ['\''])

/-- The code points of a text of any class. -/
def codePoints (v : Value) : CodePoints :=
  match v with
  | .brokenStr codes => codes
  | v => CodePoints.ofString (v.text?.getD "")

/-- The only character between two places, if there is one; a single place in front of the text
cannot be looked at. -/
def onlyCharacter (codes : CodePoints) (start stop : Int) : Except Raised (Option String) :=
  if start < 0 ∧ stop = start + 1 then
    .error (ofText (.other "IndexError") "string index out of range")
  else .ok ((onlyUnit? codes start stop).map codePointText)

/-- The text of an error of coding that has the arguments for it. -/
def codingText? (kind : ErrorKind) (arguments : List Value) : Option (Except Raised String) :=
  match kind, arguments with
  | .other "UnicodeDecodeError", [codec, coded, start, stop, reason] =>
    match coded.viewedOctets?, start.whole?, stop.whole? with
    | some os, some m, some n => some (.ok ("'" ++ codec.text?.getD "" ++ "' codec " ++
        codingText "decode" "byte" ((onlyUnit? os m n).map octetText) m n (reason.text?.getD "")))
    | _, _, _ => none
  | .other "UnicodeEncodeError", [codec, coded, start, stop, reason] =>
    match start.whole?, stop.whole? with
    | some m, some n => some do
        let shown? ← onlyCharacter (codePoints coded) m n
        return "'" ++ codec.text?.getD "" ++ "' codec " ++
          codingText "encode" "character" shown? m n (reason.text?.getD "")
    | _, _ => none
  | .other "UnicodeTranslateError", [coded, start, stop, reason] =>
    match start.whole?, stop.whole? with
    | some m, some n => some do
        let shown? ← onlyCharacter (codePoints coded) m n
        return codingText "translate" "character" shown? m n (reason.text?.getD "")
    | _, _ => none
  | _, _ => none

end Raised

end NamedConditions
