import NamedConditions.Value.Iterate
/-!
Errors about a source text. Such an error is made from a message and, if two arguments are given,
from details: a file, a line, a place in the line, the text of the line, and where the fault ends.
Its text is the message with the file's name and the line behind.
-/
namespace NamedConditions

namespace Raised

/-- What is wrong with some details. -/
def detailsFault? (details : List Value) : Option String :=
  if details.length < 4 then
    some ("function takes at least 4 arguments (" ++ toString details.length ++ " given)")
  else if 6 < details.length then
    some ("function takes at most 6 arguments (" ++ toString details.length ++ " given)")
  else if details.length = 5 then some "end_offset must be provided when end_lineno is provided"
  else none

/-- Why an error about a source text is not made from details. -/
def detailsRefusal? (details : Value) : Option Raised :=
  match details.iterate? with
  | none => some (ofText .badType ("'" ++ details.typePath ++ "' object is not iterable"))
  | some items => (detailsFault? items).map (ofText .badType)

/-- Why an error is not made from arguments, if it is about a source text. -/
def sourceRefusal? (kind : ErrorKind) (arguments : List Value) : Option Raised :=
  if kind.isSource then
    match arguments with
    | [_, details] => detailsRefusal? details
    | _ => none
  else none

/-- The name of a file without the folders in front. -/
def fileName (path : String) : String :=
  String.ofList (path.toList.reverse.takeWhile (· ≠ '/')).reverse

/-- A line by its number; one that is too large for a word of 64 bits is told as minus one. -/
def lineName? : Value → Option String
  | .int n => some ("line " ++ toString (if Whole.fitsWord n then n else -1))
  | _ => none

/-- Where an error about a source text was found, in words. -/
def whereabouts : List Value → String
  | file :: line :: _ =>
    match file.text?.map fileName, lineName? line with
    | none, none => ""
    | some file, none => " (" ++ file ++ ")"
    | none, some line => " (" ++ line ++ ")"
    | some file, some line => " (" ++ file ++ ", " ++ line ++ ")"
  | _ => ""

/-- The text of an error about a source text: nothing has a text here, too. -/
def sourceText : List Value → Except Raised String
  | [] => .ok "None"
  | [message, details] => do
    return (← message.asText) ++ whereabouts (details.iterate?.getD [])
  | message :: _ => message.asText

end Raised

end NamedConditions
