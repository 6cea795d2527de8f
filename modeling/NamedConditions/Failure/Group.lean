import NamedConditions.Value.Iterate
/-!
Groups of errors. A group is made from a text and a sequence of errors; since no value is an error,
none is ever made, and what is wrong with the arguments is told instead.
-/
namespace NamedConditions

namespace Value

/-- Whether items of a value can be taken by their places; a mapping of its own class looks as if
they could. -/
def hasPlaces (v : Value) : Bool :=
  match v with
  | object _ (.mapping _) | brokenStr _ => true
  | v => v.items?.isSome || v.text?.isSome || v.viewedOctets?.isSome

end Value

namespace Raised

/-- What makes a group of errors. -/
def groupMaker : String := "BaseExceptionGroup.__new__()"

/-- Why a group is not made from a sequence. -/
def membersRefusal (members : Value) : Raised :=
  if members.hasPlaces then
    if (members.iterate?.getD []).isEmpty then
      ofText .badValue "second argument (exceptions) must be a non-empty sequence"
    else ofText .badValue "Item 0 of second argument (exceptions) is not an exception"
  else ofText .badType "second argument (exceptions) must be a sequence"

/-- Why a group is not made from arguments. -/
def groupRefusal : List Value → Raised
  | [message, members] =>
    match message with
    | .str _ | .brokenStr _ | .object _ (.subText _) => membersRefusal members
    | message =>
      ofText .badType (groupMaker ++ " argument 1 must be str, not " ++ message.sortName)
  | arguments =>
    ofText .badType (groupMaker ++ " takes exactly 2 arguments (" ++ toString arguments.length ++
      " given)")

/-- Why an error is not made, if its kind is that of groups. -/
def groupRefusal? (kind : ErrorKind) (arguments : List Value) : Option Raised :=
  if kind.isGroup then some (groupRefusal arguments) else none

end Raised

end NamedConditions
