import NamedConditions.Command.Arguments
import NamedConditions.Command.Transcript
import NamedConditions.Condition.Native
import NamedConditions.Text.ShellWords
/-!
Completing a line that is being typed to a shell. The shell tells the line in variables; its words
that are complete are read like arguments, as far as they go, and say whose options and commands can
follow. The values of options and targets have no candidates.
-/
namespace NamedConditions.Command

/-- The shells that ask for candidates. -/
inductive Shell
  | bash | zsh | fish
  deriving DecidableEq

/-- A way to go on: what to type, and what it is for. -/
structure Candidate where
  text : String
  purpose : String

/-- A line that is being typed: its complete words behind the name of the program, and the word that
is not complete. -/
structure TypedLine where
  arguments : List String
  incomplete : String

/-- Who reads the next argument: the program or a command, the options that are given before, and
whether the target is. -/
structure Reader where
  command? : Option Subcommand
  given : List Given
  hasTarget : Bool

namespace Shell

/-- The name of a shell. -/
def name : Shell → String
  | bash => "bash"
  | zsh => "zsh"
  | fish => "fish"

/-- The shell of a name. -/
def ofName? (name : String) : Option Shell := [bash, zsh, fish].find? fun s => s.name = name

/-- A candidate as a shell reads it. -/
def line (s : Shell) (c : Candidate) : String :=
  match s with
  | bash => "plain," ++ c.text
  | zsh => "plain\n" ++ c.text ++ "\n" ++ c.purpose
  | fish => "plain," ++ c.text ++ "\t" ++ c.purpose

end Shell

/-! ## The line -/

/-- The variable in which a shell gives the words of a line. -/
def wordsVariable : String := "COMP_WORDS"

/-- The variable in which a shell says which word is not complete. -/
def placeVariable : String := "COMP_CWORD"

/-- The text of a variable that must be set. -/
def needVariable (process : Variables) (name : String) : Except Raised String :=
  (process.lookup name).elim (.error (.mk .missingKey [.str name])) .ok

/-- How many items of a list stand before a place, which counts from the end if it is negative. -/
def countBefore (length : Nat) (place : Int) : Nat :=
  if place < 0 then (Int.ofNat length + place).toNat else place.toNat

/-- The item at a place of a list, which counts from the end if it is negative. -/
def itemAt? {α : Type} (xs : List α) (place : Int) : Option α :=
  if place < -(xs.length : Int) then none else xs[countBefore xs.length place]?

namespace TypedLine

/-- The line of which a shell tells the words and the place of the incomplete one. -/
def ofPlace (process : Variables) : Except Raised TypedLine := do
  let words := Text.shellWords (← needVariable process wordsVariable)
  let place ← Value.wholeOfText (← needVariable process placeVariable)
  return ⟨(words.take (countBefore words.length place)).drop 1, (itemAt? words place).getD ""⟩

/-- The line of which a shell tells the words and the incomplete one, which may stand among them as
well. -/
def ofWord (process : Variables) : Except Raised TypedLine := do
  let words := Text.shellWords (← needVariable process wordsVariable)
  let written ← needVariable process placeVariable
  let arguments := words.drop 1
  if written.isEmpty then return ⟨arguments, ""⟩
  match Text.shellWords written with
  | [] => throw (.ofText (.other "IndexError") "list index out of range")
  | incomplete :: _ =>
    if !incomplete.isEmpty && arguments.getLast? = some incomplete then
      return ⟨arguments.dropLast, incomplete⟩
    else return ⟨arguments, incomplete⟩

/-- The line that a shell tells. -/
def read (s : Shell) (process : Variables) : Except Raised TypedLine :=
  match s with
  | .fish => ofWord process
  | _ => ofPlace process

/-- Whether a word looks like the start of an option. -/
def startsOption (word : String) : Bool := word.toList.head? = some '-'

/-- The line with an option and the start of its value as two words, and with no equals sign that
stands alone. -/
def split (t : TypedLine) : TypedLine :=
  if t.incomplete = "=" then { t with incomplete := "" }
  else
    match Text.cutOf? '=' t.incomplete with
    | none => t
    | some (option, value) =>
      if startsOption t.incomplete then ⟨t.arguments ++ [option], value⟩ else t

end TypedLine

/-! ## Candidates -/

/-- The longest text that stands as it is beside a candidate. -/
def purposeLimit : Nat := 45

/-- The words that fit a length, with blanks between them. -/
def fitting (room : Nat) : List String → List String
  | [] => []
  | word :: words =>
    if word.length ≤ room then word :: fitting (room - word.length - 1) words else []

/-- A text within a limit: the whole, or as many of its words as leave room for three dots. -/
def brief (limit : Nat) (text : String) : String :=
  if text.length ≤ limit then text
  else " ".intercalate (fitting (limit - 3) (Text.piecesOf ' ' text)) ++ "..."

namespace Reader

/-- Who reads what comes behind arguments. A problem in the arguments ends the reading there. -/
def ofArguments (arguments : List String) : Reader :=
  let outer := read programOptions false arguments
  match outer.positional with
  | [] => ⟨none, outer.given, false⟩
  | name :: rest =>
    match Subcommand.ofName? name with
    | none => ⟨none, outer.given, false⟩
    | some c =>
      let inner := read c.options true rest
      ⟨some c, inner.given, inner.problem?.isNone && !inner.positional.isEmpty⟩

/-- The options that a reader knows. -/
def options (r : Reader) : List OptionSpec := r.command?.elim programOptions Subcommand.options

/-- Whether a reader waits for its target. -/
def lacksTarget (r : Reader) : Bool := r.command?.any Subcommand.takesTarget && !r.hasTarget

/-- Whether a word is an option that takes a value. -/
def takesValue (r : Reader) (word : String) : Bool :=
  r.options.any fun o => o.placeholder?.isSome && word ∈ o.spellings

/-- The commands that go on from the start of a word. -/
def commandCandidates (r : Reader) (start : String) : List Candidate :=
  if r.command?.isSome then []
  else
    (Subcommand.all.filter fun c => start.toList.isPrefixOf c.name.toList).map fun c =>
      ⟨c.name, brief purposeLimit c.summary⟩

/-- The options that go on from the start of a word; one that is given already does so only if it
can be given again. -/
def optionCandidates (r : Reader) (start : String) : List Candidate :=
  if start.isEmpty then []
  else
    (r.options.filter fun o => o.meaning = .pair || !isGiven r.given o.meaning).flatMap fun o =>
      (o.spellings.filter fun s => start.toList.isPrefixOf s.toList).map fun s => ⟨s, o.purpose⟩

/-- The commands and options that go on from the start of a word. -/
def candidates (r : Reader) (start : String) : List Candidate :=
  r.commandCandidates start ++ r.optionCandidates start

end Reader

namespace TypedLine

/-- The ways to go on from a line. -/
def candidates (t : TypedLine) : List Candidate :=
  let r := Reader.ofArguments t.arguments
  let t := t.split
  if "--" ∉ t.arguments && startsOption t.incomplete then r.candidates t.incomplete
  else if t.arguments.getLast?.any r.takesValue || r.lacksTarget then []
  else r.candidates t.incomplete

end TypedLine

end NamedConditions.Command
