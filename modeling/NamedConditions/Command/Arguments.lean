import NamedConditions.Release
import NamedConditions.Text.ControlSequence
import NamedConditions.Text.Similar
import NamedConditions.Value.Render
/-!
The arguments of the command line. Options of the program stand before the name of a command; those
of a command stand anywhere among its arguments, up to two dashes alone. An option of two dashes may
have its value behind an equals sign, one of a single dash directly behind its letter, and letters
of several options may share a dash. Who misspells a command or an option is told which ones are
like it.
-/
namespace NamedConditions.Command

/-- What an option asks for. -/
inductive Meaning
  | verbose | help | strict | pair | contextJson | fallback | explain | json
  deriving DecidableEq

/-- An option: its spellings, what its value is called if it takes one, and what it is for. -/
structure OptionSpec where
  spellings : List String
  placeholder? : Option String
  purpose : String
  meaning : Meaning

/-- The commands. -/
inductive Subcommand
  | evaluate | validate | version
  deriving DecidableEq

/-- What is wrong with arguments. -/
inductive UsageProblem
  /-- A name that no command has, and names of commands that are like it. -/
  | noCommand (name : String) (near : List String)
  /-- A spelling that no option has, and spellings of options that are like it. -/
  | noOption (name : String) (near : List String)
  | noTarget
  | extraArguments (arguments : List String)
  | noValue (option : String)
  | unexpectedValue (option : String)
  | badValue (option reason : String)

/-- A problem, and the command whose arguments it is in, if it is in one. -/
structure UsageError where
  command? : Option Subcommand
  problem : UsageProblem

/-! ## Options and commands -/

/-- The option for help. -/
def helpOption : OptionSpec := ⟨["--help"], none, "Show this message and exit.", .help⟩

/-- The option for a strict list. -/
def strictOption : OptionSpec :=
  ⟨["--strict"], none, "Require 'check' to be a boolean or callable.", .strict⟩

namespace Subcommand

/-- The name of a command. -/
def name : Subcommand → String
  | evaluate => "evaluate"
  | validate => "validate"
  | version => "version"

/-- What a command does. -/
def summary : Subcommand → String
  | evaluate => "Evaluate the conditions at TARGET and print the matches."
  | validate => "Validate the condition list at TARGET (package.module:attribute)."
  | version => "Show the installed envname version."

/-- Whether a command works on a target. -/
def takesTarget : Subcommand → Bool
  | version => false
  | _ => true

/-- The options of a command. -/
def options : Subcommand → List OptionSpec
  | evaluate =>
    [⟨["--context", "-c"], some "TEXT", "Runtime context entry as KEY=VALUE. Repeatable.", .pair⟩,
      ⟨["--context-json"], some "TEXT", "Runtime context as a JSON object.", .contextJson⟩,
      ⟨["--default"], some "TEXT", "Default value as JSON (condition lists only).", .fallback⟩,
      strictOption,
      ⟨["--explain"], none, "Show the outcome of every condition.", .explain⟩,
      ⟨["--json"], none, "Output results as JSON.", .json⟩,
      helpOption]
  | validate => [strictOption, helpOption]
  | version => [helpOption]

/-- All commands, by name. -/
def all : List Subcommand := [evaluate, validate, version]

/-- The command of a name. -/
def ofName? (name : String) : Option Subcommand := all.find? fun c => c.name = name

@[simp] theorem ofName?_name (c : Subcommand) : ofName? c.name = some c := by
  cases c <;> rfl

end Subcommand

/-- The options of the program itself. -/
def programOptions : List OptionSpec :=
  [⟨["--verbose", "-v"], none, "Enable debug logging.", .verbose⟩, helpOption]

/-! ## Help and problems in words -/

/-- What is typed to call the program or a command. -/
def path : Option Subcommand → String
  | none => programName
  | some c => programName ++ " " ++ c.name

/-- The line that says how the program or a command is called. -/
def usageLine (command? : Option Subcommand) : String :=
  "Usage: " ++ path command? ++ (match command? with
    | none => " [OPTIONS] [COMMAND] [ARGS]..."
    | some c => if c.takesTarget then " [OPTIONS] TARGET" else " [OPTIONS]") ++ "\n"

/-- Terms with explanations, in two columns. -/
def columns (rows : List (String × String)) : String :=
  let width := (rows.map fun r => r.1.length).foldl max 0
  String.join (rows.map fun r =>
    "  " ++ r.1 ++ String.ofList (List.replicate (width - r.1.length + 2) ' ') ++ r.2 ++ "\n")

/-- Whether a spelling starts with two dashes. -/
def isLong (spelling : List Char) : Bool := spelling.take 2 = ['-', '-']

/-- An option with its explanation; the spelling of a single letter stands first. -/
def OptionSpec.row (o : OptionSpec) : String × String :=
  let (long, short) := o.spellings.partition fun s => isLong s.toList
  (", ".intercalate (short ++ long) ++ o.placeholder?.elim "" (" " ++ ·), o.purpose)

/-- A page of help. -/
def helpPage (command? : Option Subcommand) : String :=
  let summary := command?.elim "Select environment names from named conditions." Subcommand.summary
  let options := command?.elim programOptions Subcommand.options
  let commands := match command? with
    | none => "\nCommands:\n" ++ columns (Subcommand.all.map fun c => (c.name, c.summary))
    | some _ => ""
  usageLine command? ++ "\n  " ++ summary ++ "\n\nOptions:\n" ++
    columns (options.map OptionSpec.row) ++ commands

namespace UsageProblem

/-- What is asked about names that are like a wrong one. -/
def question : List String → String
  | [] => ""
  | [name] => " Did you mean " ++ Value.quotedText name ++ "?"
  | names => " (Did you mean one of: " ++ commaSeparated (names.map Value.quotedText) ++ "?)"

/-- A problem in words. -/
def message : UsageProblem → String
  | noCommand name near => "No such command " ++ Value.quotedText name ++ "." ++ question near
  | noOption name near => "No such option " ++ Value.quotedText name ++ "." ++ question near
  | noTarget => "Missing argument 'TARGET'."
  | extraArguments arguments =>
    "Got unexpected extra " ++ (if arguments.length = 1 then "argument" else "arguments") ++ " (" ++
      " ".intercalate arguments ++ ")"
  | noValue option => "Option " ++ Value.quotedText option ++ " requires an argument."
  | unexpectedValue option => "Option " ++ Value.quotedText option ++ " does not take a value."
  | badValue option reason => "Invalid value for " ++ option ++ ": " ++ reason

/-- Whether the problem is told without saying how the command is called. -/
def isBare : UsageProblem → Bool
  | noValue _ | unexpectedValue _ => true
  | _ => false

end UsageProblem

namespace UsageError

/-- What the user is told: the problem, with no control sequences. -/
def text (e : UsageError) : String :=
  (if e.problem.isBare then ""
    else
      usageLine e.command? ++ "Try '" ++ path e.command? ++ " --help' for help.\n\n") ++
    "Error: " ++ String.ofList (Text.withoutSequences e.problem.message.toList) ++ "\n"

end UsageError

/-! ## Reading arguments -/

/-- An option that was given, with its value; empty for one that takes none. -/
abbrev Given := Meaning × String

/-- What the first of some arguments says about options: which are given, which waits for the next
argument as its value, and what is wrong behind those. -/
structure Spelled where
  given : List Given
  waiting? : Option (String × Meaning) := none
  problem? : Option UsageProblem := none

/-- The option of a spelling. -/
def option? (options : List OptionSpec) (spelling : String) : Option OptionSpec :=
  options.find? fun o => spelling ∈ o.spellings

/-- The spellings with two dashes that options have. -/
def longSpellings (options : List OptionSpec) : List String :=
  (options.flatMap OptionSpec.spellings).filter fun s => isLong s.toList

/-- Reads letters behind a single dash. -/
def spellLetters (options : List OptionSpec) : List Char → Spelled
  | [] => { given := [] }
  | c :: s =>
    let spelling := String.ofList ['-', c]
    match option? options spelling with
    | none => { given := [], problem? := some (.noOption spelling []) }
    | some o =>
      if o.placeholder?.isSome then
        if s.isEmpty then { given := [], waiting? := some (spelling, o.meaning) }
        else { given := [(o.meaning, String.ofList s)] }
      else
        let r := spellLetters options s
        { r with given := (o.meaning, "") :: r.given }

/-- Reads an argument that starts with a dash and has more behind it. -/
def spell (options : List OptionSpec) (argument : List Char) : Spelled :=
  let spelling := argument.takeWhile (· ≠ '=')
  let value? := (argument.dropWhile (· ≠ '=')).tail?
  let spelled := String.ofList spelling
  let whole := if isLong spelling then option? options spelled else none
  match whole, value? with
  | some o, some value =>
    if o.placeholder?.isSome then { given := [(o.meaning, String.ofList value)] }
    else { given := [], problem? := some (.unexpectedValue spelled) }
  | some o, none =>
    if o.placeholder?.isSome then { given := [], waiting? := some (spelled, o.meaning) }
    else { given := [(o.meaning, "")] }
  | none, _ =>
    if isLong argument then
      let near := Text.nearest spelled (longSpellings options)
      { given := [], problem? := some (.noOption spelled near) }
    else spellLetters options argument.tail

/-- Whether an argument is read as options. -/
def isOption (argument : String) : Bool :=
  match argument.toList with
  | '-' :: _ :: _ => true
  | _ => false

/-- The options and the positional arguments that were read, up to the first problem if there is
one. -/
structure Scanned where
  given : List Given
  positional : List String
  problem? : Option UsageProblem := none

namespace Scanned

/-- Options in front of what was read. -/
def after (given : List Given) (r : Scanned) : Scanned := { r with given := given ++ r.given }

/-- A positional argument in front of what was read. -/
def behind (argument : String) (r : Scanned) : Scanned :=
  { r with positional := argument :: r.positional }

/-- What was read, unless there is a problem. -/
def settled (r : Scanned) : Except UsageProblem (List Given × List String) :=
  match r.problem? with
  | some p => .error p
  | none => .ok (r.given, r.positional)

end Scanned

/-- Reads the options and the positional arguments among arguments. If they are not mixed, the first
positional argument and all behind it are positional. -/
def read (options : List OptionSpec) (mixed : Bool) : List String → Scanned
  | [] => { given := [], positional := [] }
  | argument :: rest =>
    if argument = "--" then { given := [], positional := rest }
    else if isOption argument then
      match spell options argument.toList with
      | ⟨given, _, some p⟩ => { given := given, positional := [], problem? := some p }
      | ⟨given, none, none⟩ => (read options mixed rest).after given
      | ⟨given, some (spelling, meaning), none⟩ =>
        match rest with
        | [] => { given := given, positional := [], problem? := some (.noValue spelling) }
        | value :: rest => (read options mixed rest).after (given ++ [(meaning, value)])
    else if mixed then (read options mixed rest).behind argument
    else { given := [], positional := argument :: rest }

/-- The options and the positional arguments among arguments, or the first problem. -/
def scan (options : List OptionSpec) (mixed : Bool) (arguments : List String) :
    Except UsageProblem (List Given × List String) := (read options mixed arguments).settled

/-! ## Requests -/

/-- What `evaluate` is asked for. -/
structure EvaluateRequest where
  target : String
  pairs : List String
  contextJson? : Option String
  fallbackJson? : Option String
  strict : Bool
  explain : Bool
  json : Bool

/-- What the program is asked for. -/
inductive Request
  | help (command? : Option Subcommand)
  | version
  | validate (target : String) (strict : Bool)
  | evaluate (r : EvaluateRequest)

/-- Whether an option is given. -/
def isGiven (given : List Given) (m : Meaning) : Bool := given.any fun g => g.1 = m

/-- The values of an option, in the order in which they are given. -/
def values (given : List Given) (m : Meaning) : List String :=
  (given.filter fun g => g.1 = m).map Prod.snd

/-- The request for a command with the options that are given. -/
def Subcommand.request (c : Subcommand) (given : List Given) (target : String) : Request :=
  match c with
  | version => .version
  | validate => .validate target (isGiven given .strict)
  | evaluate => .evaluate {
      target := target
      pairs := values given .pair
      contextJson? := (values given .contextJson).getLast?
      fallbackJson? := (values given .fallback).getLast?
      strict := isGiven given .strict
      explain := isGiven given .explain
      json := isGiven given .json }

/-- Reads the arguments of a command. -/
def Subcommand.parse (c : Subcommand) (arguments : List String) : Except UsageProblem Request :=
  match scan c.options true arguments with
  | .error p => .error p
  | .ok (given, positional) =>
    if isGiven given .help then .ok (.help (some c))
    else
      match c.takesTarget, positional with
      | false, [] => .ok (c.request given "")
      | false, extra => .error (.extraArguments extra)
      | true, [] => .error .noTarget
      | true, [target] => .ok (c.request given target)
      | true, _ :: extra => .error (.extraArguments extra)

/-- Reads the arguments of the program (`cli`): whether it is to be verbose, and what it is asked
for. -/
def parse (arguments : List String) : Except UsageError (Bool × Request) :=
  match scan programOptions false arguments with
  | .error p => .error ⟨none, p⟩
  | .ok (given, positional) =>
    let verbose := isGiven given .verbose
    if isGiven given .help then .ok (verbose, .help none)
    else
      match positional with
      | [] => .ok (verbose, .help none)
      | name :: rest =>
        match Subcommand.ofName? name with
        | none =>
          match scan programOptions false positional with
          | .error p => .error ⟨none, p⟩
          | .ok (given, _) =>
            if isGiven given .help then .ok (verbose, .help none)
            else
              let near := Text.nearest name (Subcommand.all.map Subcommand.name)
              .error ⟨none, .noCommand name near⟩
        | some c =>
          match c.parse rest with
          | .error p => .error ⟨some c, p⟩
          | .ok r => .ok (verbose, r)

end NamedConditions.Command
