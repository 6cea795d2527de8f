import NamedConditions.Command.Script
import NamedConditions.Command.Target
import NamedConditions.Json.Reader
import NamedConditions.Json.Writer
/-!
Running the command line. A run reads its arguments, finds the target in a catalogue of modules, and
validates or evaluates it with the variables of the process as the environment of a list. What it
reports goes to the first stream, as lines or as a JSON document; complaints go to the second. If a
variable holds the request of a shell, the run answers that and nothing else.
-/
namespace NamedConditions.Command

/-- What a run works on: the modules that can be loaded, the variables of the process, and how deep
passes may nest. -/
structure Setting where
  catalogue : Catalogue
  process : Variables
  depth : Nat

/-- A text as it stands in markup. -/
def escaped (s : String) : String := String.ofList (Markup.escape s.toList)

/-- A name as it stands in markup, `_format_name`: a text is its characters, anything else is
shown. -/
def nameMarkup (name : Value) : Except Raised String :=
  (name.text?.elim name.shown .ok).map escaped

/-! ## The evaluator at a target -/

/-- Why there is no evaluator at a target. -/
inductive Unavailable
  | target (f : TargetFault)
  | list (reason : String)
  | stopped (stop : Stop)

namespace Unavailable

/-- A refused condition list is told apart from any other failure. -/
def ofStop (stop : Stop) : Unavailable :=
  match stop with
  | .failure (.raised error) =>
    match error.kind, error.text with
    | .invalidArgument, .ok reason => list reason
    | .invalidArgument, .error e => stopped (.failure (.raised e))
    | _, _ => stopped stop
  | stop => stopped stop

end Unavailable

/-- The number of the evaluator at a target: `_build_evaluator`. A list gets a fallback, and the
variables of the process as its environment. -/
def evaluatorNumber (s : Setting) (target : String) (fallback : Value) (strict : Bool) :
    Run Session (Except TargetFault Nat) := do
  match ← Target.resolve s.catalogue (Session.passes s.depth) target with
  | .error fault => return .error fault
  | .ok (.conditions v) =>
    return .ok (← Session.make (.mk (some v) (some fallback) strict .process))
  | .ok (.evaluator setup) => return .ok (← Session.make setup)
  | .ok (.made number) => return .ok number

/-- The number of the evaluator at a target, if there is one, and the session that was used to find
it. -/
def evaluatorAt (s : Setting) (target : String) (fallback : Value) (strict : Bool) :
    Except Unavailable Nat × Session :=
  match evaluatorNumber s target fallback strict (.start s.process) with
  | .ok (.ok number) session => (.ok number, session)
  | .ok (.error fault) session => (.error (.target fault), session)
  | .error stop session => (.error (.ofStop stop), session)

/-- A line of the second stream for each note, if they are wanted. -/
def noteLines (verbose : Bool) (s : Session) : String :=
  if verbose then
    String.join (s.journal.notes.map fun n => "DEBUG:" ++ Session.spanScope ++ ":" ++ n ++ "\n")
  else ""

/-! ## Validating -/

/-- How many conditions there are of each kind, in words. -/
def breakdown (conditions : List Condition) : String :=
  let count (kind : String) := (conditions.filter fun c => c.check.kind = kind).length
  let parts := ["predicate", "static"].filterMap fun kind =>
    if count kind = 0 then none else some (toString (count kind) ++ " " ++ kind)
  if parts.isEmpty then "" else " (" ++ commaSeparated parts ++ ")"

/-- Validates the condition list at a target: the command `validate`. -/
def validateTarget (s : Setting) (verbose : Bool) (target : String) (strict : Bool) : Transcript :=
  let (available, session) := evaluatorAt s target (.list []) strict
  let answer : Transcript := match available with
    | .error (.target f) => .complaint ("[red]" ++ escaped f.message ++ "[/red]") 2
    | .error (.list reason) =>
      .complaint ("[red]  " ++ escaped target ++ " — " ++ escaped reason ++ "[/red]") 1
    | .error (.stopped stop) => .ofStop stop
    | .ok number =>
      let conditions := (session.evaluators[number]?.map Evaluator.conditions).getD []
      .line ("[green]  " ++ escaped target ++ "[/green] — " ++ toString conditions.length ++
        " conditions" ++ breakdown conditions) (.exit 0)
  answer.after "" (noteLines verbose session)

/-! ## The context and the fallback -/

/-- What a run is told instead of a result. -/
abbrev Or (α : Type) := Except Transcript α

/-- Ends a run with a problem in its arguments. -/
def refuse {α : Type} (command? : Option Subcommand) (p : UsageProblem) : Or α :=
  .error ⟨"", (UsageError.mk command? p).text, .exit 2⟩

/-- The value of an option that is a JSON document: `_parse_json_option`. -/
def jsonOption (option text : String) : Or Value :=
  match Json.read text with
  | .ok d => .ok d.toValue
  | .error (.malformed reason) =>
    refuse (some .evaluate) (.badValue option ("Invalid JSON: " ++ reason))
  | .error (.beyond error) => .error (.ofRaised error)

/-- The entry that a pair gives: a key, an equals sign and a value. -/
def pairEntry? (pair : String) : Option (Value × Value) :=
  match Text.cutOf? '=' pair with
  | none => none
  | some (key, value) => if key.isEmpty then none else some (.str key, .str value)

/-- The entries that pairs give, up to the first that gives none: `_parse_context_pairs`. -/
def pairEntries : List String → Or Entries
  | [] => .ok []
  | pair :: pairs =>
    match pairEntry? pair with
    | none =>
      refuse (some .evaluate) (.badValue "--context" ("'" ++ pair ++ "' is not KEY=VALUE"))
    | some e => (pairEntries pairs).map (e :: ·)

/-- The entries of the JSON context. -/
def jsonEntries (text? : Option String) : Or Entries :=
  match text? with
  | none => .ok []
  | some text =>
    match jsonOption "--context-json" text with
    | .error t => .error t
    | .ok (.dict es) => .ok es
    | .ok _ => .error (.complaint "[red]--context-json must be a JSON object.[/red]" 2)

/-- The runtime context: the pairs over the JSON object. -/
def runtimeContext (r : EvaluateRequest) : Or Entries := do
  let object ← jsonEntries r.contextJson?
  let pairs ← pairEntries r.pairs
  return Layer.merge object (Layer.ofEntries pairs)

/-- The fallback of a list. -/
def fallbackValue (r : EvaluateRequest) : Or Value :=
  match r.fallbackJson? with
  | none => .ok (.list [])
  | some text => jsonOption "--default" text

/-! ## Reporting -/

/-- A JSON document on the first stream, and an exit. -/
def document (members : Except Raised (List (String × Json.Document))) (code : Int) : Transcript :=
  match members with
  | .ok members => .ofText ((Json.Document.ofMembers members).write ++ "\n") code
  | .error error => .ofRaised error

/-- The answer of an evaluation as members of an object. -/
def answerMembers (a : Answer) : Except Raised (List (String × Json.Document)) :=
  (Json.Document.ofValue a.value).map fun result =>
    [("matched", .bool !a.isFallback), ("result", result)]

/-- An outcome as a JSON object. -/
def outcomeDocument (o : Outcome) : Except Raised Json.Document :=
  (Json.Document.ofValue o.name).map fun name =>
    .ofMembers [("index", .int (Int.ofNat o.index)), ("name", name), ("kind", .text o.kind),
      ("matched", .bool o.matched), ("error", o.error?.elim .null .text)]

/-- Outcomes as JSON objects, up to the first that cannot be one. -/
def outcomeDocuments : List Outcome → Except Raised (List Json.Document)
  | [] => .ok []
  | o :: os =>
    match outcomeDocument o with
    | .error e => .error e
    | .ok d => (outcomeDocuments os).map (d :: ·)

/-- A report as members of an object. -/
def reportMembers (r : Report) : Except Raised (List (String × Json.Document)) := do
  let answer ← answerMembers r.answer
  let outcomes ← outcomeDocuments r.outcomes
  return answer ++ [("conditions", .array outcomes), ("error", .bool r.hasError)]

/-- The line for an outcome: one turn of `_print_explain`. -/
def outcomeLine (o : Outcome) : Except Raised String :=
  (nameMarkup o.name).map fun name =>
    match o.error? with
    | some error =>
      "  [red]![/red] " ++ name ++ " [dim](" ++ o.kind ++ ")[/dim] — " ++ escaped error
    | none =>
      if o.matched then "  [green]✓[/green] " ++ name ++ " [dim](" ++ o.kind ++ ")[/dim]"
      else "  [dim]✗ " ++ name ++ " (" ++ o.kind ++ ")[/dim]"

/-- Reports every condition of an evaluator. -/
def reportExplained (json : Bool) (r : Report) : Transcript :=
  let code := if r.hasError then 1 else 0
  if json then document (reportMembers r) code
  else
    .lines (r.outcomes.map outcomeLine ++
      [.ok ("  Conditions evaluated: " ++ toString r.outcomes.length)]) (.exit code)

/-- Reports the answer of an evaluation. -/
def reportAnswer (json : Bool) (a : Answer) : Transcript :=
  if json then document (answerMembers a) 0
  else
    match a with
    | .names names =>
      .lines (names.map fun name => (nameMarkup name).map ("  [green]✓[/green] " ++ ·)) (.exit 0)
    | .fallback v =>
      .lineOf (v.shown.map fun text =>
        "[yellow]No conditions matched.[/yellow] Default: " ++ escaped text) (.exit 0)

/-- Reports the failure with which an evaluation ended. -/
def reportStop (json : Bool) (stop : Stop) : Transcript :=
  match stop with
  | .failure (.condition name _ text) =>
    if json then
      document ((Json.Document.ofValue name).map fun name =>
        [("error", .text text), ("condition", name)]) 1
    else .complaint ("[red bold]ERROR[/red bold] " ++ escaped text) 1
  | stop => .ofStop stop

/-! ## Evaluating -/

/-- Evaluates or explains the conditions at a target on a context. -/
def evaluateOn (s : Setting) (verbose : Bool) (r : EvaluateRequest) (number : Nat)
    (context : Entries) (session : Session) : Transcript :=
  let argument := PassArgument.given (some (.dict context))
  let passes := Session.passes s.depth
  if r.explain then
    match passes.explain number argument session with
    | .ok report session => (reportExplained r.json report).after "" (noteLines verbose session)
    | .error stop session => (Transcript.ofStop stop).after "" (noteLines verbose session)
  else
    match passes.evaluate number argument session with
    | .ok answer session => (reportAnswer r.json answer).after "" (noteLines verbose session)
    | .error stop session => (reportStop r.json stop).after "" (noteLines verbose session)

/-- Evaluates the conditions at a target: the command `evaluate`. -/
def evaluateTarget (s : Setting) (verbose : Bool) (r : EvaluateRequest) : Or Transcript := do
  let context ← runtimeContext r
  let fallback ← fallbackValue r
  let (available, session) := evaluatorAt s r.target fallback r.strict
  let failed (t : Transcript) := t.after "" (noteLines verbose session)
  return match available with
    | .error (.target f) => failed (.complaint ("[red]" ++ escaped f.message ++ "[/red]") 2)
    | .error (.list reason) =>
      failed (.complaint ("[red]Invalid conditions: " ++ escaped reason ++ "[/red]") 1)
    | .error (.stopped stop) => failed (.ofStop stop)
    | .ok number => evaluateOn s verbose r number context session

/-- The transcript of a run, whether or not it ended before it had a result. -/
def settled : Or Transcript → Transcript
  | .ok t => t
  | .error t => t

/-! ## Shells -/

/-- The request of a shell, if a variable holds one. -/
def shellRequest? (process : Variables) : Option String :=
  (process.lookup requestVariable).filter fun request => !request.isEmpty

/-- The ways to go on from the line that a shell tells, each as the shell reads it. -/
def reportCandidates (shell : Shell) (process : Variables) : Transcript :=
  match TypedLine.read shell process with
  | .error error => .ofRaised error
  | .ok t => .ofText ("\n".intercalate (t.candidates.map shell.line) ++ "\n") 0

/-- Answers the request of a shell: its name, a low line, and what it asks for. -/
def answerShell (process : Variables) (request : String) : Transcript :=
  let (name, task) := (Text.cutOf? '_' request).getD (request, "")
  match Shell.ofName? name, task with
  | some shell, "source" => .ofText (shell.script ++ "\n") 0
  | some shell, "complete" => reportCandidates shell process
  | _, _ => .exit 1

/-! ## The program -/

/-- What the command line does on arguments. -/
def answerArguments (s : Setting) (arguments : List String) : Transcript :=
  match parse arguments with
  | .error e => ⟨"", e.text, .exit 2⟩
  | .ok (verbose, request) =>
    match request with
    | .help command? => .ofText (helpPage command?) 0
    | .version => .ofText (programName ++ " " ++ programVersion ++ "\n") 0
    | .validate target strict => validateTarget s verbose target strict
    | .evaluate r => settled (evaluateTarget s verbose r)

/-- What the command line does: it answers the request of a shell, or else takes its arguments. -/
def answer (s : Setting) (arguments : List String) : Transcript :=
  (shellRequest? s.process).elim (answerArguments s arguments) (answerShell s.process)

/-- Runs the command line on arguments. -/
def run (s : Setting) (arguments : List String) : Transcript := (answer s arguments).withPlainEnds

end NamedConditions.Command
