import NamedConditions.Markup.Display
import NamedConditions.Pass.Basic
import NamedConditions.Text.LineEnd
/-!
What a run of the command line leaves: the texts of its two streams, and how it ends. A failure that
nobody handles ends it, except for the user's interrupt, a request to exit and a reader that went
away, which end it with an exit code.
-/
namespace NamedConditions.Command

/-- How a run ends. -/
inductive Ending
  | exit (code : Int)
  | escaped (f : Failure)
  /-- Predicates nest deeper than the run allows. -/
  | exhausted

/-- The texts of the two streams, and the end. -/
structure Transcript where
  out : String
  err : String
  ending : Ending

namespace Ending

/-- The exit code that whoever started the program sees. -/
def code : Ending → Int
  | exit code => code
  | escaped _ | exhausted => 1

end Ending

namespace Transcript

/-- Nothing but an exit. -/
def exit (code : Int) : Transcript := ⟨"", "", .exit code⟩

/-- A text on the first stream, and an exit. -/
def ofText (text : String) (code : Int) : Transcript := ⟨text, "", .exit code⟩

/-- Texts in front of those of a run. -/
def after (out err : String) (t : Transcript) : Transcript :=
  { t with out := out ++ t.out, err := err ++ t.err }

/-- A run whose streams have plain ends of lines. -/
def withPlainEnds (t : Transcript) : Transcript :=
  let plain (s : String) := String.ofList (Text.withPlainEnds s.toList)
  { t with out := plain t.out, err := plain t.err }

/-- The end that a request to exit asks for: no code, a whole number, or anything else, which is
written and counts as a failure. -/
def ofExit (arguments : List Value) : Transcript :=
  let code : Value := match arguments with
    | [] => .null
    | [v] => v
    | vs => .tuple vs
  match code with
  | .null => exit 0
  | .int n => exit n
  | .bool b => exit (if b then 1 else 0)
  | v =>
    match v.asText with
    | .ok text => ofText (text ++ "\n") 1
    | .error e => ⟨"", "", .escaped (.raised e)⟩

/-- Whether an error says that nobody reads the output any more. -/
def isClosedPipe : Raised → Bool
  | .mk (.system _) (number :: _ :: rest) => rest.length ≤ 3 && number.equal? (.int 32) = some true
  | _ => false

/-- The end that an error brings that no command handles. -/
def ofRaised (error : Raised) : Transcript :=
  match error.kind with
  | .interrupt | .endOfInput => ⟨"", "\nAborted!\n", .exit 1⟩
  | .exit => ofExit error.arguments
  | _ => if isClosedPipe error then exit 1 else ⟨"", "", .escaped (.raised error)⟩

/-- The end of a run that stops early. -/
def ofStop : Stop → Transcript
  | .failure (.raised error) => ofRaised error
  | .failure f => ⟨"", "", .escaped f⟩
  | .exhausted => ⟨"", "", .exhausted⟩

/-- The error of markup that cannot be shown. -/
def markupError : Markup.Problem → Raised
  | .unopened u => .ofText (.other "MarkupError") u.message
  | .noNumber => .ofText .badValue "invalid literal for int() with base 10: ''"

/-- The end that markup brings that cannot be shown. -/
def ofProblem (p : Markup.Problem) : Transcript := ⟨"", "", .escaped (.raised (markupError p))⟩

/-- A line of markup on the first stream, and what comes after it. -/
def line (markup : String) (rest : Transcript) : Transcript :=
  match Markup.display markup with
  | .ok text => rest.after text ""
  | .error p => ofProblem p

/-- A line of markup on the first stream, if there is one to write, and what comes after it. -/
def lineOf (markup : Except Raised String) (rest : Transcript) : Transcript :=
  match markup with
  | .ok markup => line markup rest
  | .error error => ofRaised error

/-- Lines of markup on the first stream, up to the first that cannot be written, and what comes
after them. -/
def lines (markups : List (Except Raised String)) (rest : Transcript) : Transcript :=
  markups.foldr lineOf rest

/-- A line of markup on the second stream, and an exit. -/
def complaint (markup : String) (code : Int) : Transcript :=
  match Markup.display markup with
  | .ok text => ⟨"", text, .exit code⟩
  | .error p => ofProblem p

end Transcript

end NamedConditions.Command
