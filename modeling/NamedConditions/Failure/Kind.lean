/-!
Kinds of error. Most kinds are only names; the ones listed apart have rules of their own, for their
text, for who may catch them, or for the command line.
-/
namespace NamedConditions

/-- The kind of an error. -/
inductive ErrorKind
  /-- The user asks the program to stop. -/
  | interrupt
  /-- The program asks to end. -/
  | exit
  /-- Any error of this library: `EnvNameError`. -/
  | library
  /-- A condition list of the wrong shape: `InvalidArgumentError`. -/
  | invalidArgument
  /-- A key that a mapping lacks. -/
  | missingKey
  | badValue
  | badType
  /-- A module that cannot be loaded, or that does not exist. -/
  | loading
  | missingModule
  | endOfInput
  /-- An error of the operating system, by the name of its sort. -/
  | system (name : String)
  | other (name : String)
  deriving DecidableEq

namespace ErrorKind

/-- The names of the sorts of operating-system error. -/
def systemNames : List String :=
  ["OSError", "BlockingIOError", "BrokenPipeError", "ChildProcessError", "ConnectionError",
    "ConnectionAbortedError", "ConnectionRefusedError", "ConnectionResetError", "FileExistsError",
    "FileNotFoundError", "InterruptedError", "IsADirectoryError", "NotADirectoryError",
    "PermissionError", "ProcessLookupError", "TimeoutError"]

/-- The name under which a kind is reported. -/
def name : ErrorKind → String
  | interrupt => "KeyboardInterrupt"
  | exit => "SystemExit"
  | library => "EnvNameError"
  | invalidArgument => "InvalidArgumentError"
  | missingKey => "KeyError"
  | badValue => "ValueError"
  | badType => "TypeError"
  | loading => "ImportError"
  | missingModule => "ModuleNotFoundError"
  | endOfInput => "EOFError"
  | system name => name
  | other name => name

/-- The name for which another one may stand. -/
def properName (name : String) : String :=
  if name = "IOError" ∨ name = "EnvironmentError" then "OSError" else name

/-- The kind of a name. -/
def ofName (name : String) : ErrorKind :=
  match properName name with
  | "KeyboardInterrupt" => interrupt
  | "SystemExit" => exit
  | "EnvNameError" => library
  | "InvalidArgumentError" => invalidArgument
  | "KeyError" => missingKey
  | "ValueError" => badValue
  | "TypeError" => badType
  | "ImportError" => loading
  | "ModuleNotFoundError" => missingModule
  | "EOFError" => endOfInput
  | name => if name ∈ systemNames then system name else other name

/-- The names of further kinds that no handler of failing checks takes. -/
def unhandledNames : List String := ["BaseException", "GeneratorExit"]

/-- Whether a kind passes through every handler of failing checks. -/
def isInterrupt : ErrorKind → Bool
  | interrupt | exit => true
  | other name => name ∈ unhandledNames
  | _ => false

/-- Whether a kind counts as an error of this library. -/
def isLibrary : ErrorKind → Bool
  | library | invalidArgument => true
  | _ => false

/-- Whether a kind counts as a bad value. -/
def isBadValue : ErrorKind → Bool
  | badValue | invalidArgument => true
  | other name =>
    name ∈ ["UnicodeError", "UnicodeDecodeError", "UnicodeEncodeError", "UnicodeTranslateError"]
  | _ => false

/-- The kind of an operating-system error of a call that would block. -/
@[match_pattern] def blocking : ErrorKind := system "BlockingIOError"

/-- Whether a kind holds several errors. -/
def isGroup : ErrorKind → Bool
  | other name => name ∈ ["BaseExceptionGroup", "ExceptionGroup"]
  | _ => false

/-- Whether a kind is about a source text. -/
def isSource : ErrorKind → Bool
  | other name => name ∈ ["SyntaxError", "IndentationError", "TabError"]
  | _ => false

/-- The kind of an error that a thing lacks a member. -/
def missingMember : ErrorKind := other "AttributeError"

/-- Whether a kind says that a module could not be loaded. -/
def isLoading : ErrorKind → Bool
  | loading | missingModule => true
  | _ => false

/-- The name with the module that defines it; the host's own kinds have none. -/
def qualifiedName (kind : ErrorKind) : String :=
  if kind.isLibrary then "envname.errors." ++ kind.name else kind.name

/-- The sort of an operating-system error with a given number. -/
def ofErrorNumber (n : Int) : ErrorKind :=
  .system <|
    if n = 11 ∨ n = 114 ∨ n = 115 then "BlockingIOError"
    else if n = 32 ∨ n = 108 then "BrokenPipeError"
    else if n = 10 then "ChildProcessError"
    else if n = 103 then "ConnectionAbortedError"
    else if n = 111 then "ConnectionRefusedError"
    else if n = 104 then "ConnectionResetError"
    else if n = 17 then "FileExistsError"
    else if n = 2 then "FileNotFoundError"
    else if n = 4 then "InterruptedError"
    else if n = 21 then "IsADirectoryError"
    else if n = 20 then "NotADirectoryError"
    else if n = 1 ∨ n = 13 then "PermissionError"
    else if n = 3 then "ProcessLookupError"
    else if n = 110 then "TimeoutError"
    else "OSError"

end ErrorKind

end NamedConditions
