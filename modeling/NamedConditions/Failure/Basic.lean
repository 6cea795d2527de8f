import NamedConditions.Failure.Coding
import NamedConditions.Failure.Group
import NamedConditions.Failure.SourceText
/-!
Failures: what a check, a source or the library raises, with its text. A failing check's failure is
attributed to the condition: it becomes the cause of a failure that carries the condition's name.

Main statements: attribution keeps the name and the cause, and fails only where the text of one of
them fails.
-/
namespace NamedConditions

namespace Raised

/-- The kind of an error that is made with arguments: an operating-system error of no special sort
is of the sort of the number in front, if one more argument stands behind it and at most four. -/
def settledKind (kind : ErrorKind) (arguments : List Value) : ErrorKind :=
  match kind, arguments with
  | .system "OSError", number :: _ :: rest =>
    match number.whole? with
    | some n => if rest.length ≤ 3 then .ofErrorNumber n else kind
    | none => kind
  | kind, _ => kind

/-- Why an error of a call that would block is not made with a number of octets that were written
before. -/
def countRefusal? (count : Value) : Option Raised :=
  match count.whole?, count.number? with
  | some n, _ =>
    if Whole.fitsWord n then none
    else some (ofText .badValue "cannot fit 'int' into an index-sized integer")
  | none, some _ =>
    some (ofText .badType ("'" ++ count.typePath ++ "' object cannot be interpreted as an integer"))
  | none, none => none

/-- Why an error is not made from a kind and arguments. -/
def refusal? (kind : ErrorKind) (arguments : List Value) : Option Raised :=
  match kind, arguments with
  | .blocking, _ :: _ :: count :: rest => if rest.length ≤ 2 then countRefusal? count else none
  | kind, arguments =>
    ((groupRefusal? kind arguments).or (sourceRefusal? kind arguments)).or
      (codingRefusal? kind arguments)

/-- The error of a kind with arguments, or the error of making it. -/
def make (kind : ErrorKind) (arguments : List Value) : Raised :=
  let kind := settledKind kind arguments
  (refusal? kind arguments).getD (mk kind arguments)

/-- The text of an operating-system error with a number, a text and perhaps names of files. -/
def systemText (number text : Value) (files : List Value) : Except Raised String := do
  let head := "[Errno " ++ (← number.asText) ++ "] " ++ (← text.asText)
  match files with
  | [] | .null :: _ => return head
  | [file, _, .null] | [file] | [file, _] => return head ++ ": " ++ (← file.shown)
  | file :: _ :: other :: _ => return head ++ ": " ++ (← file.shown) ++ " -> " ++ (← other.shown)

/-- The names of files among what stands behind the number and the text of an operating-system
error. -/
def fileArguments (kind : ErrorKind) (rest : List Value) : List Value :=
  match rest with
  | count :: _ => if kind = .blocking ∧ count.number?.isSome then [] else rest
  | [] => []

/-- The text of an error: empty, its argument's, or that of the tuple of its arguments. -/
def text : Raised → Except Raised String
  | mk kind [] => if kind.isSource then sourceText [] else .ok ""
  | mk .missingKey [v] => v.shown
  | mk _ [v] => v.asText
  | mk (.system name) (number :: text :: rest) =>
    if rest.length ≤ 3 then systemText number text (fileArguments (.system name) rest)
    else (Value.tuple (number :: text :: rest)).shown
  | mk kind (v :: vs) =>
    if kind.isSource then sourceText (v :: vs)
    else (codingText? kind (v :: vs)).getD (Value.tuple (v :: vs)).shown

@[simp] theorem text_ofText (kind : ErrorKind) (h : kind ≠ .missingKey) (s : String) :
    (ofText kind s).text = .ok s := by
  cases kind <;> first | rfl | exact absurd rfl h

end Raised

/-- A failure. The text of an attributed one, a `ConditionEvaluationError`, is settled when it is
attributed. -/
inductive Failure
  | raised (error : Raised)
  | condition (name : Value) (cause : Failure) (text : String)

namespace Failure

/-- The text of a failure, or what its text fails with. -/
def text : Failure → Except Raised String
  | raised error => error.text
  | condition _ _ text => .ok text

/-- The name of a failure's type. -/
def typeName : Failure → String
  | raised error => error.kind.name
  | condition .. => "ConditionEvaluationError"

/-- The name of a failure's type with the module that defines it. -/
def qualifiedName : Failure → String
  | raised error => error.kind.qualifiedName
  | condition .. => "envname.errors.ConditionEvaluationError"

/-- Whether a failure passes through every handler of failing checks. -/
def isInterrupt : Failure → Bool
  | raised error => error.kind.isInterrupt
  | condition .. => false

/-- Whether a failure counts as an error of this library. -/
def isLibrary : Failure → Bool
  | raised error => error.kind.isLibrary
  | condition .. => true

/-- Whether a failure counts as a bad value. -/
def isBadValue : Failure → Bool
  | raised error => error.kind.isBadValue
  | condition .. => false

/-- The text of an attributed failure. -/
def attributedText (name cause : String) : String :=
  "Error evaluating condition '" ++ name ++ "': " ++ cause

/-- Attributes a failure to a condition's name, as a `ConditionEvaluationError` is made. If the text
of the name, or else that of the failure, cannot be had, what it fails with comes instead. -/
def attributeTo (name : Value) (cause : Failure) : Failure :=
  match name.asText with
  | .error error => raised error
  | .ok nameText =>
    match cause.text with
    | .error error => raised error
    | .ok causeText => condition name cause (attributedText nameText causeText)

theorem attributeTo_of_ok {name : Value} {cause : Failure} {n c : String}
    (hn : name.asText = .ok n) (hc : cause.text = .ok c) :
    attributeTo name cause = condition name cause (attributedText n c) := by
  simp [attributeTo, hn, hc]

theorem attributeTo_eq_condition {name name' : Value} {cause cause' : Failure} {t : String}
    (h : attributeTo name cause = condition name' cause' t) : name' = name ∧ cause' = cause := by
  unfold attributeTo at h
  split at h
  · cases h
  · split at h
    · cases h
    · cases h
      exact ⟨rfl, rfl⟩

end Failure

end NamedConditions
