import NamedConditions.Context.Source
import NamedConditions.Number.Numeral
import NamedConditions.Text.Lowercase
/-!
What the variables of the process say about the recording of spans: a sampler with the share of
traces that it keeps, and limits of how much a span may hold. A provider of spans is not made if a
share or a limit makes no sense.
-/
namespace NamedConditions

namespace Binary64

/-- Whether a number lies between 0 and 1. -/
def isShare : Binary64 → Bool
  | nan _ | infinite _ => false
  | finite negative mantissa exponent =>
    mantissa = 0 || (!negative && exponent ≤ 0 && mantissa ≤ 1 <<< exponent.natAbs)

end Binary64

namespace SpanLimit

/-- The variables that limit what a span may hold, in the order in which they are read. -/
def names : List String :=
  ["OTEL_SPAN_EVENT_COUNT_LIMIT", "OTEL_SPAN_LINK_COUNT_LIMIT", "OTEL_ATTRIBUTE_COUNT_LIMIT",
    "OTEL_SPAN_ATTRIBUTE_COUNT_LIMIT", "OTEL_EVENT_ATTRIBUTE_COUNT_LIMIT",
    "OTEL_LINK_ATTRIBUTE_COUNT_LIMIT", "OTEL_ATTRIBUTE_VALUE_LENGTH_LIMIT",
    "OTEL_SPAN_ATTRIBUTE_VALUE_LENGTH_LIMIT"]

/-- The error of a limit that makes no sense. -/
def badLimit (name text : String) : Raised :=
  .ofText .badValue (name ++ " must be a non-negative integer but got " ++ text)

/-- Why the text of a variable is no limit, if it is none; blanks alone set no limit. -/
def refusal? (name text : String) : Option Raised :=
  match Text.lowercase (Text.strip text.toList) with
  | [] => none
  | c :: cs =>
    match Whole.read (c :: cs) with
    | .error _ => some (badLimit name (String.ofList (c :: cs)))
    | .ok n => if n < 0 then some (badLimit name (toString n)) else none

/-- Refuses variables of which one sets no sensible limit. -/
def check (process : Variables) : Except Raised Unit :=
  (names.findSome? fun name => (process.lookup name).bind (refusal? name)).elim (.ok ()) .error

end SpanLimit

namespace Sampler

/-- The variable that names the sampler. -/
def nameVariable : String := "OTEL_TRACES_SAMPLER"

/-- The variable that says which share of the traces a sampler by share keeps. -/
def shareVariable : String := "OTEL_TRACES_SAMPLER_ARG"

/-- The samplers that keep a share of the traces. -/
def byShare : List String := ["traceidratio", "parentbased_traceidratio"]

/-- Refuses a share that is none. -/
def checkShare : Binary64 → Except Raised Unit
  | .nan _ => .error (.ofText .badValue "cannot convert float NaN to integer")
  | x =>
    if x.isShare then .ok ()
    else .error (.ofText .badValue "Probability must be in range [0.0, 1.0].")

/-- Refuses variables that ask for a sampler by a share that is none. What cannot be read as a
number counts as all traces. -/
def check (process : Variables) : Except Raised Unit :=
  match process.lookup nameVariable with
  | none => .ok ()
  | some name =>
    if String.ofList (Text.lowercase name.toList) ∈ byShare then
      ((process.lookup shareVariable).bind fun text =>
        Binary64.readNumeral? 0 text.toList).elim (.ok ()) checkShare
    else .ok ()

end Sampler

end NamedConditions
