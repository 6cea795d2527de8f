import NamedConditions.Failure.Basic
/-!
Spans: records of named pieces of work, one inside another, with attributes, events and a status. A
span keeps the latest attributes and events up to a bound. A trace keeps the spans that are open,
the innermost first, and those that have ended, in the order in which they ended.

Main statements: a span never keeps more attributes than the bound, and neither an attribute nor a
failure changes how many spans are open.
-/
namespace NamedConditions

/-- Attributes by name. -/
abbrev Attributes := List (String × Value)

namespace Attributes

/-- The greatest number of attributes, and of events, that a span keeps. -/
def bound : Nat := 128

/-- Whether there is an attribute of a name. -/
def has (as : Attributes) (name : String) : Bool := as.any fun e => e.1 = name

/-- Sets an attribute, which is then the latest; the earliest makes room for one too many. -/
def set (name : String) (v : Value) (as : Attributes) : Attributes :=
  (if as.has name then as.filter fun e => e.1 ≠ name
    else if bound ≤ as.length then as.drop 1
    else as) ++ [(name, v)]

theorem length_set_le {as : Attributes} (h : as.length ≤ bound) (name : String) (v : Value) :
    (as.set name v).length ≤ bound := by
  unfold set
  split
  · rename_i hn
    have hf : (as.filter fun e => e.1 ≠ name).length < as.length := by
      obtain ⟨e, he, hname⟩ := List.any_eq_true.1 hn
      exact List.length_filter_lt_length_iff_exists.2 ⟨e, he, by simpa using hname⟩
    rw [List.length_append]
    exact Nat.le_trans hf h
  · split
    · simp only [bound] at *
      rw [List.length_append, List.length_drop]
      simp
      omega
    · simp only [List.length_append, List.length_cons, List.length_nil, bound] at *
      omega

end Attributes

/-- Something that happened during a span. -/
structure Event where
  name : String
  attributes : Attributes

/-- How a span ended. -/
inductive Status
  | unset
  | error (description : String)

/-- A record of a piece of work. -/
structure Span where
  name : String
  scope : String
  parent? : Option String
  attributes : Attributes
  events : List Event
  status : Status

namespace Span

/-- A span that was just opened. -/
def fresh (name scope : String) (parent? : Option String) : Span :=
  ⟨name, scope, parent?, [], [], .unset⟩

/-- Sets an attribute. -/
def setAttribute (name : String) (v : Value) (s : Span) : Span :=
  { s with attributes := s.attributes.set name v }

/-- Adds an event; the earliest makes room for one too many. -/
def addEvent (e : Event) (s : Span) : Span :=
  { s with events :=
      (if Attributes.bound ≤ s.events.length then s.events.drop 1 else s.events) ++ [e] }

/-- Records a failure: an event tells its type and its text, and the status both. A failure without
a text cannot be recorded. -/
def markFailure (f : Failure) (s : Span) : Except Raised Span :=
  f.text.map fun text =>
    { s.addEvent ⟨"exception",
        [("exception.type", .str f.qualifiedName), ("exception.message", .str text)]⟩ with
      status := .error (f.typeName ++ ": " ++ text) }

/-- Records the failure with which a span is left; an interrupt leaves no mark. -/
def recordFailure (f : Failure) (s : Span) : Except Raised Span :=
  if f.isInterrupt then .ok s else s.markFailure f

theorem recordFailure_of_interrupt {f : Failure} (h : f.isInterrupt = true) (s : Span) :
    s.recordFailure f = .ok s := by
  simp [recordFailure, h]

end Span

/-- The open spans, innermost first, and those that have ended, in the order in which they did. -/
structure Trace where
  opened : List Span
  ended : List Span

namespace Trace

/-- No span at all. -/
def empty : Trace := ⟨[], []⟩

/-- Opens a span inside the innermost one. -/
def start (name scope : String) (t : Trace) : Trace :=
  ⟨.fresh name scope (t.opened.head?.map Span.name) :: t.opened, t.ended⟩

/-- Changes the innermost span. -/
def onInnermost (f : Span → Span) (t : Trace) : Trace :=
  match t.opened with
  | [] => t
  | span :: rest => ⟨f span :: rest, t.ended⟩

/-- Sets an attribute of the innermost span. -/
def setAttribute (name : String) (v : Value) : Trace → Trace :=
  onInnermost (Span.setAttribute name v)

/-- Adds an event to the innermost span. -/
def addEvent (e : Event) : Trace → Trace := onInnermost (Span.addEvent e)

/-- Records the failure with which the innermost span is left, and gives the failure that goes on:
the same, or what its text fails with. -/
def recordFailure (f : Failure) (t : Trace) : Failure × Trace :=
  match t.opened with
  | [] => (f, t)
  | span :: rest =>
    match span.recordFailure f with
    | .ok span => (f, ⟨span :: rest, t.ended⟩)
    | .error e => (.raised e, t)

/-- Ends the innermost span. -/
def finish (t : Trace) : Trace :=
  match t.opened with
  | [] => t
  | span :: rest => ⟨rest, t.ended ++ [span]⟩

/-! ## Nesting -/

@[simp] theorem length_opened_onInnermost (f : Span → Span) (t : Trace) :
    (t.onInnermost f).opened.length = t.opened.length := by
  unfold onInnermost
  split <;> simp_all

theorem recordFailure_of_text {f : Failure} {s : String} (h : f.text = .ok s) (t : Trace) :
    (t.recordFailure f).1 = f := by
  unfold recordFailure
  split
  · rfl
  · rename_i span rest he
    by_cases hi : f.isInterrupt = true
    · rw [Span.recordFailure_of_interrupt hi]
    · simp [Span.recordFailure, hi, Span.markFailure, h, Except.map]

@[simp] theorem length_opened_recordFailure (f : Failure) (t : Trace) :
    (t.recordFailure f).2.opened.length = t.opened.length := by
  unfold recordFailure
  split
  · rfl
  · rename_i he
    split
    · simp [he]
    · rfl

end Trace

end NamedConditions
