import NamedConditions.Proofs.Context.Snapshot
import NamedConditions.Proofs.Pass.Agreement
import NamedConditions.Proofs.Trace.Observed
/-!
The spans that a step leaves behind. Nothing but calls of passes touches the trace, and every call
leaves the open spans as it found them: what it does to the trace is to add the spans of the calls
that it is, those of inner calls before its own.

Main statement (`trace_step`): a step adds the spans of the calls that it makes and leaves the open
ones as they are, if the passes that it may start do.
-/
namespace NamedConditions

/-- A trace after calls inside its innermost open span. -/
def Trace.after (calls : List Call) (t : Trace) : Trace :=
  ⟨t.opened, t.ended ++ Call.spansOf (t.opened.head?.map Span.name) calls⟩

/-- A trace with failing conditions reported in its innermost open span. -/
def Trace.marked (marks : List ConditionFailure) : Trace → Trace :=
  Trace.onInnermost fun s => marks.foldl (fun s c => s.addEvent (Call.markEvent c)) s

namespace Trace

@[simp] theorem after_nil (t : Trace) : t.after [] = t := by
  rcases t with ⟨opened, ended⟩
  simp only [after, Call.spansOf, List.append_nil]

theorem after_append (a b : List Call) (t : Trace) : t.after (a ++ b) = (t.after a).after b := by
  simp only [after, Call.spansOf_append, List.append_assoc]

theorem after_ran (name : String) (count : Nat) (marks : List ConditionFailure)
    (ending : Except Stop Nat) (inner : List Call) (t : Trace) :
    t.after [.ran name count marks ending inner] =
      ⟨t.opened, t.ended ++ (Call.spansOf (some name) inner ++
        [Call.span (t.opened.head?.map Span.name) name count marks ending])⟩ := by
  rw [after, Call.spansOf, Call.spans, Call.spansOf, List.append_nil]

theorem name_foldl_addEvent (marks : List ConditionFailure) (s : Span) :
    (marks.foldl (fun s c => s.addEvent (Call.markEvent c)) s).name = s.name := by
  induction marks generalizing s with
  | nil => rfl
  | cons c marks ih => exact ih (s.addEvent (Call.markEvent c))

/-- Reports in a span do not change in which span calls are made. -/
theorem after_marked (calls : List Call) (marks : List ConditionFailure) (t : Trace) :
    (t.marked marks).after calls = (t.after calls).marked marks := by
  rcases t with ⟨_ | ⟨s, rest⟩, ended⟩
  · rfl
  · simp only [after, marked, onInnermost, List.head?_cons, Option.map_some, name_foldl_addEvent]

theorem marked_append (a b : List ConditionFailure) (t : Trace) :
    (t.marked a).marked b = t.marked (a ++ b) := by
  rcases t with ⟨_ | ⟨s, rest⟩, ended⟩
  · rfl
  · simp only [marked, onInnermost, List.foldl_append]

theorem marked_nil (t : Trace) : t.marked [] = t := by
  rcases t with ⟨_ | ⟨s, rest⟩, ended⟩ <;> rfl

end Trace

namespace Session

/-! ## What leaves the trace alone -/

theorem trace_perform {c : Change} (h : c.isSpan = false) (s : Session) :
    (c.perform s).journal.trace = s.journal.trace :=
  (perform_withTrace h s .empty).2

theorem trace_effectiveContext (e : Evaluator) (argument : PassArgument) (s : Session) :
    (endState (effectiveContext e argument s)).journal.trace = s.journal.trace := by
  have htaken : (afterTaking argument s).journal.trace = s.journal.trace := by
    cases argument with
    | context c => rfl
    | given v => exact trace_perform (c := .take v) rfl s
  have hread := trace_perform (c := .read e.source) rfl (afterTaking argument s)
  rw [Change.perform] at hread
  rw [effectiveContext_run, ← htaken, ← hread]
  cases readSource e.source (afterTaking argument s) <;> rfl

end Session

/-- The trace of what is done, in which calls leave their spans. -/
def Trace.observation : Observation Trace where
  view s := s.journal.trace
  after calls t := t.after calls
  after_nil := Trace.after_nil
  after_append := Trace.after_append
  still {c} h s := Session.trace_perform (by cases c <;> first | rfl | cases h) s

/-- The calls are what the passes do to the trace. -/
abbrev PassCalls.Tells (k : PassCalls) (p : Passes) : Prop := Trace.observation.Told k p

/-- A step makes the calls that are told of it. -/
theorem Session.trace_step {p : Passes} {k : PassCalls} (h : k.Tells p) (st : Step) (s : Session) :
    (endState (step p st s)).journal.trace = s.journal.trace.after (callsOfStep k st s) :=
  view_step h st s

end NamedConditions
