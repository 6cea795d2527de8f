import NamedConditions.Session.Expression
/-!
Evaluating and explaining an evaluator in a session. A pass takes its argument, reads the source of
the environment once, lays the contexts over one another and runs the conditions on the result,
inside a span. Predicates may start passes of their own, down to a depth that is given.

Main statement: a static condition is judged by its value alone.
-/
namespace NamedConditions

namespace Session

/-- The scope of the spans of passes, for which an evaluator asks `get_tracer`. -/
def spanScope : String := "envname.evaluator"

/-- Runs a check on the context of the frame. -/
def runCheck (passes : Passes) : Check → Run Frame Value
  | .static v => pure v
  | .predicate f => f.call passes

/-- Decides a condition on the context of the frame: `_holds`. -/
def decide (passes : Passes) (c : Condition) (f : Frame) : Frame × Verdict :=
  match runCheck passes c.check f with
  | .ok v f => (f, .judge c.name (.ok v))
  | .error stop f => (f, .judge c.name (.error stop))

/-- Marks a failing condition in the span of the pass. -/
def markFailure (c : ConditionFailure) (f : Frame) : Frame :=
  { f with session := f.session.onTrace (Trace.addEvent ⟨"envname.condition_error",
      [("envname.condition", .str (c.name.asText.toOption.getD ""))]⟩) }

/-- The context of a pass: `_effective_context`. -/
def effectiveContext (e : Evaluator) (argument : PassArgument) : Run Session Context := do
  let runtime ← match argument with
    | .given v => (·.getD []) <$> takeArgument "runtime context" v
    | .context c => pure c
  let env ← readSource e.source
  return Context.effective env e.accumulated runtime

/-- Sets an attribute of the span of the pass. -/
def setSpanAttribute (name : String) (v : Value) : Session → Session :=
  onTrace (Trace.setAttribute name v)

/-- Opens the span of a pass over so many conditions. -/
def openSpan (name : String) (count : Nat) (s : Session) : Session :=
  (s.onTrace (Trace.start name spanScope)).setSpanAttribute "envname.conditions.count"
    (.int (Int.ofNat count))

/-- Closes the span of a pass that found so many matches. -/
def closeSpan (matchCount : Nat) (s : Session) : Session :=
  ((s.setSpanAttribute "envname.matches.count" (.int (Int.ofNat matchCount))).setSpanAttribute
    "envname.default_used" (.bool (matchCount = 0))).onTrace Trace.finish

/-- Closes the span of a pass that ended early, and gives why the pass ends: a failure that cannot
be recorded gives way to the reason. -/
def abandonSpan (stop : Stop) (s : Session) : Stop × Session :=
  match stop with
  | .failure f =>
    let (f, t) := s.journal.trace.recordFailure f
    (.failure f, s.onTrace fun _ => t.finish)
  | .exhausted => (.exhausted, s.onTrace Trace.finish)

/-- The note after an evaluation. -/
def evaluationNote (count matchCount : Nat) : String :=
  "Evaluated " ++ toString count ++ " condition(s): " ++ toString matchCount ++ " match(es)" ++
    (if matchCount = 0 then ", default used" else "")

/-- The frame in which a pass over so many conditions begins. -/
def passFrame (name : String) (count : Nat) (context : Context) (s : Session) : Frame :=
  ⟨s.openSpan name count, .context context, []⟩

/-- Runs a pass inside a span and gives what it found; `found` counts the matches. -/
def inSpan {α : Type} (name : String) (count : Nat) (context : Context)
    (pass : Frame → EStateM.Result Stop Frame α) (found : α → Nat) : Run Session α := fun s =>
  match pass (passFrame name count context s) with
  | .ok a f => .ok a (f.session.closeSpan (found a))
  | .error stop f =>
    let (stop, s) := f.session.abandonSpan stop
    .error stop s

/-- Evaluates an evaluator: `ConditionEvaluator.evaluate`. -/
def evaluate (passes : Passes) (number : Nat) (argument : PassArgument) : Run Session Answer := do
  match (← get).evaluators[number]? with
  | none => throw .exhausted
  | some e =>
    let c ← effectiveContext e argument
    let names ← inSpan "envname.evaluate" e.conditions.length c
      (Pass.collect (decide passes) e.conditions) List.length
    modify (note (evaluationNote e.conditions.length names.length))
    return .ofNames e.fallback names

/-- Explains an evaluator: `ConditionEvaluator.explain`. -/
def explain (passes : Passes) (number : Nat) (argument : PassArgument) : Run Session Report := do
  match (← get).evaluators[number]? with
  | none => throw .exhausted
  | some e =>
    let c ← effectiveContext e argument
    let outcomes ← inSpan "envname.explain" e.conditions.length c
      (Pass.survey (decide passes) markFailure e.conditions)
      fun outcomes => (Report.mk e.fallback outcomes).matchedNames.length
    return ⟨e.fallback, outcomes⟩

/-- Passes that may nest to a depth. -/
def passes : Nat → Passes
  | 0 => ⟨fun _ _ => throw .exhausted, fun _ _ => throw .exhausted⟩
  | depth + 1 => ⟨evaluate (passes depth), explain (passes depth)⟩

/-- What a step of the user left behind: what it gave or failed with, and the session after it. -/
def userStep (depth : Nat) (st : Step) (s : Session) : Except Stop StepResult × Session :=
  match step (passes depth) st { s with journal := .empty } with
  | .ok r s => (.ok r, s)
  | .error stop s => (.error stop, s)

theorem decide_static (passes : Passes) (index : Nat) (name v : Value) (f : Frame) :
    decide passes ⟨index, name, .static v⟩ f = (f, .judge name (.ok v)) := rfl

end Session

end NamedConditions
