import NamedConditions.Proofs.Pass.Started
/-!
Calls of passes, and the spans that belong to them. A call that finds its source raising runs
nothing; any other runs the conditions of its evaluator, whose predicates may make calls of their
own inside it. Which calls a step makes is read off what runs, without a look at the trace: a
predicate makes the calls of what it starts.

Main definitions: the spans that calls leave behind (`Call.spansOf`), inner calls before outer ones,
each inside the one that made it, and the calls that a step makes (`Session.callsOfStep`).
-/
namespace NamedConditions

/-- A call of a pass. -/
inductive Call
  /-- The source of the environment raised. -/
  | refused (name : String)
  /-- The conditions were run, so many of them; those in `marks` were reported as failing. The pass
  came to its end with so many matches, or ended early. -/
  | ran (name : String) (count : Nat) (marks : List ConditionFailure) (ending : Except Stop Nat)
    (inner : List Call)

/-! ## The span of a call -/

/-- What is recorded of an early end: a failure that is no interrupt, with its text. -/
def Stop.recorded? : Stop → Option (Failure × String)
  | .failure f => if f.isInterrupt then none else f.text.toOption.map fun text => (f, text)
  | .exhausted => none

/-- With what a span is left: a failure of which the text cannot be had gives way to the reason. -/
def Stop.leaving : Stop → Stop
  | .failure f =>
    if f.isInterrupt then .failure f
    else
      match f.text with
      | .ok _ => .failure f
      | .error e => .failure (.raised e)
  | .exhausted => .exhausted

namespace Call

/-- What is recorded of how a call ended. -/
def recorded? : Except Stop Nat → Option (Failure × String)
  | .ok _ => none
  | .error stop => stop.recorded?

/-- The attributes that tell what was found. -/
def foundAttributes : Except Stop Nat → Attributes
  | .ok n =>
    [("envname.matches.count", .int (Int.ofNat n)), ("envname.default_used", .bool (n = 0))]
  | .error _ => []

/-- The event of a condition that is reported as failing. -/
def markEvent (c : ConditionFailure) : Event :=
  ⟨"envname.condition_error", [("envname.condition", .str (c.name.asText.toOption.getD ""))]⟩

/-- The event of a failure that is recorded with a text. -/
def failureEvent (x : Failure × String) : Event :=
  ⟨"exception", [("exception.type", .str x.1.qualifiedName), ("exception.message", .str x.2)]⟩

/-- The latest of some events, as many as a span keeps. -/
def latest (events : List Event) : List Event := events.drop (events.length - Attributes.bound)

/-- The span of a call that ran conditions. -/
def span (parent? : Option String) (name : String) (count : Nat) (marks : List ConditionFailure)
    (ending : Except Stop Nat) : Span where
  name := name
  scope := Session.spanScope
  parent? := parent?
  attributes := ("envname.conditions.count", .int (Int.ofNat count)) :: foundAttributes ending
  events := latest (marks.map markEvent ++ (recorded? ending).toList.map failureEvent)
  status := (recorded? ending).elim .unset fun x => .error (x.1.typeName ++ ": " ++ x.2)

mutual

/-- The spans of a call inside a span of a name, inner ones first. -/
def spans (parent? : Option String) : Call → List Span
  | .refused _ => []
  | .ran name count marks ending inner =>
    spansOf (some name) inner ++ [span parent? name count marks ending]

/-- The spans of calls one after another. -/
def spansOf (parent? : Option String) : List Call → List Span
  | [] => []
  | c :: cs => spans parent? c ++ spansOf parent? cs

end

theorem spansOf_append (parent? : Option String) (a b : List Call) :
    spansOf parent? (a ++ b) = spansOf parent? a ++ spansOf parent? b := by
  induction a with
  | nil => rfl
  | cons c a ih => rw [List.cons_append, spansOf, ih, spansOf, List.append_assoc]

/-! ## Events -/

/-- A span that keeps the latest events keeps the latest when one is added. -/
theorem latest_append_singleton (events : List Event) (e : Event) (s : Span)
    (h : s.events = latest events) : (s.addEvent e).events = latest (events ++ [e]) := by
  simp only [Span.addEvent, h, latest, List.length_drop, List.length_append, List.length_singleton]
  by_cases hl : Attributes.bound ≤ events.length
  · have hkept : Attributes.bound ≤ events.length - (events.length - Attributes.bound) := by omega
    have hdrop : events.length + 1 - Attributes.bound = events.length - Attributes.bound + 1 := by
      omega
    rw [if_pos hkept, List.drop_drop, hdrop, List.drop_append_of_le_length]
    have hb : 1 ≤ Attributes.bound := by decide
    omega
  · have hkept : ¬ Attributes.bound ≤ events.length - (events.length - Attributes.bound) := by omega
    have hzero : events.length - Attributes.bound = 0 := by omega
    have hzero' : events.length + 1 - Attributes.bound = 0 := by omega
    rw [if_neg hkept, hzero, hzero', List.drop_zero, List.drop_zero]

/-- One exception event is among the events of a span exactly if a failure was recorded. -/
theorem count_exceptions (marks : List ConditionFailure) (x? : Option (Failure × String)) :
    ((latest (marks.map markEvent ++ x?.toList.map failureEvent)).filter
      fun e => e.name = "exception").length = x?.toList.length := by
  have hmarks : ∀ n,
      ((marks.map markEvent).drop n).filter (fun e => e.name = "exception") = [] := by
    intro n
    rw [List.filter_eq_nil_iff]
    intro e he
    obtain ⟨c, -, rfl⟩ := List.mem_map.1 (List.mem_of_mem_drop he)
    simp [markEvent]
  cases x? with
  | none =>
    rw [Option.toList_none, List.map_nil, List.append_nil, latest, hmarks]
    rfl
  | some x =>
    have hle : (marks.map markEvent ++ [failureEvent x]).length - Attributes.bound ≤
        (marks.map markEvent).length := by
      have hb : 1 ≤ Attributes.bound := by decide
      rw [List.length_append, List.length_singleton]
      omega
    rw [Option.toList_some, List.map_singleton, latest, List.drop_append_of_le_length hle,
      List.filter_append, hmarks]
    rfl

end Call

/-! ## The calls that are made -/

/-- The calls that asking for a pass comes to: the pass itself, with what is called inside it. -/
structure PassCalls where
  evaluate : Nat → PassArgument → Session → List Call
  explain : Nat → PassArgument → Session → List Call

/-- The calls that are made by a step. -/
def Session.callsOfStep (k : PassCalls) : Step → Session → List Call
  | .mk on (.evaluate argument), s =>
    (s.number? on).elim [] fun number => k.evaluate number (.given argument) s
  | .mk on (.explain argument), s =>
    (s.number? on).elim [] fun number => k.explain number (.given argument) s
  | _, _ => []

/-- The calls that something comes to that a predicate starts. -/
def Start.calls (k : PassCalls) : Start → List Call
  | .step st s => Session.callsOfStep k st s
  | .nested setup argument s =>
    match Session.make setup s with
    | .ok number t => k.evaluate number argument t
    | .error _ _ => []

namespace Session

/-- The calls that are made by the check of a condition. -/
def callsOfCondition (p : Passes) (k : PassCalls) (x : Condition × Frame) : List Call :=
  (startsOfCondition p x).flatMap (Start.calls k)

/-- The failure that is reported of a condition. -/
def reported? (p : Passes) (x : Condition × Frame) : Option ConditionFailure :=
  match (decide p x.1 x.2).2 with
  | .failed f => some f
  | _ => none

/-- Evaluating as a call. -/
def callsOfEvaluate (p : Passes) (k : PassCalls) (number : Nat) (argument : PassArgument)
    (s : Session) : List Call :=
  s.evaluators[number]?.elim [] fun e =>
    match effectiveContext e argument s with
    | .error _ _ => [.refused "envname.evaluate"]
    | .ok c t =>
      [.ran "envname.evaluate" e.conditions.length []
        ((endResult (Pass.collect (decide p) e.conditions
          (passFrame "envname.evaluate" e.conditions.length c t))).map List.length)
        ((evaluated p e c t).flatMap (callsOfCondition p k))]

/-- Explaining as a call. -/
def callsOfExplain (p : Passes) (k : PassCalls) (number : Nat) (argument : PassArgument)
    (s : Session) : List Call :=
  s.evaluators[number]?.elim [] fun e =>
    match effectiveContext e argument s with
    | .error _ _ => [.refused "envname.explain"]
    | .ok c t =>
      [.ran "envname.explain" e.conditions.length ((explained p e c t).filterMap (reported? p))
        ((endResult (Pass.survey (decide p) markFailure e.conditions
          (passFrame "envname.explain" e.conditions.length c t))).map fun outcomes =>
            (Report.mk e.fallback outcomes).matchedNames.length)
        ((explained p e c t).flatMap (callsOfCondition p k))]

/-- The calls of passes that may nest to a depth. -/
def passCalls : Nat → PassCalls
  | 0 => ⟨fun _ _ _ => [], fun _ _ _ => []⟩
  | depth + 1 =>
    ⟨callsOfEvaluate (passes depth) (passCalls depth),
      callsOfExplain (passes depth) (passCalls depth)⟩

end Session

end NamedConditions
