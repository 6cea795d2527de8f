import NamedConditions.Session.Basic
/-!
Steps of a session: making, forking and asking evaluators by name. A step may be taken by the user
or by a running predicate; what it gives back is a `StepResult` for the first and a value for the
second. How evaluators are evaluated is a parameter here, since a predicate may evaluate again.
-/
namespace NamedConditions

/-- The argument of a pass: what the user gave, or the context of a running predicate. -/
inductive PassArgument
  | given (v : Option Value)
  | context (c : Context)

/-- How evaluators are asked, by number. -/
structure Passes where
  evaluate : Nat → PassArgument → Run Session Answer
  explain : Nat → PassArgument → Run Session Report

/-- What a step gives back. -/
inductive StepResult
  | made (number : Nat) (shown : String)
  /-- The evaluator itself, for more steps. -/
  | same (number : Nat)
  | evaluated (a : Answer)
  | explained (r : Report)
  /-- A dictionary of its own, of which the slots may be shared. -/
  | context (c : Context)
  | forked (number : Nat) (shown : String) (strict : Bool)
  | described (e : Evaluator) (shown : String)
  | done
  | skipped

namespace Session

/-- The accumulated context of an evaluator, with its values at the moment. -/
def accumulatedEntries (s : Session) (e : Evaluator) : Entries := s.store.values e.accumulated

/-- What an action on an evaluator that exists gives back: the methods of `ConditionEvaluator`.
Poking a context writes into what `get_context` gave. -/
def actOn (passes : Passes) (number : Nat) (e : Evaluator) : Action → Run Session StepResult
  | .withContext argument => do
    withContext number argument
    return .same number
  | .resetContext => do
    modify (clear number)
    return .same number
  | .evaluate argument => return .evaluated (← passes.evaluate number (.given argument))
  | .explain argument => return .explained (← passes.explain number (.given argument))
  | .getContext => return .context e.accumulated
  | .pokeContext key v => do
    Run.needKey key
    return .context (Layer.insert key (.plain v) e.accumulated)
  | .fork name => do
    let forkNumber ← fork number e
    modify (bind name forkNumber)
    return .forked forkNumber (← Run.ofExcept e.shown) e.strict
  | .describe => return .described e (← Run.ofExcept e.shown)
  | .make _ | .setProcess _ => return .done

/-- Acts on the evaluator of a name, if there is one. -/
def actOnNamed (passes : Passes) (on : String) (action : Action) : Run Session StepResult := do
  let s ← get
  match s.number? on with
  | none => return .skipped
  | some number =>
    match s.evaluators[number]? with
    | none => return .skipped
    | some e => actOn passes number e action

/-- Takes a step. -/
def step (passes : Passes) : Step → Run Session StepResult
  | .mk on (.make setup) => do
    let number ← make setup
    modify (bind on number)
    match (← get).evaluators[number]? with
    | none => return .skipped
    | some e => return .made number (← Run.ofExcept e.shown)
  | .mk _ (.setProcess changes) => do
    modify fun s => { s with process := s.process.change changes }
    return .done
  | .mk on action => actOnNamed passes on action

end Session

end NamedConditions
