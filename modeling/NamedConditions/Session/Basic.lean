import NamedConditions.Condition.Validation
import NamedConditions.Context.Layering
import NamedConditions.Context.Source
import NamedConditions.Pass.Report
import NamedConditions.Trace.Span
/-!
Sessions: the evaluators that exist, under their names, with everything that they share, a journal
of what one step left behind, and a history of what was done to accumulated contexts. An evaluator
holds a valid condition list, a fallback, the number of its source and an accumulated context.

Main statement: changing the context of one evaluator leaves those of all others alone.
-/
namespace NamedConditions

/-- Refuses a value that cannot be a key. -/
def Run.needKey {σ : Type} (key : Value) : Run σ Unit :=
  match key.keyRefusal? with
  | some reason => Run.raise (.ofText .badType reason)
  | none => pure ()

/-- An evaluator: what a `ConditionEvaluator` keeps. Its conditions are made ready anew when they
are needed. -/
structure Evaluator where
  specs : List Spec
  fallback : Value
  strict : Bool
  /-- The number of the source of its environment, which its forks share. -/
  source : Nat
  accumulated : Context

namespace Evaluator

/-- The conditions, made ready. -/
def conditions (e : Evaluator) : List Condition := Condition.ofSpecs e.specs

/-- An evaluator of the number, as a value at the moment. -/
def value (number : Nat) (e : Evaluator) : Value :=
  .evaluator number e.specs.length (Layer.keys e.accumulated)

/-- An evaluator as it is shown: the number of conditions and the texts of the keys of its
context, sorted. -/
def shown (e : Evaluator) : Except Raised String :=
  (Value.keyTexts (Layer.keys e.accumulated)).map (Value.evaluatorText e.specs.length)

end Evaluator

/-- What one step of a session left behind: logged values, notes, spans, the number of times that
sources were read of which that is counted, and the numbers of all sources that were read, the
earliest first. -/
structure Journal where
  log : List Value
  notes : List String
  trace : Trace
  reads : Nat
  readings : List Nat

/-- The journal of a step that did nothing. -/
def Journal.empty : Journal := ⟨[], [], .empty, 0, []⟩

/-- Something that was done to the accumulated context of an evaluator. -/
inductive Deed
  | made (number : Nat)
  | forked (parent child : Nat)
  /-- A context argument was given; a mapping is kept with the slots that hold its values. -/
  | given (number : Nat) (layer : Option Context)
  | cleared (number : Nat)

/-- The state of a session. -/
structure Session where
  store : Store
  sources : List Provider
  evaluators : List Evaluator
  names : List (String × Nat)
  process : Variables
  journal : Journal
  /-- What was done to accumulated contexts, the earliest first. -/
  history : List Deed

namespace Session

/-- A session with no evaluator. -/
def start (process : Variables) : Session := ⟨.empty, [], [], [], process, .empty, []⟩

/-- The number of the evaluator of a name. -/
def number? (s : Session) (name : String) : Option Nat := s.names.lookup name

/-- The evaluator of a name. -/
def evaluator? (s : Session) (name : String) : Option Evaluator :=
  (s.number? name).bind fun n => s.evaluators[n]?

/-- The evaluator of a number, as a value at the moment. -/
def evaluatorValue (s : Session) (number : Nat) : Value :=
  s.evaluators[number]?.elim (.evaluator number 0 []) (Evaluator.value number)

/-- Gives a name to an evaluator. -/
def bind (name : String) (number : Nat) (s : Session) : Session :=
  { s with names := (name, number) :: s.names }

/-- Changes the journal. -/
def onJournal (f : Journal → Journal) (s : Session) : Session := { s with journal := f s.journal }

/-- Changes the trace of the journal. -/
def onTrace (f : Trace → Trace) : Session → Session :=
  onJournal fun j => { j with trace := f j.trace }

/-- Adds a note for whoever debugs a condition list. -/
def note (text : String) : Session → Session :=
  onJournal fun j => { j with notes := j.notes ++ [text] }

/-- Logs a value. -/
def logValue (v : Value) : Session → Session :=
  onJournal fun j => { j with log := j.log ++ [v] }

/-- Enters that a source is read. -/
def noteReading (number : Nat) : Session → Session :=
  onJournal fun j => { j with readings := j.readings ++ [number] }

/-- Changes the accumulated context of an evaluator. -/
def onAccumulated (number : Nat) (f : Context → Context) (s : Session) : Session :=
  { s with evaluators :=
      s.evaluators.modify number fun e => { e with accumulated := f e.accumulated } }

/-- Adds to the history. -/
def record (d : Deed) (s : Session) : Session := { s with history := s.history ++ [d] }

/-- Merges a layer, if there is one, into the accumulated context of an evaluator. -/
def give (number : Nat) (layer : Option Context) (s : Session) : Session :=
  (layer.elim s fun c => s.onAccumulated number fun a => Layer.merge a c).record
    (.given number layer)

/-- Clears the accumulated context of an evaluator: `reset_context`. -/
def clear (number : Nat) (s : Session) : Session :=
  (s.onAccumulated number fun _ => []).record (.cleared number)

/-- Adds a source and gives its number. -/
def addSource (p : Provider) (s : Session) : Nat × Session :=
  (s.sources.length, { s with sources := s.sources ++ [p] })

/-- Adds an evaluator and gives its number. -/
def addEvaluator (e : Evaluator) (s : Session) : Nat × Session :=
  (s.evaluators.length, { s with evaluators := s.evaluators ++ [e] })

/-- The source that a setup asks for. -/
def provider : Source → Except Raised Provider
  | .fixed v => v.asEntries.map .fixed
  | .sequence values => .ok (.sequence values)
  | .failing e => .ok (.varying fun _ => .error e)
  | .process => .ok .process

/-- Makes an evaluator and gives its number, as `create_builder` does. A missing condition list is
empty, a missing fallback an empty list. -/
def make (setup : Setup) : Run Session Nat :=
  match setup with
  | .mk conditions fallback strict source => do
    let p ← Run.ofExcept (provider source)
    match validate (conditions.getD (.tuple [])) strict with
    | .error fault => throw (.failure fault.failure)
    | .ok specs =>
      let (sourceNumber, s) := (← get).addSource p
      let (number, s) :=
        s.addEvaluator ⟨specs, fallback.getD (.list []), strict, sourceNumber, []⟩
      set (s.record (.made number))
      return number

/-- Makes an evaluator with the same conditions, fallback and source and with the same context as
an evaluator has now, and gives its number: `fork`. -/
def fork (parent : Nat) (e : Evaluator) : Run Session Nat := do
  match validate (.tuple (e.specs.map Spec.toValue)) e.strict with
  | .error fault => throw (.failure fault.failure)
  | .ok specs =>
    let (number, s) := (← get).addEvaluator { e with specs := specs }
    set (s.record (.forked parent number))
    return number

/-- The entries of a context argument, if it is a mapping (`is_record`). -/
def argumentEntries? (argument : Option Value) : Option Entries := argument.bind Value.entries?

/-- Ignores a context argument that is no mapping: it is noted unless it is absent. -/
def ignore (sort : String) (argument : Option Value) (s : Session) : Session :=
  match argument with
  | none | some .null => s
  | some v => s.note ("Ignoring non-mapping " ++ sort ++ " of type " ++ v.typeName)

/-- Takes a context argument: every entry of a mapping gets a slot, what is no mapping is
ignored. -/
def takeArgument (sort : String) (argument : Option Value) : Run Session (Option Context) := do
  match argumentEntries? argument with
  | some es =>
    let s ← get
    let (c, store) := s.store.context es
    set { s with store := store }
    return some c
  | none =>
    modify (ignore sort argument)
    return none

/-- Merges a context argument into the accumulated context of an evaluator: `with_context`. -/
def withContext (number : Nat) (argument : Option Value) : Run Session Unit := do
  let layer ← takeArgument "context" argument
  modify (give number layer)

/-- The session after a source was read. -/
def afterReading (number : Nat) (p : Provider) (s : Session) : Session :=
  let (_, p', store) := p.read s.process s.store
  let j := s.journal
  { s with
    store := store
    sources := s.sources.set number p'
    journal :=
      { j with
        reads := if p.isCounted then j.reads + 1 else j.reads
        readings := j.readings ++ [number] } }

/-- Reads the source of a number. -/
def readSource (number : Nat) : Run Session Slot := do
  let s ← get
  match s.sources[number]? with
  | none =>
    modify (noteReading number)
    return .plain .null
  | some p =>
    set (s.afterReading number p)
    Run.ofExcept (p.read s.process s.store).1

theorem getElem?_onAccumulated_of_ne {number other : Nat} (h : other ≠ number)
    (f : Context → Context) (s : Session) :
    (s.onAccumulated number f).evaluators[other]? = s.evaluators[other]? := by
  simp [onAccumulated, h.symm]

end Session

end NamedConditions
