import NamedConditions.Session.Step
import NamedConditions.Text.Split
/-!
What predicates run in. A predicate is called with the context of a pass, which all conditions of
the pass share, or with a name that a module lacks, and runs inside the session, in which it may
take steps; so it runs in a frame of the two. What it finds in a context can still change before it
is used, and is therefore kept as the slot in which it was found.

Main statement: what is found under a key is the slot of the context, which resolves to what the
slot stands for.
-/
namespace NamedConditions

/-- What a predicate is called with. -/
inductive Subject
  /-- The context of a pass. -/
  | context (c : Context)
  /-- A name that a module lacks. -/
  | name (s : String)

/-- A write of a key of a context. -/
inductive Write
  | put (key : Value) (s : Slot)
  | drop (key : Value)

/-- A context after a write. -/
def Write.apply (c : Context) : Write → Context
  | put key s => Layer.insert key s c
  | drop key => Layer.erase key c

/-- What a predicate runs in: the session, what it is called with, and what the predicates of the
pass have written into that, the earliest first. -/
structure Frame where
  session : Session
  subject : Subject
  writes : List Write

/-- What an expression gives, before it is used. -/
inductive Operand
  | slot (s : Slot)
  /-- What the predicate is called with, itself. -/
  | subject
  /-- A dictionary of its own, of which the slots may be shared. -/
  | layer (c : Context)
  /-- An evaluator of the session, by its number. -/
  | evaluator (number : Nat)

namespace Operand

/-- A value that nothing changes. -/
def ofValue (v : Value) : Operand := slot (.plain v)

end Operand

/-- What a predicate that takes a step gets from it. -/
def StepResult.operand : StepResult → Operand
  | made number _ | same number => .evaluator number
  | evaluated a => .ofValue a.value
  | explained r => .ofValue r.answer.value
  | context c => .layer c
  | forked number _ _ => .evaluator number
  | described .. | done | skipped => .ofValue .null

namespace Subject

/-- What a predicate is called with, as a value at the moment. -/
def value (store : Store) : Subject → Value
  | context c => .dict (store.values c)
  | name s => .str s

/-- A write into what a predicate is called with; a text takes none. -/
def write (w : Write) : Subject → Subject
  | context c => context (w.apply c)
  | name s => name s

/-- What a predicate is called with, as the argument of a pass. -/
def argument : Subject → PassArgument
  | context c => .context c
  | name s => .given (some (.str s))

end Subject

namespace Frame

/-- What an operand is at the moment. -/
def resolve (f : Frame) : Operand → Value
  | .slot s => f.session.store.value s
  | .subject => f.subject.value f.session.store
  | .layer c => .dict (f.session.store.values c)
  | .evaluator number => f.session.evaluatorValue number

/-- Writes a key of what the predicate is called with. -/
def write (w : Write) (f : Frame) : Frame :=
  { f with subject := f.subject.write w, writes := f.writes ++ [w] }

/-- Runs something in the session of a frame. -/
def inSession {α : Type} (r : Run Session α) : Run Frame α := fun f =>
  match r f.session with
  | .ok a s => .ok a { f with session := s }
  | .error stop s => .error stop { f with session := s }

/-- The context that a predicate is called with; a text has no member of a mapping. -/
def contextFor (member : String) : Run Frame Context := do
  match (← get).subject with
  | .context c => return c
  | .name _ =>
    Run.raise (.ofText .missingMember ("'str' object has no attribute '" ++ member ++ "'"))

/-- The slot under a key. -/
def lookUp? (key : Value) : Run Frame (Option Slot) := do
  let c ← contextFor "get"
  Run.needKey key
  return Layer.find? c key

/-- Whether a key is present in a context, or a text occurs in a name. -/
def has (key : Value) : Run Frame Bool := do
  match (← get).subject with
  | .context c =>
    Run.needKey key
    return Layer.has c key
  | .name s =>
    match key, key.text? with
    | _, some part => return Text.occursIn part.toList s.toList
    | .brokenStr _, none => return false
    | key, none => Run.raise (.ofText .badType
        ("'in <string>' requires string as left operand, not " ++ key.typePath))

/-- Removes a key of the context and gives what stood under it. Where there is nothing to remove,
any value passes for a key. -/
def remove (key : Value) : Run Frame Operand := do
  let c ← contextFor "pop"
  if c.isEmpty then return .ofValue .null
  Run.needKey key
  modify (write (.drop key))
  return (Layer.find? c key).elim (.ofValue .null) .slot

/-- Looks up one key after another in a mapping. -/
def follow : List Value → Value → Except Raised Value
  | [], v => .ok v
  | key :: path, v =>
    match v.entries? with
    | none => .error (.ofText .badType "not a mapping")
    | some es =>
      match key.keyRefusal?, Layer.find? es key with
      | some reason, _ => .error (.ofText .badType reason)
      | none, none => .error (.mk .missingKey [key])
      | none, some v => follow path v

/-- Looks up one key after another, from what the predicate is called with. -/
def item (path : List Value) : Run Frame Operand := do
  let f ← get
  match path, f.subject with
  | [], _ => return .subject
  | [key], .context c =>
    Run.needKey key
    match Layer.find? c key with
    | some s => return .slot s
    | none => Run.raise (.mk .missingKey [key])
  | path, subject => do
    return .ofValue (← Run.ofExcept (follow path (subject.value f.session.store)))

/-- A frame with a slot for a value under a key. -/
def put (key v : Value) (f : Frame) : Frame :=
  let (slot, store) := f.session.store.slot v
  write (.put key slot) { f with session := { f.session with store := store } }

/-- Writes a key of the context. -/
def assign (key v : Value) : Run Frame Unit := do
  match (← get).subject with
  | .name _ =>
    Run.raise (.ofText .badType "'str' object does not support item assignment")
  | .context _ =>
    Run.needKey key
    modify (put key v)

/-- Writes an item of what the context holds under `env`; every context that shares it sees the
write. -/
def assignEnv (key v : Value) : Run Frame Unit := do
  let f ← get
  match f.subject with
  | .name _ => Run.raise (.ofText .badType "string indices must be integers, not 'str'")
  | .context c =>
    match Layer.find? c Context.envKey with
    | none => Run.raise (.mk .missingKey [Context.envKey])
    | some (.plain w) =>
      let w ← Run.ofExcept (Value.withItem key v w)
      modify (write (.put Context.envKey (.plain w)))
    | some (.shared number) =>
      let store ← Run.ofExcept (f.session.store.write number key v)
      modify fun f => { f with session := { f.session with store := store } }

/-- Looking up changes nothing and gives the slot of the context. -/
theorem lookUp?_run {key : Value} (hk : key.keyRefusal? = none) (s : Session) (c : Context)
    (ws : List Write) :
    lookUp? key ⟨s, .context c, ws⟩ = .ok (Layer.find? c key) ⟨s, .context c, ws⟩ := by
  simp only [lookUp?, contextFor, Run.needKey, hk]
  rfl

end Frame

end NamedConditions
