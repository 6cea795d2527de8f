import NamedConditions.Context.Store
import NamedConditions.Value.Iterate
import NamedConditions.Value.Truth
/-!
Sources of the environment. A fixed source gives a new copy of the same entries at every reading; a
varying one gives a new copy of a value or raises, at every reading something of its own; the
process source gives a new copy of the variables.
-/
namespace NamedConditions

/-- The variables of the process, in the order in which they were set. -/
abbrev Variables := List (String × String)

namespace Variables

/-- Sets a variable; one that exists keeps its place. -/
def set (name value : String) : Variables → Variables
  | [] => [(name, value)]
  | e :: p => if e.1 = name then (name, value) :: p else e :: set name value p

/-- Removes a variable. -/
def remove (name : String) (p : Variables) : Variables := p.filter fun e => e.1 ≠ name

/-- Sets or removes variables one after another. -/
def change (p : Variables) (changes : List (String × Option String)) : Variables :=
  changes.foldl (fun p c => c.2.elim (p.remove c.1) fun v => p.set c.1 v) p

/-- The variables as the entries of a dictionary. -/
def entries (p : Variables) : Entries := p.map fun e => (.str e.1, .str e.2)

end Variables

/-- A source of the environment, as an evaluator holds it: `EnvProvider`. -/
inductive Provider
  /-- What `static_env` gives. -/
  | fixed (es : Entries)
  /-- What the next reading gives or raises, and what those after it do. -/
  | varying (outcomes : Nat → Except Raised Value)
  /-- `os_environ_snapshot`. -/
  | process

namespace Provider

/-- The source that gives one value after another, and then the last one again and again. -/
def sequence (values : List Value) : Provider :=
  varying fun n => .ok ((values[n]?.or values.getLast?).getD .null)

/-- Reads a source: what it gives or raises, the source afterwards and the store afterwards. -/
def read (p : Provider) (process : Variables) (s : Store) :
    Except Raised Slot × Provider × Store :=
  match p with
  | fixed es =>
    let (number, s) := s.allocate (.dict es)
    (.ok (.shared number), fixed es, s)
  | varying outcomes =>
    let later := varying fun n => outcomes (n + 1)
    match outcomes 0 with
    | .ok v =>
      let (slot, s) := s.slot v
      (.ok slot, later, s)
    | .error e => (.error e, later, s)
  | .process =>
    let (number, s) := s.allocate (.dict process.entries)
    (.ok (.shared number), .process, s)

/-- Whether readings of the source are counted. -/
def isCounted : Provider → Bool
  | process => false
  | _ => true

end Provider

namespace Value

/-- The error of making an entry of a dictionary from what has no items. -/
def noItemsAt (index : Nat) : Raised :=
  .ofText .badType ("cannot convert dictionary update sequence element #" ++ toString index ++
    " to a sequence")

/-- An entry of a dictionary that is made from pairs. -/
def entryAt (index : Nat) (v : Value) : Except Raised (Value × Value) :=
  match v.iterate? with
  | none => .error (noItemsAt index)
  | some [key, value] =>
    match key.keyRefusal? with
    | some reason => .error (.ofText .badType reason)
    | none => .ok (key, value)
  | some xs => .error (.ofText .badValue
      ("dictionary update sequence element #" ++ toString index ++ " has length " ++
        toString xs.length ++ "; 2 is required"))

/-- The entries of a dictionary that is made from pairs, written from a place on. -/
def entriesAt (index : Nat) (written : Entries) : List Value → Except Raised Entries
  | [] => .ok written
  | v :: vs =>
    match entryAt index v with
    | .error e => .error e
    | .ok (key, value) => entriesAt (index + 1) (Layer.insert key value written) vs

/-- The entries of the dictionary that is made from a record of attributes with a value under
`keys`, which is called for the keys and given nothing: what the types of the host make of nothing
has no keys, or is none that can be gone through. -/
def entriesFromKeys (keys : Value) : Except Raised Entries :=
  let refused (reason : String) : Except Raised Entries := .error (.ofText .badType reason)
  match keys with
  | object _ (.native f) =>
    match f with
    | .list | .dict => .ok []
    | .int | .bool =>
      refused ("types.SimpleNamespace.keys() returned a non-iterable (type " ++ f.name ++ ")")
    | f => refused (f.name ++ "() takes exactly one argument (0 given)")
  | object _ (.predicate ..) =>
    refused "Pred.__call__() missing 1 required positional argument: 'ctx'"
  | v => refused ("'" ++ v.typePath ++ "' object is not callable")

/-- The entries of the dictionary that is made from a value that can say its keys itself, if it is
such a value but no mapping. -/
def selfKeyedEntries? (v : Value) : Option (Except Raised Entries) :=
  match v with
  | object _ (.native .dict) =>
    some (.error (.ofText .badType "unbound method dict.keys() needs an argument"))
  | object _ (.record attributes) => (attributes.lookup "keys").map entriesFromKeys
  | _ => none

/-- The entries of the dictionary that is made from a value that cannot say its keys: a run of
pairs. The items of a range are no pairs, so only whether there is a first one matters. -/
def pairedEntries (v : Value) : Except Raised Entries :=
  match v with
  | range stop => if 0 < stop then .error (noItemsAt 0) else .ok []
  | v =>
    match v.iterate? with
    | some vs => entriesAt 0 [] vs
    | none => .error (.ofText .badType ("'" ++ v.typePath ++ "' object is not iterable"))

/-- The entries of the dictionary that is made from a value: a mapping, something else that can say
its keys, or a run of pairs. -/
def asEntries (v : Value) : Except Raised Entries :=
  match v.entries? with
  | some es => .ok es
  | none => v.selfKeyedEntries?.getD v.pairedEntries

/-- The entries that an optional layer adds: none if by the host's rule it is not true. -/
def optionalEntries (v : Value) : Except Raised Entries := do
  if ← v.hostTruth then v.asEntries else return []

theorem asEntries_of_entries? {v : Value} {es : Entries} (h : v.entries? = some es) :
    v.asEntries = .ok es := by
  simp [asEntries, h]

end Value

end NamedConditions
