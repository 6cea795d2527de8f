import NamedConditions.Number.Exact
import NamedConditions.Failure.Kind
import NamedConditions.Text.CodePoints
/-!
The values that conditions are about. A check, a name, a fallback and everything in a context is a
`Value`. Predicates are values too, so the expressions that they run, and the session steps that an
expression may take, are defined together with values.

Nothing here can change: what can, a dictionary or a list that several contexts hold, is in `Store`.
-/
namespace NamedConditions

/-- Functions of the host that can stand as a check; each is called with the context. -/
inductive Native
  | len | bool | list | dict | int | any | all | callable
  deriving DecidableEq

mutual

/-- A value. -/
inductive Value
  | null
  | bool (b : Bool)
  | int (n : Int)
  | float (x : Binary64)
  | complex (re im : Binary64)
  | str (s : String)
  /-- A text in which halves of surrogate pairs stand alone. -/
  | brokenStr (codes : CodePoints)
  | bytes (octets : List UInt8)
  /-- Octets that can change in place elsewhere; here they do not. -/
  | byteArray (octets : List UInt8)
  | list (items : List Value)
  | tuple (items : List Value)
  | set (items : List Value)
  | frozenSet (items : List Value)
  /-- The whole numbers from 0 up to, not including, `stop`. -/
  | range (stop : Int)
  | dict (entries : List (Value × Value))
  /-- A named check, as a value. -/
  | spec (check name : Value)
  /-- An object with an identity of its own. -/
  | object (id : Nat) (o : Object)
  /-- An evaluator of the running session, by its number, with what it is shown by at the moment:
  the number of its conditions and the keys of its context. -/
  | evaluator (number conditionCount : Nat) (keys : List Value)

/-- What an object with an identity is. -/
inductive Object
  /-- A view of octets; a sequence of whole numbers. -/
  | byteView (octets : List UInt8)
  | decimal (d : Decimal)
  | fraction (q : Rat)
  | deque (items : List Value)
  | userList (items : List Value)
  /-- A text of a class of its own. -/
  | subText (s : String)
  /-- A mapping that is no dictionary. -/
  | mapping (entries : List (Value × Value))
  /-- A read-only view of a dictionary. -/
  | readOnly (entries : List (Value × Value))
  /-- The keys of a dictionary: a collection, no sequence. -/
  | keys (entries : List (Value × Value))
  /-- Named attributes. -/
  | record (attributes : List (String × Value))
  | native (f : Native)
  /-- Runs an expression on the context; `truth` is what it gives when asked for its own truth. -/
  | predicate (truth : Option Value) (body : Expr)
  | evaluatorOf (setup : Setup)
  | plain
  /-- Answers `returns` when asked for its truth. -/
  | truth (returns : Value)
  /-- Fails when asked for its truth. -/
  | truthFails (error : Raised)
  /-- Has a length and nothing else. -/
  | sized (length : Int)
  | collection (length : Int)
  | iterator
  /-- Fails when asked for its text. -/
  | textFails (error : Raised)
  /-- Has a text of its own, alone and inside other values. -/
  | labelled (text shown : String)

/-- An error to raise: its kind and arguments. -/
inductive Raised
  | mk (kind : ErrorKind) (arguments : List Value)

/-- What a predicate computes from its context. -/
inductive Expr
  | lit (v : Value)
  | context
  | keys
  | lookUp (key fallback : Value)
  | has (key : Value)
  /-- Looks up one key after another. -/
  | item (path : List Value)
  | eq (a b : Expr)
  | not (e : Expr)
  | all (es : List Expr)
  | any (es : List Expr)
  | seq (es : List Expr)
  | log (e : Expr)
  | raise (error : Raised)
  /-- Gives nothing where an expression fails; what the expression did until then stays done. -/
  | attempt (e : Expr)
  | assign (key v : Value)
  | remove (key : Value)
  /-- Writes a key of the dictionary under `env`. -/
  | assignEnv (key v : Value)
  /-- Evaluates a new evaluator on the context. -/
  | nested (setup : Setup)
  | step (s : Step)

/-- What an evaluator is made from; what is missing has its usual value. -/
inductive Setup
  | mk (conditions fallback : Option Value) (strict : Bool) (source : Source)

/-- Where an evaluator gets its environment from. -/
inductive Source
  /-- The same entries every time. -/
  | fixed (values : Value)
  /-- One value after another, the last one again and again. -/
  | sequence (values : List Value)
  | failing (error : Raised)
  /-- The variables of the process. -/
  | process

/-- A step of a session, on the evaluator of a name. -/
inductive Step
  | mk (on : String) (action : Action)

/-- What a step does. -/
inductive Action
  | make (setup : Setup)
  | withContext (argument : Option Value)
  | evaluate (argument : Option Value)
  | explain (argument : Option Value)
  | resetContext
  | getContext
  /-- Writes a key of a copy of the accumulated context. -/
  | pokeContext (key v : Value)
  | fork (name : String)
  | describe
  /-- Sets or removes variables of the process. -/
  | setProcess (changes : List (String × Option String))

end

namespace Raised

def kind : Raised → ErrorKind
  | mk kind _ => kind

def arguments : Raised → List Value
  | mk _ arguments => arguments

/-- An error with a text as its only argument. -/
def ofText (kind : ErrorKind) (text : String) : Raised := mk kind [.str text]

end Raised

/-- The entries of a mapping, first come first. -/
abbrev Entries := List (Value × Value)

namespace Value

/-! ## Views -/

/-- The exact view of a number of any kind. -/
def number? : Value → Option Number
  | bool b => some (.ofInt (if b then 1 else 0))
  | int n => some (.ofInt n)
  | float x => some (.ofExact (.ofBinary64 x))
  | complex re im => some ⟨.ofBinary64 re, .ofBinary64 im, false⟩
  | object _ (.decimal d) => some (.ofDecimal d)
  | object _ (.fraction q) => some (.ofExact (.ofRat q))
  | _ => none

/-- The whole number that a value is; a truth value counts as one. -/
def whole? : Value → Option Int
  | bool b => some (if b then 1 else 0)
  | int n => some n
  | _ => none

/-- The characters of a text of any class. -/
def text? : Value → Option String
  | str s => some s
  | object _ (.subText s) => some s
  | _ => none

/-- The entries of a mapping of any kind. -/
def entries? : Value → Option Entries
  | dict es => some es
  | object _ (.mapping es) => some es
  | object _ (.readOnly es) => some es
  | _ => none

/-- The octets of a byte string or byte array. -/
def octets? : Value → Option (List UInt8)
  | bytes os => some os
  | byteArray os => some os
  | _ => none

/-- The octets of a byte string, byte array or view. -/
def viewedOctets? : Value → Option (List UInt8)
  | object _ (.byteView os) => some os
  | v => v.octets?

/-- The text of a run of code points. -/
def ofCodePoints (codes : CodePoints) : Value := codes.toString?.elim (brokenStr codes) str

/-- The items of a sequence, an ordered collection that is no text and no byte string: of what
`_is_sequence` holds for. -/
def items? : Value → Option (List Value)
  | list xs => some xs
  | tuple xs => some xs
  | range stop => some ((List.range stop.toNat).map fun i => .int (Int.ofNat i))
  | object _ (.byteView os) => some (os.map fun o => .int o.toNat)
  | object _ (.deque xs) => some xs
  | object _ (.userList xs) => some xs
  | _ => none

/-- The number of items of a sequence, which is known without the items. -/
def length? : Value → Option Nat
  | list xs => some xs.length
  | tuple xs => some xs.length
  | range stop => some stop.toNat
  | object _ (.byteView os) => some os.length
  | object _ (.deque xs) => some xs.length
  | object _ (.userList xs) => some xs.length
  | _ => none

/-- Whether the value is a record, a mapping of any kind: `is_record`. -/
def isRecord (v : Value) : Bool := v.entries?.isSome

/-- Whether the value can be called with a context. -/
def isCallable : Value → Bool
  | object _ (.native _) => true
  | object _ (.predicate ..) => true
  | _ => false

/-- Whether the value is a truth value itself. -/
def isBool : Value → Bool
  | bool _ => true
  | _ => false

end Value

end NamedConditions
