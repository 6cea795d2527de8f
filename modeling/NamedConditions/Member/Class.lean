import NamedConditions.Member.Thing
import NamedConditions.Text.Split
/-!
Classes of things: what a class says about the names of its members. A class has groups of names,
and all names of a group stand for the same kind of member; a name that a class does not have may be
one of its ancestors'.
-/
namespace NamedConditions

/-- What a function that was written for a class shows of how it was written. -/
inductive Trait
  /-- It is described in words. -/
  | described
  /-- Some of its arguments have usual values. -/
  | defaults
  /-- Some arguments that are given by name have usual values. -/
  | namedDefaults
  /-- It uses names from elsewhere. -/
  | names
  /-- It has names of its own. -/
  | locals
  /-- It uses names of a function around it. -/
  | outer
  /-- Functions inside it use its names. -/
  | shared
  /-- It stands in front of another function. -/
  | wraps
  deriving DecidableEq

/-- How a class keeps the parts of its values. -/
inductive Access
  /-- The host computes the part. -/
  | computed (isDescribed : Bool)
  /-- The part has a place in the value. -/
  | slot (isDescribed : Bool)
  /-- A written function computes the part. -/
  | property (traits : List Trait)

/-- What a name of a class stands for. -/
inductive MemberKind
  /-- A function of the host behind an operator. -/
  | operator
  /-- A function of the host, which may be described, in words and by its arguments. -/
  | function (isDescribed hasSignature : Bool)
  /-- A function of the host that belongs to the class. -/
  | classFunction (hasSignature : Bool)
  /-- A function of the host that is called without a value; it may belong to the class. -/
  | freeFunction (ofClass : Bool)
  /-- A written function. -/
  | method (traits : List Trait)
  /-- A written function that is called without a value. -/
  | freeMethod (traits : List Trait)
  /-- A written function that belongs to the class. -/
  | classMethod (traits : List Trait)
  /-- A part of the values, and what it is unless a value holds it itself. -/
  | part (access : Access) (gives : Option Thing)
  /-- A thing that is the same for the class and for its values. -/
  | constant (gives : Thing)

/-- Names that stand for members of one kind. -/
structure MemberGroup where
  kind : MemberKind
  names : List String

/-- A class of things. -/
structure HostClass where
  name : String
  /-- The classes behind the class, in the order in which they are asked. -/
  ancestors : List String := ["object"]
  isDescribed : Bool := true
  hasSignature : Bool := false
  /-- Whether the class was written, rather than built into the host. -/
  isWritten : Bool := false
  isAbstract : Bool := false
  groups : List MemberGroup

namespace MemberGroup

/-- A group of the names that stand in a text between blanks. -/
def ofText (kind : MemberKind) (names : String) : MemberGroup := ⟨kind, Text.piecesOf ' ' names⟩

/-- Functions behind operators. -/
def operators (names : String) : MemberGroup := ofText .operator names

/-- Functions that are described in words and by their arguments. -/
def functions (names : String) : MemberGroup := ofText (.function true true) names

/-- Functions that are described in words alone. -/
def wordedFunctions (names : String) : MemberGroup := ofText (.function true false) names

/-- Functions that are described by their arguments alone. -/
def signedFunctions (names : String) : MemberGroup := ofText (.function false true) names

/-- Functions that are not described. -/
def bareFunctions (names : String) : MemberGroup := ofText (.function false false) names

/-- Functions of a class that are described in words and by their arguments. -/
def classFunctions (names : String) : MemberGroup := ofText (.classFunction true) names

/-- Functions of a class that are described in words alone. -/
def wordedClassFunctions (names : String) : MemberGroup := ofText (.classFunction false) names

/-- Functions that belong neither to a value nor to a class. -/
def freeFunctions (names : String) : MemberGroup := ofText (.freeFunction false) names

/-- Written functions. -/
def methods (traits : List Trait) (names : String) : MemberGroup := ofText (.method traits) names

/-- Written functions that are called without a value. -/
def freeMethods (traits : List Trait) (names : String) : MemberGroup :=
  ofText (.freeMethod traits) names

/-- Written functions that belong to a class. -/
def classMethods (traits : List Trait) (names : String) : MemberGroup :=
  ofText (.classMethod traits) names

/-- Parts of values. -/
def parts (access : Access) (gives : Thing) (names : String) : MemberGroup :=
  ofText (.part access (some gives)) names

/-- Parts that every value holds itself. -/
def heldParts (access : Access) (names : String) : MemberGroup := ofText (.part access none) names

/-- Things that are the same for a class and for its values. -/
def constants (gives : Thing) (names : String) : MemberGroup := ofText (.constant gives) names

/-! ## Groups of many classes -/

/-- The function that makes values of a class. -/
def maker : MemberGroup := ofText (.freeFunction true) "__new__"

/-- Operators that compare, beside the one that looks for members. -/
def comparisons : MemberGroup :=
  operators "__eq__ __ge__ __getattribute__ __gt__ __le__ __lt__ __ne__"

/-- Operators of what has items in order. -/
def orderedOperators : MemberGroup :=
  operators "__add__ __contains__ __getitem__ __iter__ __len__ __mul__ __rmul__"

/-- Operators that change what has items in order. -/
def changingOperators : MemberGroup := operators "__delitem__ __iadd__ __imul__ __setitem__"

/-- Values of the class are no keys. -/
def unhashable : MemberGroup := constants .nothing "__hash__"

/-- The place of a class that was written. -/
def placed : MemberGroup := constants .text "__module__"

/-- The values of a class that was written have a dictionary each. -/
def instanceDictionary : MemberGroup := parts (.computed true) .dictionary "__dict__"

/-- What refers to a value without holding it. -/
def weakReference : MemberGroup := parts (.computed true) .nothing "__weakref__"

/-- The values of a class have no parts in places of their own. -/
def noSlots : MemberGroup := constants .noItems "__slots__"

/-- What an abstract class keeps about the classes below it. -/
def abstractRegistry : MemberGroup := constants (.other "_abc_data" []) "_abc_impl"

/-- The functions that an abstract class leaves open. -/
def openMethods : MemberGroup := constants .frozenSet "__abstractmethods__"

end MemberGroup

namespace HostClass

/-- What a name stands for in a class itself: what its first group with the name says. Every class
has a description, or nothing in its place. -/
def own? (c : HostClass) (name : String) : Option MemberKind :=
  match c.groups.find? fun g => name ∈ g.names with
  | some g => some g.kind
  | none => if name = "__doc__" then some (.constant (.onlyIf c.isDescribed .text)) else none

end HostClass

end NamedConditions
