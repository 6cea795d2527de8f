import NamedConditions.Value.Iterate
import NamedConditions.Value.Render
/-!
What a path of names can lead to: a value, a class, a module, or another thing of the host, such as
a function. Of a thing of the host nothing matters but the name of its class and what it holds.

Main statement: the type of a value goes by the same name, wherever the value was found.
-/
namespace NamedConditions

/-- Anything that a name can give. -/
inductive Thing
  | value (v : Value)
  /-- A class by its name, with the names of the functions that are added to it. -/
  | hostClass (name : String) (added : List String) (isAbstract : Bool)
  /-- A module that was loaded, with its attributes. -/
  | loaded (attributes : List (String × Value))
  /-- Another thing of the host: the name of its class, and what it holds. -/
  | other (className : String) (held : List (String × Thing))

namespace Thing

/-! ## Things that stand for all of their sort -/

/-- A text of which nothing matters. -/
def text : Thing := .value (.str "")

/-- Nothing. -/
def nothing : Thing := .value .null

/-- A truth value of which nothing matters. -/
def truth : Thing := .value (.bool true)

/-- A whole number of which nothing matters. -/
def count : Thing := .value (.int 0)

/-- A floating-point number of which nothing matters. -/
def measure : Thing := .value (.float .zero)

/-- A decimal number of which nothing matters. -/
def decimal : Thing := .value (.object 0 (.decimal (.infinite false)))

/-- A fraction of which nothing matters. -/
def fraction : Thing := .value (.object 0 (.fraction 0))

/-- An octet string of which nothing matters. -/
def octets : Thing := .value (.bytes [])

/-- A dictionary of which nothing matters. -/
def dictionary : Thing := .value (.dict [])

/-- A list without items. -/
def emptyList : Thing := .value (.list [])

/-- A tuple without items. -/
def noItems : Thing := .value (.tuple [])

/-- A tuple with items that are no records. -/
def someItems : Thing := .value (.tuple [.object 0 .plain])

/-- A frozen set of which nothing matters. -/
def frozenSet : Thing := .value (.frozenSet [])

/-- A read-only view of a dictionary of which nothing matters. -/
def readOnlyView : Thing := .value (.object 0 (.readOnly []))

/-- A tuple that has items or none. -/
def tupleIf (hasItems : Bool) : Thing := if hasItems then someItems else noItems

/-- A thing, or nothing. -/
def onlyIf (isPresent : Bool) (t : Thing) : Thing := if isPresent then t else nothing

/-! ## Types -/

/-- The name of a thing's type. -/
def typeName : Thing → String
  | value v => v.typeName
  | hostClass _ _ isAbstract => if isAbstract then "ABCMeta" else "type"
  | loaded _ => "module"
  | other className _ => className

/-- The name of a thing's type, behind the place where the type is found if it is not a basic
one. -/
def typePath : Thing → String
  | value v => v.typePath
  | t => t.typeName

/-- Whether a thing is nothing. -/
def isNothing : Thing → Bool
  | value .null => true
  | _ => false

/-- Whether a thing can be walked. -/
def isIterable : Thing → Bool
  | value v => v.isIterable
  | _ => false

@[simp] theorem typeName_value (v : Value) : (value v).typeName = v.typeName := rfl

end Thing

end NamedConditions
