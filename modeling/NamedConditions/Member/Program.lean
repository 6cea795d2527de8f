import NamedConditions.Member.Class
/-!
The classes of what conditions are made of: modules, named checks, evaluators, predicates and other
objects.
-/
namespace NamedConditions

namespace HostClass

open MemberGroup

/-- Modules. -/
def moduleClass : HostClass where
  name := "module"
  hasSignature := true
  groups :=
    [maker,
     parts (.computed false) .dictionary "__annotations__",
     operators "__delattr__ __getattribute__ __init__ __repr__ __setattr__",
     parts (.slot false) .dictionary "__dict__",
     wordedFunctions "__dir__"]

/-- What is known of a module before it is loaded. -/
def moduleSpecClass : HostClass where
  name := "ModuleSpec"
  isWritten := true
  groups :=
    [unhashable, placed, instanceDictionary, weakReference,
     methods [.names, .locals] "__eq__ __repr__",
     methods [.namedDefaults, .names, .locals] "__init__",
     parts (.property [.names, .locals]) .nothing "cached",
     parts (.property [.names, .locals]) .truth "has_location",
     parts (.property [.described, .names, .locals]) .text "parent"]

/-- Named checks. -/
def namedCheckClass : HostClass where
  name := "ConditionSpec"
  isWritten := true
  groups :=
    [placed, instanceDictionary, weakReference,
     constants .dictionary "__annotations__ __dataclass_fields__",
     constants (.other "_DataclassParams" []) "__dataclass_params__",
     methods [.names, .locals, .outer] "__delattr__ __init__ __setattr__",
     methods [.names, .locals, .outer, .wraps] "__repr__",
     methods [.names, .locals] "__eq__ __hash__",
     constants .someItems "__match_args__"]

/-- How a class of records was made. -/
def recordParametersClass : HostClass where
  name := "_DataclassParams"
  isDescribed := false
  isWritten := true
  groups :=
    [placed,
     methods [.names, .locals] "__init__ __repr__",
     constants .someItems "__slots__",
     parts (.slot false) .truth "eq frozen init order repr unsafe_hash"]

/-- Evaluators. -/
def evaluatorClass : HostClass where
  name := "ConditionEvaluator"
  isWritten := true
  groups :=
    [placed, instanceDictionary, weakReference,
     methods [.defaults, .namedDefaults, .names, .locals] "__init__",
     methods [.names, .locals] "__repr__ _effective_context",
     heldParts (.property [.names, .locals]) "compiled_conditions conditions default_value",
     methods [.described, .defaults, .names, .locals] "evaluate explain with_context",
     methods [.described, .names, .locals] "fork get_context reset_context",
     parts (.property [.names, .locals]) .truth "strict"]

/-- Objects of a class of their own. -/
def customClass : HostClass where
  name := "Obj"
  isDescribed := false
  isWritten := true
  groups :=
    [placed, instanceDictionary, weakReference]

/-- Predicates. -/
def predicateClass : HostClass where
  name := "Pred"
  isDescribed := false
  isWritten := true
  groups :=
    [placed, instanceDictionary, weakReference,
     methods [.locals] "__call__",
     methods [.names, .locals] "__init__"]

/-- All classes of this module. -/
def programClasses : List HostClass :=
  [moduleClass, moduleSpecClass, namedCheckClass, recordParametersClass, evaluatorClass,
   customClass, predicateClass]

end HostClass

end NamedConditions
