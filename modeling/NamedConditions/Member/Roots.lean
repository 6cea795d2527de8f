import NamedConditions.Member.Class
/-!
The classes at the root of all others: that of every thing, those of classes, and that of nothing.
-/
namespace NamedConditions

namespace HostClass

open MemberGroup

/-- What every thing is. -/
def rootClass : HostClass where
  name := "object"
  ancestors := []
  hasSignature := true
  groups :=
    [maker, comparisons,
     heldParts (.computed true) "__class__",
     operators "__delattr__ __hash__ __init__ __repr__ __setattr__ __str__",
     functions "__dir__ __format__ __getstate__ __reduce__ __reduce_ex__ __sizeof__",
     wordedClassFunctions "__init_subclass__ __subclasshook__"]

/-- Classes. -/
def typeClass : HostClass where
  name := "type"
  groups :=
    [maker,
     heldParts (.computed false) "__abstractmethods__ __annotations__",
     heldParts (.slot false) "__base__",
     parts (.computed false) .someItems "__bases__",
     parts (.slot false) .count ("__basicsize__ __dictoffset__ __flags__ __itemsize__ " ++
       "__weakrefoffset__"),
     operators ("__call__ __delattr__ __getattribute__ __init__ __or__ __repr__ __ror__ " ++
       "__setattr__"),
     parts (.computed false) .readOnlyView "__dict__",
     functions "__dir__ __instancecheck__ __sizeof__ __subclasscheck__ __subclasses__ mro",
     parts (.computed false) .text "__doc__ __module__ __name__ __qualname__ __text_signature__",
     parts (.slot false) .someItems "__mro__",
     wordedClassFunctions "__prepare__"]

/-- Abstract classes. -/
def abstractTypeClass : HostClass where
  name := "ABCMeta"
  ancestors := ["type", "object"]
  isWritten := true
  groups :=
    [placed,
     methods [.described, .names, .locals] ("__instancecheck__ __subclasscheck__ " ++
       "_abc_caches_clear _abc_registry_clear register"),
     freeMethods [.names, .locals, .outer] "__new__",
     methods [.described, .defaults, .names, .locals] "_dump_registry"]

/-- What abstract classes keep about the classes below them. -/
def abstractRegistryDataClass : HostClass where
  name := "_abc_data"
  isWritten := true
  groups :=
    [maker, placed]

/-- Nothing. -/
def nullClass : HostClass where
  name := "NoneType"
  isDescribed := false
  groups :=
    [maker,
     operators "__bool__ __repr__"]

/-- All classes of this module. -/
def rootClasses : List HostClass :=
  [rootClass, typeClass, abstractTypeClass, abstractRegistryDataClass, nullClass]

end HostClass

end NamedConditions
