import NamedConditions.Member.Class
/-!
The classes of sets, of mappings and of other collections.
-/
namespace NamedConditions

namespace MemberGroup

/-- Operators of sets of all classes. -/
def setOperators : MemberGroup :=
  operators "__and__ __iter__ __len__ __or__ __rand__ __ror__ __rsub__ __rxor__ __sub__ __xor__"

/-- Functions of sets of all classes. -/
def setFunctions : MemberGroup :=
  wordedFunctions ("__contains__ __reduce__ __sizeof__ copy difference intersection " ++
    "isdisjoint symmetric_difference union")

end MemberGroup

namespace HostClass

open MemberGroup

/-- Sets. -/
def setClass : HostClass where
  name := "set"
  groups :=
    [maker, comparisons, unhashable, setOperators, setFunctions,
     operators "__iand__ __init__ __ior__ __isub__ __ixor__ __repr__",
     wordedClassFunctions "__class_getitem__",
     wordedFunctions ("add clear difference_update discard intersection_update pop remove " ++
       "symmetric_difference_update update"),
     functions "issubset issuperset"]

/-- Sets that cannot change. -/
def frozenSetClass : HostClass where
  name := "frozenset"
  groups :=
    [maker, comparisons, setOperators, setFunctions,
     operators "__hash__ __repr__",
     wordedClassFunctions "__class_getitem__",
     functions "issubset issuperset"]

/-- The keys of dictionaries. -/
def keysClass : HostClass where
  name := "dict_keys"
  isDescribed := false
  groups :=
    [comparisons, unhashable, setOperators,
     operators "__contains__ __repr__",
     wordedFunctions "__reversed__ isdisjoint",
     parts (.computed true) .readOnlyView "mapping"]

/-- Dictionaries. -/
def dictionaryClass : HostClass where
  name := "dict"
  groups :=
    [maker, comparisons, unhashable,
     wordedClassFunctions "__class_getitem__",
     functions "__contains__ __reversed__ get pop popitem setdefault",
     operators "__delitem__ __init__ __ior__ __iter__ __len__ __or__ __repr__ __ror__ __setitem__",
     wordedFunctions "__getitem__ __sizeof__ clear copy items keys update values",
     classFunctions "fromkeys"]

/-- Mappings that are no dictionaries. -/
def userMappingClass : HostClass where
  name := "UserMapping"
  ancestors := ["Mapping", "Collection", "Sized", "Iterable", "Container", "object"]
  isDescribed := false
  isWritten := true
  isAbstract := true
  groups :=
    [placed, instanceDictionary, weakReference, abstractRegistry, openMethods,
     methods [.names, .locals] "__getitem__ __init__ __iter__ __len__"]

/-- Mappings. -/
def mappingClass : HostClass where
  name := "Mapping"
  ancestors := ["Collection", "Sized", "Iterable", "Container", "object"]
  isWritten := true
  isAbstract := true
  groups :=
    [unhashable, placed, noSlots, abstractRegistry, openMethods,
     methods [.names, .locals] "__contains__ __eq__ __getitem__",
     constants .nothing "__reversed__",
     methods [.described, .defaults, .names, .locals] "get",
     methods [.described, .names, .locals] "items keys values"]

/-- What has a length, items and members. -/
def collectionClass : HostClass where
  name := "Collection"
  ancestors := ["Sized", "Iterable", "Container", "object"]
  isDescribed := false
  isWritten := true
  isAbstract := true
  groups :=
    [placed, noSlots, abstractRegistry, openMethods,
     classMethods [.names, .locals] "__subclasshook__"]

/-- What has a length. -/
def sizedClass : HostClass where
  name := "Sized"
  isDescribed := false
  isWritten := true
  isAbstract := true
  groups :=
    [placed, noSlots, abstractRegistry, openMethods,
     methods [.locals] "__len__",
     classMethods [.names, .locals] "__subclasshook__"]

/-- What has items. -/
def iterableClass : HostClass where
  name := "Iterable"
  isDescribed := false
  isWritten := true
  isAbstract := true
  groups :=
    [placed, noSlots, abstractRegistry, openMethods,
     classMethods [] "__class_getitem__",
     methods [.locals] "__iter__",
     classMethods [.names, .locals] "__subclasshook__"]

/-- What has members. -/
def containerClass : HostClass where
  name := "Container"
  isDescribed := false
  isWritten := true
  isAbstract := true
  groups :=
    [placed, noSlots, abstractRegistry, openMethods,
     classMethods [] "__class_getitem__",
     methods [.locals] "__contains__",
     classMethods [.names, .locals] "__subclasshook__"]

/-- Read-only views of dictionaries. -/
def readOnlyClass : HostClass where
  name := "mappingproxy"
  isDescribed := false
  groups :=
    [maker, comparisons, unhashable,
     wordedClassFunctions "__class_getitem__",
     operators "__contains__ __getitem__ __ior__ __iter__ __len__ __or__ __repr__ __ror__ __str__",
     wordedFunctions "__reversed__ copy get items keys values"]

/-- Records of named attributes. -/
def recordClass : HostClass where
  name := "SimpleNamespace"
  groups :=
    [maker, comparisons, unhashable,
     operators "__delattr__ __init__ __repr__ __setattr__",
     parts (.slot false) .dictionary "__dict__",
     wordedFunctions "__reduce__"]

/-- All classes of this module. -/
def collectionClasses : List HostClass :=
  [setClass, frozenSetClass, keysClass, dictionaryClass, userMappingClass, mappingClass,
   collectionClass, sizedClass, iterableClass, containerClass, readOnlyClass, recordClass]

end HostClass

end NamedConditions
