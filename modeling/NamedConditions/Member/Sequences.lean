import NamedConditions.Member.Class
/-!
The classes of sequences.
-/
namespace NamedConditions

namespace HostClass

open MemberGroup

/-- Lists. -/
def listClass : HostClass where
  name := "list"
  hasSignature := true
  groups :=
    [maker, comparisons, unhashable, changingOperators,
     operators "__add__ __contains__ __init__ __iter__ __len__ __mul__ __repr__ __rmul__",
     wordedClassFunctions "__class_getitem__",
     wordedFunctions "__getitem__",
     functions ("__reversed__ __sizeof__ append clear copy count extend index insert pop " ++
       "remove reverse sort")]

/-- Tuples. -/
def tupleClass : HostClass where
  name := "tuple"
  hasSignature := true
  groups :=
    [maker, comparisons, orderedOperators,
     operators "__hash__ __repr__",
     wordedClassFunctions "__class_getitem__",
     signedFunctions "__getnewargs__",
     functions "count index"]

/-- Ranges of whole numbers. -/
def rangeClass : HostClass where
  name := "range"
  groups :=
    [maker, comparisons,
     operators "__bool__ __contains__ __getitem__ __hash__ __iter__ __len__ __repr__",
     bareFunctions "__reduce__",
     wordedFunctions "__reversed__ count index",
     parts (.slot false) .count "start step stop"]

/-- Sequences with two ends. -/
def dequeClass : HostClass where
  name := "deque"
  groups :=
    [maker, comparisons, unhashable, orderedOperators, changingOperators,
     operators "__init__ __repr__",
     wordedClassFunctions "__class_getitem__",
     wordedFunctions ("__copy__ __reduce__ __reversed__ __sizeof__ append appendleft clear " ++
       "copy count extend extendleft index insert pop popleft remove reverse rotate"),
     parts (.computed true) .nothing "maxlen"]

/-- Lists of a class of their own. -/
def userListClass : HostClass where
  name := "UserList"
  ancestors := ["MutableSequence", "Sequence", "Reversible", "Collection", "Sized", "Iterable",
    "Container", "object"]
  isWritten := true
  isAbstract := true
  groups :=
    [unhashable, placed, instanceDictionary, weakReference, abstractRegistry, openMethods,
     methods [.names, .locals] ("_UserList__cast __add__ __contains__ __copy__ __delitem__ " ++
       "__eq__ __ge__ __getitem__ __gt__ __iadd__ __imul__ __le__ __len__ __lt__ __mul__ " ++
       "__radd__ __repr__ __rmul__ __setitem__ append clear copy count extend index insert " ++
       "remove reverse sort"),
     methods [.defaults, .names, .locals] "__init__ pop"]

/-- Sequences that can change. -/
def mutableSequenceClass : HostClass where
  name := "MutableSequence"
  ancestors := ["Sequence", "Reversible", "Collection", "Sized", "Iterable", "Container",
    "object"]
  isWritten := true
  isAbstract := true
  groups :=
    [placed, noSlots, abstractRegistry, openMethods,
     methods [.names, .locals] "__delitem__ __iadd__ __setitem__",
     methods [.described, .names, .locals] "append clear extend insert remove reverse",
     methods [.described, .defaults, .locals] "pop"]

/-- Sequences. -/
def sequenceClass : HostClass where
  name := "Sequence"
  ancestors := ["Reversible", "Collection", "Sized", "Iterable", "Container", "object"]
  isWritten := true
  isAbstract := true
  groups :=
    [placed, noSlots, abstractRegistry, openMethods,
     methods [.locals] "__contains__",
     methods [.names, .locals] "__getitem__ __iter__ __reversed__",
     methods [.described, .names, .locals, .shared] "count",
     methods [.described, .defaults, .names, .locals] "index"]

/-- What can be walked backwards. -/
def reversibleClass : HostClass where
  name := "Reversible"
  ancestors := ["Iterable", "object"]
  isDescribed := false
  isWritten := true
  isAbstract := true
  groups :=
    [placed, noSlots, abstractRegistry, openMethods,
     methods [.locals] "__reversed__",
     classMethods [.names, .locals] "__subclasshook__"]

/-- All classes of this module. -/
def sequenceClasses : List HostClass :=
  [listClass, tupleClass, rangeClass, dequeClass, userListClass, mutableSequenceClass,
   sequenceClass, reversibleClass]

end HostClass

end NamedConditions
