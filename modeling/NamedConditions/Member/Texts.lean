import NamedConditions.Member.Class
/-!
The classes of texts and of octets.
-/
namespace NamedConditions

namespace MemberGroup

/-- Operators that fill a pattern. -/
def patternOperators : MemberGroup :=
  operators "__mod__ __rmod__"

/-- Functions of octet strings that are described in words alone. -/
def octetTests : MemberGroup :=
  wordedFunctions ("capitalize count endswith find index isalnum isalpha isascii isdigit " ++
    "islower isspace istitle isupper lower rfind rindex startswith swapcase title upper")

/-- Functions of octet strings that are described by their arguments too. -/
def octetFunctions : MemberGroup :=
  functions ("center decode expandtabs hex join ljust lstrip partition removeprefix " ++
    "removesuffix replace rjust rpartition rsplit rstrip split splitlines strip translate " ++
    "zfill")

end MemberGroup

namespace HostClass

open MemberGroup

/-- Texts. -/
def textClass : HostClass where
  name := "str"
  groups :=
    [maker, comparisons, orderedOperators, patternOperators,
     operators "__hash__ __repr__ __str__",
     functions ("__format__ __sizeof__ capitalize casefold center encode expandtabs isalnum " ++
       "isalpha isascii isdecimal isdigit isidentifier islower isnumeric isprintable isspace " ++
       "istitle isupper join ljust lower lstrip partition removeprefix removesuffix replace " ++
       "rjust rpartition rsplit rstrip split splitlines strip swapcase title translate upper " ++
       "zfill"),
     bareFunctions "__getnewargs__",
     wordedFunctions "count endswith find format format_map index rfind rindex startswith",
     freeFunctions "maketrans"]

/-- Texts of a class of their own. -/
def subTextClass : HostClass where
  name := "StrSub"
  ancestors := ["str", "object"]
  isDescribed := false
  isWritten := true
  groups :=
    [placed, instanceDictionary, weakReference]

/-- Octet strings. -/
def octetsClass : HostClass where
  name := "bytes"
  groups :=
    [maker, comparisons, orderedOperators, patternOperators, octetTests, octetFunctions,
     operators "__hash__ __repr__ __str__",
     functions "__bytes__",
     bareFunctions "__getnewargs__",
     classFunctions "fromhex",
     freeFunctions "maketrans"]

/-- Octet strings that can change. -/
def octetArrayClass : HostClass where
  name := "bytearray"
  groups :=
    [maker, comparisons, unhashable, orderedOperators, patternOperators, changingOperators,
     octetTests, octetFunctions,
     operators "__init__ __repr__ __str__",
     wordedFunctions "__alloc__",
     functions ("__reduce__ __reduce_ex__ __sizeof__ append clear copy extend insert pop " ++
       "remove reverse"),
     classFunctions "fromhex",
     freeFunctions "maketrans"]

/-- Views of octets. -/
def octetViewClass : HostClass where
  name := "memoryview"
  hasSignature := true
  groups :=
    [maker, comparisons,
     operators "__delitem__ __getitem__ __hash__ __iter__ __len__ __repr__ __setitem__",
     bareFunctions "__enter__ __exit__",
     parts (.computed true) .truth "c_contiguous contiguous f_contiguous readonly",
     functions "cast hex release tobytes tolist toreadonly",
     parts (.computed true) .text "format",
     parts (.computed true) .count "itemsize nbytes ndim",
     parts (.computed true) .octets "obj",
     parts (.computed true) .someItems "shape strides",
     parts (.computed true) .noItems "suboffsets"]

/-- All classes of this module. -/
def textClasses : List HostClass :=
  [textClass, subTextClass, octetsClass, octetArrayClass, octetViewClass]

end HostClass

end NamedConditions
