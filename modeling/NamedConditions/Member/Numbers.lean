import NamedConditions.Member.Class
/-!
The classes of numbers.
-/
namespace NamedConditions

namespace MemberGroup

/-- Operators of all numbers. -/
def numberOperators : MemberGroup :=
  operators ("__abs__ __add__ __bool__ __mul__ __neg__ __pos__ __pow__ __radd__ __rmul__ " ++
    "__rpow__ __rsub__ __rtruediv__ __sub__ __truediv__")

/-- Operators of numbers that are ordered. -/
def realOperators : MemberGroup :=
  operators ("__divmod__ __float__ __floordiv__ __int__ __mod__ __rdivmod__ __rfloordiv__ " ++
    "__rmod__")

/-- Operators of numbers as rows of bits. -/
def bitOperators : MemberGroup :=
  operators ("__and__ __index__ __invert__ __lshift__ __or__ __rand__ __rlshift__ __ror__ " ++
    "__rrshift__ __rshift__ __rxor__ __xor__")

end MemberGroup

namespace HostClass

open MemberGroup

/-- Truth values. -/
def truthClass : HostClass where
  name := "bool"
  ancestors := ["int", "object"]
  groups :=
    [maker,
     operators "__and__ __or__ __rand__ __repr__ __ror__ __rxor__ __xor__"]

/-- Whole numbers. -/
def wholeClass : HostClass where
  name := "int"
  groups :=
    [maker, comparisons, numberOperators, realOperators, bitOperators,
     operators "__hash__ __repr__",
     wordedFunctions "__ceil__ __floor__ __trunc__ conjugate",
     signedFunctions "__format__ __getnewargs__",
     functions "__round__ __sizeof__ as_integer_ratio bit_count bit_length to_bytes",
     parts (.computed true) .count "denominator imag numerator real",
     classFunctions "from_bytes"]

/-- Floating-point numbers. -/
def floatClass : HostClass where
  name := "float"
  hasSignature := true
  groups :=
    [maker, comparisons, numberOperators, realOperators,
     operators "__hash__ __repr__",
     functions ("__ceil__ __floor__ __format__ __round__ __trunc__ as_integer_ratio " ++
       "conjugate hex is_integer"),
     classFunctions "__getformat__ fromhex",
     signedFunctions "__getnewargs__",
     parts (.computed true) .measure "imag real"]

/-- Complex numbers. -/
def complexClass : HostClass where
  name := "complex"
  hasSignature := true
  groups :=
    [maker, comparisons, numberOperators,
     operators "__hash__ __repr__",
     functions "__complex__ __format__ conjugate",
     signedFunctions "__getnewargs__",
     parts (.slot true) .measure "imag real"]

/-- Decimal numbers. -/
def decimalClass : HostClass where
  name := "Decimal"
  hasSignature := true
  groups :=
    [maker, comparisons, placed, numberOperators, realOperators,
     operators "__hash__ __repr__ __str__",
     bareFunctions ("__ceil__ __complex__ __copy__ __deepcopy__ __floor__ __format__ " ++
       "__reduce__ __round__ __sizeof__ __trunc__"),
     functions ("adjusted as_integer_ratio as_tuple canonical compare compare_signal " ++
       "compare_total compare_total_mag conjugate copy_abs copy_negate copy_sign exp fma " ++
       "is_canonical is_finite is_infinite is_nan is_normal is_qnan is_signed is_snan " ++
       "is_subnormal is_zero ln log10 logb logical_and logical_invert logical_or logical_xor " ++
       "max max_mag min min_mag next_minus next_plus next_toward normalize number_class " ++
       "quantize radix remainder_near rotate same_quantum scaleb shift sqrt to_eng_string " ++
       "to_integral to_integral_exact to_integral_value"),
     classFunctions "from_float",
     parts (.computed false) .decimal "imag real"]

/-- Fractions. -/
def fractionClass : HostClass where
  name := "Fraction"
  ancestors := ["Rational", "Real", "Complex", "Number", "object"]
  isWritten := true
  isAbstract := true
  groups :=
    [placed, abstractRegistry, openMethods,
     methods [.described, .names, .locals] ("__abs__ __bool__ __ceil__ __eq__ __floor__ " ++
       "__ge__ __gt__ __hash__ __le__ __lt__ __neg__ __pos__ __pow__ __repr__ __rpow__ " ++
       "__str__ __trunc__ _add _div _divmod _floordiv _mod _mul _richcmp _sub " ++
       "as_integer_ratio"),
     methods [.described, .names, .locals, .outer] ("__add__ __divmod__ __floordiv__ __mod__ " ++
       "__mul__ __radd__ __rdivmod__ __rfloordiv__ __rmod__ __rmul__ __rsub__ __rtruediv__ " ++
       "__sub__ __truediv__"),
     methods [.names, .locals] "__copy__ __deepcopy__ __reduce__",
     methods [.described, .defaults, .names, .locals] "__int__ __round__ limit_denominator",
     freeMethods [.described, .defaults, .namedDefaults, .names, .locals, .outer] "__new__",
     constants .someItems "__slots__",
     parts (.slot false) .count "_denominator _numerator",
     methods [.described, .names, .locals, .shared] "_operator_fallbacks",
     parts (.property [.names, .locals]) .count "denominator numerator",
     classMethods [.described, .names, .locals] "from_decimal from_float"]

/-- Numbers with a numerator and a denominator. -/
def rationalClass : HostClass where
  name := "Rational"
  ancestors := ["Real", "Complex", "Number", "object"]
  isWritten := true
  isAbstract := true
  groups :=
    [placed, noSlots, abstractRegistry, openMethods,
     methods [.described, .names, .locals] "__float__",
     parts (.property [.names, .locals]) .count "denominator numerator"]

/-- Numbers that are ordered. -/
def realClass : HostClass where
  name := "Real"
  ancestors := ["Complex", "Number", "object"]
  isWritten := true
  isAbstract := true
  groups :=
    [placed, noSlots, abstractRegistry, openMethods,
     methods [.described, .names, .locals] ("__ceil__ __complex__ __float__ __floor__ " ++
       "__floordiv__ __le__ __lt__ __mod__ __rfloordiv__ __rmod__ __trunc__"),
     methods [.described, .locals] "__divmod__ __rdivmod__ conjugate",
     methods [.described, .defaults, .names, .locals] "__round__",
     parts (.property [.described, .locals]) .count "imag",
     parts (.property [.described, .locals]) .fraction "real"]

/-- Numbers with a real and an imaginary part. -/
def anyComplexClass : HostClass where
  name := "Complex"
  ancestors := ["Number", "object"]
  isWritten := true
  isAbstract := true
  groups :=
    [unhashable, placed, noSlots, abstractRegistry, openMethods,
     methods [.described, .names, .locals] ("__abs__ __add__ __eq__ __mul__ __neg__ __pos__ " ++
       "__pow__ __radd__ __rmul__ __rpow__ __rtruediv__ __truediv__ conjugate"),
     methods [.described, .locals] "__bool__ __complex__ __rsub__ __sub__",
     parts (.property [.described, .names, .locals]) .count "imag",
     parts (.property [.described, .names, .locals]) .fraction "real"]

/-- Numbers of all sorts. -/
def anyNumberClass : HostClass where
  name := "Number"
  isWritten := true
  isAbstract := true
  groups :=
    [unhashable, placed, noSlots, abstractRegistry, openMethods]

/-- All classes of this module. -/
def numberClasses : List HostClass :=
  [truthClass, wholeClass, floatClass, complexClass, decimalClass, fractionClass, rationalClass,
   realClass, anyComplexClass, anyNumberClass]

end HostClass

end NamedConditions
