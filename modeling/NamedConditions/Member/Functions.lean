import NamedConditions.Member.Class
/-!
The classes of functions, and of the parts that classes have.
-/
namespace NamedConditions

namespace HostClass

open MemberGroup

/-- Functions of the host that belong to something or to nothing. -/
def hostFunctionClass : HostClass where
  name := "builtin_function_or_method"
  isDescribed := false
  groups :=
    [comparisons,
     operators "__call__ __hash__ __repr__",
     parts (.computed false) .text "__doc__ __name__ __qualname__ __text_signature__",
     parts (.slot false) .text "__module__",
     bareFunctions "__reduce__",
     heldParts (.computed false) "__self__"]

/-- Functions behind operators that belong to a value. -/
def boundOperatorClass : HostClass where
  name := "method-wrapper"
  isDescribed := false
  groups :=
    [comparisons,
     operators "__call__ __hash__ __repr__",
     parts (.computed false) .text "__doc__ __name__ __qualname__ __text_signature__",
     heldParts (.computed false) "__objclass__",
     bareFunctions "__reduce__",
     parts (.slot false) .emptyList "__self__"]

/-- Functions behind operators, of a class. -/
def operatorClass : HostClass where
  name := "wrapper_descriptor"
  isDescribed := false
  groups :=
    [operators "__call__ __get__ __getattribute__ __repr__",
     parts (.computed false) .text "__doc__ __qualname__ __text_signature__",
     parts (.slot false) .text "__name__",
     heldParts (.slot false) "__objclass__",
     bareFunctions "__reduce__"]

/-- Functions of the host, of a class. -/
def functionOfClassClass : HostClass where
  name := "method_descriptor"
  isDescribed := false
  groups :=
    [operators "__call__ __get__ __getattribute__ __repr__",
     parts (.computed false) .text "__doc__ __qualname__ __text_signature__",
     parts (.slot false) .text "__name__",
     heldParts (.slot false) "__objclass__",
     bareFunctions "__reduce__"]

/-- Parts that the host computes, of a class. -/
def computedPartClass : HostClass where
  name := "getset_descriptor"
  isDescribed := false
  groups :=
    [operators "__delete__ __get__ __getattribute__ __repr__ __set__",
     parts (.computed false) .text "__doc__ __qualname__",
     parts (.slot false) .text "__name__",
     heldParts (.slot false) "__objclass__"]

/-- Parts with a place of their own, of a class. -/
def slotClass : HostClass where
  name := "member_descriptor"
  isDescribed := false
  groups :=
    [operators "__delete__ __get__ __getattribute__ __repr__ __set__",
     parts (.computed false) .nothing "__doc__",
     parts (.slot false) .text "__name__",
     heldParts (.slot false) "__objclass__",
     parts (.computed false) .text "__qualname__",
     bareFunctions "__reduce__"]

/-- Parts that a written function computes, of a class. -/
def propertyClass : HostClass where
  name := "property"
  hasSignature := true
  groups :=
    [maker,
     operators "__delete__ __get__ __getattribute__ __init__ __set__",
     parts (.slot false) .nothing "__doc__ fdel fset",
     parts (.computed false) .truth "__isabstractmethod__",
     wordedFunctions "__set_name__ deleter getter setter",
     heldParts (.slot false) "fget"]

/-- Written functions. -/
def functionClass : HostClass where
  name := "function"
  hasSignature := true
  groups :=
    [maker,
     parts (.computed false) .dictionary "__annotations__ __dict__",
     parts (.slot false) .dictionary "__builtins__ __globals__",
     operators "__call__ __get__ __repr__",
     parts (.slot false) .nothing "__closure__ __doc__",
     heldParts (.computed false) "__code__",
     parts (.computed false) .nothing "__defaults__ __kwdefaults__",
     parts (.slot false) .text "__module__",
     parts (.computed false) .text "__name__ __qualname__"]

/-- Written functions that belong to something. -/
def methodClass : HostClass where
  name := "method"
  hasSignature := true
  groups :=
    [maker, comparisons,
     operators "__call__ __delattr__ __hash__ __repr__ __setattr__",
     parts (.computed false) .nothing "__doc__",
     heldParts (.slot true) "__func__ __self__",
     signedFunctions "__reduce__"]

/-- What written functions run. -/
def codeClass : HostClass where
  name := "code"
  hasSignature := true
  groups :=
    [maker, comparisons,
     operators "__hash__ __repr__",
     bareFunctions "__sizeof__ co_lines co_positions",
     parts (.computed false) .octets "_co_code_adaptive co_code co_lnotab",
     functions "_varname_from_oparg replace",
     parts (.slot false) .count ("co_argcount co_firstlineno co_flags co_kwonlyargcount " ++
       "co_nlocals co_posonlyargcount co_stacksize"),
     parts (.computed false) .noItems "co_cellvars co_freevars",
     parts (.slot false) .someItems "co_consts co_names",
     parts (.slot false) .octets "co_exceptiontable co_linetable",
     parts (.slot false) .text "co_filename co_name co_qualname",
     parts (.computed false) .someItems "co_varnames"]

/-- All classes of this module. -/
def functionClasses : List HostClass :=
  [hostFunctionClass, boundOperatorClass, operatorClass, functionOfClassClass, computedPartClass,
   slotClass, propertyClass, functionClass, methodClass, codeClass]

end HostClass

end NamedConditions
