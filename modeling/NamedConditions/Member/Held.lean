import NamedConditions.Condition.Validation
import NamedConditions.Member.Class
/-!
What things hold themselves, beside what their classes say: functions hold how they were written and
what they belong to, evaluators hold their conditions, and modules hold their attributes.
-/
namespace NamedConditions

namespace Thing

/-! ## Functions -/

/-- The name under which a function holds what it belongs to. -/
def receiverName : String := "__self__"

/-- The name under which a member of a class holds the class. -/
def ownerName : String := "__objclass__"

/-- The name under which a written function that belongs to something holds itself. -/
def functionName : String := "__func__"

/-- What a written function runs. -/
def code (traits : List Trait) : Thing :=
  .other "code"
    [("co_names", tupleIf (.names ∈ traits)), ("co_varnames", tupleIf (.locals ∈ traits)),
      ("co_freevars", tupleIf (.outer ∈ traits)), ("co_cellvars", tupleIf (.shared ∈ traits))]

/-- A description in words, if there is one. -/
def description (isDescribed : Bool) : String × Thing := ("__doc__", onlyIf isDescribed text)

/-- A description by arguments, if there is one. -/
def signature (hasSignature : Bool) : String × Thing :=
  ("__text_signature__", onlyIf hasSignature text)

/-- What a written function holds. -/
def functionParts (traits : List Trait) : List (String × Thing) :=
  [description (.described ∈ traits), ("__defaults__", onlyIf (.defaults ∈ traits) someItems),
    ("__kwdefaults__", onlyIf (.namedDefaults ∈ traits) dictionary),
    ("__closure__", onlyIf (.outer ∈ traits) someItems), ("__code__", code traits)]

/-- A written function. -/
def function (traits : List Trait) : Thing :=
  .other "function" <|
    if .wraps ∈ traits then
      ("__wrapped__", .other "function" (functionParts [.names, .locals])) :: functionParts traits
    else functionParts traits

/-- A written function that belongs to a thing. -/
def method (traits : List Trait) (receiver : Thing) : Thing :=
  .other "method"
    [(receiverName, receiver), (functionName, function traits),
      description (.described ∈ traits)]

/-- A function of the host that belongs to a thing. -/
def hostFunction (isDescribed hasSignature : Bool) (receiver : Thing) : Thing :=
  .other "builtin_function_or_method"
    [(receiverName, receiver), ("__module__", nothing), description isDescribed,
      signature hasSignature]

/-! ## Values -/

/-- What an evaluator's environment comes from. -/
def provider : Source → Thing
  | .process => function [.described, .names]
  | _ => function [.names, .outer]

/-- What an evaluator holds that was made from a setup. -/
def setupParts : Setup → List (String × Thing)
  | .mk conditions fallback strict source =>
    let specs := (validate (conditions.getD (.tuple [])) strict).toOption.getD []
    let given := .value (.tuple (specs.map Spec.toValue))
    let compiled := .value (.tuple (specs.map fun _ => .object 0 .plain))
    let fallback := .value (fallback.getD (.list []))
    [("conditions", given), ("_specs", given), ("compiled_conditions", compiled),
      ("_compiled", compiled), ("default_value", fallback), ("_default_value", fallback),
      ("_strict", truth), ("_context", dictionary), ("_env_provider", provider source),
      ("_tracer", .other "Tracer" [])]

/-- What a value holds under names that its class does not speak for. -/
def valueParts : Value → List (String × Thing)
  | .spec check name => [("check", .value check), ("name", .value name)]
  | .object _ (.userList items) => [("data", .value (.list items))]
  | .object _ (.evaluatorOf setup) => setupParts setup
  | .object _ (.native f) =>
    if f.isType then [] else [(receiverName, .loaded []), ("__module__", text)]
  | _ => []

/-- The functions that the class of a value has beside those of all classes of its name. -/
def addedFunctions : Value → List String
  | .object _ (.truth _) | .object _ (.truthFails _) => ["__bool__"]
  | .object _ (.sized _) => ["__len__"]
  | .object _ (.collection _) => ["__len__", "__iter__", "__contains__"]
  | .object _ .iterator => ["__iter__", "__next__"]
  | .object _ (.textFails _) => ["__str__"]
  | .object _ (.labelled ..) => ["__str__", "__repr__"]
  | .object _ (.predicate (some _) _) => ["__bool__"]
  | _ => []

/-! ## Modules -/

/-- What is known of a module before it is loaded. -/
def moduleSpec : Thing :=
  .other "ModuleSpec"
    [("name", text), ("origin", nothing), ("loader_state", nothing),
      ("submodule_search_locations", nothing), ("_cached", nothing), ("_set_fileattr", truth),
      ("_initializing", truth), ("_uninitialized_submodules", emptyList)]

/-- What every module has unless its attributes say otherwise. -/
def moduleParts : List (String × Thing) :=
  [("__name__", text), ("__package__", text), ("__doc__", nothing), ("__spec__", moduleSpec)]

/-- What a thing has under names that anyone may choose. -/
def attribute? (name : String) : Thing → Option Thing
  | value (.object _ (.record attributes)) => (attributes.lookup name).map value
  | loaded attributes => ((attributes.lookup name).map value).or (moduleParts.lookup name)
  | _ => none

end Thing

end NamedConditions
