import NamedConditions.Member.Lookup
import NamedConditions.Session.Evaluation
/-!
Catalogues of modules, and loading a module by name. A module has attributes, one of which may be
called for the names that the module lacks. A name with dots is loaded from its first component on:
each module on the way must be a package, which says where the modules inside it are looked for.

Main statements: a module gives its own members before anything is called, and nothing for a name
that it lacks when there is nothing to call.
-/
namespace NamedConditions

/-- A module of a catalogue: its attributes, or what it raises when it is loaded. -/
inductive Module
  | loaded (attributes : List (String × Value))
  | failing (error : Raised)

/-- Modules by name. -/
abbrev Catalogue := List (String × Module)

/-- The attributes of a module that was loaded. -/
abbrev ModuleAttributes := List (String × Value)

namespace ModuleAttributes

/-- The attribute that is called for a name that a module lacks. -/
def stepInName : String := "__getattr__"

/-- Under which name a package says where the modules inside it are looked for. -/
def placesName : String := "__path__"

/-- Under which name a module keeps what was known of it before it was loaded. -/
def specName : String := "__spec__"

/-- Under which name that says which modules inside it are being loaded. -/
def pendingName : String := "_uninitialized_submodules"

/-- Calls a value for a name; what says that there is no such name gives nothing. -/
def callFor (passes : Passes) (f : Value) (name : String) : Run Session (Option Value) := fun s =>
  match f.call passes ⟨s, .name name, []⟩ with
  | .ok v f => .ok (some v) f.session
  | .error stop f =>
    match stop with
    | .failure (.raised error) =>
      if error.kind = .missingMember then .ok none f.session else .error stop f.session
    | stop => .error stop f.session

/-- What a module gives for a name: a member of its own, or else what its attribute for further
names gives when it is called. -/
def give (passes : Passes) (attributes : ModuleAttributes) (name : String) :
    Run Session (Option Thing) :=
  match (Thing.loaded attributes).member? name with
  | some t => pure (some t)
  | none =>
    match attributes.lookup stepInName with
    | none => pure none
    | some f => do return (← callFor passes f name).map .value

/-- The error of a thing that lacks a member. -/
def missing (t : Thing) (name : String) : Raised :=
  .ofText .missingMember <|
    match t.asClass? with
    | some (.hostClass className _ _) =>
      "type object '" ++ className ++ "' has no attribute '" ++ name ++ "'"
    | _ => "'" ++ t.typePath ++ "' object has no attribute '" ++ name ++ "'"

/-- Refuses a module, inside of which another one is found, that was given something else to keep
what was known of it, unless that counts as nothing. -/
def checkSpec (attributes : ModuleAttributes) : Except Raised Unit :=
  match attributes.lookup specName with
  | none => .ok ()
  | some v =>
    match v.hostTruth with
    | .error error => .error error
    | .ok false => .ok ()
    | .ok true =>
      match (Thing.value v).member? pendingName with
      | none => .error (missing (.value v) pendingName)
      | some pending =>
        if (pending.member? "append").isSome then .ok () else .error (missing pending "append")

/-- Refuses places that cannot be gone through one after another; nothing stands for the usual
ones. -/
def checkPlaces (places : Thing) : Except Raised Unit :=
  if places.isNothing || places.isIterable then .ok ()
  else .error (.ofText .badType ("'" ++ places.typePath ++ "' object is not iterable"))

theorem give_of_member {attributes : ModuleAttributes} {name : String} {t : Thing}
    (h : (Thing.loaded attributes).member? name = some t) (passes : Passes) (s : Session) :
    give passes attributes name s = .ok (some t) s := by
  rw [give, h]
  rfl

theorem give_of_absent {attributes : ModuleAttributes} {name : String}
    (h : (Thing.loaded attributes).member? name = none)
    (hs : attributes.lookup stepInName = none) (passes : Passes) (s : Session) :
    give passes attributes name s = .ok none s := by
  rw [give, h, hs]
  rfl

end ModuleAttributes

namespace Catalogue

/-- The error of a module that does not exist. -/
def missing (name : String) : Raised :=
  .ofText .missingModule ("No module named " ++ Value.quotedText name)

/-- The error of a module inside one that holds no others. -/
def missingIn (name parent : String) : Raised :=
  .ofText .missingModule ("No module named " ++ Value.quotedText name ++ "; " ++
    Value.quotedText parent ++ " is not a package")

/-- Loads the module of a whole name. -/
def loadWhole (c : Catalogue) (name : String) : Except Raised ModuleAttributes :=
  match c.lookup name with
  | some (.loaded attributes) => .ok attributes
  | some (.failing error) => .error error
  | none => .error (missing name)

/-- Loads a module and then, one inside the other, the modules of further components. -/
def loadInside (c : Catalogue) (passes : Passes) (name : String) :
    List String → Run Session ModuleAttributes
  | [] => Run.ofExcept (c.loadWhole name)
  | component :: components => do
    let attributes ← Run.ofExcept (c.loadWhole name)
    let inner := name ++ "." ++ component
    match ← attributes.give passes ModuleAttributes.placesName with
    | none => Run.raise (missingIn inner name)
    | some places =>
      Run.ofExcept (ModuleAttributes.checkPlaces places)
      Run.ofExcept (if (c.lookup inner).isSome then attributes.checkSpec else .ok ())
      loadInside c passes inner components

/-- Loads a module by name; a name with a dot in front says where only to a module itself. -/
def load (c : Catalogue) (passes : Passes) (name : String) : Run Session ModuleAttributes :=
  if name.startsWith "." then
    Run.raise (.ofText .badType
      ("the 'package' argument is required to perform a relative import for " ++
        Value.quotedText name))
  else
    match Text.piecesOf '.' name with
    | [] => Run.raise (missing name)
    | component :: components => loadInside c passes component components

end Catalogue

end NamedConditions
