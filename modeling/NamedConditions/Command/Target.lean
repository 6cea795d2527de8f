import NamedConditions.Command.Catalogue
/-!
Targets: where a condition list is found. A target names a module of a catalogue and, behind a
colon, a path of attributes. What stands there must be a sequence or an evaluator.
-/
namespace NamedConditions

/-- Why a target is unusable: what `TargetError` tells. -/
inductive TargetFault
  | malformed (target : String)
  | notLoaded (name reason : String)
  | noAttribute (name path : String)
  | unusable (target typeName : String)

/-- What a target gives. -/
inductive Target
  | conditions (v : Value)
  | evaluator (setup : Setup)
  /-- An evaluator of the running session, by its number. -/
  | made (number : Nat)

namespace TargetFault

/-- A fault in words. -/
def message : TargetFault → String
  | malformed target =>
    "Target '" ++ target ++ "' must look like 'package.module:attribute'"
  | notLoaded name reason => "Cannot import module '" ++ name ++ "': " ++ reason
  | noAttribute name path => "Module '" ++ name ++ "' has no attribute '" ++ path ++ "'"
  | unusable target typeName =>
    "Target '" ++ target ++ "' is a " ++ typeName ++
      ", expected a condition list or ConditionEvaluator"

end TargetFault

namespace Value

/-- Whether a value passes as a condition list before it is validated: a byte array does too, which
`_is_sequence` refuses. -/
def isListLike : Value → Bool
  | byteArray _ => true
  | v => v.length?.isSome

end Value

namespace Target

/-- Loads the module of a target, or says why it cannot be loaded. -/
def loadModule (c : Catalogue) (passes : Passes) (name : String) :
    Run Session (Except TargetFault ModuleAttributes) := fun s =>
  match c.load passes name s with
  | .ok attributes s => .ok (.ok attributes) s
  | .error stop s =>
    match stop with
    | .failure (.raised error) =>
      if error.kind.isLoading then
        match error.text with
        | .ok reason => .ok (.error (.notLoaded name reason)) s
        | .error error => .error (.failure (.raised error)) s
      else .error stop s
    | stop => .error stop s

/-- Where a path of attributes leads from a module. -/
def follow? (passes : Passes) (attributes : ModuleAttributes) : List String →
    Run Session (Option Thing)
  | [] => pure (some (.loaded attributes))
  | name :: path => do return (← attributes.give passes name).bind (Thing.follow? path)

/-- What stands at a target: `_import_target`. -/
def locate (c : Catalogue) (passes : Passes) (target : String) :
    Run Session (Except TargetFault Thing) :=
  match Text.cutOf? ':' target with
  | none => pure (.error (.malformed target))
  | some (name, path) =>
    if name.isEmpty || path.isEmpty then pure (.error (.malformed target))
    else do
      match ← loadModule c passes name with
      | .error fault => return .error fault
      | .ok attributes =>
        match ← follow? passes attributes (Text.piecesOf '.' path) with
        | none => return .error (.noAttribute name path)
        | some t => return .ok t

/-- What a thing at a target is good for, by the tests of `_build_evaluator`. -/
def ofThing (target : String) : Thing → Except TargetFault Target
  | .value (.object _ (.evaluatorOf setup)) => .ok (.evaluator setup)
  | .value (.evaluator number ..) => .ok (.made number)
  | .value v => if v.isListLike then .ok (.conditions v) else .error (.unusable target v.typeName)
  | t => .error (.unusable target t.typeName)

/-- What a target gives. -/
def resolve (c : Catalogue) (passes : Passes) (target : String) :
    Run Session (Except TargetFault Target) := do
  match ← locate c passes target with
  | .error fault => return .error fault
  | .ok t => return ofThing target t

end Target

end NamedConditions
