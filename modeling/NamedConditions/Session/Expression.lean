import NamedConditions.Condition.Native
import NamedConditions.Session.Frame
/-!
What predicates compute, and calling values. An expression runs in a frame and gives an operand,
which is resolved where its value is needed: at once by nearly all expressions, and by an equality
only after both of its sides have run.
-/
namespace NamedConditions

namespace Expr

/-- The truth of what a run gives. -/
def truthOf (r : Run Frame Operand) : Run Frame Bool := do
  let o ← r
  Run.ofExcept ((← get).resolve o).truth

mutual

/-- Runs an expression. -/
def run (passes : Passes) : Expr → Run Frame Operand
  | .lit v => pure (.ofValue v)
  | .context => pure .subject
  | .keys => do return .ofValue (.list (((← get).resolve .subject).iterate?.getD []))
  | .lookUp key fallback => do
    return (← Frame.lookUp? key).elim (.ofValue fallback) .slot
  | .has key => do return .ofValue (.bool (← Frame.has key))
  | .item path => Frame.item path
  | .eq a b => do
    let v ← run passes a
    let w ← run passes b
    let f ← get
    match (f.resolve v).equal? (f.resolve w) with
    | none => Run.raise Value.signallingError
    | some answer => return .ofValue (.bool answer)
  | .not e => do return .ofValue (.bool !(← truthOf (run passes e)))
  | .all es => do return .ofValue (.bool (← runAll passes es))
  | .any es => do return .ofValue (.bool (← runAny passes es))
  | .seq es => runSeq passes es (.ofValue .null)
  | .log e => do
    let o ← run passes e
    modify fun f => { f with session := f.session.logValue (f.resolve o) }
    return o
  | .raise error => Run.raise error
  | .attempt e => (run passes e).attempt (.ofValue .null)
  | .assign key v => do
    Frame.assign key v
    return .ofValue .null
  | .remove key => Frame.remove key
  | .assignEnv key v => do
    Frame.assignEnv key v
    return .ofValue .null
  | .nested setup => do
    let argument := (← get).subject.argument
    let a ← Frame.inSession (do
      let number ← Session.make setup
      passes.evaluate number argument)
    return .ofValue a.value
  | .step s => do
    let r ← Frame.inSession (Session.step passes s)
    return r.operand

/-- Whether all expressions are true, up to the first that is not. -/
def runAll (passes : Passes) : List Expr → Run Frame Bool
  | [] => pure true
  | e :: es => do if ← truthOf (run passes e) then runAll passes es else return false

/-- Whether one of the expressions is true, up to the first that is. -/
def runAny (passes : Passes) : List Expr → Run Frame Bool
  | [] => pure false
  | e :: es => do if ← truthOf (run passes e) then return true else runAny passes es

/-- Runs expressions one after another and gives what the last gives. -/
def runSeq (passes : Passes) : List Expr → Operand → Run Frame Operand
  | [], o => pure o
  | e :: es, _ => do
    let o ← run passes e
    runSeq passes es o

end

/-- The value that an expression gives. -/
def value (passes : Passes) (e : Expr) : Run Frame Value := do
  let o ← run passes e
  return (← get).resolve o

end Expr

namespace Callable

/-- Calls something with what the frame holds for it. -/
def call (passes : Passes) : Callable → Run Frame Value
  | native f => do Run.ofExcept (f.call ((← get).resolve .subject))
  | expression body => body.value passes

end Callable

namespace Value

/-- Calls a value, if it can be called. -/
def call (passes : Passes) (v : Value) : Run Frame Value :=
  match v.callable? with
  | some f => f.call passes
  | none => Run.raise (.ofText .badType ("'" ++ v.typePath ++ "' object is not callable"))

end Value

end NamedConditions
