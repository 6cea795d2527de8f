import NamedConditions.Proofs.Simulation
import NamedConditions.Session.Evaluation
/-!
Runs of an expression beside each other, with operands of their own. What an expression gives before
it is used may be a cell, and beside each other two runs may hold different cells for the same
thing: so not only frames are related but operands too.

Main statements: an expression simulates itself under a relation of frames and one of operands which
looking up, logging and writing of keys respect, if those of its parts do that do more than this
(`run_simulates_of`, by induction on the expression); so do the checks of conditions
(`runCheck_simulates_of`).
-/
namespace NamedConditions

namespace Expr

mutual

/-- The parts of an expression that write what stands under `env`, evaluate new evaluators or take
steps. -/
def effects : Expr → List Expr
  | .assignEnv key v => [.assignEnv key v]
  | .nested setup => [.nested setup]
  | .step st => [.step st]
  | .eq a b => effects a ++ effects b
  | .not e | .log e | .attempt e => effects e
  | .all es | .any es | .seq es => effectsOf es
  | _ => []

/-- The same of several expressions. -/
def effectsOf : List Expr → List Expr
  | [] => []
  | e :: es => effects e ++ effectsOf es

end

end Expr

/-- Those parts of the body of a condition, if it has one. -/
def Condition.effects (c : Condition) : List Expr :=
  match c.check with
  | .predicate (.expression body) => body.effects
  | _ => []

/-- A relation of frames, and one of operands, that everything respects that an expression does but
for writing what stands under `env`, evaluating new evaluators and taking steps. -/
structure Frame.OperandLaw (R : Frame → Frame → Prop) (Q : Operand → Operand → Prop) : Prop where
  resolve {f g : Frame} {o o' : Operand} : R f g → Q o o' → f.resolve o = g.resolve o'
  value (v : Value) : Q (.ofValue v) (.ofValue v)
  subject : Q .subject .subject
  lookUp? (key : Value) : Run.Simulates R (Option.Rel fun s s' => Q (.slot s) (.slot s'))
    (Frame.lookUp? key) (Frame.lookUp? key)
  has (key : Value) : Run.Simulates R Eq (Frame.has key) (Frame.has key)
  item (path : List Value) : Run.Simulates R Q (Frame.item path) (Frame.item path)
  log (v : Value) {f g : Frame} : R f g →
    R { f with session := f.session.logValue v } { g with session := g.session.logValue v }
  assign (key v : Value) : Run.Simulates R Eq (Frame.assign key v) (Frame.assign key v)
  remove (key : Value) : Run.Simulates R Q (Frame.remove key) (Frame.remove key)

namespace Expr

variable {p p' : Passes} {R : Frame → Frame → Prop} {Q : Operand → Operand → Prop}

theorem truthOf_simulates_of (law : Frame.OperandLaw R Q) {r r' : Run Frame Operand}
    (h : Run.Simulates R Q r r') : Run.Simulates R Eq (truthOf r) (truthOf r') := by
  refine Run.Simulates.bind h fun o o' ho => Run.Simulates.get_bind fun f g hfg => ?_
  rw [law.resolve hfg ho]
  exact Run.Simulates.ofExcept _ _ _ hfg

mutual

/-- An expression simulates itself under a law of operands, if its effects do. -/
theorem run_simulates_of (law : Frame.OperandLaw R Q) :
    (e : Expr) → (∀ x ∈ effects e, Run.Simulates R Q (run p x) (run p' x)) →
      Run.Simulates R Q (run p e) (run p' e)
  | .lit v, _ => by
    simp only [run]
    exact Run.Simulates.pure (law.value v)
  | .context, _ => by
    simp only [run]
    exact Run.Simulates.pure law.subject
  | .keys, _ => by
    simp only [run]
    refine Run.Simulates.get_bind fun f g h => ?_
    rw [law.resolve h law.subject]
    exact .ok (law.value _) h
  | .lookUp key fallback, _ => by
    simp only [run]
    refine Run.Simulates.bind (law.lookUp? key) fun x y hxy => Run.Simulates.pure ?_
    cases hxy with
    | some hs => exact hs
    | none => exact law.value fallback
  | .has key, _ => by
    simp only [run]
    exact Run.Simulates.bind_eq (law.has key) fun b => Run.Simulates.pure (law.value _)
  | .item path, _ => by
    simp only [run]
    exact law.item path
  | .eq a b, he => by
    simp only [run]
    have ha := run_simulates_of law a fun x hx => he x (by simp [effects, hx])
    have hb := run_simulates_of law b fun x hx => he x (by simp [effects, hx])
    refine Run.Simulates.bind ha fun v v' hv => Run.Simulates.bind hb fun w w' hw => ?_
    refine Run.Simulates.get_bind fun f g h => ?_
    rw [law.resolve h hv, law.resolve h hw]
    cases (g.resolve v').equal? (g.resolve w') with
    | none => exact Run.Simulates.raise _ _ _ h
    | some answer => exact .ok (law.value _) h
  | .not e, he => by
    simp only [run]
    have hs := run_simulates_of law e fun x hx => he x (by simp [effects, hx])
    exact Run.Simulates.bind_eq (truthOf_simulates_of law hs)
      fun _ => Run.Simulates.pure (law.value _)
  | .all es, he => by
    simp only [run]
    have hs := runAll_simulates_of law es fun x hx => he x (by simp [effects, hx])
    exact Run.Simulates.bind_eq hs fun _ => Run.Simulates.pure (law.value _)
  | .any es, he => by
    simp only [run]
    have hs := runAny_simulates_of law es fun x hx => he x (by simp [effects, hx])
    exact Run.Simulates.bind_eq hs fun _ => Run.Simulates.pure (law.value _)
  | .seq es, he => by
    simp only [run]
    exact runSeq_simulates_of law es (fun x hx => he x (by simp [effects, hx])) (law.value _)
  | .log e, he => by
    simp only [run]
    have hs := run_simulates_of law e fun x hx => he x (by simp [effects, hx])
    refine Run.Simulates.bind hs fun o o' ho => ?_
    refine Run.Simulates.bind_eq (Run.Simulates.modify fun f g h => ?_)
      fun _ => Run.Simulates.pure ho
    rw [law.resolve h ho]
    exact law.log _ h
  | .raise error, _ => by
    simp only [run]
    exact Run.Simulates.raise error
  | .attempt e, he => by
    simp only [run]
    have hs := run_simulates_of law e fun x hx => he x (by simp [effects, hx])
    exact hs.attempt (law.value .null)
  | .assign key v, _ => by
    simp only [run]
    exact Run.Simulates.bind_eq (law.assign key v) fun _ => Run.Simulates.pure (law.value _)
  | .remove key, _ => by
    simp only [run]
    exact law.remove key
  | .assignEnv .., he | .nested _, he | .step _, he => he _ (by simp [effects])

theorem runAll_simulates_of (law : Frame.OperandLaw R Q) :
    (es : List Expr) → (∀ x ∈ effectsOf es, Run.Simulates R Q (run p x) (run p' x)) →
      Run.Simulates R Eq (runAll p es) (runAll p' es)
  | [], _ => by
    simp only [runAll]
    exact Run.Simulates.pure rfl
  | e :: es, he => by
    simp only [runAll]
    have hs := run_simulates_of law e fun x hx => he x (by simp [effectsOf, hx])
    have hrest := runAll_simulates_of law es fun x hx => he x (by simp [effectsOf, hx])
    refine Run.Simulates.bind_eq (truthOf_simulates_of law hs) fun b => ?_
    cases b with
    | true => exact hrest
    | false => exact Run.Simulates.pure rfl

theorem runAny_simulates_of (law : Frame.OperandLaw R Q) :
    (es : List Expr) → (∀ x ∈ effectsOf es, Run.Simulates R Q (run p x) (run p' x)) →
      Run.Simulates R Eq (runAny p es) (runAny p' es)
  | [], _ => by
    simp only [runAny]
    exact Run.Simulates.pure rfl
  | e :: es, he => by
    simp only [runAny]
    have hs := run_simulates_of law e fun x hx => he x (by simp [effectsOf, hx])
    have hrest := runAny_simulates_of law es fun x hx => he x (by simp [effectsOf, hx])
    refine Run.Simulates.bind_eq (truthOf_simulates_of law hs) fun b => ?_
    cases b with
    | true => exact Run.Simulates.pure rfl
    | false => exact hrest

theorem runSeq_simulates_of (law : Frame.OperandLaw R Q) :
    (es : List Expr) → (∀ x ∈ effectsOf es, Run.Simulates R Q (run p x) (run p' x)) →
      {o o' : Operand} → Q o o' → Run.Simulates R Q (runSeq p es o) (runSeq p' es o')
  | [], _, _, _, ho => by
    simp only [runSeq]
    exact Run.Simulates.pure ho
  | e :: es, he, _, _, _ => by
    simp only [runSeq]
    have hs := run_simulates_of law e fun x hx => he x (by simp [effectsOf, hx])
    refine Run.Simulates.bind hs fun o o' ho => ?_
    exact runSeq_simulates_of law es (fun x hx => he x (by simp [effectsOf, hx])) ho

end

end Expr

/-- A check simulates itself under a law of operands, if the effects of its condition do. -/
theorem Session.runCheck_simulates_of {p p' : Passes} {R : Frame → Frame → Prop}
    {Q : Operand → Operand → Prop} (law : Frame.OperandLaw R Q) (c : Condition)
    (he : ∀ x ∈ c.effects, Run.Simulates R Q (x.run p) (x.run p')) :
    Run.Simulates R Eq (runCheck p c.check) (runCheck p' c.check) := by
  unfold Condition.effects at he
  unfold runCheck
  cases hc : c.check with
  | static v => exact Run.Simulates.pure rfl
  | predicate k =>
    rw [hc] at he
    cases k with
    | native n =>
      refine Run.Simulates.get_bind fun f g h => ?_
      rw [law.resolve h law.subject]
      exact Run.Simulates.ofExcept _ f g h
    | expression body =>
      refine Run.Simulates.bind (Expr.run_simulates_of law body he) fun o o' ho => ?_
      refine Run.Simulates.get_bind fun f g h => ?_
      rw [law.resolve h ho]
      exact .ok rfl h

end NamedConditions
