import NamedConditions.Proofs.Pass.Loops
import NamedConditions.Proofs.Session.Operand
/-!
What expressions preserve. An expression reads the store and what its predicate is called with,
logs, writes, takes steps and evaluates new evaluators. A quiet expression does neither of the last
two.

Main statements: an expression simulates itself under every relation of frames that these few
actions respect, and for a quiet one those of quiet expressions suffice (`run_simulates`). So
conditions are decided alike in related frames (`decide_simulates`).
-/
namespace NamedConditions

namespace Expr

mutual

/-- Whether an expression neither takes steps nor evaluates new evaluators. -/
def isQuiet : Expr → Bool
  | .nested _ | .step _ => false
  | .eq a b => isQuiet a && isQuiet b
  | .not e | .log e | .attempt e => isQuiet e
  | .all es | .any es | .seq es => areQuiet es
  | _ => true

/-- Whether several expressions are quiet. -/
def areQuiet : List Expr → Bool
  | [] => true
  | e :: es => isQuiet e && areQuiet es

end

end Expr

/-- Whether a condition is decided without a step or a new evaluator. -/
def Condition.isQuiet (c : Condition) : Bool :=
  match c.check with
  | .predicate (.expression body) => body.isQuiet
  | _ => true

namespace Run

theorem needKey_simulates {σ τ : Type} {R : σ → τ → Prop} (key : Value) :
    Simulates R Eq (needKey key : Run σ Unit) (needKey key : Run τ Unit) := by
  unfold needKey
  cases key.keyRefusal? with
  | none => exact Simulates.pure rfl
  | some reason => exact Simulates.raise _

end Run

namespace Frame

/-- A relation of frames that looking up, logging and writes of keys respect. -/
structure KeyLaw (R : Frame → Frame → Prop) : Prop where
  store {f g : Frame} : R f g → f.session.store = g.session.store
  subject {f g : Frame} : R f g → f.subject = g.subject
  evaluator (number : Nat) {f g : Frame} : R f g →
    f.session.evaluatorValue number = g.session.evaluatorValue number
  log (v : Value) {f g : Frame} : R f g →
    R { f with session := f.session.logValue v } { g with session := g.session.logValue v }
  put (key v : Value) {f g : Frame} : R f g → R (f.put key v) (g.put key v)
  drop (key : Value) {f g : Frame} : R f g → R (f.write (.drop key)) (g.write (.drop key))

/-- A relation of frames that everything respects that a quiet expression does: in addition, writes
of items of what stands under `env`, in the context itself or in a cell. -/
structure QuietLaw (R : Frame → Frame → Prop) : Prop extends KeyLaw R where
  putEnv {f g : Frame} {c : Context} {key v w w' : Value} : R f g → g.subject = .context c →
    Layer.find? c Context.envKey = some (.plain w) → Value.withItem key v w = .ok w' →
    R (f.write (.put Context.envKey (.plain w'))) (g.write (.put Context.envKey (.plain w')))
  writeCell {f g : Frame} {c : Context} {number : Nat} {key v : Value} {store : Store} : R f g →
    g.subject = .context c → Layer.find? c Context.envKey = some (.shared number) →
    g.session.store.write number key v = .ok store →
    R { f with session := { f.session with store := store } }
      { g with session := { g.session with store := store } }

/-- A relation of frames that everything respects that an expression does, where the passes that it
may start are `p` in the one frame and `p'` in the other. What a step gives back matters as far as
a predicate gets it. -/
structure Law (p p' : Passes) (R : Frame → Frame → Prop) : Prop extends QuietLaw R where
  nested (setup : Setup) (argument : PassArgument) : Run.Simulates R Eq
    (inSession (do p.evaluate (← Session.make setup) argument))
    (inSession (do p'.evaluate (← Session.make setup) argument))
  step (st : Step) : Run.Simulates R (fun r r' => r.operand = r'.operand)
    (inSession (Session.step p st)) (inSession (Session.step p' st))

namespace KeyLaw

variable {R : Frame → Frame → Prop}

theorem resolve (law : KeyLaw R) {f g : Frame} (h : R f g) (o : Operand) :
    f.resolve o = g.resolve o := by
  cases o with
  | evaluator number => exact law.evaluator number h
  | _ => simp only [Frame.resolve, law.store h, law.subject h]

/-! ## Looking up -/

theorem contextFor (law : KeyLaw R) (member : String) :
    Run.Simulates R Eq (contextFor member) (contextFor member) := by
  refine Run.Simulates.get_bind fun f g h => ?_
  rw [law.subject h]
  cases g.subject with
  | context c => exact .ok rfl h
  | name s => exact .error h

theorem lookUp? (law : KeyLaw R) (key : Value) :
    Run.Simulates R Eq (lookUp? key) (lookUp? key) := by
  unfold Frame.lookUp?
  refine Run.Simulates.bind_eq (law.contextFor "get") fun c => ?_
  exact Run.Simulates.bind_eq (Run.needKey_simulates key) fun _ => Run.Simulates.pure rfl

theorem has (law : KeyLaw R) (key : Value) : Run.Simulates R Eq (has key) (has key) := by
  refine Run.Simulates.get_bind fun f g h => ?_
  rw [law.subject h]
  refine (?_ : Run.Simulates R Eq _ _) f g h
  split
  · exact Run.Simulates.bind_eq (Run.needKey_simulates key) fun _ => Run.Simulates.pure rfl
  · split
    · exact Run.Simulates.pure rfl
    · exact Run.Simulates.pure rfl
    · exact Run.Simulates.raise _

theorem item (law : KeyLaw R) (path : List Value) :
    Run.Simulates R Eq (item path) (item path) := by
  refine Run.Simulates.get_bind fun f g h => ?_
  rw [law.subject h, law.store h]
  refine (?_ : Run.Simulates R Eq _ _) f g h
  split
  · exact Run.Simulates.pure rfl
  · refine Run.Simulates.bind_eq (Run.needKey_simulates _) fun _ => ?_
    split
    · exact Run.Simulates.pure rfl
    · exact Run.Simulates.raise _
  · exact Run.Simulates.bind_eq (Run.Simulates.ofExcept _) fun _ => Run.Simulates.pure rfl

/-! ## Writing -/

theorem assign (law : KeyLaw R) (key v : Value) :
    Run.Simulates R Eq (assign key v) (assign key v) := by
  refine Run.Simulates.get_bind fun f g h => ?_
  rw [law.subject h]
  refine (?_ : Run.Simulates R Eq _ _) f g h
  split
  · exact Run.Simulates.raise _
  · exact Run.Simulates.bind_eq (Run.needKey_simulates key)
      fun _ => Run.Simulates.modify fun _ _ h => law.put key v h

theorem remove (law : KeyLaw R) (key : Value) :
    Run.Simulates R Eq (remove key) (remove key) := by
  refine Run.Simulates.bind_eq (law.contextFor "pop") fun c => ?_
  split
  · exact Run.Simulates.pure rfl
  · refine Run.Simulates.bind_eq (Run.needKey_simulates key) fun _ => ?_
    exact Run.Simulates.bind_eq (Run.Simulates.modify fun _ _ h => law.drop key h)
      fun _ => Run.Simulates.pure rfl

/-- With equal operands it is a law of operands. -/
theorem operands (law : KeyLaw R) : OperandLaw R Eq where
  resolve h ho := by rw [ho, law.resolve h]
  value _ := rfl
  subject := rfl
  lookUp? key := (law.lookUp? key).mono fun x y h => by
    subst h
    cases x with
    | none => exact .none
    | some s => exact .some rfl
  has := law.has
  item := law.item
  log := law.log
  assign := law.assign
  remove := law.remove

/-- What logging and writes of keys keep. -/
theorem ofInvariant {P : Frame → Prop}
    (log : ∀ v f, P f → P { f with session := f.session.logValue v })
    (put : ∀ key v f, P f → P (f.put key v))
    (drop : ∀ key f, P f → P (f.write (.drop key))) : KeyLaw fun f g => f = g ∧ P f where
  store h := by rw [h.1]
  subject h := by rw [h.1]
  evaluator number f g h := by rw [h.1]
  log v f g h := ⟨congrArg (fun f : Frame => { f with session := f.session.logValue v }) h.1,
    log v f h.2⟩
  put key v f g h := ⟨congrArg (Frame.put key v) h.1, put key v f h.2⟩
  drop key f g h := ⟨congrArg (Frame.write (.drop key)) h.1, drop key f h.2⟩

end KeyLaw

/-- What writes of items of what stands under `env` keep besides. -/
theorem QuietLaw.ofInvariant {P : Frame → Prop} (law : KeyLaw fun f g => f = g ∧ P f)
    (putEnv : ∀ {f : Frame} {c : Context} {key v w w' : Value}, P f → f.subject = .context c →
      Layer.find? c Context.envKey = some (.plain w) → Value.withItem key v w = .ok w' →
      P (f.write (.put Context.envKey (.plain w'))))
    (writeCell : ∀ {f : Frame} {c : Context} {number : Nat} {key v : Value} {store : Store}, P f →
      f.subject = .context c → Layer.find? c Context.envKey = some (.shared number) →
      f.session.store.write number key v = .ok store →
      P { f with session := { f.session with store := store } }) :
    QuietLaw fun f g => f = g ∧ P f where
  toKeyLaw := law
  putEnv h hc hfind hw := by
    obtain ⟨rfl, hf⟩ := h
    exact ⟨rfl, putEnv hf hc hfind hw⟩
  writeCell h hc hfind hw := by
    obtain ⟨rfl, hf⟩ := h
    exact ⟨rfl, writeCell hf hc hfind hw⟩

theorem QuietLaw.assignEnv {R : Frame → Frame → Prop} (law : QuietLaw R) (key v : Value) :
    Run.Simulates R Eq (assignEnv key v) (assignEnv key v) := by
  refine Run.Simulates.get_bind fun f g h => ?_
  rw [law.subject h, law.store h]
  cases hc : g.subject with
  | name s => exact .error h
  | context c =>
    dsimp only
    cases hfind : Layer.find? c Context.envKey with
    | none => exact .error h
    | some slot =>
      cases slot with
      | plain w =>
        dsimp only
        cases hw : Value.withItem key v w with
        | error e => exact .error h
        | ok w' => exact .ok rfl (law.putEnv h hc hfind hw)
      | shared number =>
        dsimp only
        cases hw : g.session.store.write number key v with
        | error e => exact .error h
        | ok store => exact .ok rfl (law.writeCell h hc hfind hw)

end Frame

namespace Expr

/-- An effect of an expression: one that is quiet has those of one kind only. -/
inductive IsEffect (quiet : Bool) : Expr → Prop
  | assignEnv (key v : Value) : IsEffect quiet (.assignEnv key v)
  | nested (h : quiet = false) (setup : Setup) : IsEffect quiet (.nested setup)
  | step (h : quiet = false) (st : Step) : IsEffect quiet (.step st)

theorem IsEffect.mono {quiet quiet' : Bool} {x : Expr} (h : IsEffect quiet x)
    (hq : quiet = false → quiet' = false) : IsEffect quiet' x := by
  cases h with
  | assignEnv key v => exact .assignEnv key v
  | nested h setup => exact .nested (hq h) setup
  | step h st => exact .step (hq h) st

mutual

theorem isEffect_of_mem {x : Expr} : (e : Expr) → x ∈ effects e → IsEffect (isQuiet e) x
  | .assignEnv key v, h => by
    rw [List.mem_singleton.1 h]
    exact .assignEnv key v
  | .nested setup, h => by
    rw [List.mem_singleton.1 h]
    exact .nested rfl setup
  | .step st, h => by
    rw [List.mem_singleton.1 h]
    exact .step rfl st
  | .eq a b, h => by
    rw [isQuiet]
    rcases List.mem_append.1 h with h | h
    · exact (isEffect_of_mem a h).mono fun hq => by rw [hq, Bool.false_and]
    · exact (isEffect_of_mem b h).mono fun hq => by rw [hq, Bool.and_false]
  | .not e, h | .log e, h | .attempt e, h => isEffect_of_mem e h
  | .all es, h | .any es, h | .seq es, h => isEffect_of_mem_all es h

theorem isEffect_of_mem_all {x : Expr} :
    (es : List Expr) → x ∈ effectsOf es → IsEffect (areQuiet es) x
  | e :: es, h => by
    rw [areQuiet]
    rcases List.mem_append.1 h with h | h
    · exact (isEffect_of_mem e h).mono fun hq => by rw [hq, Bool.false_and]
    · exact (isEffect_of_mem_all es h).mono fun hq => by rw [hq, Bool.and_false]

end

mutual

/-- An expression without effects is quiet. -/
theorem isQuiet_of_noEffects : (e : Expr) → effects e = [] → isQuiet e = true
  | .nested _, h | .step _, h => by cases h
  | .eq a b, h => by
    obtain ⟨ha, hb⟩ := List.append_eq_nil_iff.1 h
    rw [isQuiet, isQuiet_of_noEffects a ha, isQuiet_of_noEffects b hb]
    rfl
  | .not e, h | .log e, h | .attempt e, h => isQuiet_of_noEffects e h
  | .all es, h | .any es, h | .seq es, h => areQuiet_of_noEffects es h
  | .lit _, _ | .context, _ | .keys, _ | .lookUp .., _ | .has _, _ | .item _, _ | .raise _, _
  | .assign .., _ | .remove _, _ | .assignEnv .., _ => rfl

theorem areQuiet_of_noEffects : (es : List Expr) → effectsOf es = [] → areQuiet es = true
  | [], _ => rfl
  | e :: es, h => by
    obtain ⟨he, hes⟩ := List.append_eq_nil_iff.1 h
    rw [areQuiet, isQuiet_of_noEffects e he, areQuiet_of_noEffects es hes]
    rfl

end

variable {p p' : Passes} {R : Frame → Frame → Prop}

/-- Effects simulate themselves under a law of frames, those of quiet expressions under one of quiet
expressions. -/
theorem effect_simulates (law : Frame.QuietLaw R) {x : Expr} {quiet : Bool} (h : IsEffect quiet x)
    (full : quiet = false → Frame.Law p p' R) : Run.Simulates R Eq (run p x) (run p' x) := by
  cases h with
  | assignEnv key v =>
    simp only [run]
    exact Run.Simulates.bind_eq (law.assignEnv key v) fun _ => Run.Simulates.pure rfl
  | nested hq setup =>
    simp only [run]
    refine Run.Simulates.get_bind fun f g h => ?_
    rw [law.subject h]
    exact Run.Simulates.bind_eq ((full hq).nested setup _) (fun _ => Run.Simulates.pure rfl) _ _ h
  | step hq st =>
    simp only [run]
    exact Run.Simulates.bind ((full hq).step st) fun _ _ h => Run.Simulates.pure h

/-- An expression simulates itself under a law of frames, of quiet expressions if it is quiet. -/
theorem run_simulates (law : Frame.QuietLaw R) (e : Expr)
    (full : isQuiet e = false → Frame.Law p p' R) : Run.Simulates R Eq (run p e) (run p' e) :=
  run_simulates_of law.operands e fun _ hx => effect_simulates law (isEffect_of_mem e hx) full

end Expr

theorem Condition.isEffect_of_mem {x : Expr} {c : Condition} (h : x ∈ c.effects) :
    Expr.IsEffect c.isQuiet x := by
  rw [Condition.effects] at h
  rw [Condition.isQuiet]
  cases hc : c.check with
  | static v =>
    rw [hc] at h
    cases h
  | predicate k =>
    rw [hc] at h
    cases k with
    | native n => cases h
    | expression body => exact Expr.isEffect_of_mem body h

theorem Condition.isQuiet_of_noEffects {c : Condition} (h : c.effects = []) :
    c.isQuiet = true := by
  rw [Condition.effects] at h
  rw [Condition.isQuiet]
  split
  · rename_i body hc
    rw [hc] at h
    exact body.isQuiet_of_noEffects h
  · rfl

namespace Session

variable {p p' : Passes} {R : Frame → Frame → Prop}

/-- Deciding a condition gives the same verdict in related frames, and related frames. -/
theorem decide_simulates (law : Frame.QuietLaw R) (c : Condition)
    (full : c.isQuiet = false → Frame.Law p p' R) :
    Pass.Agree R (decide p) (decide p') c := by
  intro f g h
  have he := runCheck_simulates_of law.operands c
    (fun _ hx => Expr.effect_simulates law (Condition.isEffect_of_mem hx) full) f g h
  unfold decide
  generalize runCheck p c.check f = x at he
  generalize runCheck p' c.check g = y at he
  cases he with
  | ok hq hr => exact ⟨congrArg (fun v => Verdict.judge c.name (.ok v)) hq, hr⟩
  | error hr => exact ⟨rfl, hr⟩

end Session

end NamedConditions
