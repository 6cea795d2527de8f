import NamedConditions.Proofs.Session.Change
import NamedConditions.Proofs.Session.Predicate
/-!
What steps and passes preserve. A law of sessions gives a law of frames, and by induction on the
depth every pass and every step respects the law; so does, under a law of quiet changes alone, a
pass whose conditions are all quiet. Passes give the same then, and so do steps, but that they may
tell of other strict rules.

Main statements: steps and passes of any depth simulate themselves under a law of sessions
(`step_simulates`, `passes_simulate`), hence every property that the elementary changes keep is kept
by whatever runs (`run_keeps`, `step_keeps`), and what the quiet changes keep is kept by passes of
quiet conditions (`pass_keeps_of_quiet`).
-/
namespace NamedConditions

/-- The same evaluator without the strict rule. -/
def Evaluator.lax (e : Evaluator) : Evaluator := { e with strict := false }

namespace StepResult

/-- What a step gives back, without the strict rules that it tells of. -/
def lax : StepResult → StepResult
  | forked number shown _ => forked number shown false
  | described e shown => described e.lax shown
  | r => r

/-- Results that differ at most in the strict rules that they tell of. -/
def Alike (r r' : StepResult) : Prop := r.lax = r'.lax

theorem Alike.refl (r : StepResult) : Alike r r := rfl

theorem Alike.forked (number : Nat) (shown : String) (strict strict' : Bool) :
    Alike (.forked number shown strict) (.forked number shown strict') := rfl

theorem Alike.described (e : Evaluator) (strict : Bool) (shown : String) :
    Alike (.described e shown) (.described { e with strict := strict } shown) := rfl

/-- A predicate gets the same from results that are alike. -/
theorem Alike.operand {r r' : StepResult} (h : Alike r r') : r.operand = r'.operand := by
  have hlax : ∀ x : StepResult, x.lax.operand = x.operand := fun x => by cases x <;> rfl
  rw [← hlax r, ← hlax r', show r.lax = r'.lax from h]

end StepResult

/-- The passes of the one sort simulate those of the other. -/
structure Passes.Simulate (p p' : Passes) (R : Session → Session → Prop) : Prop where
  evaluate (number : Nat) (argument : PassArgument) :
    Run.Simulates R Eq (p.evaluate number argument) (p'.evaluate number argument)
  explain (number : Nat) (argument : PassArgument) :
    Run.Simulates R Eq (p.explain number argument) (p'.explain number argument)

namespace Session

variable {p p' : Passes} {R : Session → Session → Prop}

/-! ## Steps -/

/-- What a step does to evaluators that are twins is simulated. -/
theorem actOn_simulates (law : Law R) (hp : p.Simulate p' R) {number : Nat} {e e' : Evaluator}
    {s t : Session} (h : R s t) (he : s.evaluators[number]? = some e)
    (he' : t.evaluators[number]? = some e') (htwin : Twin e e') (action : Action) :
    Ends R StepResult.Alike (actOn p number e action s) (actOn p' number e' action t) := by
  cases action with
  | make setup => exact .ok (.refl _) h
  | setProcess changes => exact .ok (.refl _) h
  | withContext argument =>
    exact Run.Simulates.bind_eq (law.withContext number argument)
      (fun _ => Run.Simulates.pure (.refl _)) s t h
  | resetContext =>
    exact Run.Simulates.bind_eq (law.modify (.clear number) fun _ => rfl)
      (fun _ => Run.Simulates.pure (.refl _)) s t h
  | evaluate argument =>
    exact Run.Simulates.bind_eq (hp.evaluate number _)
      (fun _ => Run.Simulates.pure (.refl _)) s t h
  | explain argument =>
    exact Run.Simulates.bind_eq (hp.explain number _)
      (fun _ => Run.Simulates.pure (.refl _)) s t h
  | getContext =>
    obtain ⟨strict, rfl, -⟩ := htwin
    exact .ok (.refl _) h
  | pokeContext key v =>
    obtain ⟨strict, rfl, -⟩ := htwin
    exact Run.Simulates.bind_eq (Run.needKey_simulates key)
      (fun _ => Run.Simulates.pure (.refl _)) s t h
  | describe =>
    obtain ⟨strict, rfl, -⟩ := htwin
    exact Run.Simulates.bind_eq (Run.Simulates.ofExcept e.shown)
      (fun _ => Run.Simulates.pure (.described ..)) s t h
  | fork name =>
    refine (law.fork h he he' htwin).bind fun n n' u v hn hr => ?_
    subst hn
    obtain ⟨strict, rfl, -⟩ := htwin
    refine Run.Simulates.bind_eq (law.modify (.bind name n) fun _ => rfl) (fun _ => ?_) u v hr
    exact Run.Simulates.bind_eq (Run.Simulates.ofExcept e.shown)
      fun _ => Run.Simulates.pure (.forked ..)

theorem actOnNamed_simulates (law : Law R) (hp : p.Simulate p' R) (on : String) (action : Action) :
    Run.Simulates R StepResult.Alike (actOnNamed p on action) (actOnNamed p' on action) := by
  refine Run.Simulates.get_bind fun s t h => ?_
  rw [(law.akin h).number?]
  cases t.number? on with
  | none => exact .ok (.refl _) h
  | some number =>
    dsimp only
    rcases (law.akin h).evaluator_cases number with ⟨he, he'⟩ | ⟨e, e', he, he', htwin⟩
    · rw [he, he']
      exact .ok (.refl _) h
    · rw [he, he']
      exact actOn_simulates law hp h he he' htwin action

/-- A step simulates itself under a law. -/
theorem step_simulates (law : Law R) (hp : p.Simulate p' R) (st : Step) :
    Run.Simulates R StepResult.Alike (step p st) (step p' st) := by
  rcases st with ⟨on, action⟩
  cases action with
  | make setup =>
    refine Run.Simulates.bind_eq (law.make setup) fun n => ?_
    refine Run.Simulates.bind_eq (law.modify (.bind on n) fun _ => rfl) fun _ => ?_
    refine Run.Simulates.get_bind fun s t h => ?_
    rcases (law.akin h).evaluator_cases n with ⟨he, he'⟩ | ⟨e, e', he, he', strict, rfl, -⟩
    · rw [he, he']
      exact .ok (.refl _) h
    · rw [he, he']
      exact Run.Simulates.bind_eq (Run.Simulates.ofExcept e.shown)
        (fun _ => Run.Simulates.pure (.refl _)) s t h
  | setProcess changes =>
    exact Run.Simulates.bind_eq (law.modify (.setProcess changes) fun _ => rfl)
      fun _ => Run.Simulates.pure (.refl _)
  | _ => exact actOnNamed_simulates law hp on _

/-! ## Frames over related sessions -/

/-- Frames with related sessions and the same subject, which the same was written into. -/
def OnFrames (R : Session → Session → Prop) (f g : Frame) : Prop :=
  R f.session g.session ∧ f.subject = g.subject ∧ f.writes = g.writes

theorem inSession_simulates {α : Type} {Q : α → α → Prop} {r r' : Run Session α}
    (h : Run.Simulates R Q r r') :
    Run.Simulates (OnFrames R) Q (Frame.inSession r) (Frame.inSession r') := by
  rintro f g ⟨hr, hs, hw⟩
  have he := h f.session g.session hr
  simp only [Frame.inSession]
  generalize r f.session = x at he
  generalize r' g.session = y at he
  cases he with
  | ok hq hr => exact .ok hq ⟨hr, hs, hw⟩
  | error hr => exact .error ⟨hr, hs, hw⟩

theorem onFrames_write {f g : Frame} (h : OnFrames R f g) (w : Write) :
    OnFrames R (f.write w) (g.write w) :=
  ⟨h.1, congrArg (Subject.write w) h.2.1, congrArg (· ++ [w]) h.2.2⟩

theorem onFrames_put (law : QuietLaw R) (key v : Value) {f g : Frame} (h : OnFrames R f g) :
    OnFrames R (f.put key v) (g.put key v) := by
  have hf : OnFrames R { f with session := (Change.hold v).perform f.session }
      { g with session := (Change.hold v).perform g.session } :=
    ⟨law.change (c := .hold v) rfl h.1, h.2⟩
  simp only [Frame.put]
  rw [law.store h.1]
  simp only [Change.perform, law.store h.1] at hf
  exact onFrames_write hf _

/-- A write of a cell that succeeds. -/
theorem onFrames_store (law : QuietLaw R) {f g : Frame} {number : Nat} {key v : Value}
    {store : Store} (h : OnFrames R f g)
    (hw : g.session.store.write number key v = .ok store) :
    OnFrames R { f with session := { f.session with store := store } }
      { g with session := { g.session with store := store } } := by
  refine ⟨?_, h.2⟩
  have hc := law.change (c := .write number key v) rfl h.1
  simpa only [Change.perform, law.store h.1, hw, Except.toOption, Option.getD_some] using hc

/-- A law of quiet changes is respected by what quiet expressions do. -/
theorem quietFrameLaw (law : QuietLaw R) : Frame.QuietLaw (OnFrames R) where
  store h := law.store h.1
  subject h := h.2.1
  evaluator number _ _ h := (law.akin h.1).evaluatorValue number
  log v _ _ h := ⟨law.change (c := .log v) rfl h.1, h.2⟩
  put key v _ _ h := onFrames_put law key v h
  drop _ _ _ h := onFrames_write h _
  putEnv h _ _ _ := onFrames_write h _
  writeCell h _ _ hw := onFrames_store law h hw

/-- A law of sessions is respected by what predicates do. -/
theorem frameLaw (law : Law R) (hp : p.Simulate p' R) : Frame.Law p p' (OnFrames R) where
  toQuietLaw := quietFrameLaw law.quiet
  nested setup argument :=
    inSession_simulates (Run.Simulates.bind_eq (law.make setup) fun n => hp.evaluate n argument)
  step st := (inSession_simulates (step_simulates law hp st)).mono fun _ _ h => h.operand

theorem agree_of_law (law : Law R) (hp : p.Simulate p' R) (c : Condition) :
    Pass.Agree (OnFrames R) (decide p) (decide p') c :=
  decide_simulates (quietFrameLaw law.quiet) c fun _ => frameLaw law hp

theorem agree_of_quiet (law : QuietLaw R) {c : Condition} (hc : c.isQuiet = true) :
    Pass.Agree (OnFrames R) (decide p) (decide p') c := by
  refine decide_simulates (quietFrameLaw law) c fun h => ?_
  rw [hc] at h
  cases h

/-! ## Passes -/

theorem effectiveContext_simulates (law : QuietLaw R) (e : Evaluator) (argument : PassArgument) :
    Run.Simulates R Eq (effectiveContext e argument) (effectiveContext e argument) := by
  have hr := law.readSource e.source
  cases argument with
  | given v =>
    refine Run.Simulates.bind_eq ((law.takeArgument v).map _) fun runtime => ?_
    exact Run.Simulates.bind_eq hr fun _ => Run.Simulates.pure rfl
  | context c =>
    refine Run.Simulates.bind_eq (Run.Simulates.pure rfl) fun runtime => ?_
    exact Run.Simulates.bind_eq hr fun _ => Run.Simulates.pure rfl

theorem inSpan_simulates {α : Type} (law : QuietLaw R) {pass pass' : Run Frame α}
    (h : Run.Simulates (OnFrames R) Eq pass pass') (name : String) (count : Nat) (c : Context)
    (found : α → Nat) :
    Run.Simulates R Eq (inSpan name count c pass found) (inSpan name count c pass' found) := by
  intro s t hr
  have he := h (passFrame name count c s) (passFrame name count c t)
    ⟨law.change (c := .openSpan name count) rfl hr, rfl, rfl⟩
  unfold inSpan
  generalize pass (passFrame name count c s) = x at he
  generalize pass' (passFrame name count c t) = y at he
  cases he with
  | @ok a b f g hq hr =>
    subst hq
    exact .ok rfl (law.change (c := .closeSpan (found a)) rfl hr.1)
  | @error stop f g hr =>
    simp only [law.abandon stop hr.1]
    exact .error (law.change (c := .abandonSpan stop) rfl hr.1)

theorem onFrames_mark (law : QuietLaw R) (c : ConditionFailure) {f g : Frame}
    (h : OnFrames R f g) : OnFrames R (markFailure c f) (markFailure c g) :=
  ⟨law.change (c := .mark c) rfl h.1, h.2⟩

/-- Evaluating is simulated where deciding the conditions of the evaluator is. -/
theorem evaluate_ends (law : QuietLaw R) {number : Nat} {s t : Session} (h : R s t)
    (hd : ∀ e, s.evaluators[number]? = some e → ∀ c ∈ e.conditions,
      Pass.Agree (OnFrames R) (decide p) (decide p') c) (argument : PassArgument) :
    Ends R Eq (evaluate p number argument s) (evaluate p' number argument t) := by
  simp only [evaluate, Bind.bind, EStateM.bind, Run.get_run]
  rcases (law.akin h).evaluator_cases number with ⟨hn, hn'⟩ | ⟨e, e', hn, hn', strict, rfl, -⟩
  · rw [hn, hn']
    exact .error h
  · rw [hn, hn']
    refine Run.Simulates.bind_eq (effectiveContext_simulates law e argument) (fun c => ?_) s t h
    refine Run.Simulates.bind_eq (inSpan_simulates law ?_ _ _ c _) fun names => ?_
    · exact Pass.collect_simulates (hd e hn)
    · exact Run.Simulates.bind_eq (law.modify (c := .note _) rfl fun _ => rfl)
        fun _ => Run.Simulates.pure rfl

/-- Explaining is simulated where deciding the conditions of the evaluator is. -/
theorem explain_ends (law : QuietLaw R) {number : Nat} {s t : Session} (h : R s t)
    (hd : ∀ e, s.evaluators[number]? = some e → ∀ c ∈ e.conditions,
      Pass.Agree (OnFrames R) (decide p) (decide p') c) (argument : PassArgument) :
    Ends R Eq (explain p number argument s) (explain p' number argument t) := by
  simp only [explain, Bind.bind, EStateM.bind, Run.get_run]
  rcases (law.akin h).evaluator_cases number with ⟨hn, hn'⟩ | ⟨e, e', hn, hn', strict, rfl, -⟩
  · rw [hn, hn']
    exact .error h
  · rw [hn, hn']
    refine Run.Simulates.bind_eq (effectiveContext_simulates law e argument) (fun c => ?_) s t h
    refine Run.Simulates.bind_eq (inSpan_simulates law ?_ _ _ c _) fun outcomes => ?_
    · exact Pass.survey_simulates (hd e hn) fun c f g h => onFrames_mark law c h
    · exact Run.Simulates.pure rfl

/-- Passes of every depth simulate themselves under a law. -/
theorem passes_simulate (law : Law R) (depth : Nat) : (passes depth).Simulate (passes depth) R := by
  induction depth with
  | zero => exact ⟨fun _ _ => Run.Simulates.throw _, fun _ _ => Run.Simulates.throw _⟩
  | succ depth ih =>
    constructor
    · intro number argument s t h
      exact evaluate_ends law.quiet h (fun e _ c _ => agree_of_law law ih c) argument
    · intro number argument s t h
      exact explain_ends law.quiet h (fun e _ c _ => agree_of_law law ih c) argument

/-! ## What is kept -/

variable {P : Session → Prop}

section

variable (h : ∀ (c : Change) (s : Session), P s → P (c.perform s))

include h

theorem step_keeps (depth : Nat) (st : Step) : Run.Keeps P (step (passes depth) st) :=
  Run.keeps_of_simulates
    (step_simulates (Law.ofInvariant h) (passes_simulate (Law.ofInvariant h) depth) st)

/-- What every elementary change keeps is kept by the steps of the user. -/
theorem userStep_keeps (depth : Nat) (st : Step) {s : Session} (hs : P s) :
    P (userStep depth st s).2 := by
  have hk := step_keeps h depth st _ (h .turn s hs)
  simp only [Change.perform] at hk
  unfold userStep
  generalize step (passes depth) st { s with journal := .empty } = x at hk
  cases x with
  | ok r t => exact hk
  | error stop t => exact hk

theorem foldl_userStep_keeps (depth : Nat) (steps : List Step) {s : Session} (hs : P s) :
    P (steps.foldl (fun s st => (userStep depth st s).2) s) := by
  induction steps generalizing s with
  | nil => exact hs
  | cons st steps ih => exact ih (userStep_keeps h depth st hs)

/-- What every elementary change keeps is kept by predicates, in the sessions in which they run. -/
theorem run_keeps (depth : Nat) (e : Expr) {f : Frame} (hf : P f.session) :
    P (endState (Expr.run (passes depth) e f)).session := by
  have law := Law.ofInvariant h
  have hr : OnFrames (fun s t => s = t ∧ P s) f f := ⟨⟨rfl, hf⟩, rfl, rfl⟩
  have he := Expr.run_simulates (quietFrameLaw law.quiet) e
    (fun _ => frameLaw law (passes_simulate law depth)) f f hr
  exact he.states.1.2

/-- So it is by deciding a condition. -/
theorem decide_keeps (depth : Nat) (c : Condition) {f : Frame} (hf : P f.session) :
    P (decide (passes depth) c f).1.session := by
  have law := Law.ofInvariant h
  have hr : OnFrames (fun s t => s = t ∧ P s) f f := ⟨⟨rfl, hf⟩, rfl, rfl⟩
  exact (agree_of_law law (passes_simulate law depth) c f f hr).2.1.2

end

/-- The session after steps of the user, from one that was just started. -/
def after (depth : Nat) (process : Variables) (steps : List Step) : Session :=
  steps.foldl (fun s st => (userStep depth st s).2) (start process)

theorem reachable_after (depth : Nat) (process : Variables) (steps : List Step) :
    Reachable (after depth process steps) :=
  foldl_userStep_keeps (fun c _ => .change c) depth steps (.start process)

/-- What every quiet change keeps is kept by passes of quiet conditions. -/
theorem pass_keeps_of_quiet (h : ∀ c : Change, c.isQuiet = true → ∀ s, P s → P (c.perform s))
    {number : Nat} {s : Session} (hs : P s)
    (hq : ∀ e, s.evaluators[number]? = some e → ∀ c ∈ e.conditions, c.isQuiet = true)
    (p : Passes) (argument : PassArgument) :
    P (endState (evaluate p number argument s)) ∧ P (endState (explain p number argument s)) := by
  have law := QuietLaw.ofInvariant h
  have hd : ∀ e, s.evaluators[number]? = some e → ∀ c ∈ e.conditions,
      Pass.Agree (OnFrames fun s t => s = t ∧ P s) (decide p) (decide p) c :=
    fun e he c hc => agree_of_quiet law (hq e he c hc)
  exact ⟨(evaluate_ends law ⟨rfl, hs⟩ hd argument).states.2,
    (explain_ends law ⟨rfl, hs⟩ hd argument).states.2⟩

end Session

end NamedConditions
