import NamedConditions.Proofs.Trace.Outcome
/-!
Readings of sources. A pass reads the source of its evaluator once, before anything that its
conditions do, and nothing but passes reads sources; so as many readings are entered as calls are
made, inner ones among them. What the conditions of a pass find as the environment is what that one
reading gave, and where it raised, nothing of the pass is run.

Main statement (`environment_read_once`): the readings of a step are as many as its calls, and what
a pass does with its one reading.
-/
namespace NamedConditions

namespace Call

mutual

/-- The number of calls that a call comes to, itself among them. -/
def total : Call → Nat
  | .refused _ => 1
  | .ran _ _ _ _ inner => 1 + totalOf inner

/-- The number of calls that calls one after another come to. -/
def totalOf : List Call → Nat
  | [] => 0
  | c :: cs => total c + totalOf cs

end

theorem totalOf_append (a b : List Call) : totalOf (a ++ b) = totalOf a + totalOf b := by
  induction a with
  | nil => rw [List.nil_append, totalOf, Nat.zero_add]
  | cons c a ih => rw [List.cons_append, totalOf, ih, totalOf, Nat.add_assoc]

theorem totalOf_singleton (c : Call) : totalOf [c] = total c := by
  rw [totalOf, totalOf, Nat.add_zero]

end Call

namespace Session

/-! ## What is entered -/

/-- Only readings are entered. -/
theorem readings_perform {c : Change} (hread : ∀ source, c ≠ .read source) (hturn : c ≠ .turn)
    (s : Session) : (c.perform s).journal.readings = s.journal.readings := by
  cases c with
  | read source => exact absurd rfl (hread source)
  | turn => exact absurd rfl hturn
  | log | note | bind | setProcess | hold | write | clear | openSpan | closeSpan | mark => rfl
  | abandonSpan stop => cases stop <;> rfl
  | take argument =>
    rcases Change.perform_take argument s with ⟨es, -, hs⟩ | ⟨-, notes, hs⟩ <;> rw [hs]
  | give number argument =>
    rcases Change.perform_give number argument s with ⟨es, -, hs⟩ | ⟨-, notes, hs⟩ <;> rw [hs] <;>
      rfl
  | make setup =>
    rcases Change.perform_make setup s with hs | ⟨_, _, _, _, _, -, hs⟩ <;> rw [hs]
    rfl
  | fork number =>
    rcases Change.perform_fork number s with hs | ⟨e, specs, -, -, hs⟩ <;> rw [hs]
    rfl

/-- Reading a source enters it, and nothing else into the journal but how many were counted. -/
theorem journal_readSource (source : Nat) (s : Session) :
    ∃ reads, (endState (readSource source s)).journal =
      { s.journal with reads := reads, readings := s.journal.readings ++ [source] } := by
  rcases Change.perform_read source s with ⟨-, hs⟩ | ⟨p, -, hs⟩
  · exact ⟨s.journal.reads, congrArg Session.journal hs⟩
  · exact ⟨_, congrArg Session.journal hs⟩

end Session

/-- The number of readings, to which every call adds those that it comes to. -/
def Call.readingCount : Observation Nat where
  view s := s.journal.readings.length
  after calls n := n + Call.totalOf calls
  after_nil n := by rw [Call.totalOf, Nat.add_zero]
  after_append a b n := by rw [Call.totalOf_append, Nat.add_assoc]
  still {c} h s := by
    refine congrArg List.length (Session.readings_perform (fun source hc => ?_) (fun hc => ?_) s)
    · subst hc
      cases h
    · subst hc
      cases h

namespace Session

variable {p : Passes} {k : PassCalls}

/-! ## The readings of a pass -/

theorem readings_afterTaking (argument : PassArgument) (s : Session) :
    (afterTaking argument s).journal.readings = s.journal.readings := by
  cases argument with
  | context c => rfl
  | given v => exact readings_perform (c := .take v) (fun _ => nofun) nofun s

/-- Making the context of a pass reads one source. -/
theorem readings_effectiveContext (e : Evaluator) (argument : PassArgument) (s : Session) :
    (endState (effectiveContext e argument s)).journal.readings =
      s.journal.readings ++ [e.source] := by
  obtain ⟨reads, hj⟩ := journal_readSource e.source (afterTaking argument s)
  have hread : (endState (readSource e.source (afterTaking argument s))).journal.readings =
      s.journal.readings ++ [e.source] := by
    rw [hj, readings_afterTaking]
  rw [effectiveContext_run, ← hread]
  cases readSource e.source (afterTaking argument s) <;> rfl

theorem length_readings_effectiveContext (e : Evaluator) (argument : PassArgument) (s : Session) :
    (endState (effectiveContext e argument s)).journal.readings.length =
      s.journal.readings.length + 1 := by
  rw [readings_effectiveContext, List.length_append, List.length_singleton]

/-- What a span reads is what is read in it. -/
theorem readings_inSpan {α : Type} (name : String) (count : Nat) (c : Context)
    (pass : Run Frame α) (found : α → Nat) (s : Session) :
    (endState (inSpan name count c pass found s)).journal.readings =
      (endState (pass (passFrame name count c s))).session.journal.readings := by
  unfold inSpan
  cases pass (passFrame name count c s) with
  | ok a f => rfl
  | error stop f => exact readings_perform (c := .abandonSpan stop) (fun _ => nofun) nofun f.session

theorem readings_evaluate (h : Call.readingCount.Told k p) (number : Nat) (argument : PassArgument)
    (s : Session) :
    (endState (evaluate p number argument s)).journal.readings.length =
      s.journal.readings.length + Call.totalOf (callsOfEvaluate p k number argument s) := by
  rw [callsOfEvaluate]
  cases he : s.evaluators[number]? with
  | none =>
    rw [evaluate_absent he]
    rfl
  | some e =>
    have hc := length_readings_effectiveContext e argument s
    rw [Option.elim_some]
    cases hx : effectiveContext e argument s with
    | error stop t =>
      rw [hx] at hc
      rw [evaluate_of_no_context he hx]
      exact hc
    | ok c t =>
      rw [hx] at hc
      have hl : (endState (Pass.collect (decide p) e.conditions
          (passFrame "envname.evaluate" e.conditions.length c t))).session.journal.readings.length =
          t.journal.readings.length +
            Call.totalOf ((evaluated p e c t).flatMap (callsOfCondition p k)) :=
        view_collect h e.conditions _
      have hs := readings_inSpan "envname.evaluate" e.conditions.length c
        (Pass.collect (decide p) e.conditions) List.length t
      rw [evaluate_inSpan he hx, Call.totalOf_singleton, Call.total, ← Nat.add_assoc, ← hc]
      refine Eq.trans ?_ ((congrArg List.length hs).trans hl)
      simp only [Bind.bind, EStateM.bind]
      cases inSpan "envname.evaluate" e.conditions.length c (Pass.collect (decide p) e.conditions)
        List.length t <;> rfl

theorem readings_explain (h : Call.readingCount.Told k p) (number : Nat) (argument : PassArgument)
    (s : Session) :
    (endState (explain p number argument s)).journal.readings.length =
      s.journal.readings.length + Call.totalOf (callsOfExplain p k number argument s) := by
  rw [callsOfExplain]
  cases he : s.evaluators[number]? with
  | none =>
    rw [explain_absent he]
    rfl
  | some e =>
    have hc := length_readings_effectiveContext e argument s
    rw [Option.elim_some]
    cases hx : effectiveContext e argument s with
    | error stop t =>
      rw [hx] at hc
      rw [explain_of_no_context he hx]
      exact hc
    | ok c t =>
      rw [hx] at hc
      have hl : (endState (Pass.survey (decide p) markFailure e.conditions
          (passFrame "envname.explain" e.conditions.length c t))).session.journal.readings.length =
          t.journal.readings.length +
            Call.totalOf ((explained p e c t).flatMap (callsOfCondition p k)) :=
        view_survey h (fun _ _ => rfl) e.conditions _
      have hs := readings_inSpan "envname.explain" e.conditions.length c
        (Pass.survey (decide p) markFailure e.conditions)
        (fun outcomes => (Report.mk e.fallback outcomes).matchedNames.length) t
      rw [explain_inSpan he hx, endState_bind_pure, Call.totalOf_singleton, Call.total,
        ← Nat.add_assoc, ← hc]
      exact (congrArg List.length hs).trans hl

/-- Passes of every depth read as often as calls are made. -/
theorem readings_passCalls (depth : Nat) :
    Call.readingCount.Told (passCalls depth) (passes depth) := by
  induction depth with
  | zero => exact ⟨fun _ _ _ => rfl, fun _ _ _ => rfl, fun _ _ => ⟨rfl, rfl⟩⟩
  | succ depth ih =>
    exact ⟨readings_evaluate ih, readings_explain ih, (tells_passCalls (depth + 1)).absent⟩

/-! ## One reading -/

section

variable {e : Evaluator} {s : Session}

theorem sameAccounts_afterTaking (argument : PassArgument) (s : Session) :
    SameAccounts s (afterTaking argument s) := by
  cases argument with
  | context c => exact ⟨rfl, rfl⟩
  | given v => exact sameAccounts_perform (c := .take v) rfl s

theorem extends_afterTaking (argument : PassArgument) (s : Session) :
    s.store.Extends (afterTaking argument s).store := by
  cases argument with
  | context c => exact .refl s.store
  | given v => exact extends_perform (c := .take v) rfl s

theorem environment_afterTaking (e : Evaluator) (argument : PassArgument) (s : Session) :
    environment e (afterTaking argument s) = environment e s := by
  cases argument with
  | context c => rfl
  | given v => exact (afterTaking_given v s).2.2.2 e

/-- Taking the argument of a pass enters a note at most. -/
theorem journal_afterTaking (argument : PassArgument) (s : Session) :
    (afterTaking argument s).journal =
      { s.journal with notes := (afterTaking argument s).journal.notes } := by
  cases argument with
  | context c => rfl
  | given v =>
    change ((Change.take v).perform s).journal =
      { s.journal with notes := ((Change.take v).perform s).journal.notes }
    rcases Change.perform_take v s with ⟨es, -, hs⟩ | ⟨-, notes, hs⟩ <;> rw [hs]

/-- What a pass has done to a session when it has read its source. -/
structure HasRead (e : Evaluator) (argument : PassArgument) (s t : Session) : Prop where
  readings : t.journal.readings = s.journal.readings ++ [e.source]
  log : t.journal.log = s.journal.log
  trace : t.journal.trace = s.journal.trace
  /-- Nothing is noted but that an argument is ignored. -/
  notes : t.journal.notes = (afterTaking argument s).journal.notes
  accounts : SameAccounts s t
  store : s.store.Extends t.store

theorem hasRead_readSource (e : Evaluator) (argument : PassArgument) (s : Session) :
    HasRead e argument s (endState (readSource e.source (afterTaking argument s))) := by
  obtain ⟨reads, hj⟩ := journal_readSource e.source (afterTaking argument s)
  have hjournal := journal_afterTaking argument s
  constructor
  · rw [hj, readings_afterTaking]
  · rw [hj, hjournal]
  · rw [hj, hjournal]
  · rw [hj]
  · exact (sameAccounts_afterTaking argument s).trans
      (sameAccounts_perform (c := .read e.source) rfl (afterTaking argument s))
  · exact (extends_afterTaking argument s).trans
      (extends_perform (c := .read e.source) rfl (afterTaking argument s))

/-- A pass whose source raises ends with what the source raised. -/
theorem effectiveContext_of_raising {error : Raised} (h : environment e s = .error error)
    (argument : PassArgument) :
    ∃ t, effectiveContext e argument s = .error (.failure (.raised error)) t ∧
      HasRead e argument s t := by
  have hread := hasRead_readSource e argument s
  rw [← environment_afterTaking e argument] at h
  rw [effectiveContext_run]
  rcases readSource_environment e (afterTaking argument s) with
    ⟨env, t, hr, -, hv⟩ | ⟨error', t, hr, hv⟩
  · rw [h] at hv
    cases hv
  · rw [h] at hv
    cases hv
    rw [hr] at hread ⊢
    exact ⟨t, rfl, hread⟩

/-- A pass whose source gives something lays the contexts over it. -/
theorem effectiveContext_of_given {w : Value} (h : environment e s = .ok w)
    (argument : PassArgument) :
    ∃ env t,
      effectiveContext e argument s =
        .ok (Context.effective env e.accumulated (taken argument s)) t ∧
      t.store.value env = w ∧ HasRead e argument s t := by
  have hread := hasRead_readSource e argument s
  rw [← environment_afterTaking e argument] at h
  rw [effectiveContext_run]
  rcases readSource_environment e (afterTaking argument s) with
    ⟨env, t, hr, -, hv⟩ | ⟨error, t, hr, hv⟩
  · rw [h] at hv
    cases hv
    rw [hr] at hread ⊢
    exact ⟨env, t, rfl, rfl, hread⟩
  · rw [h] at hv
    cases hv

end

/-- The conditions of a pass begin where the pass has read its source, and all have the context that
was made then, with what the predicates before them wrote into it. -/
def BeginsWith (name : String) (e : Evaluator) (c : Context) (t : Session)
    (xs : List (Condition × Frame)) : Prop :=
  (∀ x rest, xs = x :: rest → x.2 = passFrame name e.conditions.length c t) ∧
    ∀ x ∈ xs, x.2.subject = .context (x.2.writes.foldl Write.apply c)

/-- Every call of a pass reads the source of its evaluator once, before its first condition, and all
of its conditions have what that reading gave; where the source raises, nothing of the call runs. -/
theorem environment_read_once (depth : Nat) :
    (∀ st s, (userStep depth st s).2.journal.readings.length =
      Call.totalOf (callsOfStep (passCalls depth) st { s with journal := .empty })) ∧
    (∀ st s, (endState (step (passes depth) st s)).journal.readings.length =
      s.journal.readings.length + Call.totalOf (callsOfStep (passCalls depth) st s)) ∧
    ∀ number s e, s.evaluators[number]? = some e → ∀ argument,
      (∀ w, environment e s = .ok w → ∃ env t,
        effectiveContext e argument s =
          .ok (Context.effective env e.accumulated (taken argument s)) t ∧
        t.store.value env = w ∧ HasRead e argument s t ∧
        BeginsWith "envname.evaluate" e (Context.effective env e.accumulated (taken argument s)) t
          (evaluated (passes depth) e (Context.effective env e.accumulated (taken argument s)) t) ∧
        BeginsWith "envname.explain" e (Context.effective env e.accumulated (taken argument s)) t
          (explained (passes depth) e (Context.effective env e.accumulated (taken argument s)) t) ∧
        (Layer.find? e.accumulated.reverse Context.envKey = none →
          Layer.find? (taken argument s).reverse Context.envKey = none →
          Layer.find? (Context.effective env e.accumulated (taken argument s)) Context.envKey =
            some env)) ∧
      ∀ error, environment e s = .error error → ∃ t,
        (passes (depth + 1)).evaluate number argument s = .error (.failure (.raised error)) t ∧
        (passes (depth + 1)).explain number argument s = .error (.failure (.raised error)) t ∧
        (passCalls (depth + 1)).evaluate number argument s = [.refused "envname.evaluate"] ∧
        (passCalls (depth + 1)).explain number argument s = [.refused "envname.explain"] ∧
        HasRead e argument s t := by
  have hstep : ∀ st s, (endState (step (passes depth) st s)).journal.readings.length =
      s.journal.readings.length + Call.totalOf (callsOfStep (passCalls depth) st s) :=
    view_step (readings_passCalls depth)
  refine ⟨fun st s => ?_, hstep, fun number s e he argument => ⟨fun w hw => ?_, fun error hr => ?_⟩⟩
  · have h := hstep st { s with journal := .empty }
    unfold userStep
    rw [← Nat.zero_add (Call.totalOf _)]
    generalize step (passes depth) st { s with journal := .empty } = r at h
    cases r <;> exact h
  · obtain ⟨env, t, hc, hv, hread⟩ := effectiveContext_of_given hw argument
    refine ⟨env, t, hc, hv, hread, ⟨fun x rest hx => ?_, ?_⟩, ⟨fun x rest hx => ?_, ?_⟩,
      fun ha hruntime => (Context.keepsEnv_of_absent ha hruntime env).2⟩
    · exact Pass.head_trail hx
    · exact (shares_evaluated (passes depth) e _ t).2.2
    · exact Pass.head_trail hx
    · exact (shares_explained (passes depth) e _ t).2.2
  · obtain ⟨t, hc, hread⟩ := effectiveContext_of_raising hr argument
    obtain ⟨hcalls, hends⟩ := (callsOfEvaluate_comesTo (tells_passCalls depth) he argument).1 _ t hc
    obtain ⟨hcalls', hends'⟩ :=
      (callsOfExplain_comesTo (tells_passCalls depth) he argument).1 _ t hc
    exact ⟨t, hends, hends', hcalls, hcalls', hread⟩

/-- A session with an evaluator of no conditions, of which the source raises. -/
def unreadable : Session :=
  { start [] with
    sources := [.varying fun _ => .error (.ofText .badValue "gone")]
    evaluators := [⟨[], .null, false, 0, []⟩]
    names := [("main", 0)] }

theorem environment_read_once_nesting :
    (userStep 2 (.mk "outer" (.evaluate none)) nesting).2.journal.readings.length = 2 ∧
    (userStep 1 (.mk "main" (.explain none)) unreadable).2.journal.readings.length = 1 ∧
    (∃ e c t, nesting.evaluators[0]? = some e ∧
      effectiveContext e (.given none) nesting = .ok c t ∧ t.journal.readings = [0]) ∧
    ∃ t, (passes 1).evaluate 0 (.given none) unreadable =
        .error (.failure (.raised (.ofText .badValue "gone"))) t ∧
      t.journal.trace = .empty ∧ t.journal.notes = [] ∧ t.evaluators = unreadable.evaluators := by
  refine ⟨?_, ?_, ?_, ?_⟩
  · rw [(environment_read_once 2).1]
    rfl
  · rw [(environment_read_once 1).1]
    rfl
  · obtain ⟨env, t, hc, -, hread, -⟩ :=
      ((environment_read_once 1).2.2 0 nesting _ rfl (.given none)).1 _ rfl
    exact ⟨_, _, t, rfl, hc, hread.readings⟩
  · obtain ⟨t, hends, -, -, -, hread⟩ :=
      ((environment_read_once 0).2.2 0 unreadable _ rfl (.given none)).2 _ rfl
    exact ⟨t, hends, hread.trace, hread.notes, hread.accounts.1⟩

end Session

end NamedConditions
