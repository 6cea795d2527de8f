import NamedConditions.Proofs.Context.History
import NamedConditions.Proofs.Pass.Attribution
/-!
Failures through nested evaluations. A predicate that calls for an evaluation, and does not catch
what comes out of it, fails with the failure of that evaluation, so that a failure that begins some
evaluations deep is attributed once more at every level on its way out.

Main statement (`nested_failures_chain`): at every level comes out the failure below, attributed to
the condition of the level, by a text in which those of all levels below follow one another, and the
way out changes nothing but journals; and where a level explains, the report notes the text of that
level, and what called it gets the answer of the report.
-/
namespace NamedConditions

namespace Failure

/-- What a failure was attributed for. -/
def original? : Failure → Option Failure
  | raised _ => none
  | condition _ cause _ => some cause

/-- Where so many steps from failures to what they were attributed for lead. -/
def origin? : Nat → Failure → Option Failure
  | 0, f => some f
  | n + 1, f => f.original?.bind (origin? n)

end Failure

/-! ## Parts of predicates that nothing catches -/

namespace Expr

variable {p : Passes}

/-- Running an expression in a frame comes to a part of it in a frame, and nothing around the part
catches what comes out of it. -/
inductive Exposes (p : Passes) (part : Expr) (g : Frame) : Expr → Frame → Prop
  | itself : Exposes p part g part g
  | eqLeft {a b : Expr} {f : Frame} (h : Exposes p part g a f) : Exposes p part g (.eq a b) f
  | eqRight {a b : Expr} {f f' : Frame} {o : Operand} (ha : run p a f = .ok o f')
      (h : Exposes p part g b f') : Exposes p part g (.eq a b) f
  | not {e : Expr} {f : Frame} (h : Exposes p part g e f) : Exposes p part g (.not e) f
  | log {e : Expr} {f : Frame} (h : Exposes p part g e f) : Exposes p part g (.log e) f
  | all {before after : List Expr} {e : Expr} {f f' : Frame}
      (hb : runAll p before f = .ok true f') (h : Exposes p part g e f') :
      Exposes p part g (.all (before ++ e :: after)) f
  | any {before after : List Expr} {e : Expr} {f f' : Frame}
      (hb : runAny p before f = .ok false f') (h : Exposes p part g e f') :
      Exposes p part g (.any (before ++ e :: after)) f
  | seq {before after : List Expr} {e : Expr} {f f' : Frame} {o : Operand}
      (hb : runSeq p before (.ofValue .null) f = .ok o f') (h : Exposes p part g e f') :
      Exposes p part g (.seq (before ++ e :: after)) f

theorem truthOf_of_error {r : Run Frame Operand} {f t : Frame} {stop : Stop}
    (h : r f = .error stop t) : truthOf r f = .error stop t := by
  simp only [truthOf, Bind.bind, EStateM.bind, h]

/-- Expressions behind some that are true. -/
theorem runAll_append {before : List Expr} {f f' : Frame} (h : runAll p before f = .ok true f')
    (rest : List Expr) : runAll p (before ++ rest) f = runAll p rest f' := by
  induction before generalizing f with
  | nil =>
    rw [runAll] at h
    cases h
    rfl
  | cons e before ih =>
    rw [List.cons_append, runAll]
    rw [runAll] at h
    simp only [Bind.bind, EStateM.bind] at h ⊢
    cases ht : truthOf (run p e) f with
    | error stop t =>
      rw [ht] at h
      cases h
    | ok b t =>
      rw [ht] at h
      cases b with
      | true => exact ih h
      | false => cases h

/-- Expressions behind some that are false. -/
theorem runAny_append {before : List Expr} {f f' : Frame} (h : runAny p before f = .ok false f')
    (rest : List Expr) : runAny p (before ++ rest) f = runAny p rest f' := by
  induction before generalizing f with
  | nil =>
    rw [runAny] at h
    cases h
    rfl
  | cons e before ih =>
    rw [List.cons_append, runAny]
    rw [runAny] at h
    simp only [Bind.bind, EStateM.bind] at h ⊢
    cases ht : truthOf (run p e) f with
    | error stop t =>
      rw [ht] at h
      cases h
    | ok b t =>
      rw [ht] at h
      cases b with
      | true => cases h
      | false => exact ih h

/-- Expressions behind some that came to their end. -/
theorem runSeq_append {before : List Expr} {f f' : Frame} {o o' : Operand}
    (h : runSeq p before o f = .ok o' f') (rest : List Expr) :
    runSeq p (before ++ rest) o f = runSeq p rest o' f' := by
  induction before generalizing f o with
  | nil =>
    rw [runSeq] at h
    cases h
    rfl
  | cons e before ih =>
    rw [List.cons_append, runSeq]
    rw [runSeq] at h
    simp only [Bind.bind, EStateM.bind] at h ⊢
    cases he : run p e f with
    | error stop t =>
      rw [he] at h
      cases h
    | ok o₁ t =>
      rw [he] at h
      exact ih h

/-- What comes out of an exposed part comes out of the expression. -/
theorem run_of_exposes {part e : Expr} {f g t : Frame} {stop : Stop}
    (h : Exposes p part g e f) (hp : run p part g = .error stop t) : run p e f = .error stop t := by
  induction h with
  | itself => exact hp
  | eqLeft _ ih => simp only [run, Bind.bind, EStateM.bind, ih]
  | eqRight ha _ ih => simp only [run, Bind.bind, EStateM.bind, ha, ih]
  | not _ ih => simp only [run, Bind.bind, EStateM.bind, truthOf_of_error ih]
  | log _ ih => simp only [run, Bind.bind, EStateM.bind, ih]
  | all hb _ ih =>
    simp only [run, Bind.bind, EStateM.bind, runAll_append hb, runAll, truthOf_of_error ih]
  | any hb _ ih =>
    simp only [run, Bind.bind, EStateM.bind, runAny_append hb, runAny, truthOf_of_error ih]
  | seq hb _ ih => simp only [run, Bind.bind, EStateM.bind, runSeq_append hb, runSeq, ih]

/-- The expressions that call for an evaluation: of the evaluator of a name, or of a new one on what
the predicate is called with. -/
inductive Evaluates : Expr → Frame → Nat → PassArgument → Session → Prop
  | step {on : String} {argument : Option Value} {g : Frame} {number : Nat}
      (h : g.session.number? on = some number) :
      Evaluates (.step (.mk on (.evaluate argument))) g number (.given argument) g.session
  | nested {setup : Setup} {g : Frame} {number : Nat} {s : Session}
      (h : Session.make setup g.session = .ok number s) :
      Evaluates (.nested setup) g number g.subject.argument s

/-- What comes out of an evaluation comes out of what calls for it. -/
theorem run_of_evaluates {part : Expr} {g : Frame} {number : Nat} {argument : PassArgument}
    {s t : Session} {e : Evaluator} {stop : Stop} (h : Evaluates part g number argument s)
    (he : s.evaluators[number]? = some e) (hr : p.evaluate number argument s = .error stop t) :
    run p part g = .error stop { g with session := t } := by
  cases h with
  | step hn =>
    simp only [run, Frame.inSession, Bind.bind, EStateM.bind, Session.step,
      Session.actOnNamed_of_some hn he, Session.actOn, hr]
  | nested hm => simp only [run, Frame.inSession, Bind.bind, EStateM.bind, Run.get_run, hm, hr]

/-- Who explains gets the answer of the report. -/
theorem run_explain {on : String} {argument : Option Value} {g : Frame} {number : Nat}
    {e : Evaluator} {report : Report} {t : Session} (hn : g.session.number? on = some number)
    (he : g.session.evaluators[number]? = some e)
    (hr : p.explain number (.given argument) g.session = .ok report t) :
    run p (.step (.mk on (.explain argument))) g =
      .ok (.ofValue report.answer.value) { g with session := t } := by
  simp only [run, Frame.inSession, Bind.bind, EStateM.bind, Session.step,
    Session.actOnNamed_of_some hn he, Session.actOn, hr]
  rfl

end Expr

namespace Session

/-! ## Levels -/

/-- A call of a pass, with the name of the condition at which it fails and the text of the name. -/
structure Level where
  /-- The depth to which the predicates of the pass may nest. -/
  depth : Nat
  number : Nat
  argument : PassArgument
  /-- The session in which the pass begins. -/
  session : Session
  name : Value
  text : String

/-- A failure attributed at some levels, the outermost in front. -/
def chained (levels : List Level) (x : Failure) : Failure :=
  levels.foldr (fun L f => .attributeTo L.name f) x

/-- The text of a failure attributed at some levels. -/
def chainedText (levels : List Level) (text : String) : String :=
  levels.foldr (fun L t => Failure.attributedText L.text t) text

/-- The texts of the names are those of the levels. -/
def Named (levels : List Level) : Prop := ∀ L ∈ levels, L.name.asText = .ok L.text

section

variable {L : Level} {levels : List Level} {x : Failure} {m : String}

theorem Named.head (hn : Named (L :: levels)) : L.name.asText = .ok L.text :=
  hn L List.mem_cons_self

theorem Named.tail (hn : Named (L :: levels)) : Named levels :=
  fun K hK => hn K (List.mem_cons_of_mem _ hK)

theorem text_chained (hn : Named levels) (hm : x.text = .ok m) :
    (chained levels x).text = .ok (chainedText levels m) := by
  induction levels with
  | nil => exact hm
  | cons L levels ih =>
    rw [chained, List.foldr_cons, ← chained, Failure.attributeTo_of_ok hn.head (ih hn.tail)]
    rfl

/-- The outermost level is on the outside. -/
theorem chained_cons (hn : Named (L :: levels)) (hm : x.text = .ok m) :
    chained (L :: levels) x =
      .condition L.name (chained levels x) (chainedText (L :: levels) m) :=
  Failure.attributeTo_of_ok hn.head (text_chained hn.tail hm)

/-- Every step to what a failure was attributed for leaves one level. -/
theorem origin?_chained (hn : Named levels) (hm : x.text = .ok m) {k : Nat}
    (hk : k ≤ levels.length) : (chained levels x).origin? k = some (chained (levels.drop k) x) := by
  induction levels generalizing k with
  | nil =>
    obtain rfl := Nat.le_zero.1 hk
    rfl
  | cons L levels ih =>
    cases k with
    | zero => rfl
    | succ k =>
      rw [chained_cons hn hm, Failure.origin?, Failure.original?, Option.bind_some,
        ih hn.tail (Nat.le_of_succ_le_succ hk), List.drop_succ_cons]

theorem isInterrupt_chained (hn : Named levels) (hm : x.text = .ok m)
    (hi : x.isInterrupt = false) : (chained levels x).isInterrupt = false := by
  cases levels with
  | nil => exact hi
  | cons L levels =>
    rw [chained_cons hn hm]
    rfl

end

/-- The pass of a level reaches a condition, whose name it has. -/
def Level.Reaches (L : Level)
    (reached : Passes → Evaluator → Context → Session → List (Condition × Frame))
    (y : Condition × Frame) : Prop :=
  ∃ e c t, L.session.evaluators[L.number]? = some e ∧
    effectiveContext e L.argument L.session = .ok c t ∧ y ∈ reached (passes L.depth) e c t

/-- The check of a condition fails for a failure that begins some levels below, where a check ends
in a session. -/
inductive Fails : Nat → Condition × Frame → List Level → Failure → Session → Prop
  | here {depth : Nat} {y : Condition × Frame} {x : Failure}
      (h : Verdict.ending? (tried (passes depth) y) = some (.failure x)) :
      Fails depth y [] x (decide (passes depth) y.1 y.2).1.session
  | deeper {y z : Condition × Frame} {body part : Expr} {g : Frame} {L : Level}
      {levels : List Level} {x : Failure} {u : Session}
      (hb : y.1.check = .predicate (.expression body))
      (hp : Expr.Exposes (passes (L.depth + 1)) part g body y.2)
      (hc : part.Evaluates g L.number L.argument L.session) (hz : L.Reaches evaluated z)
      (hn : z.1.name = L.name) (h : Fails L.depth z levels x u) :
      Fails (L.depth + 1) y (L :: levels) x u

variable {L : Level} {levels : List Level} {x : Failure} {m : String} {y : Condition × Frame}
  {depth : Nat} {u : Session}

/-- Leaving a span early changes nothing but the journal. -/
theorem exists_journal_abandonSpan (stop : Stop) (s : Session) :
    ∃ j, (s.abandonSpan stop).2 = { s with journal := j } := by
  cases stop <;> exact ⟨_, rfl⟩

/-- A failure that is no interrupt and has its texts ends an evaluation that reaches it, and leaves
all but the journal as the check left it. -/
theorem evaluate_of_reaches (hy : L.Reaches evaluated y) (hname : y.1.name = L.name)
    (hn : L.name.asText = .ok L.text) (hm : x.text = .ok m) (hi : x.isInterrupt = false)
    (hx : Verdict.ending? (tried (passes L.depth) y) = some (.failure x)) :
    ∃ j, evaluate (passes L.depth) L.number L.argument L.session =
      .error (.failure (.attributeTo L.name x))
        { (decide (passes L.depth) y.1 y.2).1.session with journal := j } := by
  obtain ⟨e, c, t, he, hc, hy⟩ := hy
  have hv : (decide (passes L.depth) y.1 y.2).2 =
      .failed ⟨L.name, x, Failure.attributedText L.text m⟩ := by
    rw [decide_eq_judge_tried, Verdict.judge_of_failure hx, hname]
    exact Verdict.ofFailure_of_hasTexts hi hn hm
  rw [evaluate_run he hc, Failure.attributeTo_of_ok hn hm]
  rcases Pass.collect_trail (decide (passes L.depth)) e.conditions
      (passFrame "envname.evaluate" e.conditions.length c t) with
    ⟨_, -, -, hall⟩ | ⟨before, z, stop, htrail, hbefore, hz, hs⟩
  · have hnone := hall y hy
    rw [hv] at hnone
    cases hnone
  · have hyz : y = z := by
      have hmem : y ∈ before ++ [z] := htrail ▸ hy
      rcases List.mem_append.1 hmem with hb | hl
      · have hnone := hbefore y hb
        rw [hv] at hnone
        cases hnone
      · exact List.mem_singleton.1 hl
    subst hyz
    rw [hv] at hz
    cases hz
    obtain ⟨u, hu⟩ := exists_abandonSpan_condition L.name x (Failure.attributedText L.text m)
      (decide (passes L.depth) y.1 y.2).1.session
    obtain ⟨j, hj⟩ := exists_journal_abandonSpan (.failure (.condition L.name x
      (Failure.attributedText L.text m))) (decide (passes L.depth) y.1 y.2).1.session
    rw [hs]
    dsimp only [ConditionFailure.toFailure]
    rw [hj, hu]
    exact ⟨j, rfl⟩

/-- A report notes the text of a failing condition that it reaches. No other way to end is that
condition's. -/
theorem explain_of_reaches {f : ConditionFailure} (hy : L.Reaches explained y)
    (hv : (decide (passes L.depth) y.1 y.2).2 = .failed f) :
    (∃ report t, explain (passes L.depth) L.number L.argument L.session = .ok report t ∧
      ⟨y.1.index, y.1.name, y.1.check.isPredicate, false, some f.text⟩ ∈ report.outcomes) ∨
    ∃ z stop stop' t, L.Reaches explained z ∧ z ≠ y ∧
      (decide (passes L.depth) z.1 z.2).2 = .stopped stop ∧
      explain (passes L.depth) L.number L.argument L.session = .error stop' t := by
  obtain ⟨e, c, t, he, hc, hy⟩ := hy
  rw [explain_run he hc]
  rcases Pass.survey_trail (decide (passes L.depth)) markFailure e.conditions
      (passFrame "envname.explain" e.conditions.length c t) with
    ⟨_, hs, -, -⟩ | ⟨z, hz, stop, hstop, hs⟩
  · rw [hs]
    refine .inl ⟨_, _, rfl, List.mem_map.2 ⟨y, hy, ?_⟩⟩
    rw [hv]
    rfl
  · rw [hs]
    refine .inr ⟨z, stop, _, _, ⟨e, c, t, he, hc, hz⟩, ?_, hstop, rfl⟩
    rintro rfl
    rw [hv] at hstop
    cases hstop

/-- What a check ends with that exposes an evaluation which fails. -/
theorem check_of_exposes {body part : Expr} {g : Frame} {e : Evaluator} {stop : Stop}
    {t : Session} (hb : y.1.check = .predicate (.expression body))
    (hp : Expr.Exposes (passes (L.depth + 1)) part g body y.2)
    (hc : part.Evaluates g L.number L.argument L.session)
    (he : L.session.evaluators[L.number]? = some e)
    (hr : evaluate (passes L.depth) L.number L.argument L.session = .error stop t) :
    Verdict.ending? (tried (passes (L.depth + 1)) y) = some stop ∧
      (decide (passes (L.depth + 1)) y.1 y.2).1.session = t := by
  have hrun := Expr.run_of_exposes hp (Expr.run_of_evaluates (p := passes (L.depth + 1)) hc he hr)
  have hcheck : runCheck (passes (L.depth + 1)) y.1.check y.2 =
      .error stop { g with session := t } := by
    rw [hb]
    simp only [runCheck, Callable.call, Expr.value, Bind.bind, EStateM.bind, hrun]
  rw [tried, decide, hcheck]
  exact ⟨rfl, rfl⟩

/-- Level by level, what comes out, and that nothing but journals changes on the way. -/
theorem Fails.ends (h : Fails depth y levels x u) (hn : Named levels) (hm : x.text = .ok m)
    (hi : x.isInterrupt = false) :
    Verdict.ending? (tried (passes depth) y) = some (.failure (chained levels x)) ∧
    (∃ j, (decide (passes depth) y.1 y.2).1.session = { u with journal := j }) ∧
    ∀ (k : Nat) (K : Level), levels[k]? = some K →
      ∃ j, evaluate (passes K.depth) K.number K.argument K.session =
        .error (.failure (chained (levels.drop k) x)) { u with journal := j } := by
  induction h with
  | here h => exact ⟨h, ⟨_, rfl⟩, fun k K hK => by cases hK⟩
  | @deeper y z body part g L levels x u hb hp hc hz hname _ ih =>
    obtain ⟨hends, ⟨j, hj⟩, hlevels⟩ := ih hn.tail hm hi
    obtain ⟨j', hr⟩ := evaluate_of_reaches hz hname hn.head (text_chained hn.tail hm)
      (isInterrupt_chained hn.tail hm hi) hends
    rw [hj] at hr
    obtain ⟨e, -, -, he, -⟩ := hz
    obtain ⟨hends', hsession⟩ := check_of_exposes hb hp hc he hr
    refine ⟨hends', ⟨j', hsession⟩, fun k K hK => ?_⟩
    cases k with
    | zero =>
      cases hK
      exact ⟨j', hr⟩
    | succ k => exact hlevels k K hK

/-- What comes out at each level of a chain of evaluations, and what a level that explains makes of
it. -/
theorem nested_failures_chain (h : Fails L.depth y levels x u) (hname : y.1.name = L.name)
    (hn : Named (L :: levels)) (hm : x.text = .ok m) (hi : x.isInterrupt = false) :
    (L.Reaches evaluated y → ∀ (k : Nat) (K : Level), (L :: levels)[k]? = some K →
      ∃ j, evaluate (passes K.depth) K.number K.argument K.session =
        .error (.failure (.condition K.name (chained (levels.drop k) x)
          (chainedText ((L :: levels).drop k) m))) { u with journal := j }) ∧
    (chained (L :: levels) x =
        .condition L.name (chained levels x) (chainedText (L :: levels) m) ∧
      (∀ k ≤ (L :: levels).length,
        (chained (L :: levels) x).origin? k = some (chained ((L :: levels).drop k) x)) ∧
      (chained (L :: levels) x).origin? (L :: levels).length = some x) ∧
    (L.Reaches explained y →
      (∃ report t, explain (passes L.depth) L.number L.argument L.session = .ok report t ∧
        ⟨y.1.index, L.name, y.1.check.isPredicate, false, some (chainedText (L :: levels) m)⟩ ∈
          report.outcomes ∧
        ∀ on argument g, g.session = L.session → L.argument = .given argument →
          g.session.number? on = some L.number →
          Expr.run (passes (L.depth + 1)) (.step (.mk on (.explain argument))) g =
            .ok (.ofValue report.answer.value) { g with session := t }) ∨
      ∃ z stop stop' t, L.Reaches explained z ∧ z ≠ y ∧
        (decide (passes L.depth) z.1 z.2).2 = .stopped stop ∧
        explain (passes L.depth) L.number L.argument L.session = .error stop' t) := by
  have htext := text_chained hn.tail hm
  have hnot := isInterrupt_chained hn.tail hm hi
  obtain ⟨hends, ⟨j, hj⟩, hlevels⟩ := h.ends hn.tail hm hi
  refine ⟨fun hy k K hK => ?_, ⟨chained_cons hn hm, fun k hk => origin?_chained hn hm hk, ?_⟩,
    fun hy => ?_⟩
  · cases k with
    | zero =>
      cases hK
      obtain ⟨j', hr⟩ := evaluate_of_reaches hy hname hn.head htext hnot hends
      rw [hj] at hr
      exact ⟨j', hr.trans (by rw [Failure.attributeTo_of_ok hn.head htext]; rfl)⟩
    | succ k =>
      obtain ⟨j', hr⟩ := hlevels k K hK
      have hdrop : levels.drop k = K :: levels.drop (k + 1) := by
        rw [List.getElem?_cons_succ] at hK
        rw [List.drop_eq_getElem?_toList_append, hK]
        rfl
      have hbelow : Named (K :: levels.drop (k + 1)) := fun M hM =>
        hn.tail M (List.mem_of_mem_drop (hdrop ▸ hM))
      rw [hdrop, chained_cons hbelow hm] at hr
      rw [List.drop_succ_cons, hdrop]
      exact ⟨j', hr⟩
  · rw [origin?_chained hn hm (Nat.le_refl _), List.drop_length]
    rfl
  · have hv : (decide (passes L.depth) y.1 y.2).2 =
        .failed ⟨L.name, chained levels x, chainedText (L :: levels) m⟩ := by
      rw [decide_eq_judge_tried, Verdict.judge_of_failure hends, hname]
      exact Verdict.ofFailure_of_hasTexts hnot hn.head htext
    rcases explain_of_reaches hy hv with ⟨report, t, hr, ho⟩ | hother
    · refine .inl ⟨report, t, hr, hname ▸ ho, fun on argument g hg harg hon => ?_⟩
      obtain ⟨e, -, -, he, -⟩ := hy
      rw [← hg] at he
      refine Expr.run_explain hon he ?_
      rw [← harg, hg]
      exact hr
    · exact .inr hother

/-- A session with an evaluator whose check calls for the evaluation of another one, whose check
raises an error. -/
def linked : Session :=
  { start [] with
    sources := [.process]
    evaluators :=
      [⟨[⟨.object 0 (.predicate none (.step (.mk "inner" (.evaluate none)))), .str "a"⟩],
          .str "default", false, 0, []⟩,
        ⟨[⟨.object 1 (.predicate none (.raise (.ofText .badValue "bad"))), .str "b"⟩],
          .str "default", false, 0, []⟩]
    names := [("outer", 0), ("inner", 1)] }

theorem nested_failures_chain_linked :
    ∃ t, evaluate (passes 1) 0 (.given none) linked =
      .error (.failure (.condition (.str "a") (.condition (.str "b")
          (.raised (.ofText .badValue "bad")) "Error evaluating condition 'b': bad")
        "Error evaluating condition 'a': Error evaluating condition 'b': bad")) t := by
  let outer : Level := ⟨1, 0, .given none, linked, .str "a", "a"⟩
  obtain ⟨y, u, inner, hy, hfails, hname, hn, ht⟩ :
      ∃ y u inner, outer.Reaches evaluated y ∧
        Fails 1 y [inner] (.raised (.ofText .badValue "bad")) u ∧ y.1.name = .str "a" ∧
        inner.name = .str "b" ∧ inner.text = "b" :=
    ⟨_, _, ⟨0, 1, .given none, _, .str "b", "b"⟩, ⟨_, _, _, rfl, rfl, List.mem_cons_self⟩,
      .deeper (L := ⟨0, _, _, _, _, _⟩) rfl .itself (.step rfl)
        ⟨_, _, _, rfl, rfl, List.mem_cons_self⟩ rfl (.here rfl),
      rfl, rfl, rfl⟩
  have hnamed : Named [outer, inner] := by
    intro L hL
    rcases List.mem_cons.1 hL with rfl | hL
    · rfl
    · rw [List.mem_singleton.1 hL, hn, ht]
      rfl
  obtain ⟨j, hr⟩ :=
    (nested_failures_chain (m := "bad") hfails hname hnamed rfl rfl).1 hy 0 outer rfl
  simp only [chained, chainedText, List.drop_zero, List.foldr_cons, List.foldr_nil, hn, ht] at hr
  exact ⟨_, hr⟩

end Session

end NamedConditions
