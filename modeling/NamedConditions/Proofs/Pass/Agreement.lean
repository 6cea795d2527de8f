import NamedConditions.Proofs.Session.Passes
/-!
Evaluating and explaining agree. They run inside different spans, which no predicate sees: sessions
that differ in their traces alone stay so under everything that runs (`traceLaw`).

Main statement (`evaluate_agrees_with_explain`): where explaining reports no failure, evaluating
gives the reported answer and leaves the same session but for the trace and its note; where it
reports failures, evaluating fails with the first of them, after exactly the effects of the
conditions up to it; and where evaluating answers, explaining reports that answer and no failure.
-/
namespace NamedConditions.Session

/-! ## Traces are not seen -/

/-- A session with another trace. -/
def withTrace (t : Trace) : Session → Session := onTrace fun _ => t

/-- The second session is the first but for its trace. -/
def SameButTrace (s t : Session) : Prop := t = s.withTrace t.journal.trace

/-- Sessions with traces of their own in which as many spans are open. -/
def TraceBlind (s t : Session) : Prop :=
  SameButTrace s t ∧ s.journal.trace.opened.length = t.journal.trace.opened.length

/-- The changes that are about spans. -/
def Change.isSpan : Change → Bool
  | .openSpan .. | .closeSpan _ | .abandonSpan _ | .mark _ | .turn => true
  | _ => false

theorem ignore_withTrace (sort : String) (argument : Option Value) (s : Session) (t : Trace) :
    ignore sort argument (s.withTrace t) = (ignore sort argument s).withTrace t := by
  unfold ignore
  split <;> rfl

theorem trace_ignore (sort : String) (argument : Option Value) (s : Session) :
    (ignore sort argument s).journal.trace = s.journal.trace := by
  unfold ignore
  split <;> rfl

/-- A change that is not about spans goes its way whatever the trace, and leaves it alone. -/
theorem perform_withTrace {c : Change} (hc : c.isSpan = false) (s : Session) (t : Trace) :
    c.perform (s.withTrace t) = (c.perform s).withTrace t ∧
      (c.perform s).journal.trace = s.journal.trace := by
  cases c with
  | openSpan | closeSpan | abandonSpan | mark | turn => cases hc
  | log | note | bind | setProcess | hold | write => exact ⟨rfl, rfl⟩
  | clear => exact ⟨rfl, rfl⟩
  | take argument =>
    cases h : argumentEntries? argument with
    | none =>
      rw [Change.perform, Change.perform, takeArgument_of_no_entries h,
        takeArgument_of_no_entries h]
      exact ⟨ignore_withTrace _ _ s t, trace_ignore _ _ s⟩
    | some es =>
      rw [Change.perform, Change.perform, takeArgument_of_entries h, takeArgument_of_entries h]
      exact ⟨rfl, rfl⟩
  | give number argument =>
    cases h : argumentEntries? argument with
    | none =>
      rw [Change.perform, Change.perform, withContext_of_no_entries h,
        withContext_of_no_entries h, ignore_withTrace]
      exact ⟨rfl, trace_ignore _ _ s⟩
    | some es =>
      rw [Change.perform, Change.perform, withContext_of_entries h, withContext_of_entries h]
      exact ⟨rfl, rfl⟩
  | make setup =>
    rcases setup with ⟨conditions, fallback, strict, source⟩
    rw [Change.perform, Change.perform, make_run, make_run]
    cases provider source with
    | error e => exact ⟨rfl, rfl⟩
    | ok p => cases validate (conditions.getD (.tuple [])) strict <;> exact ⟨rfl, rfl⟩
  | fork number =>
    have he : (s.withTrace t).evaluators[number]? = s.evaluators[number]? := rfl
    rw [Change.perform, Change.perform, he]
    cases s.evaluators[number]? with
    | none => exact ⟨rfl, rfl⟩
    | some e =>
      simp only [Option.elim_some, fork_run]
      cases validate (.tuple (e.specs.map Spec.toValue)) e.strict <;> exact ⟨rfl, rfl⟩
  | read source =>
    rw [Change.perform, Change.perform]
    cases h : s.sources[source]? with
    | none =>
      rw [readSource_of_none h, readSource_of_none (s := s.withTrace t) h]
      exact ⟨rfl, rfl⟩
    | some p =>
      rw [readSource_of_some h, readSource_of_some (s := s.withTrace t) h, endState_ofExcept,
        endState_ofExcept]
      exact ⟨rfl, rfl⟩

/-- What a change does to the trace, if it is about spans. -/
def Change.onSpans : Change → Trace → Trace
  | .openSpan name count => fun t =>
    (t.start name spanScope).setAttribute "envname.conditions.count" (.int (Int.ofNat count))
  | .closeSpan matchCount => fun t =>
    ((t.setAttribute "envname.matches.count" (.int (Int.ofNat matchCount))).setAttribute
      "envname.default_used" (.bool (matchCount = 0))).finish
  | .abandonSpan (.failure f) => fun t => (t.recordFailure f).2.finish
  | .abandonSpan .exhausted => Trace.finish
  | .mark c => Trace.addEvent ⟨"envname.condition_error",
      [("envname.condition", .str (c.name.asText.toOption.getD ""))]⟩
  | .turn => fun _ => .empty
  | _ => id

/-- How many spans are open after a change depends on how many were open before. -/
theorem length_opened_onSpans (c : Change) {t u : Trace} (h : t.opened.length = u.opened.length) :
    (c.onSpans t).opened.length = (c.onSpans u).opened.length := by
  have hf : ∀ v : Trace, v.finish.opened.length = v.opened.length - 1 := by
    intro v
    rcases v with ⟨_ | ⟨span, rest⟩, ended⟩ <;> rfl
  cases c with
  | openSpan name count =>
    simp only [Change.onSpans, Trace.setAttribute, Trace.length_opened_onInnermost]
    exact congrArg (· + 1) h
  | closeSpan n =>
    simp only [Change.onSpans, Trace.setAttribute, hf, Trace.length_opened_onInnermost, h]
  | abandonSpan stop =>
    cases stop with
    | failure f => simp only [Change.onSpans, hf, Trace.length_opened_recordFailure, h]
    | exhausted => simp only [Change.onSpans, hf, h]
  | mark c => simp only [Change.onSpans, Trace.addEvent, Trace.length_opened_onInnermost, h]
  | turn => rfl
  | _ => exact h

/-- With which failure a span is left does not depend on what was recorded before. -/
theorem recordFailure_congr {t u : Trace} (h : t.opened.length = u.opened.length) (f : Failure) :
    (t.recordFailure f).1 = (u.recordFailure f).1 := by
  rcases t with ⟨_ | ⟨span, rest⟩, ended⟩ <;> rcases u with ⟨_ | ⟨span', rest'⟩, ended'⟩
  · rfl
  · cases h
  · cases h
  · simp only [Trace.recordFailure, Span.recordFailure, Span.markFailure]
    cases f.isInterrupt with
    | true => rfl
    | false => cases f.text <;> rfl

theorem traceBlind_withTrace {s : Session} {t : Trace}
    (h : s.journal.trace.opened.length = t.opened.length) : TraceBlind s (s.withTrace t) :=
  ⟨rfl, h⟩

/-- No change depends on the trace but for the number of open spans. -/
theorem traceLaw : Law TraceBlind where
  akin h := by
    rw [h.1]
    exact akin_withJournal _ _
  change c {s t} h := by
    obtain ⟨hs, hl⟩ := h
    cases hc : c.isSpan with
    | false =>
      obtain ⟨hp, ht⟩ := perform_withTrace hc s t.journal.trace
      rw [hs, hp]
      exact traceBlind_withTrace (by rw [ht, hl])
    | true =>
      have hj := length_opened_onSpans c hl
      rw [hs]
      cases c with
      | openSpan | closeSpan | mark | turn => exact ⟨rfl, hj⟩
      | abandonSpan stop => cases stop <;> exact ⟨rfl, hj⟩
      | _ => cases hc
  abandon stop {s t} h := by
    cases stop with
    | failure f => exact congrArg Stop.failure (recordFailure_congr h.2 f)
    | exhausted => rfl

/-! ## The two passes -/

/-- The frames in which passes begin differ in their traces alone, whatever the passes and however
many conditions they have. -/
theorem onFrames_passFrames (name name' : String) (count count' : Nat) (c : Context) (s : Session) :
    OnFrames TraceBlind (passFrame name count c s) (passFrame name' count' c s) := by
  refine ⟨traceBlind_withTrace ?_, rfl, rfl⟩
  simp only [passFrame, openSpan, setSpanAttribute, onTrace, onJournal, Trace.setAttribute,
    Trace.length_opened_onInnermost]
  rfl

/-- The same of passes over the same conditions. -/
theorem onFrames_passFrame (name name' : String) (count : Nat) (c : Context) (s : Session) :
    OnFrames TraceBlind (passFrame name count c s) (passFrame name' count c s) :=
  onFrames_passFrames name name' count count c s

theorem agree_decide (depth : Nat) (c : Condition) :
    Pass.Agree (OnFrames TraceBlind) (decide (passes depth)) (decide (passes depth)) c :=
  agree_of_law traceLaw (passes_simulate traceLaw depth) c

/-- Sessions in which the two passes end, once the note of the one is added to the other. -/
theorem sameButTrace_closed {f g : Frame} (h : OnFrames TraceBlind f g) (matchCount : Nat)
    (text : String) :
    SameButTrace ((g.session.closeSpan matchCount).note text)
      ((f.session.closeSpan matchCount).note text) := by
  have hc := traceLaw.change (.note text) (traceLaw.change (.closeSpan matchCount) h.1)
  simp only [Change.perform] at hc
  have hs := hc.1
  unfold SameButTrace at hs ⊢
  rw [hs]
  rfl

theorem hasError_eq_false_iff (report : Report) :
    report.hasError = false ↔ ∀ o ∈ report.outcomes, o.error? = none := by
  simp [Report.hasError]

theorem hasError_eq_true_iff (report : Report) :
    report.hasError = true ↔ ∃ o ∈ report.outcomes, o.error? ≠ none := by
  simp [Report.hasError, Option.isSome_iff_ne_none]

/-- Evaluating and explaining from the same session. -/
theorem evaluate_agrees_with_explain (depth number : Nat) (argument : PassArgument)
    (s : Session) :
    (∀ report t, explain (passes depth) number argument s = .ok report t →
      (report.hasError = false → ∃ u,
        evaluate (passes depth) number argument s = .ok report.answer u ∧
        u.evaluators = t.evaluators ∧
        SameButTrace
          (t.note (evaluationNote report.outcomes.length report.matchedNames.length)) u) ∧
      (report.hasError = true → ∃ e c s₁ before o after text cause u,
        s.evaluators[number]? = some e ∧ effectiveContext e argument s = .ok c s₁ ∧
        report.outcomes = before ++ o :: after ∧ (∀ x ∈ before, x.error? = none) ∧
        o.error? = some text ∧ e.conditions[before.length]?.map (·.name) = some o.name ∧
        evaluate (passes depth) number argument s =
          .error (.failure (.condition o.name cause text)) u ∧
        u = ((Pass.advance (decide (passes depth)) (e.conditions.take (before.length + 1))
          (passFrame "envname.evaluate" e.conditions.length c s₁)).session.abandonSpan
            (.failure (.condition o.name cause text))).2)) ∧
    (∀ answer u, evaluate (passes depth) number argument s = .ok answer u → ∃ report t,
      explain (passes depth) number argument s = .ok report t ∧ report.hasError = false ∧
      report.answer = answer ∧ u.evaluators = t.evaluators ∧
      SameButTrace
        (t.note (evaluationNote report.outcomes.length report.matchedNames.length)) u) := by
  refine ⟨fun report t h => ?_, fun answer u h => ?_⟩
  · obtain ⟨e, c, s₁, f, he, hc, hl, hfb, rfl⟩ := exists_of_explain_eq_ok h
    have hlen : e.conditions.length = report.outcomes.length := (Pass.length_of_survey hl).symm
    have hf := onFrames_passFrame "envname.evaluate" "envname.explain" e.conditions.length c s₁
    refine ⟨fun hn => ?_, fun hn => ?_⟩
    · obtain ⟨g, hcol, hr⟩ := Pass.collect_of_survey (agree_decide depth) hf hl
        ((hasError_eq_false_iff report).1 hn)
      have hsame := sameButTrace_closed hr report.matchedNames.length
        (evaluationNote report.outcomes.length report.matchedNames.length)
      refine ⟨_, ?_, ?_, hsame⟩
      · rw [evaluate_run he hc, hcol, hlen]
        simp only [Report.answer, hfb]
        rfl
      · rw [hsame]
        rfl
    · have hex := (hasError_eq_true_iff report).1 hn
      obtain ⟨before, o, after, text, cause, ho, hb, ht, hname, hcol⟩ :=
        Pass.collect_of_survey_failing (agree_decide depth) (attributes_decide _) hf hl hex
      refine ⟨e, c, s₁, before, o, after, text, cause, _, he, hc, ho, hb, ht, hname, ?_, rfl⟩
      rw [evaluate_run he hc, hcol]
      refine congrArg (fun x => EStateM.Result.error x _) ?_
      exact congrArg Stop.failure (Trace.recordFailure_of_text rfl _)
  · obtain ⟨e, c, s₁, names, f, he, hc, hl, rfl, rfl⟩ := exists_of_evaluate_eq_ok h
    have hf := onFrames_passFrame "envname.evaluate" "envname.explain" e.conditions.length c s₁
    obtain ⟨outcomes, g, hsur, herr, hnames, hr⟩ :=
      Pass.survey_of_collect markFailure (agree_decide depth) hf hl
    have hlen : e.conditions.length = outcomes.length := (Pass.length_of_survey hsur).symm
    have hsame := sameButTrace_closed hr names.length (evaluationNote outcomes.length names.length)
    subst hnames
    have hex : explain (passes depth) number argument s =
        .ok ⟨e.fallback, outcomes⟩ (g.session.closeSpan (Pass.holding outcomes).length) := by
      rw [explain_run he hc, hsur]
      rfl
    refine ⟨_, _, hex, (hasError_eq_false_iff _).2 herr, rfl, ?_, ?_⟩
    · rw [hlen, hsame]
      rfl
    · rw [hlen]
      exact hsame

/-- A session with an evaluator of a condition that holds and one that raises. -/
def heldAndBroken : Session :=
  { start [] with
    sources := [.process]
    evaluators := [⟨[⟨.bool true, .str "held"⟩,
      ⟨.object 0 (.predicate none (.raise (.ofText .badValue "no number"))), .str "broken"⟩],
      .str "default", false, 0, []⟩] }

theorem evaluate_agrees_with_explain_on_heldAndBroken :
    ∃ report t, explain (passes 1) 0 (.given none) heldAndBroken = .ok report t ∧
      report.hasError = true ∧ ∃ o ∈ report.outcomes, ∃ text cause u, o.error? = some text ∧
        evaluate (passes 1) 0 (.given none) heldAndBroken =
          .error (.failure (.condition o.name cause text)) u := by
  refine ⟨_, _, rfl, rfl, ?_⟩
  obtain ⟨e, c, s₁, before, o, after, text, cause, u, -, -, ho, -, ht, -, he, -⟩ :=
    ((evaluate_agrees_with_explain 1 0 (.given none) heldAndBroken).1 _ _ rfl).2 rfl
  refine ⟨o, ?_, text, cause, u, ht, he⟩
  rw [ho]
  exact List.mem_append_right _ List.mem_cons_self

end NamedConditions.Session
