import NamedConditions.Proofs.Trace.Nesting
/-!
The spans of passes. The loop of a pass makes the calls of the conditions that it reaches, inside
the span of the pass, and what is set on that span when it ends tells how the pass ended.

Main statement (`spans_of_step`): a step leaves the open spans as they are and adds the spans of the
calls that it makes, inner ones first, each with the innermost enclosing one as its parent; every
call is what a pass was called on and came to what came of it, and so does its span.
-/
namespace NamedConditions.Session

variable {p : Passes} {k : PassCalls}

/-! ## The loops -/

/-- Deciding a condition makes the calls of its check. -/
theorem trace_decide (h : k.Tells p) (c : Condition) (f : Frame) :
    (decide p c f).1.session.journal.trace =
      f.session.journal.trace.after (callsOfCondition p k (c, f)) :=
  view_decide h c f

theorem trace_markFailure (c : ConditionFailure) (f : Frame) :
    (markFailure c f).session.journal.trace = f.session.journal.trace.marked [c] := rfl

/-- `collect` makes the calls of the conditions that it reaches. -/
theorem trace_collect (h : k.Tells p) (cs : List Condition) (f : Frame) :
    (endState (Pass.collect (decide p) cs f)).session.journal.trace =
      f.session.journal.trace.after
        ((Pass.trail (Pass.collectNext (decide p)) cs f).flatMap (callsOfCondition p k)) :=
  view_collect h cs f

/-- A survey makes the calls of the conditions that it reaches, and reports those that fail. -/
theorem trace_survey (h : k.Tells p) (cs : List Condition) (f : Frame) :
    (endState (Pass.survey (decide p) markFailure cs f)).session.journal.trace =
      (f.session.journal.trace.after
        ((Pass.trail (Pass.surveyNext (decide p) markFailure) cs f).flatMap
          (callsOfCondition p k))).marked
        ((Pass.trail (Pass.surveyNext (decide p) markFailure) cs f).filterMap (reported? p)) := by
  induction cs generalizing f with
  | nil => exact ((Trace.marked_nil _).trans (Trace.after_nil _)).symm
  | cons c cs ih =>
    rw [Pass.trail, List.flatMap_cons, Trace.after_append, ← trace_decide h, List.filterMap_cons,
      reported?, Pass.surveyNext, Pass.survey_cons]
    cases hv : (decide p c f).2 with
    | decided holds =>
      simp only [Option.elim_some]
      rw [← ih]
      cases Pass.survey (decide p) markFailure cs (decide p c f).1 <;> rfl
    | failed x =>
      simp only [Option.elim_some]
      rw [show ∀ (l : List ConditionFailure), x :: l = [x] ++ l from fun _ => rfl,
        ← Trace.marked_append, ← Trace.after_marked, ← trace_markFailure, ← ih]
      cases Pass.survey (decide p) markFailure cs (markFailure x (decide p c f).1) <;> rfl
    | stopped stop => exact ((Trace.marked_nil _).trans (Trace.after_nil _)).symm

/-! ## The span of a pass -/

/-- The span of a pass while it runs. -/
def running (parent? : Option String) (name : String) (count : Nat)
    (marks : List ConditionFailure) : Span where
  name := name
  scope := spanScope
  parent? := parent?
  attributes := [("envname.conditions.count", .int (Int.ofNat count))]
  events := Call.latest (marks.map Call.markEvent)
  status := .unset

theorem events_running (parent? : Option String) (name : String) (count : Nat)
    (marks : List ConditionFailure) :
    (running parent? name count marks).events = Call.latest (marks.map Call.markEvent) := by
  rw [running]

theorem trace_passFrame (name : String) (count : Nat) (c : Context) (s : Session) :
    (passFrame name count c s).session.journal.trace =
      ⟨running (s.journal.trace.opened.head?.map Span.name) name count [] ::
        s.journal.trace.opened, s.journal.trace.ended⟩ := by
  simp [passFrame, openSpan, setSpanAttribute, onTrace, onJournal, Trace.start,
    Trace.setAttribute, Trace.onInnermost, Span.fresh, Span.setAttribute, Attributes.set,
    Attributes.has, Attributes.bound, running, Call.latest]

/-- Reports in the span of a pass. -/
theorem foldl_addEvent_running (parent? : Option String) (name : String) (count : Nat)
    (before marks : List ConditionFailure) :
    marks.foldl (fun s c => s.addEvent (Call.markEvent c)) (running parent? name count before) =
      running parent? name count (before ++ marks) := by
  induction marks generalizing before with
  | nil => rw [List.append_nil, List.foldl_nil]
  | cons c marks ih =>
    have hc : (running parent? name count before).addEvent (Call.markEvent c) =
        running parent? name count (before ++ [c]) := by
      have he := Call.latest_append_singleton (before.map Call.markEvent) (Call.markEvent c)
        (running parent? name count before) (events_running ..)
      have hr : running parent? name count (before ++ [c]) =
          { running parent? name count before with
            events := Call.latest ((before ++ [c]).map Call.markEvent) } := rfl
      rw [hr, List.map_append, List.map_singleton, ← he]
      rfl
    rw [List.foldl_cons, hc, ih, List.append_assoc, List.singleton_append]

/-- The trace where the loop of a pass ended. -/
theorem trace_passed (name : String) (count : Nat) (c : Context) (s : Session)
    (inner : List Call) (marks : List ConditionFailure) :
    ((passFrame name count c s).session.journal.trace.after inner).marked marks =
      ⟨running (s.journal.trace.opened.head?.map Span.name) name count marks ::
        s.journal.trace.opened, s.journal.trace.ended ++ Call.spansOf (some name) inner⟩ := by
  rw [trace_passFrame, Trace.after, Trace.marked, Trace.onInnermost]
  dsimp only
  rw [foldl_addEvent_running, List.nil_append]
  rfl

section

variable {parent? : Option String} {name : String} {count : Nat} {marks : List ConditionFailure}
  {opened ended : List Span} {s : Session}

/-- Closing the span of a pass ends the span of the call. -/
theorem trace_closeSpan (h : s.journal.trace = ⟨running parent? name count marks :: opened, ended⟩)
    (n : Nat) :
    (s.closeSpan n).journal.trace =
      ⟨opened, ended ++ [Call.span parent? name count marks (.ok n)]⟩ := by
  simp only [closeSpan, setSpanAttribute, onTrace, onJournal, h]
  rw [Call.span, Call.recorded?]
  simp [Trace.setAttribute, Trace.onInnermost, Trace.finish, Span.setAttribute, running,
    Attributes.set, Attributes.has, Attributes.bound, Call.foundAttributes]

/-- So does leaving it early, with the failure of which the span tells. -/
theorem trace_abandonSpan
    (h : s.journal.trace = ⟨running parent? name count marks :: opened, ended⟩) (stop : Stop) :
    (s.abandonSpan stop).1 = stop.leaving ∧ (s.abandonSpan stop).2.journal.trace =
      ⟨opened, ended ++ [Call.span parent? name count marks (.error stop)]⟩ := by
  cases stop with
  | exhausted =>
    refine ⟨rfl, ?_⟩
    simp only [abandonSpan, onTrace, onJournal, h, Trace.finish, Call.span, Call.recorded?,
      Stop.recorded?, Call.foundAttributes, Option.toList_none, List.map_nil, List.append_nil,
      Option.elim_none, running]
  | failure f =>
    simp only [abandonSpan, onTrace, onJournal, h, Trace.recordFailure, Span.recordFailure,
      Span.markFailure, Stop.leaving, Call.span, Call.recorded?, Stop.recorded?,
      Call.foundAttributes]
    cases f.isInterrupt with
    | true => simp [Trace.finish, running]
    | false =>
      cases ht : f.text with
      | error e => simp [Except.map, Except.toOption, Trace.finish, running]
      | ok text =>
        have he := Call.latest_append_singleton (marks.map Call.markEvent)
          (Call.failureEvent (f, text)) (running parent? name count marks) (events_running ..)
        simp only [Bool.false_eq_true, if_false, Except.map, Except.toOption, Option.map_some,
          Option.toList_some, List.map_singleton, Option.elim_some, Trace.finish, true_and, ← he]
        simp only [Span.addEvent, running, Call.failureEvent]

end

/-- A pass whose loop makes calls inside its span and reports failures in it is a call with those
calls inside it, and gives what its loop gives or, where that ends early, that with which its span
is left. -/
theorem inSpan_trace {α : Type} {pass : Run Frame α} {name : String} {count : Nat} {c : Context}
    {s : Session} {inner : List Call} {marks : List ConditionFailure}
    (h : (endState (pass (passFrame name count c s))).session.journal.trace =
      ((passFrame name count c s).session.journal.trace.after inner).marked marks)
    (found : α → Nat) :
    (endState (inSpan name count c pass found s)).journal.trace = s.journal.trace.after
        [.ran name count marks ((endResult (pass (passFrame name count c s))).map found) inner] ∧
      endResult (inSpan name count c pass found s) =
        (endResult (pass (passFrame name count c s))).mapError Stop.leaving := by
  rw [trace_passed] at h
  rw [Trace.after_ran]
  unfold inSpan
  generalize pass (passFrame name count c s) = r at h
  cases r with
  | ok a f =>
    refine ⟨(trace_closeSpan h (found a)).trans ?_, rfl⟩
    rw [List.append_assoc]
    rfl
  | error stop f =>
    obtain ⟨hstop, htrace⟩ := trace_abandonSpan h stop
    refine ⟨htrace.trans ?_, congrArg Except.error hstop⟩
    rw [List.append_assoc]
    rfl

/-! ## Passes -/

theorem trace_evaluate (h : k.Tells p) (number : Nat) (argument : PassArgument) (s : Session) :
    (endState (evaluate p number argument s)).journal.trace =
      s.journal.trace.after (callsOfEvaluate p k number argument s) := by
  rw [callsOfEvaluate]
  cases he : s.evaluators[number]? with
  | none =>
    rw [evaluate_absent he]
    exact (Trace.after_nil _).symm
  | some e =>
    have hc := trace_effectiveContext e argument s
    rw [Option.elim_some]
    cases hx : effectiveContext e argument s with
    | error stop t =>
      rw [hx] at hc
      rw [evaluate_of_no_context he hx, ← hc]
      exact (Trace.after_nil _).symm
    | ok c t =>
      rw [hx] at hc
      have hl := trace_collect h e.conditions
        (passFrame "envname.evaluate" e.conditions.length c t)
      rw [← Trace.marked_nil (Trace.after _ _)] at hl
      rw [evaluate_inSpan he hx, ← hc]
      refine Eq.trans ?_ (inSpan_trace hl List.length).1
      simp only [Bind.bind, EStateM.bind]
      cases inSpan "envname.evaluate" e.conditions.length c (Pass.collect (decide p) e.conditions)
        List.length t <;> rfl

theorem trace_explain (h : k.Tells p) (number : Nat) (argument : PassArgument) (s : Session) :
    (endState (explain p number argument s)).journal.trace =
      s.journal.trace.after (callsOfExplain p k number argument s) := by
  rw [callsOfExplain]
  cases he : s.evaluators[number]? with
  | none =>
    rw [explain_absent he]
    exact (Trace.after_nil _).symm
  | some e =>
    have hc := trace_effectiveContext e argument s
    rw [Option.elim_some]
    cases hx : effectiveContext e argument s with
    | error stop t =>
      rw [hx] at hc
      rw [explain_of_no_context he hx, ← hc]
      exact (Trace.after_nil _).symm
    | ok c t =>
      rw [hx] at hc
      have hl := trace_survey h e.conditions
        (passFrame "envname.explain" e.conditions.length c t)
      rw [explain_inSpan he hx, ← hc, endState_bind_pure]
      exact (inSpan_trace hl fun outcomes =>
        (Report.mk e.fallback outcomes).matchedNames.length).1

/-- Passes of every depth do to the trace what is told of them. -/
theorem tells_passCalls (depth : Nat) : (passCalls depth).Tells (passes depth) := by
  induction depth with
  | zero =>
    exact ⟨fun _ _ _ => (Trace.after_nil _).symm, fun _ _ _ => (Trace.after_nil _).symm,
      fun _ _ => ⟨rfl, rfl⟩⟩
  | succ depth ih =>
    refine ⟨trace_evaluate ih, trace_explain ih, fun {number s} h argument => ?_⟩
    simp only [passCalls, callsOfEvaluate, callsOfExplain, h, Option.elim_none, and_self]

/-! ## What calls come to -/

/-- How a call ended is what the pass came to: it gave an answer with so many matches, or failed
with that with which the span was left. -/
def ComesTo {α : Type} (found : α → Nat) (ending : Except Stop Nat) (result : Except Stop α) :
    Prop :=
  (∀ n, ending = .ok n → ∃ a, result = .ok a ∧ found a = n) ∧
    ∀ stop, ending = .error stop → result = .error stop.leaving

/-- How many matches an answer lists. -/
def matchCount : Answer → Nat
  | .names ns => ns.length
  | .fallback _ => 0

theorem matchCount_ofNames (fallback : Value) (names : List Value) :
    matchCount (.ofNames fallback names) = names.length := by
  cases names <;> rfl

theorem comesTo_map {α β : Type} (found : β → Nat) (f : α → β) (x : Except Stop α) :
    ComesTo found (x.map fun a => found (f a)) ((x.mapError Stop.leaving).map f) := by
  cases x with
  | ok a =>
    refine ⟨fun n hn => ?_, fun stop hs => ?_⟩
    · cases hn
      exact ⟨f a, rfl, rfl⟩
    · cases hs
  | error stop =>
    refine ⟨fun n hn => ?_, fun stop' hs => ?_⟩
    · cases hn
    · cases hs
      rfl

section

variable {number : Nat} {argument : PassArgument} {s t : Session} {e : Evaluator} {c : Context}

/-- What evaluating gives is what the loop collected, or with what the span is left. -/
theorem endResult_evaluate (h : k.Tells p) (he : s.evaluators[number]? = some e)
    (hc : effectiveContext e argument s = .ok c t) :
    endResult (evaluate p number argument s) =
      ((endResult (Pass.collect (decide p) e.conditions
        (passFrame "envname.evaluate" e.conditions.length c t))).mapError Stop.leaving).map
          (.ofNames e.fallback) := by
  have hl := trace_collect h e.conditions (passFrame "envname.evaluate" e.conditions.length c t)
  rw [← Trace.marked_nil (Trace.after _ _)] at hl
  rw [evaluate_inSpan he hc, ← (inSpan_trace hl List.length).2]
  simp only [Bind.bind, EStateM.bind]
  cases inSpan "envname.evaluate" e.conditions.length c (Pass.collect (decide p) e.conditions)
    List.length t <;> rfl

/-- What explaining gives is what the loop found, or with what the span is left. -/
theorem endResult_explain (h : k.Tells p) (he : s.evaluators[number]? = some e)
    (hc : effectiveContext e argument s = .ok c t) :
    endResult (explain p number argument s) =
      ((endResult (Pass.survey (decide p) markFailure e.conditions
        (passFrame "envname.explain" e.conditions.length c t))).mapError Stop.leaving).map
          (Report.mk e.fallback) := by
  have hl := trace_survey h e.conditions (passFrame "envname.explain" e.conditions.length c t)
  rw [explain_inSpan he hc, ← (inSpan_trace hl fun outcomes =>
    (Report.mk e.fallback outcomes).matchedNames.length).2]
  simp only [Bind.bind, EStateM.bind]
  cases inSpan "envname.explain" e.conditions.length c
    (Pass.survey (decide p) markFailure e.conditions)
    (fun outcomes => (Report.mk e.fallback outcomes).matchedNames.length) t <;> rfl

end

/-- Evaluating is one call, refused if the source raises, with the calls of the conditions that it
reaches inside it. -/
theorem callsOfEvaluate_comesTo (h : k.Tells p) {number : Nat} {s : Session} {e : Evaluator}
    (he : s.evaluators[number]? = some e) (argument : PassArgument) :
    (∀ stop t, effectiveContext e argument s = .error stop t →
      callsOfEvaluate p k number argument s = [.refused "envname.evaluate"] ∧
      evaluate p number argument s = .error stop t) ∧
    ∀ c t, effectiveContext e argument s = .ok c t → ∃ ending,
      callsOfEvaluate p k number argument s = [.ran "envname.evaluate" e.conditions.length [] ending
        ((evaluated p e c t).flatMap (callsOfCondition p k))] ∧
      ComesTo matchCount ending (endResult (evaluate p number argument s)) := by
  refine ⟨fun stop t hc => ⟨?_, evaluate_of_no_context he hc⟩, fun c t hc =>
    ⟨(endResult (Pass.collect (decide p) e.conditions
      (passFrame "envname.evaluate" e.conditions.length c t))).map List.length, ?_, ?_⟩⟩
  · rw [callsOfEvaluate, he, Option.elim_some, hc]
  · rw [callsOfEvaluate, he, Option.elim_some, hc]
  · have hfound : List.length = fun names => matchCount (.ofNames e.fallback names) :=
      funext fun names => (matchCount_ofNames e.fallback names).symm
    rw [endResult_evaluate h he hc, hfound]
    exact comesTo_map matchCount (.ofNames e.fallback) _

/-- So is explaining, which reports the conditions that fail. -/
theorem callsOfExplain_comesTo (h : k.Tells p) {number : Nat} {s : Session} {e : Evaluator}
    (he : s.evaluators[number]? = some e) (argument : PassArgument) :
    (∀ stop t, effectiveContext e argument s = .error stop t →
      callsOfExplain p k number argument s = [.refused "envname.explain"] ∧
      explain p number argument s = .error stop t) ∧
    ∀ c t, effectiveContext e argument s = .ok c t → ∃ ending,
      callsOfExplain p k number argument s = [.ran "envname.explain" e.conditions.length
        ((explained p e c t).filterMap (reported? p)) ending
        ((explained p e c t).flatMap (callsOfCondition p k))] ∧
      ComesTo (fun report => report.matchedNames.length) ending
        (endResult (explain p number argument s)) := by
  refine ⟨fun stop t hc => ⟨?_, explain_of_no_context he hc⟩, fun c t hc =>
    ⟨(endResult (Pass.survey (decide p) markFailure e.conditions
      (passFrame "envname.explain" e.conditions.length c t))).map
        fun outcomes => (Report.mk e.fallback outcomes).matchedNames.length, ?_, ?_⟩⟩
  · rw [callsOfExplain, he, Option.elim_some, hc]
  · rw [callsOfExplain, he, Option.elim_some, hc]
  · rw [endResult_explain h he hc]
    exact comesTo_map (fun report => report.matchedNames.length) (Report.mk e.fallback) _

/-! ## What spans tell -/

/-- The events of a span that tell of an exception. -/
def exceptionEvents (s : Span) : List Event := s.events.filter fun e => e.name = "exception"

theorem isSome_recorded? (stop : Stop) :
    stop.recorded?.isSome = true ↔
      ∃ f text, stop = .failure f ∧ f.isInterrupt = false ∧ f.text = .ok text := by
  cases stop with
  | exhausted =>
    constructor
    · intro h
      cases h
    · rintro ⟨f, text, h, -⟩
      cases h
  | failure f =>
    rw [Stop.recorded?]
    constructor
    · intro h
      cases hi : f.isInterrupt with
      | true =>
        rw [hi] at h
        cases h
      | false =>
        rw [hi] at h
        cases ht : f.text with
        | error e =>
          rw [ht] at h
          cases h
        | ok text => exact ⟨f, text, rfl, hi, ht⟩
    · rintro ⟨f', text, h, hi, ht⟩
      cases h
      rw [hi, ht]
      rfl

/-- A failure that a span tells of is the one that goes on. -/
theorem leaving_of_recorded {stop : Stop} (h : stop.recorded?.isSome = true) :
    stop.leaving = stop := by
  obtain ⟨f, text, rfl, hi, ht⟩ := (isSome_recorded? stop).1 h
  rw [Stop.leaving, hi, ht]
  rfl

theorem exceptionEvents_span (parent? : Option String) (name : String) (count : Nat)
    (marks : List ConditionFailure) (ending : Except Stop Nat) :
    (exceptionEvents (Call.span parent? name count marks ending)).length =
      (Call.recorded? ending).toList.length := by
  simp only [exceptionEvents, Call.span]
  exact Call.count_exceptions marks (Call.recorded? ending)

/-- A span says that its call failed, with one event for the failure, exactly if there is a failure
to record. -/
theorem span_status (parent? : Option String) (name : String) (count : Nat)
    (marks : List ConditionFailure) (ending : Except Stop Nat) :
    let span := Call.span parent? name count marks ending
    ((∃ text, span.status = .error text) ↔ (Call.recorded? ending).isSome = true) ∧
      (exceptionEvents span).length = (Call.recorded? ending).toList.length := by
  refine ⟨?_, exceptionEvents_span parent? name count marks ending⟩
  rw [Call.span]
  cases Call.recorded? ending with
  | none =>
    constructor
    · rintro ⟨text, h⟩
      cases h
    · intro h
      cases h
  | some x => exact ⟨fun _ => rfl, fun _ => ⟨_, rfl⟩⟩

/-- The spans of a step are those of the calls that it makes, and tell how these ended. -/
theorem spans_of_step (depth : Nat) :
    (∀ st s, (endState (step (passes depth) st s)).journal.trace =
      ⟨s.journal.trace.opened, s.journal.trace.ended ++
        Call.spansOf (s.journal.trace.opened.head?.map Span.name)
          (callsOfStep (passCalls depth) st s)⟩) ∧
    (∀ st s, (userStep depth st s).2.journal.trace =
      ⟨[], Call.spansOf none (callsOfStep (passCalls depth) st { s with journal := .empty })⟩) ∧
    (∀ process steps, (after depth process steps).journal.trace.opened = []) ∧
    (∀ number s e, s.evaluators[number]? = some e → ∀ argument,
      (∀ stop t, effectiveContext e argument s = .error stop t →
        (passCalls (depth + 1)).evaluate number argument s = [.refused "envname.evaluate"] ∧
        (passCalls (depth + 1)).explain number argument s = [.refused "envname.explain"] ∧
        (passes (depth + 1)).evaluate number argument s = .error stop t ∧
        (passes (depth + 1)).explain number argument s = .error stop t) ∧
      ∀ c t, effectiveContext e argument s = .ok c t →
        (∃ ending, (passCalls (depth + 1)).evaluate number argument s =
            [.ran "envname.evaluate" e.conditions.length [] ending
              ((evaluated (passes depth) e c t).flatMap
                (callsOfCondition (passes depth) (passCalls depth)))] ∧
          ComesTo matchCount ending
            (endResult ((passes (depth + 1)).evaluate number argument s))) ∧
        ∃ ending, (passCalls (depth + 1)).explain number argument s =
            [.ran "envname.explain" e.conditions.length
              ((explained (passes depth) e c t).filterMap (reported? (passes depth))) ending
              ((explained (passes depth) e c t).flatMap
                (callsOfCondition (passes depth) (passCalls depth)))] ∧
          ComesTo (fun report => report.matchedNames.length) ending
            (endResult ((passes (depth + 1)).explain number argument s))) ∧
    (∀ parent? name count marks ending,
      let span := Call.span parent? name count marks ending
      span.name = name ∧ span.parent? = parent? ∧
      (∀ n, ending = .ok n → span.attributes =
          [("envname.conditions.count", .int (Int.ofNat count)),
            ("envname.matches.count", .int (Int.ofNat n)),
            ("envname.default_used", .bool (n = 0))] ∧
        span.status = .unset ∧ exceptionEvents span = []) ∧
      ∀ stop, ending = .error stop →
        span.attributes = [("envname.conditions.count", .int (Int.ofNat count))] ∧
        ((∃ text, span.status = .error text) ↔
          ∃ f text, stop = .failure f ∧ f.isInterrupt = false ∧ f.text = .ok text) ∧
        ((∃ text, span.status = .error text) ↔ (exceptionEvents span).length = 1) ∧
        ((∃ text, span.status = .error text) → stop.leaving = stop)) := by
  have hstep : ∀ st s, (endState (step (passes depth) st s)).journal.trace =
      s.journal.trace.after (callsOfStep (passCalls depth) st s) :=
    trace_step (tells_passCalls depth)
  have huser : ∀ st s, (userStep depth st s).2.journal.trace =
      ⟨[], Call.spansOf none (callsOfStep (passCalls depth) st { s with journal := .empty })⟩ := by
    intro st s
    have h := hstep st { s with journal := .empty }
    unfold userStep
    generalize step (passes depth) st { s with journal := .empty } = r at h
    cases r <;> exact h
  refine ⟨hstep, huser, fun process steps => ?_, fun number s e he argument => ?_, ?_⟩
  · rcases List.eq_nil_or_concat steps with rfl | ⟨before, st, rfl⟩
    · rfl
    · rw [after, List.concat_eq_append, List.foldl_append]
      exact congrArg Trace.opened (huser st _)
  · obtain ⟨hno, hsome⟩ := callsOfEvaluate_comesTo (tells_passCalls depth) he argument
    obtain ⟨hno', hsome'⟩ := callsOfExplain_comesTo (tells_passCalls depth) he argument
    refine ⟨fun stop t hc => ?_, fun c t hc => ⟨hsome c t hc, hsome' c t hc⟩⟩
    exact ⟨(hno stop t hc).1, (hno' stop t hc).1, (hno stop t hc).2, (hno' stop t hc).2⟩
  · intro parent? name count marks ending
    obtain ⟨hstatus, hevents⟩ := span_status parent? name count marks ending
    refine ⟨rfl, rfl, fun n hn => ?_, fun stop hs => ?_⟩
    · subst hn
      exact ⟨rfl, rfl, List.length_eq_zero_iff.1 hevents⟩
    · subst hs
      refine ⟨rfl, hstatus.trans (isSome_recorded? stop), hstatus.trans ?_, fun h => ?_⟩
      · rw [hevents, Call.recorded?]
        cases stop.recorded? with
        | none => exact ⟨nofun, nofun⟩
        | some x => exact ⟨fun _ => rfl, fun _ => rfl⟩
      · exact leaving_of_recorded (hstatus.1 h)

/-- A session with an evaluator of a condition that makes and evaluates one of no conditions. -/
def nesting : Session :=
  { start [] with
    sources := [.process]
    evaluators := [⟨[⟨.object 0 (.predicate none (.nested (.mk none none false .process))),
      .str "inner"⟩], .null, false, 0, []⟩]
    names := [("outer", 0)] }

theorem spans_of_step_nesting :
    (userStep 2 (.mk "outer" (.evaluate none)) nesting).2.journal.trace.ended.map
        (fun span => (span.name, span.parent?)) =
      [("envname.evaluate", some "envname.evaluate"), ("envname.evaluate", none)] ∧
    ∃ e c t, nesting.evaluators[0]? = some e ∧
      effectiveContext e (.given none) nesting = .ok c t ∧
      ∃ ending inner, (passCalls 2).evaluate 0 (.given none) nesting =
          [.ran "envname.evaluate" 1 [] ending inner] ∧
        ComesTo matchCount ending (endResult ((passes 2).evaluate 0 (.given none) nesting)) := by
  constructor
  · rw [(spans_of_step 2).2.1]
    rfl
  · obtain ⟨ending, hcalls, hends⟩ :=
      (((spans_of_step 1).2.2.2.1 0 nesting _ rfl (.given none)).2 _ _ rfl).1
    exact ⟨_, _, _, rfl, rfl, ending, _, hcalls, hends⟩

end NamedConditions.Session
