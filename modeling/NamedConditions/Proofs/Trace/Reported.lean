import NamedConditions.Proofs.Pass.Silenced
import NamedConditions.Proofs.Trace.Outcome
/-!
The report of an explanation and its span. Both tell of the same checks: the report by one outcome a
condition, the span by its attributes and by one event for every failure. A span keeps the latest
events up to a bound, so that of more failures than that it tells of the latest only
(`oftenBroken_outgrows_span`).

First what one check comes to is read off its outcome, then the report is read off the trail of the
explanation, and at last the span off the same trail.

Main statement (`report_agrees_with_span`): the parts of a report agree with one another, with what
the checks came to, and with the span that explaining left behind last.
-/
namespace NamedConditions

/-! ## One condition -/

namespace Verdict

theorem holds_of_ending {r : Except Stop Value} (h : ending? r ≠ none) : holds r = false := by
  cases r with
  | error stop => rfl
  | ok v =>
    rw [ending?] at h
    rw [holds]
    cases ht : v.truth with
    | ok b =>
      rw [ht] at h
      exact absurd rfl h
    | error e => rfl

/-- What an outcome tells of a check that did not stop the survey: whether it came to something
true, and whether it came to no truth. -/
theorem outcome_judge (c : Condition) (r : Except Stop Value)
    (h : ∀ stop, judge c.name r ≠ stopped stop) :
    ((judge c.name r).outcome c).matched = holds r ∧
      (((judge c.name r).outcome c).error? = none ↔ ending? r = none) := by
  cases hend : ending? r with
  | none =>
    rw [judge_eq_decided_holds hend]
    exact ⟨rfl, fun _ => rfl, fun _ => rfl⟩
  | some stop =>
    obtain ⟨stop', hstop⟩ := exists_stop?_judge hend c.name
    rw [holds_of_ending (by rw [hend]; exact Option.some_ne_none stop)]
    cases hv : judge c.name r with
    | decided b =>
      rw [hv] at hstop
      cases hstop
    | stopped stop'' => exact absurd hv (h stop'')
    | failed f => exact ⟨rfl, nofun, nofun⟩

/-- A failure is attributed only where the name of the condition has a text. -/
theorem exists_text_of_failed {name : Value} {r : Except Stop Value} {f : ConditionFailure}
    (h : judge name r = failed f) : ∃ text, name.asText = .ok text := by
  have hof : ∀ x : Failure, ofFailure name x = failed f → ∃ text, name.asText = .ok text := by
    intro x hx
    cases hi : x.isInterrupt with
    | true =>
      rw [ofFailure, hi] at hx
      cases hx
    | false =>
      by_contra hno
      obtain ⟨error, hstop⟩ := ofFailure_of_no_texts hi fun htexts => hno htexts.1
      rw [hx] at hstop
      cases hstop
  cases r with
  | error stop =>
    cases stop with
    | exhausted => cases h
    | failure x => exact hof x h
  | ok v =>
    rw [judge] at h
    cases ht : v.truth with
    | ok b =>
      rw [ht] at h
      cases h
    | error e =>
      rw [ht] at h
      exact hof _ h

end Verdict

/-- The event by which a span tells of the failure of an outcome. -/
def Outcome.event (o : Outcome) : Event :=
  ⟨"envname.condition_error", [("envname.condition", .str (o.name.asText.toOption.getD ""))]⟩

/-! ## The lists that a survey fills -/

namespace Pass

variable {σ : Type}

/-- Decides all conditions in order, and adds to a list of outcomes and to one of the names that
hold. -/
def fill (decide : Condition → σ → σ × Verdict) (note : ConditionFailure → σ → σ) :
    List Condition → List Outcome → List Value → σ →
      EStateM.Result Stop σ (List Outcome × List Value)
  | [], outcomes, names, s => .ok (outcomes, names) s
  | c :: cs, outcomes, names, s =>
    match decide c s with
    | (s, .decided true) =>
      fill decide note cs (outcomes ++ [⟨c.index, c.name, c.check.isPredicate, true, none⟩])
        (names ++ [c.name]) s
    | (s, .decided false) =>
      fill decide note cs (outcomes ++ [⟨c.index, c.name, c.check.isPredicate, false, none⟩])
        names s
    | (s, .failed f) =>
      fill decide note cs
        (outcomes ++ [⟨c.index, c.name, c.check.isPredicate, false, some f.text⟩]) names (note f s)
    | (s, .stopped stop) => .error stop s

/-- The names that a survey finds are those of the outcomes that it finds. -/
theorem fill_eq (decide : Condition → σ → σ × Verdict) (note : ConditionFailure → σ → σ)
    (cs : List Condition) (outcomes : List Outcome) (names : List Value) (s : σ) :
    fill decide note cs outcomes names s =
      match survey decide note cs s with
      | .ok found t => .ok (outcomes ++ found, names ++ holding found) t
      | .error stop t => .error stop t := by
  induction cs generalizing outcomes names s with
  | nil => simp [fill, survey, holding]
  | cons c cs ih =>
    rw [fill, survey_cons]
    rcases decide c s with ⟨t, v⟩
    cases v with
    | decided holds =>
      cases holds with
      | true =>
        dsimp only
        rw [ih]
        cases survey decide note cs t <;> simp [holding]
      | false =>
        dsimp only
        rw [ih]
        cases survey decide note cs t <;> simp [holding]
    | failed f =>
      dsimp only
      rw [ih]
      cases survey decide note cs (note f t) <;> simp [holding]
    | stopped stop => rfl

end Pass

/-! ## Reports -/

/-- The parts of a report on an evaluator agree with one another. -/
structure Report.Consistent (r : Report) (e : Evaluator) : Prop where
  length : r.outcomes.length = e.conditions.length
  /-- Every outcome is that of the condition in its place. -/
  entry (i : Nat) (o : Outcome) : r.outcomes[i]? = some o → ∃ c, e.conditions[i]? = some c ∧
    o.index = i ∧ c.index = i ∧ o.name = c.name ∧ o.kind = c.check.kind
  failed (o : Outcome) : o ∈ r.outcomes → o.error? ≠ none → o.matched = false
  matchedNames : r.matchedNames = (r.outcomes.filter (·.matched)).map (·.name)
  errors : r.errors = r.outcomes.filter fun o => o.error?.isSome
  hasError : r.hasError = true ↔ r.errors ≠ []
  defaultUsed : r.defaultUsed = true ↔ ∀ o ∈ r.outcomes, o.matched = false
  /-- Without matches the answer is the fallback itself. -/
  answer_default : r.defaultUsed = true → r.answer = .fallback e.fallback
  answer_matches : r.defaultUsed = false → r.answer.value =
    .list ((r.outcomes.filter (·.matched)).map fun o => .tuple [.bool true, o.name])

namespace Session

variable {p : Passes} {k : PassCalls} {number : Nat} {argument : PassArgument} {s s₁ t : Session}
  {e : Evaluator} {c : Context} {report : Report}

/-- No condition that a report tells of stopped the survey. -/
theorem not_stopped_of_explain (he : s.evaluators[number]? = some e)
    (hc : effectiveContext e argument s = .ok c s₁)
    (h : explain p number argument s = .ok report t) {x : Condition × Frame}
    (hx : x ∈ explained p e c s₁) (stop : Stop) : (decide p x.1 x.2).2 ≠ .stopped stop := by
  rcases explain_trail (p := p) he hc with ⟨t', -, -, hgoes⟩ | ⟨y, -, stop', -, herr⟩
  · exact hgoes x hx stop
  · rw [herr] at h
    cases h

theorem consistent_of_explain (he : s.evaluators[number]? = some e)
    (hc : effectiveContext e argument s = .ok c s₁)
    (h : explain p number argument s = .ok report t) : report.Consistent e := by
  obtain ⟨houtcomes, hall⟩ := outcomes_eq he hc h
  have hfallback : report.fallback = e.fallback := by
    obtain ⟨e', -, -, -, he', -, -, hfallback, -⟩ := exists_of_explain_eq_ok h
    cases he.symm.trans he'
    exact hfallback
  have hfailed : ∀ (x : Condition) (v : Verdict), (v.outcome x).error? ≠ none →
      (v.outcome x).matched = false := by
    intro x v herr
    cases v with
    | decided b => exact absurd rfl herr
    | failed f => rfl
    | stopped stop => rfl
  refine ⟨?_, fun i o ho => ?_, fun o ho herr => ?_, rfl, rfl, ?_, ?_, fun hd => ?_, fun hd => ?_⟩
  · rw [houtcomes, List.length_map, ← hall, List.length_map]
  · rw [houtcomes, List.getElem?_map, Option.map_eq_some_iff] at ho
    obtain ⟨x, hx, rfl⟩ := ho
    have hcondition : e.conditions[i]? = some x.1 := by rw [← hall, List.getElem?_map, hx]; rfl
    have hindex : x.1.index = i := by
      rw [Evaluator.conditions, Condition.ofSpecs, Condition.getElem?_ofSpecsFrom, Nat.zero_add,
        Option.map_eq_some_iff] at hcondition
      obtain ⟨spec, -, hspec⟩ := hcondition
      rw [← hspec]
      rfl
    have hplace := Verdict.place_outcome x.1 (decide p x.1 x.2).2
    exact ⟨x.1, hcondition, (congrArg Prod.fst hplace).trans hindex, hindex,
      congrArg Prod.snd hplace, Verdict.kind_outcome _ _⟩
  · rw [houtcomes] at ho
    obtain ⟨x, -, rfl⟩ := List.mem_map.1 ho
    exact hfailed _ _ herr
  · rw [Report.hasError_eq_not_isEmpty_errors, Bool.not_eq_true', List.isEmpty_eq_false_iff]
  · rw [Report.defaultUsed, Report.matchedNames, List.isEmpty_iff, List.map_eq_nil_iff,
      List.filter_eq_nil_iff]
    exact forall₂_congr fun o _ => Bool.eq_false_iff.symm
  · rw [Report.answer, ← hfallback, Answer.ofNames, show report.matchedNames.isEmpty = true from hd]
    rfl
  · rw [Report.answer, Answer.ofNames, show report.matchedNames.isEmpty = false from hd]
    simp only [Bool.false_eq_true, if_false, Answer.value, Report.matchedNames, List.map_map]
    rfl

/-- What a report tells of a condition is what its check came to. -/
theorem outcome_tried (he : s.evaluators[number]? = some e)
    (hc : effectiveContext e argument s = .ok c s₁)
    (h : explain p number argument s = .ok report t) {i : Nat} {o : Outcome}
    {x : Condition × Frame} (ho : report.outcomes[i]? = some o)
    (hx : (explained p e c s₁)[i]? = some x) :
    e.conditions[i]? = some x.1 ∧ o.matched = Verdict.holds (tried p x) ∧
      (o.error? = none ↔ Verdict.ending? (tried p x) = none) := by
  obtain ⟨houtcomes, hall⟩ := outcomes_eq he hc h
  rw [houtcomes, List.getElem?_map, hx, Option.map_some] at ho
  cases ho
  have hgoes := not_stopped_of_explain he hc h (List.mem_of_getElem? hx)
  rw [decide_eq_judge_tried] at hgoes ⊢
  refine ⟨?_, Verdict.outcome_judge x.1 (tried p x) hgoes⟩
  rw [← hall, List.getElem?_map, hx]
  rfl

/-! ## Spans -/

/-- The failures that are marked in a span are those of the outcomes. -/
theorem map_markEvent_reported (p : Passes) (xs : List (Condition × Frame)) :
    (xs.filterMap (reported? p)).map Call.markEvent =
      ((xs.map fun x => (decide p x.1 x.2).2.outcome x.1).filter
        fun o => o.error?.isSome).map Outcome.event := by
  induction xs with
  | nil => rfl
  | cons x xs ih =>
    rw [List.filterMap_cons, List.map_cons, List.filter_cons, reported?]
    cases hv : (decide p x.1 x.2).2 with
    | decided b => exact ih
    | stopped stop => exact ih
    | failed f =>
      have hname : f.name = x.1.name := attributes_decide p x.1 x.2 f hv
      have hevent : Call.markEvent f = ((Verdict.failed f).outcome x.1).event := by
        rw [Call.markEvent, hname]
        rfl
      exact congrArg₂ List.cons hevent ih

/-- Failures are reported of conditions with names that have texts. -/
theorem exists_text_of_error (he : s.evaluators[number]? = some e)
    (hc : effectiveContext e argument s = .ok c s₁)
    (h : explain p number argument s = .ok report t) {o : Outcome} (ho : o ∈ report.errors) :
    ∃ text, o.name.asText = .ok text ∧
      o.event = ⟨"envname.condition_error", [("envname.condition", .str text)]⟩ := by
  obtain ⟨hmem, herr⟩ := List.mem_filter.1 ho
  rw [(outcomes_eq he hc h).1] at hmem
  obtain ⟨x, -, rfl⟩ := List.mem_map.1 hmem
  cases hv : (decide p x.1 x.2).2 with
  | decided b =>
    rw [hv] at herr
    cases herr
  | stopped stop =>
    rw [hv] at herr
    cases herr
  | failed f =>
    rw [decide_eq_judge_tried] at hv
    obtain ⟨text, htext⟩ := Verdict.exists_text_of_failed hv
    refine ⟨text, htext, ?_⟩
    rw [Outcome.event, show ((Verdict.failed f).outcome x.1).name = x.1.name from rfl, htext]
    rfl

/-- A span tells of a report: of its counts, and of its failures as far as a span keeps events. -/
structure TellsOf (span : Span) (r : Report) : Prop where
  name : span.name = "envname.explain"
  attributes : span.attributes =
    [("envname.conditions.count", .int (Int.ofNat r.outcomes.length)),
      ("envname.matches.count", .int (Int.ofNat r.matchedNames.length)),
      ("envname.default_used", .bool r.defaultUsed)]
  status : span.status = .unset
  /-- The latest of one event a failure, in the order of the failures. -/
  events : span.events = Call.latest (r.errors.map Outcome.event)
  /-- If the span can keep so many, there is an event for every failure. -/
  complete : r.errors.length ≤ Attributes.bound → span.events = r.errors.map Outcome.event
  length : span.events.length = min r.errors.length Attributes.bound
  texts (o : Outcome) : o ∈ r.errors → ∃ text, o.name.asText = .ok text ∧
    o.event = ⟨"envname.condition_error", [("envname.condition", .str text)]⟩

theorem latest_of_length_le {events : List Event} (h : events.length ≤ Attributes.bound) :
    Call.latest events = events := by
  rw [Call.latest, Nat.sub_eq_zero_of_le h, List.drop_zero]

theorem length_latest (events : List Event) :
    (Call.latest events).length = min events.length Attributes.bound := by
  rw [Call.latest, List.length_drop]
  omega

/-- The span of an explanation tells of its report. -/
theorem tellsOf_span (he : s.evaluators[number]? = some e)
    (hc : effectiveContext e argument s = .ok c s₁)
    (h : explain p number argument s = .ok report t) (parent? : Option String) :
    TellsOf (Call.span parent? "envname.explain" e.conditions.length
      ((explained p e c s₁).filterMap (reported? p)) (.ok report.matchedNames.length)) report := by
  have hevents : (Call.span parent? "envname.explain" e.conditions.length
      ((explained p e c s₁).filterMap (reported? p)) (.ok report.matchedNames.length)).events =
        Call.latest (report.errors.map Outcome.event) := by
    rw [Call.span, Call.recorded?, Option.toList_none, List.map_nil, List.append_nil,
      map_markEvent_reported, ← (outcomes_eq he hc h).1, ← Report.errors]
  refine ⟨rfl, ?_, rfl, hevents, fun hle => ?_, ?_, fun o => exists_text_of_error he hc h⟩
  · rw [(consistent_of_explain he hc h).length, Report.defaultUsed, Call.span,
      Call.foundAttributes]
    cases report.matchedNames <;> rfl
  · have hmap : (report.errors.map Outcome.event).length ≤ Attributes.bound := by
      rw [List.length_map]
      exact hle
    exact hevents.trans (latest_of_length_le hmap)
  · rw [hevents, length_latest, List.length_map]

/-- Explaining ends its own span last, behind those of the calls that its predicates make. -/
theorem trace_of_explain (hk : k.Tells p) (he : s.evaluators[number]? = some e)
    (hc : effectiveContext e argument s = .ok c s₁)
    (h : explain p number argument s = .ok report t) :
    t.journal.trace = ⟨s.journal.trace.opened, s.journal.trace.ended ++
      (Call.spansOf (some "envname.explain")
          ((explained p e c s₁).flatMap (callsOfCondition p k)) ++
        [Call.span (s.journal.trace.opened.head?.map Span.name) "envname.explain"
          e.conditions.length ((explained p e c s₁).filterMap (reported? p))
          (.ok report.matchedNames.length)])⟩ := by
  have htrace := trace_explain hk number argument s
  obtain ⟨e', c', s', f, he', hc', hsurvey, hfallback, -⟩ := exists_of_explain_eq_ok h
  cases he.symm.trans he'
  cases hc.symm.trans hc'
  rw [h, callsOfExplain, he, Option.elim_some, hc] at htrace
  dsimp only at htrace
  rw [hsurvey, Trace.after_ran] at htrace
  exact htrace

/-- The parts of a report agree with one another and with what the checks came to, and the span that
explaining ends last tells of them. -/
theorem report_agrees_with_span (depth number : Nat) (argument : PassArgument) {s t : Session}
    {report : Report} (h : explain (passes depth) number argument s = .ok report t) :
    ∃ e c s₁ span, s.evaluators[number]? = some e ∧
      effectiveContext e argument s = .ok c s₁ ∧
      report.Consistent e ∧
      (∃ f, Pass.fill (decide (passes depth)) markFailure e.conditions [] []
        (passFrame "envname.explain" e.conditions.length c s₁) =
          .ok (report.outcomes, report.matchedNames) f) ∧
      (∀ (i : Nat) (o : Outcome) (x : Condition × Frame), report.outcomes[i]? = some o →
        (explained (passes depth) e c s₁)[i]? = some x →
        e.conditions[i]? = some x.1 ∧ o.matched = Verdict.holds (tried (passes depth) x) ∧
          (o.error? = none ↔ Verdict.ending? (tried (passes depth) x) = none)) ∧
      t.journal.trace = ⟨s.journal.trace.opened, s.journal.trace.ended ++
        (Call.spansOf (some "envname.explain") ((explained (passes depth) e c s₁).flatMap
          (callsOfCondition (passes depth) (passCalls depth))) ++ [span])⟩ ∧
      span.parent? = s.journal.trace.opened.head?.map Span.name ∧ TellsOf span report := by
  obtain ⟨e, c, s₁, f, he, hc, hsurvey, -, -⟩ := exists_of_explain_eq_ok h
  refine ⟨e, c, s₁, _, he, hc, consistent_of_explain he hc h, ⟨f, ?_⟩,
    fun i o x ho hx => outcome_tried he hc h ho hx,
    trace_of_explain (tells_passCalls depth) he hc h, rfl, tellsOf_span he hc h _⟩
  rw [Pass.fill_eq, hsurvey]
  rfl

/-- A session with an evaluator of more failing conditions than a span keeps events. -/
def oftenBroken : Session :=
  { start [] with
    sources := [.process]
    evaluators := [⟨List.replicate 129
      ⟨.object 0 (.predicate none (.raise (.ofText .badValue "no number"))), .str "broken"⟩,
      .null, false, 0, []⟩] }

set_option maxRecDepth 10000 in
/-- Of one failure more than a span keeps events, the span has no event of the first. -/
theorem oftenBroken_outgrows_span :
    ∃ report t span, explain (passes 0) 0 (.given none) oftenBroken = .ok report t ∧
      t.journal.trace.ended = [span] ∧ report.errors.length = 129 ∧
      (span.events.filter fun e => e.name = "envname.condition_error").length = 128 := by
  refine ⟨_, _, _, rfl, rfl, ?_, ?_⟩
  · decide +kernel
  · decide +kernel

/-- A session with an evaluator of a condition that fails between two of one name that hold. -/
def brokenBetween : Session :=
  { start [] with
    sources := [.process]
    evaluators := [⟨[⟨.bool true, .str "twice"⟩,
      ⟨.object 0 (.predicate none (.raise (.ofText .badValue "no number"))), .int 7⟩,
      ⟨.int 1, .str "twice"⟩], .null, false, 0, []⟩] }

theorem report_agrees_with_span_brokenBetween :
    ∃ report t span, explain (passes 0) 0 (.given none) brokenBetween = .ok report t ∧
      t.journal.trace.ended.getLast? = some span ∧
      report.matchedNames = [.str "twice", .str "twice"] ∧
      span.events = [⟨"envname.condition_error", [("envname.condition", .str "7")]⟩] := by
  obtain ⟨message, t, h⟩ : ∃ message t,
      explain (passes 0) 0 (.given none) brokenBetween = .ok
        ⟨.null, [⟨0, .str "twice", false, true, none⟩, ⟨1, .int 7, true, false, some message⟩,
          ⟨2, .str "twice", false, true, none⟩]⟩ t := ⟨_, _, rfl⟩
  obtain ⟨e, c, s₁, span, -, -, -, -, -, htrace, -, htells⟩ := report_agrees_with_span 0 0 _ h
  have hone : 1 ≤ Attributes.bound := by decide
  refine ⟨_, t, span, h, ?_, rfl, htells.complete hone⟩
  rw [htrace]
  exact (congrArg List.getLast? (List.append_assoc ..).symm).trans List.getLast?_concat

end Session

end NamedConditions
