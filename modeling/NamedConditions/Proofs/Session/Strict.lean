import NamedConditions.Proofs.Pass.Alongside
import NamedConditions.Proofs.Pass.Silenced
import NamedConditions.Proofs.Session.Rebuilt
/-!
The strict rule. It refuses lists and does nothing else: what a strict list is read into is what the
list is read into without the rule, and sessions that differ in strict rules alone stay so under
everything that runs, with the same answers (`strictLaw`).

What the rule leaves to fail are predicates: a static check that it admits is a truth value, which
is its own truth.

Main statement (`strict_only_filters`): which lists are refused, the two evaluators of a list beside
each other through all steps, and the sort of the conditions that fail.
-/
namespace NamedConditions

/-! ## Lists -/

namespace Spec

theorem isStrict_iff (s : Spec) :
    s.isStrict = true ↔ s.check.isBool = true ∨ s.check.isCallable = true := by
  rw [isStrict, Bool.or_eq_true]

theorem ofEntryIn_strict_iff {index : Nat} {entry : Value} {s : Spec} :
    ofEntryIn true index entry = .ok s ↔
      ofEntryIn false index entry = .ok s ∧ s.isStrict = true := by
  unfold ofEntryIn
  cases ofEntry index entry with
  | error f =>
    refine ⟨fun h => ?_, fun h => h.1⟩
    cases h
  | ok s' =>
    dsimp only
    cases hs : s'.isStrict with
    | true =>
      refine ⟨fun h => ?_, fun h => h.1⟩
      cases h
      exact ⟨rfl, hs⟩
    | false =>
      refine ⟨fun h => ?_, fun ⟨h, hstrict⟩ => ?_⟩
      · cases h
      · cases h
        rw [hs] at hstrict
        cases hstrict

theorem ofEntriesFrom_strict_iff {index : Nat} {entries : List Value} {specs : List Spec} :
    ofEntriesFrom true index entries = .ok specs ↔
      ofEntriesFrom false index entries = .ok specs ∧ ∀ s ∈ specs, s.isStrict = true := by
  induction entries generalizing index specs with
  | nil =>
    refine ⟨fun h => ⟨h, ?_⟩, fun h => h.1⟩
    cases h
    exact nofun
  | cons entry rest ih =>
    have hcons : ∀ strict, ofEntriesFrom strict index (entry :: rest) = .ok specs ↔
        ∃ s more, ofEntryIn strict index entry = .ok s ∧
          ofEntriesFrom strict (index + 1) rest = .ok more ∧ specs = s :: more := by
      intro strict
      rw [ofEntriesFrom]
      cases ofEntryIn strict index entry with
      | error f => simp
      | ok s =>
        cases ofEntriesFrom strict (index + 1) rest with
        | error f => simp
        | ok more => simp [eq_comm]
    rw [hcons, hcons]
    constructor
    · rintro ⟨s, more, hs, hmore, rfl⟩
      obtain ⟨hs, hstrict⟩ := ofEntryIn_strict_iff.1 hs
      obtain ⟨hmore, hall⟩ := ih.1 hmore
      exact ⟨⟨s, more, hs, hmore, rfl⟩, List.forall_mem_cons.2 ⟨hstrict, hall⟩⟩
    · rintro ⟨⟨s, more, hs, hmore, rfl⟩, hstrict⟩
      obtain ⟨hfirst, hall⟩ := List.forall_mem_cons.1 hstrict
      exact ⟨s, more, ofEntryIn_strict_iff.2 ⟨hs, hfirst⟩, ih.2 ⟨hmore, hall⟩, rfl⟩

end Spec

/-- A list is valid by the strict rule if it is valid without it and the rule admits every check. -/
theorem validate_strict_iff (conditions : Value) (specs : List Spec) :
    validate conditions true = .ok specs ↔ validate conditions false = .ok specs ∧
      ∀ s ∈ specs, s.check.isBool = true ∨ s.check.isCallable = true := by
  simp only [← Spec.isStrict_iff]
  cases hi : conditions.items? with
  | none =>
    rw [validate_of_no_sequence hi, validate_of_no_sequence hi]
    refine ⟨fun h => ?_, fun h => h.1⟩
    cases h
  | some entries =>
    rw [validate_of_items? hi, validate_of_items? hi]
    exact Spec.ofEntriesFrom_strict_iff

/-! ## Evaluators -/

/-- Evaluators that differ in the strict rule at most, which the specifications of neither break. -/
def Evaluator.SameButStrict (e e' : Evaluator) : Prop :=
  e.Valid ∧ e'.Valid ∧ ∃ strict, e' = { e with strict := strict }

namespace Evaluator.SameButStrict

variable {e e' : Evaluator}

theorem refl (h : e.Valid) : e.SameButStrict e := ⟨h, h, e.strict, rfl⟩

theorem twin (h : e.SameButStrict e') : Session.Twin e e' := by
  obtain ⟨hv, hv', strict, rfl⟩ := h
  exact ⟨strict, rfl, Eq.trans hv' hv.symm⟩

theorem onAccumulated (h : e.SameButStrict e') (f : Context → Context) :
    Evaluator.SameButStrict { e with accumulated := f e.accumulated }
      { e' with accumulated := f e'.accumulated } := by
  obtain ⟨hv, hv', strict, rfl⟩ := h
  exact ⟨hv, hv', strict, rfl⟩

/-- What a strict list is read into makes an evaluator with the rule and one without. -/
theorem ofMade {conditions : Value} {specs : List Spec} (h : validate conditions true = .ok specs)
    (fallback : Value) (source : Nat) :
    Evaluator.SameButStrict ⟨specs, fallback, true, source, []⟩
      ⟨specs, fallback, false, source, []⟩ :=
  ⟨validate_toValue h, validate_again h (.inr rfl), false, rfl⟩

end Evaluator.SameButStrict

namespace Session

/-! ## Sessions beside each other -/

/-- Sessions that differ at most in strict rules, which no evaluator's specifications break. -/
def SameButStrict (s t : Session) : Prop :=
  ∃ es, t = { s with evaluators := es } ∧
    List.Forall₂ Evaluator.SameButStrict s.evaluators es

theorem sameButStrict_of_reachable {s : Session} (h : Reachable s) : SameButStrict s s := by
  refine ⟨s.evaluators, rfl, List.forall₂_same.2 fun e he => ?_⟩
  obtain ⟨n, hn⟩ := List.mem_iff_getElem?.1 he
  exact .refl (valid_of_reachable h n e hn)

/-- What is no deed concerns no evaluator and looks at none. -/
theorem perform_withEvaluators {c : Change} (hc : c.isDeed = false) (s : Session)
    (es : List Evaluator) :
    c.perform { s with evaluators := es } = { c.perform s with evaluators := es } := by
  cases c with
  | give | clear | make | fork => cases hc
  | log | note | bind | setProcess | hold | write | openSpan | closeSpan | mark | turn => rfl
  | abandonSpan stop => cases stop <;> rfl
  | take argument =>
    cases h : argumentEntries? argument with
    | none =>
      rw [Change.perform, Change.perform, takeArgument_of_no_entries h,
        takeArgument_of_no_entries h]
      unfold ignore
      split <;> rfl
    | some es =>
      rw [Change.perform, Change.perform, takeArgument_of_entries h, takeArgument_of_entries h]
      rfl
  | read source =>
    rw [Change.perform, Change.perform]
    cases h : s.sources[source]? with
    | none =>
      rw [readSource_of_none h, readSource_of_none (s := { s with evaluators := es }) h]
      rfl
    | some p =>
      rw [readSource_of_some h, readSource_of_some (s := { s with evaluators := es }) h,
        endState_ofExcept, endState_ofExcept]
      rfl

theorem forall₂_modify {es es' : List Evaluator}
    (h : List.Forall₂ Evaluator.SameButStrict es es') (number : Nat) (f : Context → Context) :
    List.Forall₂ Evaluator.SameButStrict
      (es.modify number fun e => { e with accumulated := f e.accumulated })
      (es'.modify number fun e => { e with accumulated := f e.accumulated }) := by
  induction h generalizing number with
  | nil => cases number <;> exact .nil
  | cons he hes ih =>
    cases number with
    | zero => exact .cons (he.onAccumulated f) hes
    | succ number => exact .cons he (ih number)

theorem forall₂_concat {es es' : List Evaluator} {e e' : Evaluator}
    (h : List.Forall₂ Evaluator.SameButStrict es es') (he : e.SameButStrict e') :
    List.Forall₂ Evaluator.SameButStrict (es ++ [e]) (es' ++ [e']) :=
  List.rel_append h (.cons he .nil)

variable {s t : Session}

/-- Making an evaluator in the one session and one that is the same but for the strict rule in the
other. -/
theorem sameButStrict_withMade (h : SameButStrict s t) (p : Provider) {specs : List Spec}
    (fallback : Option Value) {strict strict' : Bool}
    (he : Evaluator.SameButStrict ⟨specs, fallback.getD (.list []), strict, s.sources.length, []⟩
      ⟨specs, fallback.getD (.list []), strict', s.sources.length, []⟩) :
    SameButStrict (withMade p specs fallback strict s) (withMade p specs fallback strict' t) := by
  obtain ⟨es, rfl, hes⟩ := h
  refine ⟨es ++ [_], ?_, forall₂_concat hes he⟩
  simp only [withMade, addSource, addEvaluator, record, hes.length_eq]

theorem sameButStrict_perform (c : Change) (h : SameButStrict s t) :
    SameButStrict (c.perform s) (c.perform t) := by
  obtain ⟨es, rfl, hes⟩ := h
  cases hc : c.isDeed with
  | false =>
    refine ⟨es, perform_withEvaluators hc s es, ?_⟩
    rw [(sameAccounts_perform hc s).1]
    exact hes
  | true =>
    cases c with
    | clear number => exact ⟨_, rfl, forall₂_modify hes number fun _ => []⟩
    | give number argument =>
      rw [Change.perform, Change.perform]
      cases ha : argumentEntries? argument with
      | none =>
        rw [withContext_of_no_entries ha, withContext_of_no_entries ha]
        refine ⟨es, ?_, ?_⟩
        · unfold ignore
          split <;> rfl
        · unfold ignore
          split <;> exact hes
      | some entries =>
        rw [withContext_of_entries ha, withContext_of_entries ha]
        exact ⟨_, rfl, forall₂_modify hes number fun a => Layer.merge a (s.store.context entries).1⟩
    | make setup =>
      rcases setup with ⟨conditions, fallback, strict, source⟩
      rw [Change.perform, Change.perform, make_run, make_run]
      cases provider source with
      | error e => exact ⟨es, rfl, hes⟩
      | ok p =>
        cases hv : validate (conditions.getD (.tuple [])) strict with
        | error fault => exact ⟨es, rfl, hes⟩
        | ok specs =>
          exact sameButStrict_withMade ⟨es, rfl, hes⟩ p fallback (.refl (validate_toValue hv))
    | fork number =>
      rcases getElem?_cases_of_forall₂ hes number with ⟨he, he'⟩ | ⟨e, e', he, he', hsame⟩
      · simp only [Change.perform, he, he', Option.elim_none]
        exact ⟨es, rfl, hes⟩
      · simp only [Change.perform, he, he', Option.elim_some]
        rw [fork_of_valid hsame.1, fork_of_valid hsame.2.1]
        refine ⟨es ++ [e'], ?_, forall₂_concat hes hsame⟩
        simp only [endState, forked, hes.length_eq]
    | _ => cases hc

/-- Nothing that runs tells strict rules apart. -/
theorem strictLaw : Law SameButStrict where
  akin := by
    rintro s t ⟨es, rfl, hes⟩
    exact ⟨rfl, hes.imp fun _ _ h => h.twin⟩
  change c _ _ h := sameButStrict_perform c h
  abandon := by
    rintro stop s t ⟨es, rfl, -⟩
    cases stop <;> rfl

/-! ## Steps one after another -/

/-- What steps of the user give one after another, with the sessions that they leave behind. -/
def outputs (depth : Nat) : List Step → Session → List (Except Stop StepResult × Session)
  | [], _ => []
  | st :: steps, s => userStep depth st s :: outputs depth steps (userStep depth st s).2

/-- What two steps gave is the same but for the strict rules that it tells of, and so are the
sessions after them. -/
def SameOutput (x y : Except Stop StepResult × Session) : Prop :=
  x.1.map StepResult.lax = y.1.map StepResult.lax ∧ SameButStrict x.2 y.2

theorem userStep_sameOutput (depth : Nat) (st : Step) (h : SameButStrict s t) :
    SameOutput (userStep depth st s) (userStep depth st t) := by
  have hstep := step_simulates strictLaw (passes_simulate strictLaw depth) st _ _
    (strictLaw.change .turn h)
  simp only [Change.perform] at hstep
  unfold userStep
  generalize step (passes depth) st { s with journal := .empty } = x at hstep
  generalize step (passes depth) st { t with journal := .empty } = y at hstep
  cases hstep with
  | ok hq hr => exact ⟨congrArg Except.ok hq, hr⟩
  | error hr => exact ⟨rfl, hr⟩

theorem outputs_sameOutput (depth : Nat) (steps : List Step) (h : SameButStrict s t) :
    List.Forall₂ SameOutput (outputs depth steps s) (outputs depth steps t) := by
  induction steps generalizing s t with
  | nil => exact .nil
  | cons st steps ih =>
    have hst := userStep_sameOutput depth st h
    exact .cons hst (ih hst.2)

/-- A step that makes an evaluator fails as making it does, or shows the new one. -/
theorem step_make_run (p : Passes) (on : String) (conditions fallback : Option Value)
    (strict : Bool) (source : Source) (s : Session) :
    step p (.mk on (.make (.mk conditions fallback strict source))) s =
      match provider source, validate (conditions.getD (.tuple [])) strict with
      | .error e, _ => .error (.failure (.raised e)) s
      | .ok _, .error fault => .error (.failure fault.failure) s
      | .ok q, .ok specs =>
        (do return .made s.evaluators.length (← Run.ofExcept (Evaluator.shown
            ⟨specs, fallback.getD (.list []), strict, s.sources.length, []⟩)) :
          Run Session StepResult)
          ((withMade q specs fallback strict s).bind on s.evaluators.length) := by
  simp only [step, Bind.bind, EStateM.bind, make_run]
  cases provider source with
  | error e => rfl
  | ok q =>
    cases validate (conditions.getD (.tuple [])) strict with
    | error fault => rfl
    | ok specs =>
      have hfound : ((withMade q specs fallback strict s).bind on
          s.evaluators.length).evaluators[s.evaluators.length]? =
            some ⟨specs, fallback.getD (.list []), strict, s.sources.length, []⟩ :=
        List.getElem?_concat_length
      simp only [Run.modify_run, Run.get_run]
      rw [hfound]
      rfl

/-- Making an evaluator with the strict rule and without it from the same session: what the first
gives the second gives too. -/
theorem userStep_make_strict (hs : Reachable s) {depth : Nat} {on : String}
    {conditions fallback : Option Value} {source : Source} {r : StepResult}
    (h : userStep depth (.mk on (.make (.mk conditions fallback true source))) s = (.ok r, t)) :
    ∃ u, userStep depth (.mk on (.make (.mk conditions fallback false source))) s = (.ok r, u) ∧
      SameButStrict t u := by
  have hself : SameButStrict { s with journal := .empty } { s with journal := .empty } :=
    sameButStrict_of_reachable (.change .turn hs)
  simp only [userStep, step_make_run] at h ⊢
  cases hp : provider source with
  | error e =>
    rw [hp] at h
    cases h
  | ok q =>
    cases hv : validate (conditions.getD (.tuple [])) true with
    | error fault =>
      rw [hp, hv] at h
      cases h
    | ok specs =>
      have hlax := ((validate_strict_iff _ _).1 hv).1
      have hmade := sameButStrict_withMade hself q fallback
        (Evaluator.SameButStrict.ofMade hv (fallback.getD (.list [])) s.sources.length)
      have hbound := strictLaw.change (.bind on s.evaluators.length) hmade
      rw [hp, hv] at h
      rw [hlax]
      simp only [Bind.bind, EStateM.bind] at h ⊢
      have hshown : Evaluator.shown ⟨specs, fallback.getD (.list []), false, s.sources.length, []⟩ =
          Evaluator.shown ⟨specs, fallback.getD (.list []), true, s.sources.length, []⟩ := rfl
      rw [hshown]
      cases hx : Evaluator.shown
          ⟨specs, fallback.getD (.list []), true, s.sources.length, []⟩ with
      | error e =>
        rw [hx] at h
        cases h
      | ok text =>
        rw [hx] at h
        cases h
        exact ⟨_, rfl, hbound⟩

/-! ## What fails -/

section

variable {e : Evaluator} {p : Passes}

/-- A condition that the strict rule admitted is a predicate or a truth value. -/
theorem check_cases_of_strict (hv : e.Valid) (hs : e.strict = true) {c : Condition}
    (hc : c ∈ e.conditions) : c.check.kind = "predicate" ∨ ∃ b, c.check = .static (.bool b) := by
  obtain ⟨i, hi⟩ := List.mem_iff_getElem?.1 hc
  rw [Evaluator.conditions, Condition.ofSpecs, Condition.getElem?_ofSpecsFrom,
    Option.map_eq_some_iff] at hi
  obtain ⟨spec, hspec, rfl⟩ := hi
  have hadmitted := isStrict_of_validate hv (List.mem_of_getElem? hspec)
  rw [hs, Bool.true_and, Bool.not_eq_false', Spec.isStrict_iff] at hadmitted
  rcases hadmitted with hbool | hcallable
  · refine .inr ?_
    cases hcheck : spec.check with
    | bool b => exact ⟨b, congrArg Check.ofValue hcheck⟩
    | _ =>
      rw [hcheck] at hbool
      cases hbool
  · refine .inl ?_
    rw [← Value.isSome_callable?, ← Check.isPredicate_ofValue] at hcallable
    cases hcheck : Check.ofValue spec.check with
    | static v =>
      rw [hcheck] at hcallable
      cases hcallable
    | predicate f => exact congrArg Check.kind hcheck

/-- Static checks that the strict rule admitted are decided, and leave everything as it is. -/
theorem decide_static_of_strict (hv : e.Valid) (hs : e.strict = true) {c : Condition}
    (hc : c ∈ e.conditions) (hk : c.check.kind = "static") (f : Frame) :
    ∃ b, decide p c f = (f, .decided b) := by
  rcases check_cases_of_strict hv hs hc with hp | ⟨b, hb⟩
  · rw [hk] at hp
    exact absurd hp (by decide)
  · refine ⟨b, ?_⟩
    unfold decide
    rw [hb]
    rfl

/-- Under the strict rule only predicates come to no truth. -/
theorem kind_of_ending (hv : e.Valid) (hs : e.strict = true) {x : Condition × Frame}
    (hx : x.1 ∈ e.conditions) (hend : Verdict.ending? (tried p x) ≠ none) :
    x.1.check.kind = "predicate" := by
  rcases check_cases_of_strict hv hs hx with hp | ⟨b, hb⟩
  · exact hp
  · refine absurd ?_ hend
    rw [tried, hb]
    rfl

theorem ending_of_not_decided {x : Condition × Frame}
    (h : ∀ b, (decide p x.1 x.2).2 ≠ .decided b) : Verdict.ending? (tried p x) ≠ none := by
  intro hnone
  obtain ⟨b, hb⟩ := decide_of_no_ending hnone
  exact h b hb

variable {number : Nat} {argument : PassArgument} {c : Context} {s₁ : Session}

/-- What stops an evaluation is a condition that comes to no truth. -/
theorem exists_ending_of_evaluate (he : s.evaluators[number]? = some e)
    (hc : effectiveContext e argument s = .ok c s₁) {stop : Stop}
    (h : evaluate p number argument s = .error stop t) :
    ∃ x ∈ evaluated p e c s₁, Verdict.ending? (tried p x) ≠ none := by
  rw [evaluate_run he hc] at h
  rcases Pass.collect_trail (decide p) e.conditions
      (passFrame "envname.evaluate" e.conditions.length c s₁) with
    ⟨u, hok, -, -⟩ | ⟨before, x, stop', htrail, -, hstop, -⟩
  · rw [hok] at h
    cases h
  · refine ⟨x, ?_, ending_of_not_decided fun b hb => ?_⟩
    · rw [evaluated, htrail]
      exact List.mem_append_right _ List.mem_cons_self
    · rw [hb] at hstop
      cases hstop

/-- So is what stops an explanation. -/
theorem exists_ending_of_explain (he : s.evaluators[number]? = some e)
    (hc : effectiveContext e argument s = .ok c s₁) {stop : Stop}
    (h : explain p number argument s = .error stop t) :
    ∃ x ∈ explained p e c s₁, Verdict.ending? (tried p x) ≠ none := by
  rcases explain_trail (p := p) he hc with ⟨t', hok, -, -⟩ | ⟨x, hx, stop', hv, -⟩
  · rw [hok] at h
    cases h
  · refine ⟨x, hx, ending_of_not_decided fun b hb => ?_⟩
    rw [hb] at hv
    cases hv

/-- A failure that is reported is that of a condition that comes to no truth. -/
theorem exists_ending_of_outcome {report : Report} (he : s.evaluators[number]? = some e)
    (hc : effectiveContext e argument s = .ok c s₁)
    (h : explain p number argument s = .ok report t) {o : Outcome} (ho : o ∈ report.outcomes)
    (herr : o.error? ≠ none) :
    ∃ x ∈ explained p e c s₁, o = (decide p x.1 x.2).2.outcome x.1 ∧
      Verdict.ending? (tried p x) ≠ none := by
  obtain ⟨houtcomes, -⟩ := outcomes_eq he hc h
  rw [houtcomes] at ho
  obtain ⟨x, hx, rfl⟩ := List.mem_map.1 ho
  refine ⟨x, hx, rfl, ending_of_not_decided fun b hb => herr ?_⟩
  rw [hb]
  rfl

end

/-! ## The rule -/

/-- The strict rule only refuses lists. What an evaluator is made from with the rule, one is made
from without it, if the checks are truth values and things to call; the two answer alike, whatever
they and their forks are asked, but for the rule itself. Of the conditions of one with the rule only
predicates fail. -/
theorem strict_only_filters (depth : Nat) :
    (∀ conditions specs, validate conditions true = .ok specs ↔
      validate conditions false = .ok specs ∧
        ∀ s ∈ specs, s.check.isBool = true ∨ s.check.isCallable = true) ∧
    (∀ conditions fallback source s,
      (∃ n t, make (.mk conditions fallback true source) s = .ok n t) ↔
        (∃ n t, make (.mk conditions fallback false source) s = .ok n t) ∧
          ∀ specs, validate (conditions.getD (.tuple [])) false = .ok specs →
            ∀ s ∈ specs, s.check.isBool = true ∨ s.check.isCallable = true) ∧
    (∀ s, Reachable s → ∀ on conditions fallback source r t,
      userStep depth (.mk on (.make (.mk conditions fallback true source))) s = (.ok r, t) →
      ∃ u, userStep depth (.mk on (.make (.mk conditions fallback false source))) s = (.ok r, u) ∧
        SameButStrict t u ∧
        ∀ steps, List.Forall₂ SameOutput (outputs depth steps t) (outputs depth steps u)) ∧
    ∀ s, Reachable s → ∀ (n : Nat) e, s.evaluators[n]? = some e → e.strict = true →
      (∃ t, fork n e s = .ok s.evaluators.length t ∧
        t.evaluators[s.evaluators.length]? = some e) ∧
      (∀ t, Later s t → ∃ e', t.evaluators[n]? = some e' ∧ e'.strict = true) ∧
      (∀ c ∈ e.conditions, c.check.kind = "static" →
        ∀ p f, ∃ b, decide p c f = (f, .decided b)) ∧
      ∀ p argument c s₁, effectiveContext e argument s = .ok c s₁ →
        (∀ x, x ∈ evaluated p e c s₁ ∨ x ∈ explained p e c s₁ →
          Verdict.ending? (tried p x) ≠ none → x.1.check.kind = "predicate") ∧
        (∀ stop t, evaluate p n argument s = .error stop t →
          ∃ x ∈ evaluated p e c s₁, Verdict.ending? (tried p x) ≠ none ∧
            x.1.check.kind = "predicate") ∧
        (∀ stop t, explain p n argument s = .error stop t →
          ∃ x ∈ explained p e c s₁, Verdict.ending? (tried p x) ≠ none ∧
            x.1.check.kind = "predicate") ∧
        ∀ report t, explain p n argument s = .ok report t →
          ∀ o ∈ report.outcomes, o.error? ≠ none → o.kind = "predicate" := by
  refine ⟨validate_strict_iff, fun conditions fallback source s => ?_,
    fun s hs on conditions fallback source r t h => ?_, fun s hs n e he hstrict => ?_⟩
  · simp only [make_run]
    cases provider source with
    | error e => simp
    | ok q =>
      constructor
      · rintro ⟨n, t, h⟩
        cases hv : validate (conditions.getD (.tuple [])) true with
        | error fault =>
          rw [hv] at h
          cases h
        | ok specs =>
          obtain ⟨hlax, hall⟩ := (validate_strict_iff _ _).1 hv
          rw [hlax]
          refine ⟨⟨_, _, rfl⟩, fun specs' h' => ?_⟩
          cases h'
          exact hall
      · rintro ⟨⟨n, t, h⟩, hall⟩
        cases hv : validate (conditions.getD (.tuple [])) false with
        | error fault =>
          rw [hv] at h
          cases h
        | ok specs =>
          have hadmitted : validate (conditions.getD (.tuple [])) true = .ok specs :=
            (validate_strict_iff _ _).2 ⟨hv, hall specs hv⟩
          rw [hadmitted]
          exact ⟨_, _, rfl⟩
  · obtain ⟨u, hu, hsame⟩ := userStep_make_strict hs h
    exact ⟨u, hu, hsame, fun steps => outputs_sameOutput depth steps hsame⟩
  · have hv : e.Valid := valid_of_reachable hs n e he
    refine ⟨⟨_, fork_of_valid hv n s, List.getElem?_concat_length⟩, fun t ht => ?_,
      fun c hc hk p f => decide_static_of_strict hv hstrict hc hk f, fun p argument c s₁ hc => ?_⟩
    · obtain ⟨deeds, -, hkept⟩ := ht.exists_deeds
      exact ⟨_, hkept n e he, hstrict⟩
    · have hkind : ∀ x, x ∈ evaluated p e c s₁ ∨ x ∈ explained p e c s₁ →
          Verdict.ending? (tried p x) ≠ none → x.1.check.kind = "predicate" := by
        rintro x (hx | hx) hend
        · exact kind_of_ending hv hstrict (Pass.mem_of_mem_trail hx) hend
        · exact kind_of_ending hv hstrict (Pass.mem_of_mem_trail hx) hend
      refine ⟨hkind, fun stop t h => ?_, fun stop t h => ?_, fun report t h o ho herr => ?_⟩
      · obtain ⟨x, hx, hend⟩ := exists_ending_of_evaluate he hc h
        exact ⟨x, hx, hend, hkind x (.inl hx) hend⟩
      · obtain ⟨x, hx, hend⟩ := exists_ending_of_explain he hc h
        exact ⟨x, hx, hend, hkind x (.inr hx) hend⟩
      · obtain ⟨x, hx, rfl, hend⟩ := exists_ending_of_outcome he hc h ho herr
        rw [Verdict.kind_outcome]
        exact hkind x (.inr hx) hend

/-- A list of a truth value and a predicate that is false itself and raises. -/
def admittedList : Value :=
  .list [.spec (.bool true) (.str "static"), .dict [(.str "name", .str "raises"),
    (.str "check", .object 0 (.predicate (some (.bool false))
      (.raise (.ofText .badValue "no number"))))]]

/-- The session in which an evaluator was made from it with the strict rule. -/
def madeAdmitted : Session :=
  (userStep 1 (.mk "e" (.make (.mk (some admittedList) none true .process))) (start [])).2

/-- The two that are made from the list answer alike, forks of theirs too, and what fails is the
predicate. -/
theorem strict_only_filters_admitted :
    (∃ specs, validate admittedList true = .ok specs) ∧
    (∃ r u, userStep 1 (.mk "e" (.make (.mk (some admittedList) none true .process))) (start []) =
        (.ok r, madeAdmitted) ∧
      userStep 1 (.mk "e" (.make (.mk (some admittedList) none false .process))) (start []) =
        (.ok r, u) ∧
      List.Forall₂ SameOutput
        (outputs 1 [.mk "e" (.fork "f"), .mk "f" (.explain none), .mk "f" .describe] madeAdmitted)
        (outputs 1 [.mk "e" (.fork "f"), .mk "f" (.explain none), .mk "f" .describe] u)) ∧
    ∃ report t, explain (passes 0) 0 (.given none) madeAdmitted = .ok report t ∧
      report.errors.length = 1 ∧ ∀ o ∈ report.outcomes, o.error? ≠ none → o.kind = "predicate" := by
  obtain ⟨hlists, -, hbeside, hfails⟩ := strict_only_filters 1
  have hr : Reachable madeAdmitted := userStep_keeps (fun c _ => .change c) 1 _ (.start [])
  refine ⟨⟨_, (hlists admittedList _).2 ⟨rfl, ?_⟩⟩, ?_, ?_⟩
  · exact List.forall_mem_cons.2 ⟨.inl rfl, List.forall_mem_singleton.2 (.inr rfl)⟩
  · obtain ⟨r, hmade⟩ : ∃ r, userStep 1
        (.mk "e" (.make (.mk (some admittedList) none true .process))) (start []) =
          (.ok r, madeAdmitted) := ⟨_, rfl⟩
    obtain ⟨u, hu, -, hsame⟩ := hbeside (start []) (.start []) "e" _ _ _ r madeAdmitted hmade
    exact ⟨r, u, hmade, hu, hsame _⟩
  · obtain ⟨-, -, -, hpasses⟩ := hfails madeAdmitted hr 0 _ rfl rfl
    obtain ⟨-, -, -, hreport⟩ := hpasses (passes 0) (.given none) _ _ rfl
    exact ⟨_, _, rfl, rfl, hreport _ _ rfl⟩

end Session

end NamedConditions
