import NamedConditions.Proofs.Pass.Silenced
/-!
Conditions put behind others. A pass over a list runs the first part of the list as it runs that
part alone, and then the rest, from the state in which the first part left it. The rest has later
places then, which no check sees.

The lists come first, then the loops, for any way to decide conditions, and then the passes: a pass
over more conditions begins in a frame with another trace, which no check sees either.

Main statements: concatenated lists are valid if their parts are (`validate_append`); what
conditions come to does not depend on the conditions behind them (`verdicts_explained`,
`verdicts_evaluated`); and a report is the report of the first conditions with what the others come
to behind them (`explain_append`).
-/
namespace NamedConditions

/-! ## Lists -/

theorem ReadInto.append {strict : Bool} {xs ys : List Value} {a b : List Spec}
    (ha : ReadInto strict xs a) (hb : ReadInto strict ys b) :
    ReadInto strict (xs ++ ys) (a ++ b) := by
  refine ⟨fun i entry he => ?_, ?_, fun i entry s he hs => ?_⟩
  · rcases List.mem_append.1 (List.mem_of_getElem? he) with hx | hy
    · obtain ⟨j, hj⟩ := List.mem_iff_getElem?.1 hx
      exact ha.sound j entry hj
    · obtain ⟨j, hj⟩ := List.mem_iff_getElem?.1 hy
      exact hb.sound j entry hj
  · rw [List.length_append, List.length_append, ha.length, hb.length]
  · rcases Nat.lt_or_ge i xs.length with hi | hi
    · rw [List.getElem?_append_left hi] at he
      rw [List.getElem?_append_left (ha.length ▸ hi)] at hs
      exact ha.stands i entry s he hs
    · rw [List.getElem?_append_right hi] at he
      rw [List.getElem?_append_right (ha.length ▸ hi), ha.length] at hs
      exact hb.stands _ entry s he hs

theorem validate_eq_ok_iff (conditions : Value) (strict : Bool) (specs : List Spec) :
    validate conditions strict = .ok specs ↔
      ∃ entries, conditions.items? = some entries ∧ ReadInto strict entries specs := by
  rw [← validated_eq_ok_iff, validated]
  cases validate conditions strict <;> simp [Except.mapError]

/-- What a sequence of the entries of two others is read into. -/
theorem validate_append {first next both : Value} {xs ys : List Value} {strict : Bool}
    {a b : List Spec} (hx : first.items? = some xs) (hy : next.items? = some ys)
    (hxy : both.items? = some (xs ++ ys)) (ha : validate first strict = .ok a)
    (hb : validate next strict = .ok b) : validate both strict = .ok (a ++ b) := by
  obtain ⟨xs', hx', ha⟩ := (validate_eq_ok_iff first strict a).1 ha
  obtain ⟨ys', hy', hb⟩ := (validate_eq_ok_iff next strict b).1 hb
  cases hx.symm.trans hx'
  cases hy.symm.trans hy'
  exact (validate_eq_ok_iff both strict (a ++ b)).2 ⟨xs ++ ys, hxy, ha.append hb⟩

/-- The condition in a place that is so much later. -/
def Condition.later (n : Nat) (c : Condition) : Condition := { c with index := c.index + n }

/-- The outcome of a condition in a place that is so much later. -/
def Outcome.later (n : Nat) (o : Outcome) : Outcome := { o with index := o.index + n }

namespace Condition

theorem ofSpecsFrom_eq_map (n : Nat) (specs : List Spec) :
    ofSpecsFrom n specs = (ofSpecs specs).map (later n) := by
  refine List.ext_getElem? fun i => ?_
  rw [ofSpecs, List.getElem?_map, getElem?_ofSpecsFrom, getElem?_ofSpecsFrom, Option.map_map]
  refine congrArg (fun f => specs[i]?.map f) (funext fun s => ?_)
  rw [Function.comp, later, ofSpec, ofSpec, Nat.zero_add, Nat.add_comm n i]

theorem ofSpecs_append (a b : List Spec) :
    ofSpecs (a ++ b) = ofSpecs a ++ (ofSpecs b).map (later a.length) := by
  rw [ofSpecs, ofSpecsFrom_append, Nat.zero_add, ofSpecsFrom_eq_map a.length]
  rfl

theorem take_ofSpecs (n : Nat) (specs : List Spec) :
    (ofSpecs specs).take n = ofSpecs (specs.take n) := by
  refine List.ext_getElem? fun i => ?_
  rw [List.getElem?_take, ofSpecs, ofSpecs, getElem?_ofSpecsFrom, getElem?_ofSpecsFrom,
    List.getElem?_take]
  split <;> rfl

end Condition

/-! ## Loops -/

namespace Pass

variable {σ : Type} {decide : Condition → σ → σ × Verdict} {note : ConditionFailure → σ → σ}
  {R : σ → σ → Prop}

/-- A survey splits at any place of the list. -/
theorem survey_append (a b : List Condition) (s : σ) :
    survey decide note (a ++ b) s =
      match survey decide note a s with
      | .ok found t =>
        match survey decide note b t with
        | .ok more u => .ok (found ++ more) u
        | .error stop u => .error stop u
      | .error stop t => .error stop t := by
  induction a generalizing s with
  | nil =>
    rw [List.nil_append, survey]
    dsimp only
    cases survey decide note b s <;> rfl
  | cons c a ih =>
    rw [List.cons_append]
    cases hn : surveyNext decide note c s with
    | some t =>
      rw [survey_cons_of_next hn, survey_cons_of_next hn, ih]
      cases survey decide note a t with
      | error stop u => rfl
      | ok found u =>
        dsimp only
        cases survey decide note b u <;> rfl
    | none =>
      obtain ⟨stop, hv, hs⟩ := survey_cons_of_no_next hn (a ++ b)
      obtain ⟨stop', hv', hs'⟩ := survey_cons_of_no_next hn a
      cases hv.symm.trans hv'
      rw [hs, hs']

/-- If deciding does not see the places of conditions, a survey of later ones finds the same, in
later places. -/
theorem survey_later {n : Nat} (hd : ∀ c s, decide (c.later n) s = decide c s)
    (cs : List Condition) (s : σ) :
    survey decide note (cs.map (Condition.later n)) s =
      match survey decide note cs s with
      | .ok found t => .ok (found.map (Outcome.later n)) t
      | .error stop t => .error stop t := by
  induction cs generalizing s with
  | nil => rfl
  | cons c cs ih =>
    rw [List.map_cons, survey_cons, survey_cons, hd]
    cases (decide c s).2 with
    | decided holds =>
      dsimp only
      rw [ih]
      cases survey decide note cs (decide c s).1 <;> rfl
    | failed f =>
      dsimp only
      rw [ih]
      cases survey decide note cs (note f (decide c s).1) <;> rfl
    | stopped stop => rfl

theorem holding_append (a b : List Outcome) : holding (a ++ b) = holding a ++ holding b := by
  rw [holding, List.filter_append, List.map_append, ← holding, ← holding]

theorem holding_later (n : Nat) (outcomes : List Outcome) :
    holding (outcomes.map (Outcome.later n)) = holding outcomes := by
  rw [holding, List.filter_map, List.map_map, holding]
  rfl

/-! ## Trails -/

/-- A trail is cut short where its list is. -/
theorem take_trail (next : Condition → σ → Option σ) (n : Nat) (cs : List Condition) (s : σ) :
    (trail next cs s).take n = trail next (cs.take n) s := by
  induction n generalizing cs s with
  | zero => rfl
  | succ n ih =>
    cases cs with
    | nil => rfl
    | cons c cs =>
      rw [trail, List.take_succ_cons, List.take_succ_cons, trail]
      cases next c s with
      | none => exact congrArg ((c, s) :: ·) List.take_nil
      | some t => exact congrArg ((c, s) :: ·) (ih cs t)

/-- Trails from related states reach the same conditions in related states, if going on does. -/
theorem forall₂_trail {next : Condition → σ → Option σ}
    (hn : ∀ c s t, R s t → Option.Rel R (next c s) (next c t)) (cs : List Condition) {s t : σ}
    (h : R s t) :
    List.Forall₂ (fun x y => x.1 = y.1 ∧ R x.2 y.2) (trail next cs s) (trail next cs t) := by
  induction cs generalizing s t with
  | nil => exact .nil
  | cons c cs ih =>
    have hnext := hn c s t h
    rw [trail, trail]
    generalize next c s = x at hnext
    generalize next c t = y at hnext
    cases hnext with
    | none => exact .cons ⟨rfl, h⟩ .nil
    | some hr => exact .cons ⟨rfl, h⟩ (ih hr)

theorem rel_surveyNext (hd : ∀ c, Agree R decide decide c)
    (hn : ∀ f s t, R s t → R (note f s) (note f t)) (c : Condition) (s t : σ) (h : R s t) :
    Option.Rel R (surveyNext decide note c s) (surveyNext decide note c t) := by
  obtain ⟨hv, hr⟩ := hd c s t h
  rw [surveyNext, surveyNext, hv]
  cases (decide c t).2 with
  | decided holds => exact .some hr
  | failed f => exact .some (hn f _ _ hr)
  | stopped stop => exact .none

theorem rel_collectNext (hd : ∀ c, Agree R decide decide c) (c : Condition) (s t : σ) (h : R s t) :
    Option.Rel R (collectNext decide c s) (collectNext decide c t) := by
  obtain ⟨hv, hr⟩ := hd c s t h
  rw [collectNext, collectNext, hv]
  cases (decide c t).2.stop?.isNone with
  | true => exact .some hr
  | false => exact .none

end Pass

/-! ## Passes -/

namespace Session

variable {p : Passes} {depth : Nat} {argument : PassArgument} {s s₁ t : Session} {c : Context}
  {e e₁ e₂ : Evaluator} {number number₁ : Nat} {report : Report}

/-- What the conditions on a trail come to. -/
def verdicts (p : Passes) (xs : List (Condition × Frame)) : List (Condition × Verdict) :=
  xs.map fun x => (x.1, (decide p x.1 x.2).2)

theorem verdicts_eq_of_forall₂ {xs ys : List (Condition × Frame)}
    (h : List.Forall₂ (fun x y => x.1 = y.1 ∧ OnFrames TraceBlind x.2 y.2) xs ys) :
    verdicts (passes depth) xs = verdicts (passes depth) ys := by
  induction h with
  | nil => rfl
  | @cons x y xs ys hxy _ ih =>
    obtain ⟨c, f⟩ := x
    obtain ⟨c', g⟩ := y
    obtain ⟨rfl, hfg⟩ := hxy
    have hv := (agree_decide depth c f g hfg).1
    exact congrArg₂ List.cons (congrArg (Prod.mk c) hv) ih

/-- However a pass goes on from condition to condition, what these come to does not depend on the
conditions behind them. -/
theorem verdicts_take {next : Condition → Frame → Option Frame}
    (hn : ∀ c f g, OnFrames TraceBlind f g → Option.Rel (OnFrames TraceBlind) (next c f) (next c g))
    (name : String) (c : Context) (s : Session) {n : Nat}
    (h : e₁.specs.take n = e₂.specs.take n) :
    verdicts (passes depth)
        ((Pass.trail next e₁.conditions (passFrame name e₁.conditions.length c s)).take n) =
      verdicts (passes depth)
        ((Pass.trail next e₂.conditions (passFrame name e₂.conditions.length c s)).take n) := by
  rw [Pass.take_trail, Pass.take_trail, Evaluator.conditions, Evaluator.conditions,
    Condition.take_ofSpecs, Condition.take_ofSpecs, h]
  exact verdicts_eq_of_forall₂ (Pass.forall₂_trail hn _ (onFrames_passFrames ..))

theorem verdicts_explained (depth : Nat) (c : Context) (s : Session) {n : Nat}
    (h : e₁.specs.take n = e₂.specs.take n) :
    verdicts (passes depth) ((explained (passes depth) e₁ c s).take n) =
      verdicts (passes depth) ((explained (passes depth) e₂ c s).take n) :=
  verdicts_take (Pass.rel_surveyNext (agree_decide depth) fun f _ _ =>
    onFrames_mark traceLaw.quiet f) "envname.explain" c s h

theorem verdicts_evaluated (depth : Nat) (c : Context) (s : Session) {n : Nat}
    (h : e₁.specs.take n = e₂.specs.take n) :
    verdicts (passes depth) ((evaluated (passes depth) e₁ c s).take n) =
      verdicts (passes depth) ((evaluated (passes depth) e₂ c s).take n) :=
  verdicts_take (Pass.rel_collectNext (agree_decide depth)) "envname.evaluate" c s h

/-- A report is the report of the first conditions, and what the others come to behind them. -/
theorem explain_append (he : s.evaluators[number]? = some e)
    (he₁ : s.evaluators[number₁]? = some e₁) {more : List Spec}
    (hspecs : e.specs = e₁.specs ++ more) (hsrc : e.source = e₁.source)
    (hacc : e.accumulated = e₁.accumulated) (hc : effectiveContext e argument s = .ok c s₁)
    (h : explain (passes depth) number argument s = .ok report t) :
    ∃ report₁ t₁ f found g, explain (passes depth) number₁ argument s = .ok report₁ t₁ ∧
      Pass.survey (decide (passes depth)) markFailure e₁.conditions
        (passFrame "envname.explain" e₁.conditions.length c s₁) = .ok report₁.outcomes f ∧
      Pass.survey (decide (passes depth)) markFailure (Condition.ofSpecs more) f = .ok found g ∧
      report.outcomes = report₁.outcomes ++ found.map (Outcome.later e₁.specs.length) ∧
      SameButTrace (g.session.closeSpan report.matchedNames.length) t := by
  have hc₁ : effectiveContext e₁ argument s = .ok c s₁ := by
    rw [effectiveContext_congr hsrc.symm hacc.symm, hc]
  obtain ⟨e', c', s', u, he', hc', hsurvey, -, rfl⟩ := exists_of_explain_eq_ok h
  cases he.symm.trans he'
  cases hc.symm.trans hc'
  have hsim := Pass.survey_simulates (fun d (_ : d ∈ e.conditions) => agree_decide depth d)
    (onFrames_mark traceLaw.quiet)
  have hends := hsim _ _ (onFrames_passFrames "envname.explain" "envname.explain"
    e₁.conditions.length e.conditions.length c s₁)
  rw [hsurvey, Evaluator.conditions, hspecs, Condition.ofSpecs_append, ← Evaluator.conditions,
    Pass.survey_append] at hends
  rw [explain_run he₁ hc₁]
  cases hfirst : Pass.survey (decide (passes depth)) markFailure e₁.conditions
      (passFrame "envname.explain" e₁.conditions.length c s₁) with
  | error stop f =>
    rw [hfirst] at hends
    cases hends
  | ok found₁ f =>
    rw [hfirst] at hends
    dsimp only at hends
    rw [Pass.survey_later fun _ _ => rfl] at hends
    cases hnext : Pass.survey (decide (passes depth)) markFailure (Condition.ofSpecs more) f with
    | error stop g =>
      rw [hnext] at hends
      cases hends
    | ok found g =>
      rw [hnext] at hends
      obtain ⟨houtcomes, hr⟩ := hends
      refine ⟨_, _, f, found, g, rfl, rfl, hnext, houtcomes.symm, ?_⟩
      exact (traceLaw.change (.closeSpan _) hr.1).1

end Session

end NamedConditions
