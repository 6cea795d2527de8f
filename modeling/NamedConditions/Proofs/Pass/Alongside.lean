import NamedConditions.Proofs.Context.Layers
import NamedConditions.Proofs.Pass.Agreement
import NamedConditions.Proofs.Pass.Matches
/-!
How evaluating and explaining end beside each other. Explaining runs conditions that evaluating does
not reach, those behind a failing one; as long as none of these stops it, the two passes end alike.

Main statement (`ends_alongside`): both answer, if every condition comes to a truth; evaluating
fails with the first failure that explaining reports, if there is one; or both stop for the same
reason, at the first condition that comes to no truth and is not attributed.
-/
namespace NamedConditions

namespace Pass

variable {σ : Type} {decide : Condition → σ → σ × Verdict} {note : ConditionFailure → σ → σ}
  {R : σ → σ → Prop}

/-- Where a survey stops, and it did not go past a failure before, `collect` stops as well, and for
the same reason. -/
theorem collect_of_survey_stopped (hd : ∀ c, Agree R decide decide c) {cs : List Condition}
    {s t t' : σ} {stop : Stop} (h : R s t) (hs : survey decide note cs t = .error stop t')
    (hp : (trail (surveyNext decide note) cs t).Pairwise fun x y =>
      (∃ f, (decide x.1 x.2).2 = .failed f) → surveyNext decide note y.1 y.2 ≠ none) :
    ∃ before x s', trail (surveyNext decide note) cs t = before ++ [x] ∧
      (∀ y ∈ before, ∃ b, (decide y.1 y.2).2 = .decided b) ∧
      (decide x.1 x.2).2 = .stopped stop ∧ collect decide cs s = .error stop s' ∧ R s' t' := by
  induction cs generalizing s t with
  | nil => cases hs
  | cons c cs ih =>
    obtain ⟨hv, hr⟩ := hd c s t h
    rw [survey_cons] at hs
    rw [trail] at hp ⊢
    rw [collect_cons, hv]
    cases hc : (decide c t).2 with
    | stopped stop' =>
      rw [hc] at hs
      cases hs
      have hn : surveyNext decide note c t = none := by rw [surveyNext, hc]
      rw [hn]
      refine ⟨[], (c, t), _, rfl, ?_, hc, rfl, hr⟩
      intro y hy
      cases hy
    | decided holds =>
      have hn : surveyNext decide note c t = some (decide c t).1 := by rw [surveyNext, hc]
      rw [hn, Option.elim_some] at hp ⊢
      rw [hc] at hs
      dsimp only at hs
      cases hrest : survey decide note cs (decide c t).1 with
      | ok rest u =>
        rw [hrest] at hs
        cases hs
      | error stop' u =>
        rw [hrest] at hs
        cases hs
        obtain ⟨before, x, s', ht, hb, hx, hcol, hr'⟩ := ih hr hrest (List.pairwise_cons.1 hp).2
        refine ⟨(c, t) :: before, x, s', congrArg ((c, t) :: ·) ht, ?_, hx, ?_, hr'⟩
        · intro y hy
          rcases List.mem_cons.1 hy with rfl | hy
          · exact ⟨holds, hc⟩
          · exact hb y hy
        · dsimp only
          rw [hcol]
    | failed f =>
      -- behind a failure nothing stops a survey
      have hn : surveyNext decide note c t = some (note f (decide c t).1) := by rw [surveyNext, hc]
      rw [hn, Option.elim_some] at hp
      rw [hc] at hs
      dsimp only at hs
      rcases survey_trail decide note cs (note f (decide c t).1) with
        ⟨u, hok, -, -⟩ | ⟨x, hx, stop', hv', -⟩
      · rw [hok] at hs
        cases hs
      · refine absurd ?_ ((List.pairwise_cons.1 hp).1 x hx ⟨f, hc⟩)
        rw [surveyNext, hv']

/-- The conditions on a trail are those of the list. -/
theorem mem_of_mem_trail {next : Condition → σ → Option σ} {cs : List Condition} {s : σ}
    {x : Condition × σ} (h : x ∈ trail next cs s) : x.1 ∈ cs := by
  induction cs generalizing s with
  | nil => cases h
  | cons c cs ih =>
    rw [trail] at h
    rcases List.mem_cons.1 h with rfl | h
    · exact List.mem_cons_self
    · cases hn : next c s with
      | none =>
        rw [hn] at h
        cases h
      | some u =>
        rw [hn] at h
        exact List.mem_cons_of_mem _ (ih h)

end Pass

/-- A reason to stop that names no condition. -/
def Stop.IsBare (stop : Stop) : Prop :=
  ∀ name cause text, stop ≠ .failure (.condition name cause text)

namespace Verdict

variable {name : Value} {r : Except Stop Value}

theorem isBare_of_ofFailure {f : Failure} {stop : Stop} (h : ofFailure name f = stopped stop) :
    stop.IsBare := by
  unfold ofFailure at h
  split at h
  · rename_i hi
    cases h
    rintro name' cause text heq
    cases heq
    cases hi
  · split at h
    · cases h
    · rename_i hno
      cases h
      exact fun name' cause text heq => hno name' cause text (Stop.failure.inj heq)

/-- What stops every pass is no failure of a condition. -/
theorem isBare_of_judge {stop : Stop} (h : judge name r = stopped stop) : stop.IsBare := by
  cases r with
  | error stop' =>
    cases stop' with
    | exhausted =>
      cases h
      exact nofun
    | failure f => exact isBare_of_ofFailure h
  | ok v =>
    rw [judge] at h
    split at h
    · cases h
    · exact isBare_of_ofFailure h

end Verdict

namespace Session

variable {p : Passes} {x : Condition × Frame} {stop : Stop}

/-- The check of a condition on a trail comes to a truth, or it fails with a failure that is
attributed to the condition. -/
def Settles (p : Passes) (x : Condition × Frame) : Prop :=
  ∀ stop, Verdict.ending? (tried p x) = some stop →
    ∃ f : Failure, stop = .failure f ∧ f.isInterrupt = false ∧ Failure.HasTexts x.1.name f

theorem ending?_of_decided {b : Bool} (h : (decide p x.1 x.2).2 = .decided b) :
    Verdict.ending? (tried p x) = none := by
  cases he : Verdict.ending? (tried p x) with
  | none => rfl
  | some stop =>
    obtain ⟨stop', hs⟩ := Verdict.exists_stop?_judge he x.1.name
    rw [← decide_eq_judge_tried, h] at hs
    cases hs

theorem ending?_of_failed {f : ConditionFailure} (h : (decide p x.1 x.2).2 = .failed f) :
    Verdict.ending? (tried p x) ≠ none := by
  intro he
  obtain ⟨b, hb⟩ := decide_of_no_ending he
  rw [h] at hb
  cases hb

/-- Explaining goes on behind a condition that settles. -/
theorem Settles.surveyNext (h : Settles p x) :
    Pass.surveyNext (decide p) markFailure x.1 x.2 ≠ none := by
  unfold Pass.surveyNext
  cases he : Verdict.ending? (tried p x) with
  | none =>
    obtain ⟨b, hb⟩ := decide_of_no_ending he
    rw [hb]
    exact Option.some_ne_none _
  | some stop =>
    obtain ⟨f, rfl, hi, ⟨n, hn⟩, m, hm⟩ := h stop he
    rw [decide_eq_judge_tried, Verdict.judge_of_failure he, Verdict.ofFailure_of_hasTexts hi hn hm]
    exact Option.some_ne_none _

theorem isBare_of_stopped (h : (decide p x.1 x.2).2 = .stopped stop) : stop.IsBare := by
  rw [decide_eq_judge_tried] at h
  exact Verdict.isBare_of_judge h

/-- What leaves a span names no condition if what came into its end does not. -/
theorem isBare_abandonSpan (h : stop.IsBare) (s : Session) : (s.abandonSpan stop).1.IsBare := by
  cases stop with
  | exhausted => exact nofun
  | failure f =>
    cases f with
    | condition name cause text => exact absurd rfl (h name cause text)
    | raised error =>
      obtain ⟨error', t, ha⟩ := exists_abandonSpan_raised error s
      rw [ha]
      exact nofun

/-- Where no context can be made, neither is a condition to blame. -/
theorem isBare_of_no_context {e : Evaluator} {argument : PassArgument} {s t : Session}
    (h : effectiveContext e argument s = .error stop t) : stop.IsBare := by
  rw [effectiveContext_run] at h
  rcases readSource_environment e (afterTaking argument s) with
    ⟨env, u, hr, -, -⟩ | ⟨error, u, hr, -⟩
  · rw [hr] at h
    cases h
  · rw [hr] at h
    cases h
    exact nofun

/-! ## The outcomes of a trail -/

/-- The outcomes of the conditions on a trail. -/
def outcomesOn (p : Passes) (xs : List (Condition × Frame)) : List Outcome :=
  xs.map fun x => (decide p x.1 x.2).2.outcome x.1

/-- The names of the conditions on a trail that hold. -/
def holdingOn (p : Passes) (xs : List (Condition × Frame)) : List Value :=
  holdingNames (xs.map fun x => (x.1, tried p x))

theorem name_of_mem_outcomesOn {xs : List (Condition × Frame)} {o : Outcome}
    (h : o ∈ outcomesOn p xs) : ∃ x ∈ xs, o.name = x.1.name := by
  obtain ⟨x, hx, rfl⟩ := List.mem_map.1 h
  exact ⟨x, hx, (Prod.mk.inj (Verdict.place_outcome x.1 _)).2⟩

theorem isEmpty_holdingOn (xs : List (Condition × Frame)) :
    (!(holdingOn p xs).isEmpty) = xs.any fun x => Verdict.holds (tried p x) := by
  induction xs with
  | nil => rfl
  | cons x xs ih =>
    rw [holdingOn, List.map_cons, holdingNames_cons, List.any_cons, ← ih, holdingOn]
    cases Verdict.holds (tried p x) <;> rfl

theorem holding_outcomesOn {xs : List (Condition × Frame)}
    (h : ∀ x ∈ xs, Verdict.ending? (tried p x) = none) :
    Pass.holding (outcomesOn p xs) = holdingOn p xs := by
  induction xs with
  | nil => rfl
  | cons x xs ih =>
    have hx : (decide p x.1 x.2).2 = .decided (Verdict.holds (tried p x)) := by
      rw [decide_eq_judge_tried]
      exact Verdict.judge_eq_decided_holds (h x List.mem_cons_self) x.1.name
    have ih := ih fun y hy => h y (List.mem_cons_of_mem x hy)
    rw [outcomesOn, List.map_cons, hx, Pass.holding_cons, holdingOn, List.map_cons,
      holdingNames_cons]
    unfold outcomesOn holdingOn at ih
    rw [ih]
    cases hh : Verdict.holds (tried p x) <;> rfl

theorem error?_outcome_eq_none {x : Condition × Frame}
    (h : Pass.surveyNext (decide p) markFailure x.1 x.2 ≠ none)
    (he : ((decide p x.1 x.2).2.outcome x.1).error? = none) :
    Verdict.ending? (tried p x) = none := by
  cases hv : (decide p x.1 x.2).2 with
  | decided b => exact ending?_of_decided hv
  | failed f =>
    rw [hv] at he
    cases he
  | stopped stop =>
    rw [Pass.surveyNext, hv] at h
    exact absurd rfl h

theorem error?_outcome_eq_some {x : Condition × Frame} {text : String}
    (he : ((decide p x.1 x.2).2.outcome x.1).error? = some text) :
    Verdict.ending? (tried p x) ≠ none := by
  cases hv : (decide p x.1 x.2).2 with
  | failed f => exact ending?_of_failed hv
  | _ =>
    rw [hv] at he
    cases he

theorem error?_outcome_of_no_ending {x : Condition × Frame}
    (h : Verdict.ending? (tried p x) = none) :
    ((decide p x.1 x.2).2.outcome x.1).error? = none := by
  obtain ⟨b, hb⟩ := decide_of_no_ending h
  rw [hb]
  rfl

/-! ## The two passes -/

/-- How evaluating and explaining end beside each other, on a trail of conditions. -/
inductive EndAlongside (p : Passes) (e : Evaluator) (xs : List (Condition × Frame)) :
    EStateM.Result Stop Session Answer → EStateM.Result Stop Session Report → Prop
  | answered (hxs : xs.map Prod.fst = e.conditions)
    (h : ∀ x ∈ xs, Verdict.ending? (tried p x) = none) (u t : Session) :
    EndAlongside p e xs (.ok (.ofNames e.fallback (holdingOn p xs)) u)
      (.ok ⟨e.fallback, outcomesOn p xs⟩ t)
  | failed {before after : List (Condition × Frame)} {x : Condition × Frame} {text : String}
    (hxs : xs = before ++ x :: after) (hb : ∀ y ∈ before, Verdict.ending? (tried p y) = none)
    (hx : ((decide p x.1 x.2).2.outcome x.1).error? = some text) (cause : Failure)
    (u t : Session) :
    EndAlongside p e xs (.error (.failure (.condition x.1.name cause text)) u)
      (.ok ⟨e.fallback, outcomesOn p xs⟩ t)
  | stopped {before : List (Condition × Frame)} {x : Condition × Frame} {stop : Stop}
    (hxs : xs = before ++ [x]) (hb : ∀ y ∈ before, Verdict.ending? (tried p y) = none)
    (hx : ¬ Settles p x) (hs : stop.IsBare) (u t : Session) :
    EndAlongside p e xs (.error stop u) (.error stop t)

variable {number : Nat} {argument : PassArgument} {s s₁ : Session} {e : Evaluator} {c : Context}

/-- Explaining fails with no failure of a condition: each of those goes into the report. -/
theorem isBare_of_explain {t : Session} (h : explain p number argument s = .error stop t) :
    stop.IsBare := by
  cases he : s.evaluators[number]? with
  | none =>
    rw [explain_absent he] at h
    cases h
    exact nofun
  | some e =>
    cases hc : effectiveContext e argument s with
    | error stop' u =>
      rw [explain_of_no_context he hc] at h
      cases h
      exact isBare_of_no_context hc
    | ok c s₁ =>
      rcases explain_trail (p := p) he hc with ⟨t', hs, -⟩ | ⟨x, -, stop', hv, hs⟩
      · rw [hs] at h
        cases h
      · rw [hs] at h
        cases h
        exact isBare_abandonSpan (isBare_of_stopped hv) _

/-- The first failing condition on a trail of which explaining gives a report. -/
theorem exists_first_failed {xs : List (Condition × Frame)} {before after : List Outcome}
    {o : Outcome} (hxs : outcomesOn p xs = before ++ o :: after)
    (hn : ∀ x ∈ xs, Pass.surveyNext (decide p) markFailure x.1 x.2 ≠ none)
    (hb : ∀ o ∈ before, o.error? = none) :
    ∃ xs₁ x xs₂, xs = xs₁ ++ x :: xs₂ ∧ (∀ y ∈ xs₁, Verdict.ending? (tried p y) = none) ∧
      (decide p x.1 x.2).2.outcome x.1 = o ∧ o.name = x.1.name := by
  obtain ⟨xs₁, zs, rfl, rfl, hzs⟩ := List.map_eq_append_iff.1 hxs
  obtain ⟨x, xs₂, rfl, rfl, rfl⟩ := List.map_eq_cons_iff.1 hzs
  refine ⟨xs₁, x, xs₂, rfl, fun y hy => ?_, rfl, ?_⟩
  · exact error?_outcome_eq_none (hn y (List.mem_append_left _ hy)) (hb _ (List.mem_map_of_mem hy))
  · exact (Prod.mk.inj (Verdict.place_outcome x.1 _)).2

/-- The two passes end beside each other, if nothing that explaining runs behind a failing
condition stops it. -/
theorem ends_alongside (hd : ∀ c, Pass.Agree (OnFrames TraceBlind) (decide p) (decide p) c)
    (he : s.evaluators[number]? = some e) (hc : effectiveContext e argument s = .ok c s₁)
    (hp : (explained p e c s₁).Pairwise fun x y =>
      Verdict.ending? (tried p x) ≠ none → Settles p y) :
    EndAlongside p e (explained p e c s₁) (evaluate p number argument s)
      (explain p number argument s) := by
  have hf := onFrames_passFrame "envname.evaluate" "envname.explain" e.conditions.length c s₁
  rw [evaluate_run he hc, explain_run he hc]
  rcases Pass.survey_trail (decide p) markFailure e.conditions
      (passFrame "envname.explain" e.conditions.length c s₁) with
    ⟨t, hs, hcs, hnext⟩ | ⟨x, hx, stop, hv, hs⟩
  · cases herr : (Report.mk e.fallback (outcomesOn p (explained p e c s₁))).hasError with
    | false =>
      have hnone := (hasError_eq_false_iff _).1 herr
      have hall : ∀ x ∈ explained p e c s₁, Verdict.ending? (tried p x) = none := fun x hx =>
        error?_outcome_eq_none (hnext x hx) (hnone _ (List.mem_map_of_mem hx))
      obtain ⟨u, hcol, -⟩ := Pass.collect_of_survey hd hf hs hnone
      have hnames : Pass.holding (outcomesOn p (explained p e c s₁)) =
          holdingOn p (explained p e c s₁) := holding_outcomesOn hall
      rw [hs, hcol]
      dsimp only
      rw [← outcomesOn, ← explained, hnames]
      exact .answered hcs hall _ _
    | true =>
      obtain ⟨before, o, after, text, cause, ho, hb, ht, -, hcol⟩ :=
        Pass.collect_of_survey_failing hd (attributes_decide _) hf hs
          ((hasError_eq_true_iff _).1 herr)
      obtain ⟨xs₁, x, xs₂, hxs, hdecided, rfl, hname⟩ := exists_first_failed ho hnext hb
      rw [hs, hcol, hname]
      obtain ⟨u, hu⟩ := exists_abandonSpan_condition x.1.name cause text
        (Pass.advance (decide p) (e.conditions.take (before.length + 1))
          (passFrame "envname.evaluate" e.conditions.length c s₁)).session
      dsimp only
      rw [hu]
      exact .failed hxs hdecided ht cause u _
  · obtain ⟨before, x, f, hxs, hb, hx, hcol, hr⟩ :=
      Pass.collect_of_survey_stopped hd hf hs (hp.imp fun h hfailed => by
        obtain ⟨f, hf⟩ := hfailed
        exact (h (ending?_of_failed hf)).surveyNext)
    have hsettles : ¬ Settles p x := fun h => by
      refine h.surveyNext ?_
      rw [Pass.surveyNext, hx]
    rw [hs, hcol]
    dsimp only
    rw [traceLaw.abandon _ hr.1]
    refine .stopped hxs (fun y hy => ?_) hsettles (isBare_abandonSpan (isBare_of_stopped hx) _) _ _
    obtain ⟨b, hd⟩ := hb y hy
    exact ending?_of_decided hd

end Session

end NamedConditions
