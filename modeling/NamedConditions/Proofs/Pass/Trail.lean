import NamedConditions.Proofs.Pass.Loops
/-!
The trail of a pass: the conditions that it reaches, each with the state in which it is decided.
From where the next condition is decided, if at all, is a parameter, so that the trails of the two
loops are the same thing.

Main statements: a survey comes to its end with the outcomes of its trail, on which all conditions
are, or stops with the last condition of its trail (`survey_trail`); and `collect` gives the names
that hold on its trail, or ends with the last condition of its trail, the first that is not decided
(`collect_trail`).
-/
namespace NamedConditions

namespace Verdict

/-- What is reported of a condition that did not stop a survey. -/
def outcome (c : Condition) : Verdict → Outcome
  | decided holds => ⟨c.index, c.name, c.check.isPredicate, holds, none⟩
  | failed f => ⟨c.index, c.name, c.check.isPredicate, false, some f.text⟩
  | stopped _ => ⟨c.index, c.name, c.check.isPredicate, false, none⟩

/-- Why a loop that absorbs no failure ends, if it does. -/
def stop? : Verdict → Option Stop
  | decided _ => none
  | failed f => some (.failure f.toFailure)
  | stopped stop => some stop

end Verdict

namespace Pass

variable {σ : Type}

/-- The conditions that are reached, with the states in which they are decided. -/
def trail (next : Condition → σ → Option σ) : List Condition → σ → List (Condition × σ)
  | [], _ => []
  | c :: cs, s => (c, s) :: (next c s).elim [] (trail next cs)

/-- From where a survey goes on: past everything that does not stop it. -/
def surveyNext (decide : Condition → σ → σ × Verdict) (note : ConditionFailure → σ → σ)
    (c : Condition) (s : σ) : Option σ :=
  match (decide c s).2 with
  | .decided _ => some (decide c s).1
  | .failed f => some (note f (decide c s).1)
  | .stopped _ => none

/-- From where `collect` goes on: past what is decided. -/
def collectNext (decide : Condition → σ → σ × Verdict) (c : Condition) (s : σ) : Option σ :=
  if (decide c s).2.stop?.isNone then some (decide c s).1 else none

/-! ## Along a trail -/

section

variable {next : Condition → σ → Option σ}

/-- What going on preserves holds all along a trail. -/
theorem forall_trail {P : σ → Prop} (hn : ∀ c s u, P s → next c s = some u → P u)
    (cs : List Condition) {s : σ} (hs : P s) : ∀ x ∈ trail next cs s, P x.2 := by
  induction cs generalizing s with
  | nil =>
    intro x hx
    cases hx
  | cons c cs ih =>
    intro x hx
    rcases List.mem_cons.1 hx with rfl | hx
    · exact hs
    · cases hu : next c s with
      | none =>
        rw [hu] at hx
        cases hx
      | some u =>
        rw [hu] at hx
        exact ih (hn c s u hs hu) x hx

theorem head_trail {cs : List Condition} {s : σ} {x : Condition × σ} {rest : List (Condition × σ)}
    (h : trail next cs s = x :: rest) : x.2 = s := by
  cases cs with
  | nil => cases h
  | cons c cs =>
    cases h
    rfl

/-- A condition on a trail is decided in the state in which the one before was left. -/
theorem next_of_trail {cs : List Condition} {s : σ} {before after : List (Condition × σ)}
    {x y : Condition × σ} (h : trail next cs s = before ++ x :: y :: after) :
    next x.1 x.2 = some y.2 := by
  induction cs generalizing s before with
  | nil => cases before <;> cases h
  | cons c cs ih =>
    rw [trail] at h
    cases hu : next c s with
    | none =>
      rw [hu] at h
      rcases before with _ | ⟨z, _ | ⟨w, before⟩⟩ <;> cases h
    | some u =>
      rw [hu, Option.elim_some] at h
      cases before with
      | nil =>
        obtain ⟨rfl, ht⟩ := List.cons.inj h
        rw [head_trail ht]
        exact hu
      | cons z before => exact ih (List.cons.inj h).2

end

variable {decide : Condition → σ → σ × Verdict} {note : ConditionFailure → σ → σ}

/-! ## Surveys -/

theorem survey_cons_of_next {c : Condition} {s u : σ} (h : surveyNext decide note c s = some u)
    (cs : List Condition) :
    survey decide note (c :: cs) s =
      match survey decide note cs u with
      | .ok rest t => .ok ((decide c s).2.outcome c :: rest) t
      | .error stop t => .error stop t := by
  rw [survey_cons]
  unfold surveyNext at h
  cases hv : (decide c s).2 with
  | decided holds =>
    rw [hv] at h
    cases h
    rfl
  | failed f =>
    rw [hv] at h
    cases h
    rfl
  | stopped stop =>
    rw [hv] at h
    cases h

theorem survey_cons_of_no_next {c : Condition} {s : σ} (h : surveyNext decide note c s = none)
    (cs : List Condition) :
    ∃ stop, (decide c s).2 = .stopped stop ∧
      survey decide note (c :: cs) s = .error stop (decide c s).1 := by
  rw [survey_cons]
  unfold surveyNext at h
  cases hv : (decide c s).2 with
  | decided holds =>
    rw [hv] at h
    cases h
  | failed f =>
    rw [hv] at h
    cases h
  | stopped stop => exact ⟨stop, rfl, rfl⟩

/-- How a survey ends, by its trail. -/
theorem survey_trail (decide : Condition → σ → σ × Verdict) (note : ConditionFailure → σ → σ)
    (cs : List Condition) (s : σ) :
    (∃ t, survey decide note cs s = .ok
        ((trail (surveyNext decide note) cs s).map fun x => (decide x.1 x.2).2.outcome x.1) t ∧
      (trail (surveyNext decide note) cs s).map Prod.fst = cs ∧
      ∀ x ∈ trail (surveyNext decide note) cs s, surveyNext decide note x.1 x.2 ≠ none) ∨
    ∃ x ∈ trail (surveyNext decide note) cs s, ∃ stop, (decide x.1 x.2).2 = .stopped stop ∧
      survey decide note cs s = .error stop (decide x.1 x.2).1 := by
  induction cs generalizing s with
  | nil =>
    refine .inl ⟨s, rfl, rfl, ?_⟩
    intro x hx
    cases hx
  | cons c cs ih =>
    rw [trail]
    cases hn : surveyNext decide note c s with
    | none =>
      obtain ⟨stop, hv, hs⟩ := survey_cons_of_no_next hn cs
      exact .inr ⟨(c, s), List.mem_cons_self, stop, hv, hs⟩
    | some u =>
      rw [survey_cons_of_next hn, Option.elim_some]
      rcases ih u with ⟨t, hs, hc, hall⟩ | ⟨x, hx, stop, hv, hs⟩
      · refine .inl ⟨t, ?_, congrArg (c :: ·) hc, ?_⟩
        · rw [hs]
          rfl
        · intro x hx
          rcases List.mem_cons.1 hx with rfl | hx
          · rw [hn]
            exact Option.some_ne_none u
          · exact hall x hx
      · refine .inr ⟨x, List.mem_cons_of_mem _ hx, stop, hv, ?_⟩
        rw [hs]

/-! ## Up to the first failure -/

theorem collect_cons_of_decided {c : Condition} {s : σ} (h : (decide c s).2.stop? = none)
    (cs : List Condition) :
    collect decide (c :: cs) s =
      match collect decide cs (decide c s).1 with
      | .ok names t => .ok (holding [(decide c s).2.outcome c] ++ names) t
      | .error stop t => .error stop t := by
  rw [collect_cons]
  cases hv : (decide c s).2 with
  | decided holds =>
    cases holds <;> rfl
  | failed f =>
    rw [hv] at h
    cases h
  | stopped stop =>
    rw [hv] at h
    cases h

theorem collect_cons_of_stop {c : Condition} {s : σ} {stop : Stop}
    (h : (decide c s).2.stop? = some stop) (cs : List Condition) :
    collect decide (c :: cs) s = .error stop (decide c s).1 := by
  rw [collect_cons]
  cases hv : (decide c s).2 with
  | decided holds =>
    rw [hv] at h
    cases h
  | failed f =>
    rw [hv] at h
    cases h
    rfl
  | stopped stop' =>
    rw [hv] at h
    cases h
    rfl

theorem holding_cons (o : Outcome) (outcomes : List Outcome) :
    holding (o :: outcomes) = holding [o] ++ holding outcomes := by
  simp only [holding, ← List.map_append, ← List.filter_append, List.singleton_append]

/-- How `collect` ends, by its trail. -/
theorem collect_trail (decide : Condition → σ → σ × Verdict) (cs : List Condition) (s : σ) :
    (∃ t, collect decide cs s = .ok
        (holding ((trail (collectNext decide) cs s).map fun x =>
          (decide x.1 x.2).2.outcome x.1)) t ∧
      (trail (collectNext decide) cs s).map Prod.fst = cs ∧
      ∀ x ∈ trail (collectNext decide) cs s, (decide x.1 x.2).2.stop? = none) ∨
    ∃ before x stop, trail (collectNext decide) cs s = before ++ [x] ∧
      (∀ y ∈ before, (decide y.1 y.2).2.stop? = none) ∧
      (decide x.1 x.2).2.stop? = some stop ∧
      collect decide cs s = .error stop (decide x.1 x.2).1 := by
  induction cs generalizing s with
  | nil =>
    refine .inl ⟨s, rfl, rfl, ?_⟩
    intro x hx
    cases hx
  | cons c cs ih =>
    rw [trail, collectNext]
    cases hv : (decide c s).2.stop? with
    | some stop =>
      refine .inr ⟨[], (c, s), stop, rfl, ?_, hv, collect_cons_of_stop hv cs⟩
      intro y hy
      cases hy
    | none =>
      rw [Option.isNone_none, if_pos rfl, Option.elim_some, collect_cons_of_decided hv]
      rcases ih (decide c s).1 with ⟨t, hs, hc, hall⟩ | ⟨before, x, stop, ht, hb, hx, hs⟩
      · refine .inl ⟨t, ?_, congrArg (c :: ·) hc, ?_⟩
        · rw [hs, List.map_cons]
          exact congrArg (EStateM.Result.ok · t) (holding_cons _ _).symm
        · intro x hx
          rcases List.mem_cons.1 hx with rfl | hx
          · exact hv
          · exact hall x hx
      · refine .inr ⟨(c, s) :: before, x, stop, congrArg ((c, s) :: ·) ht, ?_, hx, ?_⟩
        · intro y hy
          rcases List.mem_cons.1 hy with rfl | hy
          · exact hv
          · exact hb y hy
        · rw [hs]

end Pass

end NamedConditions
