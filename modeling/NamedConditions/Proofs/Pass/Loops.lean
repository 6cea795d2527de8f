import NamedConditions.Proofs.Simulation
/-!
The two loops of a pass, `collect` and `survey`, for any way to decide a condition. Both decide the
conditions in order, each in the state that the one before left.

Main statements: both loops simulate themselves where deciding agrees in related states
(`collect_simulates`, `survey_simulates`). A survey without failures collects what `collect`
collects (`collect_of_survey`); the first failure of a survey is what `collect` fails with, after
deciding the conditions up to it and no more (`collect_of_survey_failing`); and `collect` gives no
names where a survey has a failure (`survey_of_collect`).
-/
namespace NamedConditions.Pass

variable {σ : Type} {decide decide' : Condition → σ → σ × Verdict}
  {note : ConditionFailure → σ → σ} {R : σ → σ → Prop}

/-! ## One condition after another -/

theorem collect_cons (c : Condition) (cs : List Condition) (s : σ) :
    collect decide (c :: cs) s =
      match (decide c s).2 with
      | .decided holds =>
        match collect decide cs (decide c s).1 with
        | .ok names t => .ok (if holds then c.name :: names else names) t
        | .error stop t => .error stop t
      | .failed f => .error (.failure f.toFailure) (decide c s).1
      | .stopped stop => .error stop (decide c s).1 := by
  rw [collect]
  rcases decide c s with ⟨t, v⟩
  cases v <;> rfl

theorem survey_cons (c : Condition) (cs : List Condition) (s : σ) :
    survey decide note (c :: cs) s =
      match (decide c s).2 with
      | .decided holds =>
        match survey decide note cs (decide c s).1 with
        | .ok rest t => .ok (⟨c.index, c.name, c.check.isPredicate, holds, none⟩ :: rest) t
        | .error stop t => .error stop t
      | .failed f =>
        match survey decide note cs (note f (decide c s).1) with
        | .ok rest t => .ok (⟨c.index, c.name, c.check.isPredicate, false, some f.text⟩ :: rest) t
        | .error stop t => .error stop t
      | .stopped stop => .error stop (decide c s).1 := by
  rw [survey]
  rcases decide c s with ⟨t, v⟩
  cases v <;> rfl

/-- A survey that comes to its end decided its first condition or marked its failure. -/
theorem survey_cons_ok {c : Condition} {cs : List Condition} {s t : σ} {outcomes : List Outcome}
    (h : survey decide note (c :: cs) s = .ok outcomes t) :
    (∃ holds rest, (decide c s).2 = .decided holds ∧
      survey decide note cs (decide c s).1 = .ok rest t ∧
      outcomes = ⟨c.index, c.name, c.check.isPredicate, holds, none⟩ :: rest) ∨
    (∃ f rest, (decide c s).2 = .failed f ∧
      survey decide note cs (note f (decide c s).1) = .ok rest t ∧
      outcomes = ⟨c.index, c.name, c.check.isPredicate, false, some f.text⟩ :: rest) := by
  rw [survey_cons] at h
  cases hv : (decide c s).2 with
  | decided holds =>
    rw [hv] at h
    dsimp only at h
    cases hr : survey decide note cs (decide c s).1 with
    | ok rest u =>
      rw [hr] at h
      cases h
      exact .inl ⟨holds, rest, rfl, rfl, rfl⟩
    | error stop u =>
      rw [hr] at h
      cases h
  | failed f =>
    rw [hv] at h
    dsimp only at h
    cases hr : survey decide note cs (note f (decide c s).1) with
    | ok rest u =>
      rw [hr] at h
      cases h
      exact .inr ⟨f, rest, rfl, hr, rfl⟩
    | error stop u =>
      rw [hr] at h
      cases h
  | stopped stop =>
    rw [hv] at h
    cases h

/-- What `collect` gives, it gives after deciding its first condition. -/
theorem collect_cons_ok {c : Condition} {cs : List Condition} {s t : σ} {names : List Value}
    (h : collect decide (c :: cs) s = .ok names t) :
    ∃ holds rest, (decide c s).2 = .decided holds ∧
      collect decide cs (decide c s).1 = .ok rest t ∧
      names = if holds then c.name :: rest else rest := by
  rw [collect_cons] at h
  cases hv : (decide c s).2 with
  | decided holds =>
    rw [hv] at h
    dsimp only at h
    cases hr : collect decide cs (decide c s).1 with
    | ok rest u =>
      rw [hr] at h
      cases h
      exact ⟨holds, rest, rfl, rfl, rfl⟩
    | error stop u =>
      rw [hr] at h
      cases h
  | failed f =>
    rw [hv] at h
    cases h
  | stopped stop =>
    rw [hv] at h
    cases h

/-- The state after conditions were decided one after another, whatever they came to. -/
def advance (decide : Condition → σ → σ × Verdict) (cs : List Condition) (s : σ) : σ :=
  cs.foldl (fun s c => (decide c s).1) s

/-- The names of the conditions that hold, by their outcomes. -/
def holding (outcomes : List Outcome) : List Value :=
  (outcomes.filter (·.matched)).map (·.name)

/-! ## Simulation -/

/-- Two ways to decide conditions agree on a condition in related states. -/
def Agree (R : σ → σ → Prop) (decide decide' : Condition → σ → σ × Verdict) (c : Condition) :
    Prop :=
  ∀ s t, R s t → (decide c s).2 = (decide' c t).2 ∧ R (decide c s).1 (decide' c t).1

theorem collect_simulates {cs : List Condition} (hd : ∀ c ∈ cs, Agree R decide decide' c) :
    Run.Simulates R Eq (collect decide cs) (collect decide' cs) := by
  induction cs with
  | nil => exact fun s t h => .ok rfl h
  | cons c cs ih =>
    intro s t h
    obtain ⟨hv, hr⟩ := hd c List.mem_cons_self s t h
    have ih := ih fun c hc => hd c (List.mem_cons_of_mem _ hc)
    rw [collect_cons, collect_cons, hv]
    cases (decide' c t).2 with
    | decided holds =>
      have he := ih _ _ hr
      dsimp only
      generalize collect decide cs (decide c s).1 = x at he
      generalize collect decide' cs (decide' c t).1 = y at he
      cases he with
      | ok hq hr => exact .ok (by rw [hq]) hr
      | error hr => exact .error hr
    | failed f => exact .error hr
    | stopped stop => exact .error hr

theorem survey_simulates {cs : List Condition} (hd : ∀ c ∈ cs, Agree R decide decide' c)
    (hn : ∀ f s t, R s t → R (note f s) (note f t)) :
    Run.Simulates R Eq (survey decide note cs) (survey decide' note cs) := by
  induction cs with
  | nil => exact fun s t h => .ok rfl h
  | cons c cs ih =>
    intro s t h
    obtain ⟨hv, hr⟩ := hd c List.mem_cons_self s t h
    have ih := ih fun c hc => hd c (List.mem_cons_of_mem _ hc)
    rw [survey_cons, survey_cons, hv]
    cases (decide' c t).2 with
    | decided holds =>
      have he := ih _ _ hr
      dsimp only
      generalize survey decide note cs (decide c s).1 = x at he
      generalize survey decide' note cs (decide' c t).1 = y at he
      cases he with
      | ok hq hr => exact .ok (by rw [hq]) hr
      | error hr => exact .error hr
    | failed f =>
      have he := ih _ _ (hn f _ _ hr)
      dsimp only
      generalize survey decide note cs (note f (decide c s).1) = x at he
      generalize survey decide' note cs (note f (decide' c t).1) = y at he
      cases he with
      | ok hq hr => exact .ok (by rw [hq]) hr
      | error hr => exact .error hr
    | stopped stop => exact .error hr

/-! ## The two loops beside each other -/

/-- Failures are attributed to the condition that fails. -/
def Attributes (decide : Condition → σ → σ × Verdict) : Prop :=
  ∀ c s f, (decide c s).2 = .failed f → f.name = c.name

/-- A survey without failures collects what `collect` collects. -/
theorem collect_of_survey (hd : ∀ c, Agree R decide decide c) {cs : List Condition} {s t t' : σ}
    {outcomes : List Outcome} (h : R s t) (hs : survey decide note cs t = .ok outcomes t')
    (he : ∀ o ∈ outcomes, o.error? = none) :
    ∃ s', collect decide cs s = .ok (holding outcomes) s' ∧ R s' t' := by
  induction cs generalizing s t outcomes with
  | nil =>
    cases hs
    exact ⟨s, rfl, h⟩
  | cons c cs ih =>
    obtain ⟨hv, hr⟩ := hd c s t h
    rcases survey_cons_ok hs with ⟨holds, rest, hc, hrest, rfl⟩ | ⟨f, rest, -, -, rfl⟩
    · obtain ⟨s', hcol, hr'⟩ := ih hr hrest fun o ho => he o (List.mem_cons_of_mem _ ho)
      rw [collect_cons, hv, hc]
      dsimp only
      rw [hcol]
      refine ⟨s', ?_, hr'⟩
      cases holds <;> rfl
    · cases he _ List.mem_cons_self

/-- The first failure of a survey is what `collect` fails with, after deciding the conditions up to
it and no more. -/
theorem collect_of_survey_failing (hd : ∀ c, Agree R decide decide c) (ha : Attributes decide)
    {cs : List Condition} {s t t' : σ} {outcomes : List Outcome} (h : R s t)
    (hs : survey decide note cs t = .ok outcomes t') (he : ∃ o ∈ outcomes, o.error? ≠ none) :
    ∃ before o after text cause, outcomes = before ++ o :: after ∧
      (∀ x ∈ before, x.error? = none) ∧ o.error? = some text ∧
      cs[before.length]?.map (·.name) = some o.name ∧
      collect decide cs s = .error (.failure (.condition o.name cause text))
        (advance decide (cs.take (before.length + 1)) s) := by
  induction cs generalizing s t outcomes with
  | nil =>
    cases hs
    obtain ⟨o, ho, -⟩ := he
    cases ho
  | cons c cs ih =>
    obtain ⟨hv, hr⟩ := hd c s t h
    rcases survey_cons_ok hs with ⟨holds, rest, hc, hrest, rfl⟩ | ⟨f, rest, hc, -, rfl⟩
    · have he' : ∃ o ∈ rest, o.error? ≠ none := by
        obtain ⟨o, ho, hne⟩ := he
        rcases List.mem_cons.1 ho with rfl | ho
        · exact absurd rfl hne
        · exact ⟨o, ho, hne⟩
      obtain ⟨before, o, after, text, cause, rfl, hb, ht, hn, hcol⟩ := ih hr hrest he'
      refine ⟨_ :: before, o, after, text, cause, rfl, ?_, ht, hn, ?_⟩
      · intro x hx
        rcases List.mem_cons.1 hx with rfl | hx
        · rfl
        · exact hb x hx
      · rw [collect_cons, hv, hc]
        dsimp only
        rw [hcol]
        rfl
    · refine ⟨[], _, rest, f.text, f.cause, rfl, ?_, rfl, rfl, ?_⟩
      · intro x hx
        cases hx
      · rw [collect_cons, hv, hc, ← ha c t f hc]
        rfl

/-- Where `collect` gives names, a survey has no failure and the same names. -/
theorem survey_of_collect (note : ConditionFailure → σ → σ) (hd : ∀ c, Agree R decide decide c)
    {cs : List Condition} {s s' t : σ} {names : List Value} (h : R s t)
    (hs : collect decide cs s = .ok names s') :
    ∃ outcomes t', survey decide note cs t = .ok outcomes t' ∧
      (∀ o ∈ outcomes, o.error? = none) ∧ holding outcomes = names ∧ R s' t' := by
  induction cs generalizing s t names with
  | nil =>
    cases hs
    refine ⟨[], t, rfl, ?_, rfl, h⟩
    intro o ho
    cases ho
  | cons c cs ih =>
    obtain ⟨hv, hr⟩ := hd c s t h
    obtain ⟨holds, rest, hc, hrest, rfl⟩ := collect_cons_ok hs
    obtain ⟨outcomes, t', hsur, he, hnames, hr'⟩ := ih hr hrest
    rw [survey_cons, ← hv, hc]
    dsimp only
    rw [hsur]
    refine ⟨_, t', rfl, ?_, ?_, hr'⟩
    · intro o ho
      rcases List.mem_cons.1 ho with rfl | ho
      · rfl
      · exact he o ho
    · rw [← hnames]
      cases holds <;> rfl

end NamedConditions.Pass
