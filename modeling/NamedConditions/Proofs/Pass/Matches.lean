import NamedConditions.Proofs.Pass.Attribution
/-!
What evaluating answers. The checks of the conditions run in the order of the list, each once and
each on what the one before left, up to the first that comes to no truth. If there is none, the
names of the conditions whose checks came to something true are the answer, in that order, or the
fallback itself where there are no such names.

Main statement (`evaluate_answers_holding`): evaluating runs the checks like this and gives that
answer, and where a check comes to no truth it gives nothing and runs no check after it.
-/
namespace NamedConditions

/-- Whether a check came to something true. -/
def Verdict.holds : Except Stop Value → Bool
  | .ok v => v.truth.toOption.getD false
  | .error _ => false

namespace Verdict

theorem judge_eq_decided_holds {r : Except Stop Value} (h : ending? r = none) (name : Value) :
    judge name r = decided (holds r) := by
  cases r with
  | error stop => cases h
  | ok v =>
    rw [ending?] at h
    cases ht : v.truth with
    | error e =>
      rw [ht] at h
      cases h
    | ok b =>
      rw [judge_of_truth name ht, holds, ht]
      rfl

theorem isSome_stop?_ofFailure (name : Value) (f : Failure) :
    (ofFailure name f).stop?.isSome = true := by
  unfold ofFailure
  split
  · rfl
  · split <;> rfl

/-- What comes to no truth decides no condition. -/
theorem exists_stop?_judge {r : Except Stop Value} {stop : Stop} (h : ending? r = some stop)
    (name : Value) : ∃ stop', (judge name r).stop? = some stop' := by
  cases stop with
  | failure f =>
    rw [judge_of_failure h name]
    exact Option.isSome_iff_exists.1 (isSome_stop?_ofFailure name f)
  | exhausted =>
    cases r with
    | error stop =>
      cases h
      exact ⟨.exhausted, rfl⟩
    | ok v =>
      rw [ending?] at h
      cases ht : v.truth with
      | ok b =>
        rw [ht] at h
        cases h
      | error e =>
        rw [ht] at h
        cases h

end Verdict

namespace Session

/-! ## Checks one after another -/

/-- The checks of conditions run one after another, each once and each on what the one before left.
With every condition stands what its check came to. -/
inductive Checked (p : Passes) : Frame → List (Condition × Except Stop Value) → Frame → Prop
  | nil (f : Frame) : Checked p f [] f
  | cons {c : Condition} {f g : Frame} {xs : List (Condition × Except Stop Value)}
      (h : Checked p (endState (runCheck p c.check f)) xs g) :
      Checked p f ((c, endResult (runCheck p c.check f)) :: xs) g

/-- The names of the conditions whose checks came to something true. -/
def holdingNames (xs : List (Condition × Except Stop Value)) : List Value :=
  (xs.filter fun x => Verdict.holds x.2).map fun x => x.1.name

variable {p : Passes}

theorem decide_eq (c : Condition) (f : Frame) :
    decide p c f =
      (endState (runCheck p c.check f), .judge c.name (endResult (runCheck p c.check f))) := by
  unfold decide
  cases runCheck p c.check f <;> rfl

theorem holdingNames_cons (x : Condition × Except Stop Value)
    (xs : List (Condition × Except Stop Value)) :
    holdingNames (x :: xs) =
      if Verdict.holds x.2 then x.1.name :: holdingNames xs else holdingNames xs := by
  unfold holdingNames
  rw [List.filter_cons]
  split <;> rfl

/-- `collect` runs checks up to the first that comes to no truth. -/
theorem collect_checked (cs : List Condition) (f : Frame) :
    ∃ xs g, Checked p f xs g ∧
      ((xs.map Prod.fst = cs ∧ (∀ x ∈ xs, Verdict.ending? x.2 = none) ∧
        Pass.collect (decide p) cs f = .ok (holdingNames xs) g) ∨
      ∃ before x stop stop', xs = before ++ [x] ∧ xs.map Prod.fst <+: cs ∧
        (∀ y ∈ before, Verdict.ending? y.2 = none) ∧ Verdict.ending? x.2 = some stop ∧
        Pass.collect (decide p) cs f = .error stop' g) := by
  induction cs generalizing f with
  | nil =>
    refine ⟨[], f, .nil f, .inl ⟨rfl, ?_, rfl⟩⟩
    intro x hx
    cases hx
  | cons c cs ih =>
    cases he : Verdict.ending? (endResult (runCheck p c.check f)) with
    | some stop =>
      obtain ⟨stop', hs⟩ := Verdict.exists_stop?_judge he c.name
      have hd : (decide p c f).2.stop? = some stop' := by rw [decide_eq, hs]
      refine ⟨_, _, .cons (.nil _), .inr ⟨[], _, stop, stop', rfl, ⟨cs, rfl⟩, ?_, he, ?_⟩⟩
      · intro y hy
        cases hy
      · rw [Pass.collect_cons_of_stop hd, decide_eq]
    | none =>
      have hj := Verdict.judge_eq_decided_holds he c.name
      have hd : (decide p c f).2 = .decided (Verdict.holds (endResult (runCheck p c.check f))) := by
        rw [decide_eq, hj]
      have hall : ∀ xs : List (Condition × Except Stop Value),
          (∀ y ∈ xs, Verdict.ending? y.2 = none) →
          ∀ y ∈ (c, endResult (runCheck p c.check f)) :: xs, Verdict.ending? y.2 = none := by
        intro xs hxs y hy
        rcases List.mem_cons.1 hy with rfl | hy
        · exact he
        · exact hxs y hy
      obtain ⟨xs, g, hx, ⟨hcs, hnone, hok⟩ | ⟨before, x, stop, stop', rfl, hpre, hb, hs, herr⟩⟩ :=
        ih (endState (runCheck p c.check f))
      · refine ⟨_, g, .cons hx, .inl ⟨congrArg (c :: ·) hcs, hall xs hnone, ?_⟩⟩
        rw [Pass.collect_cons, hd, decide_eq]
        simp only [hok, holdingNames_cons]
      · refine ⟨_, g, .cons hx, .inr ⟨_ :: before, x, stop, stop', rfl, ?_, hall before hb, hs, ?_⟩⟩
        · exact List.prefix_cons_inj c |>.2 hpre
        · rw [Pass.collect_cons, hd, decide_eq]
          simp only [herr]

/-! ## Evaluating -/

/-- Evaluating runs the checks in order, each once, and answers with the names of those that hold,
or with the fallback itself if none does. -/
theorem evaluate_answers_holding (p : Passes) (number : Nat) (argument : PassArgument)
    {s : Session} {e : Evaluator} (he : s.evaluators[number]? = some e) :
    (∀ i, e.conditions[i]? = e.specs[i]?.map (Condition.ofSpec i)) ∧
    (∀ stop t, effectiveContext e argument s = .error stop t →
      evaluate p number argument s = .error stop t) ∧
    ∀ c s₁, effectiveContext e argument s = .ok c s₁ → ∃ xs g,
      Checked p (passFrame "envname.evaluate" e.conditions.length c s₁) xs g ∧
      ((xs.map Prod.fst = e.conditions ∧ (∀ x ∈ xs, Verdict.ending? x.2 = none) ∧
        ∃ answer, evaluate p number argument s = .ok answer
            ((g.session.closeSpan (holdingNames xs).length).note
              (evaluationNote e.conditions.length (holdingNames xs).length)) ∧
          ((∃ x ∈ xs, Verdict.holds x.2 = true) → answer.isFallback = false ∧ answer.value =
            .list ((xs.filter fun x => Verdict.holds x.2).map fun x =>
              .tuple [.bool true, x.1.name])) ∧
          ((∀ x ∈ xs, Verdict.holds x.2 = false) → answer = .fallback e.fallback)) ∨
      ∃ before x stop stop', xs = before ++ [x] ∧ xs.map Prod.fst <+: e.conditions ∧
        (∀ y ∈ before, Verdict.ending? y.2 = none) ∧ Verdict.ending? x.2 = some stop ∧
        evaluate p number argument s =
          .error (g.session.abandonSpan stop').1 (g.session.abandonSpan stop').2) := by
  refine ⟨fun i => ?_, fun stop t h => evaluate_of_no_context he h, fun c s₁ hc => ?_⟩
  · rw [Evaluator.conditions, Condition.ofSpecs, Condition.getElem?_ofSpecsFrom, Nat.zero_add]
  · obtain ⟨xs, g, hx, ⟨hcs, hnone, hok⟩ | ⟨before, x, stop, stop', hxs, hpre, hb, hs, herr⟩⟩ :=
      collect_checked (p := p) e.conditions
        (passFrame "envname.evaluate" e.conditions.length c s₁)
    · refine ⟨xs, g, hx, .inl ⟨hcs, hnone, .ofNames e.fallback (holdingNames xs), ?_, ?_, ?_⟩⟩
      · rw [evaluate_run he hc, hok]
      · rintro ⟨x, hm, hh⟩
        have hne : holdingNames xs ≠ [] :=
          List.ne_nil_of_mem (List.mem_map_of_mem (List.mem_filter.2 ⟨hm, hh⟩))
        have hanswer : Answer.ofNames e.fallback (holdingNames xs) = .names (holdingNames xs) := by
          rw [Answer.ofNames, List.isEmpty_eq_false_iff.2 hne]
          rfl
        rw [hanswer]
        refine ⟨rfl, ?_⟩
        rw [Answer.value, holdingNames, List.map_map]
        rfl
      · intro hfalse
        have hnil : holdingNames xs = [] := by
          rw [holdingNames, List.filter_eq_nil_iff.2, List.map_nil]
          intro x hm
          rw [hfalse x hm]
          exact Bool.false_ne_true
        rw [hnil]
        rfl
    · refine ⟨xs, g, hx, .inr ⟨before, x, stop, stop', hxs, hpre, hb, hs, ?_⟩⟩
      rw [evaluate_run he hc, herr]

/-- A session with an evaluator of two conditions of one name, the second of which holds because of
what a condition in between writes. -/
def writtenBetween : Session :=
  { start [] with
    sources := [.process]
    evaluators := [⟨[⟨.bool true, .str "twice"⟩,
      ⟨.object 0 (.predicate none (.assign (.str "k") (.bool true))), .str "writes"⟩,
      ⟨.object 1 (.predicate none (.lookUp (.str "k") .null)), .str "twice"⟩],
      .list [], false, 0, []⟩] }

theorem evaluate_answers_holding_writtenBetween :
    ∃ e, writtenBetween.evaluators[0]? = some e ∧
      ∃ answer t, evaluate (passes 1) 0 (.given none) writtenBetween = .ok answer t ∧
        answer.isFallback = false ∧ answer.value = .list
          [.tuple [.bool true, .str "twice"], .tuple [.bool true, .str "twice"]] := by
  refine ⟨_, rfl, _, _, rfl, ?_⟩
  obtain ⟨xs, g, -, ⟨-, -, answer, heq, hholds, hnone⟩ | ⟨_, _, _, _, -, -, -, -, herr⟩⟩ :=
    (evaluate_answers_holding (passes 1) 0 (.given none) (s := writtenBetween) rfl).2.2 _ _ rfl
  · injection heq with ha
    subst ha
    by_cases hx : ∃ x ∈ xs, Verdict.holds x.2 = true
    · exact ⟨(hholds hx).1, rfl⟩
    · refine absurd (hnone fun x hm => ?_) (fun h => by cases h)
      exact Bool.eq_false_iff.2 fun h => hx ⟨x, hm, h⟩
  · cases herr

end Session

end NamedConditions
