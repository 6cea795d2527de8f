import NamedConditions.Proofs.Condition.Faults
import NamedConditions.Proofs.Context.Copies
import NamedConditions.Proofs.Session.Valid
/-!
Evaluators made again. What a condition list is read into is read into itself, under the same rule
or a laxer one, so that constructing an evaluator from its own configuration gives the evaluator
back. A fork is such a construction, with what was accumulated until then: it cannot be refused.

What happens to accumulated contexts after a fork is recorded deed by deed, and a deed concerns one
evaluator; parent and fork have one number each.

Main statement (`forks_are_rebuilt`): every evaluator of a reachable session can be forked, the fork
is equal to it, and from then on each of the two accumulates what is done to itself and nothing
else.
-/
namespace NamedConditions

/-! ## Validation and construction -/

/-- What a list is read into is read into itself, by the same rule or without the strict one. -/
theorem validate_again {conditions : Value} {strict again : Bool} {specs : List Spec}
    (h : validate conditions strict = .ok specs) (ha : again = strict ∨ again = false) :
    validate (.tuple (specs.map Spec.toValue)) again = .ok specs := by
  refine validate_specs fun s hs => ?_
  rcases ha with rfl | rfl
  · exact isStrict_of_validate h hs
  · exact Bool.false_and _

namespace Evaluator

/-- An evaluator as it is constructed: a missing fallback is an empty list, and nothing is
accumulated. -/
def construct (conditions : Value) (fallback : Option Value) (strict : Bool) (source : Nat) :
    Except Fault Evaluator :=
  (validate conditions strict).map fun specs =>
    ⟨specs, fallback.getD (.list []), strict, source, []⟩

/-- An evaluator constructed from its own configuration. -/
def reconstruct (e : Evaluator) : Except Fault Evaluator :=
  construct (.tuple (e.specs.map Spec.toValue)) (some e.fallback) e.strict e.source

theorem Valid.reconstruct {e : Evaluator} (h : e.Valid) :
    e.reconstruct = .ok { e with accumulated := [] } := by
  rw [Evaluator.reconstruct, construct, h]
  rfl

/-- Construction is idempotent, whatever the fallback is or if there is none. -/
theorem reconstruct_of_construct {conditions : Value} {fallback : Option Value} {strict : Bool}
    {source : Nat} {e : Evaluator} (h : construct conditions fallback strict source = .ok e) :
    e.reconstruct = .ok e := by
  rw [construct] at h
  cases hv : validate conditions strict with
  | error fault =>
    rw [hv] at h
    cases h
  | ok specs =>
    rw [hv] at h
    cases h
    exact Valid.reconstruct (validate_toValue hv)

end Evaluator

/-! ## What deeds make of a context -/

namespace Deed

/-- Whether something was done to the accumulated context of an evaluator that there was. -/
def isOn (number : Nat) : Deed → Bool
  | .given n _ | .cleared n => n == number
  | _ => false

/-- What is left of an accumulated context to which something was done. -/
def apply (a : Context) : Deed → Context
  | .given _ layer => layer.elim a fun c => Layer.merge a c
  | .cleared _ => []
  | _ => a

/-- What is left of the accumulated context of an evaluator after some deeds: those on others do not
matter. -/
def applyOn (number : Nat) (a : Context) (deeds : List Deed) : Context :=
  (deeds.filter (isOn number)).foldl apply a

theorem applyOn_append (number : Nat) (a : Context) (first next : List Deed) :
    applyOn number a (first ++ next) = applyOn number (applyOn number a first) next := by
  rw [applyOn, List.filter_append, List.foldl_append]
  rfl

theorem applyOn_singleton (number : Nat) (a : Context) (d : Deed) :
    applyOn number a [d] = if d.isOn number then apply a d else a := by
  by_cases hd : d.isOn number = true
  · simp [applyOn, hd]
  · simp [applyOn, hd]

/-- Deeds on others leave a context as it was. -/
theorem applyOn_of_others {number : Nat} {deeds : List Deed}
    (h : ∀ d ∈ deeds, d.isOn number = false) (a : Context) : applyOn number a deeds = a := by
  rw [applyOn, List.filter_eq_nil_iff.2 fun d hd => by rw [h d hd]; exact Bool.false_ne_true]
  rfl

end Deed

namespace Session

/-! ## Forking -/

/-- The session in which an evaluator was forked: the fork is equal to it, and that is all. -/
def forked (n : Nat) (e : Evaluator) (s : Session) : Session :=
  { s with
    evaluators := s.evaluators ++ [e]
    history := s.history ++ [.forked n s.evaluators.length] }

/-- A fork is a reconstruction that has what was accumulated until then. -/
theorem fork_eq_reconstruct (n : Nat) (e : Evaluator) (s : Session) :
    fork n e s = match e.reconstruct with
      | .error fault => .error (.failure fault.failure) s
      | .ok e' =>
        .ok s.evaluators.length (s.forked n { e' with accumulated := e.accumulated }) := by
  rw [fork_run, Evaluator.reconstruct, Evaluator.construct]
  cases validate (.tuple (e.specs.map Spec.toValue)) e.strict <;> rfl

/-- Making an evaluator is constructing it with a source of its own. -/
theorem make_eq_construct {conditions fallback : Option Value} {strict : Bool} {source : Source}
    {p : Provider} (hp : provider source = .ok p) (s : Session) :
    make (.mk conditions fallback strict source) s =
      match Evaluator.construct (conditions.getD (.tuple [])) fallback strict s.sources.length with
      | .error fault => .error (.failure fault.failure) s
      | .ok e => .ok s.evaluators.length
          (((s.addSource p).2.addEvaluator e).2.record (.made s.evaluators.length)) := by
  rw [make_run, hp, Evaluator.construct]
  cases validate (conditions.getD (.tuple [])) strict <;> rfl

theorem fork_of_valid {e : Evaluator} (h : e.Valid) (n : Nat) (s : Session) :
    fork n e s = .ok s.evaluators.length (s.forked n e) := by
  rw [fork_eq_reconstruct, h.reconstruct]

/-- A step that forks an evaluator that can be made again gives the fork its name; only how the fork
is shown may fail, and that comes after. -/
theorem step_fork_of_valid {p : Passes} {on : String} {n : Nat} {e : Evaluator} {s : Session}
    (hn : s.number? on = some n) (he : s.evaluators[n]? = some e) (h : e.Valid) (name : String) :
    step p (.mk on (.fork name)) s =
      (do return .forked s.evaluators.length (← Run.ofExcept e.shown) e.strict :
        Run Session StepResult) ((s.forked n e).bind name s.evaluators.length) := by
  simp only [step, actOnNamed_of_some hn he, actOn, Bind.bind, EStateM.bind, fork_of_valid h]
  rfl

/-! ## What follows -/

theorem getElem?_onAccumulated {s : Session} {k : Nat} {e : Evaluator}
    (h : s.evaluators[k]? = some e) (number : Nat) (f : Context → Context) :
    (s.onAccumulated number f).evaluators[k]? =
      some { e with accumulated := if number = k then f e.accumulated else e.accumulated } := by
  by_cases hk : number = k
  · subst hk
    rw [getElem?_onAccumulated_self, h, if_pos rfl]
    rfl
  · rw [getElem?_onAccumulated_of_ne (Ne.symm hk), h, if_neg hk]

/-- What a change does to an accumulated context is what it adds to the history. -/
theorem exists_deeds_perform (c : Change) (s : Session) :
    ∃ deeds, (c.perform s).history = s.history ++ deeds ∧ ∀ (k : Nat) e,
      s.evaluators[k]? = some e → (c.perform s).evaluators[k]? =
        some { e with accumulated := Deed.applyOn k e.accumulated deeds } := by
  cases effect_perform c s with
  | kept h =>
    refine ⟨[], h.2.trans (List.append_nil _).symm, fun k e he => ?_⟩
    rw [h.1, he]
    rfl
  | gave number layer h _ =>
    refine ⟨[.given number layer], h.2.trans (history_give number layer s), fun k e he => ?_⟩
    rw [h.1, Deed.applyOn_singleton]
    cases layer with
    | none => simp only [Deed.apply, Option.elim_none, ite_self]; exact he
    | some c =>
      rw [evaluators_give, getElem?_onAccumulated he]
      simp only [Deed.isOn, beq_iff_eq, Deed.apply, Option.elim_some]
  | cleared number h =>
    refine ⟨[.cleared number], h.2, fun k e he => ?_⟩
    rw [h.1, evaluators_clear, getElem?_onAccumulated he, Deed.applyOn_singleton]
    simp only [Deed.isOn, beq_iff_eq, Deed.apply]
  | added new d hd hevaluators hhistory =>
    refine ⟨[d], hhistory, fun k e he => ?_⟩
    have hother : d.isOn k = false := by cases hd <;> rfl
    rw [hevaluators, List.getElem?_append_left (List.getElem?_eq_some_iff.1 he).1, he,
      Deed.applyOn_of_others (List.forall_mem_singleton.2 hother)]

/-- At any later time an evaluator is what it was, but for what was done to its context. -/
theorem Later.exists_deeds {s t : Session} (h : Later s t) :
    ∃ deeds, t.history = s.history ++ deeds ∧ ∀ (k : Nat) e, s.evaluators[k]? = some e →
      t.evaluators[k]? = some { e with accumulated := Deed.applyOn k e.accumulated deeds } := by
  induction h with
  | now => exact ⟨[], (List.append_nil _).symm, fun k e he => he⟩
  | @change c t _ ih =>
    obtain ⟨deeds, hhistory, hevaluators⟩ := ih
    obtain ⟨more, hmore, hperform⟩ := exists_deeds_perform c t
    refine ⟨deeds ++ more, ?_, fun k e he => ?_⟩
    · rw [hmore, hhistory, List.append_assoc]
    · rw [hperform k _ (hevaluators k e he), Deed.applyOn_append]
  | rewrite number v _ ih => exact ih

theorem later_step (depth : Nat) {s t : Session} (h : Later s t) (st : Step) :
    Later s (endState (step (passes depth) st t)) :=
  step_keeps (fun c _ hu => .change c hu) depth st t h

/-- A context that is given to an evaluator, and a reset of it, is on this evaluator. -/
theorem exists_deed_of_step (depth : Nat) {on : String} {n : Nat} {e : Evaluator} {s : Session}
    (hn : s.number? on = some n) (he : s.evaluators[n]? = some e) {action : Action}
    (ha : action = .resetContext ∨ ∃ argument, action = .withContext argument) :
    ∃ d, (∀ k, k ≠ n → d.isOn k = false) ∧
      (endState (step (passes depth) (.mk on action) s)).history = s.history ++ [d] := by
  rcases ha with rfl | ⟨argument, rfl⟩
  · obtain ⟨t, hs, hh⟩ := step_resetContext (p := passes depth) hn he
    rw [hs]
    exact ⟨.cleared n, fun k hk => beq_eq_false_iff_ne.2 (Ne.symm hk), hh⟩
  · obtain ⟨layer, t, hs, hh, -⟩ := step_withContext (p := passes depth) hn he argument
    rw [hs]
    exact ⟨.given n layer, fun k hk => beq_eq_false_iff_ne.2 (Ne.symm hk), hh⟩

/-- Giving a context to one evaluator, and resetting it, leaves every other one as it is. -/
theorem getElem?_of_step {depth : Nat} {on : String} {n k : Nat} {e e' : Evaluator} {s : Session}
    (hn : s.number? on = some n) (he : s.evaluators[n]? = some e) {action : Action}
    (ha : action = .resetContext ∨ ∃ argument, action = .withContext argument) (hk : k ≠ n)
    (hother : s.evaluators[k]? = some e') :
    (endState (step (passes depth) (.mk on action) s)).evaluators[k]? = some e' := by
  obtain ⟨d, hd, hh⟩ := exists_deed_of_step depth hn he ha
  obtain ⟨deeds, hdeeds, hevaluators⟩ :=
    (later_step depth (.now (s := s)) (.mk on action)).exists_deeds
  have hsame : deeds = [d] := List.append_cancel_left (hdeeds.symm.trans hh)
  rw [hevaluators k e' hother, hsame,
    Deed.applyOn_of_others (List.forall_mem_singleton.2 (hd k hk))]

/-! ## Forks -/

/-- Validation and construction accept what they gave, so that forks cannot be refused, wherever
they are made. A fork is equal to its parent; afterwards each accumulates what is done to itself. -/
theorem forks_are_rebuilt (depth : Nat) :
    (∀ conditions strict specs, validate conditions strict = .ok specs →
      ∀ again, again = strict ∨ again = false →
        validate (.tuple (specs.map Spec.toValue)) again = .ok specs ∧
        (validate (.tuple (specs.map Spec.toValue)) again).map Condition.ofSpecs =
          (validate conditions strict).map Condition.ofSpecs) ∧
    (∀ conditions fallback strict source e,
      Evaluator.construct conditions fallback strict source = .ok e → e.reconstruct = .ok e) ∧
    (∀ conditions fallback strict source p s, provider source = .ok p →
      make (.mk conditions fallback strict source) s =
        match Evaluator.construct (conditions.getD (.tuple [])) fallback strict
            s.sources.length with
        | .error fault => .error (.failure fault.failure) s
        | .ok e => .ok s.evaluators.length
            (((s.addSource p).2.addEvaluator e).2.record (.made s.evaluators.length))) ∧
    (∀ process steps, Reachable (after depth process steps)) ∧
    (∀ s, Reachable s →
      (∀ st, Reachable (endState (step (passes depth) st s))) ∧
      (∀ body f, f.session = s → Reachable (endState (Expr.run (passes depth) body f)).session) ∧
      ∀ e c, (∀ x ∈ evaluated (passes depth) e c s, Reachable x.2.session) ∧
        ∀ x ∈ explained (passes depth) e c s, Reachable x.2.session) ∧
    ∀ s, Reachable s → ∀ (n : Nat) e, s.evaluators[n]? = some e →
      e.reconstruct = .ok { e with accumulated := [] } ∧
      fork n e s = .ok s.evaluators.length (s.forked n e) ∧
      (∀ p on name, s.number? on = some n →
        step p (.mk on (.fork name)) s =
          (do return .forked s.evaluators.length (← Run.ofExcept e.shown) e.strict :
            Run Session StepResult) ((s.forked n e).bind name s.evaluators.length)) ∧
      ∀ t, t = s.forked n e →
        t.evaluators[n]? = some e ∧ t.evaluators[s.evaluators.length]? = some e ∧
        (∀ u, Later t u → ∃ deeds, u.history = t.history ++ deeds ∧
          ∀ k, k = n ∨ k = s.evaluators.length →
            u.evaluators[k]? =
              some { e with accumulated := Deed.applyOn k e.accumulated deeds } ∧
            ((∀ d ∈ deeds, d.isOn k = false) → u.evaluators[k]? = some e)) ∧
        ∀ u, Later t u → ∀ on i e', u.number? on = some i → u.evaluators[i]? = some e' →
          ∀ action, (action = .resetContext ∨ ∃ argument, action = .withContext argument) →
            ∀ k, k = n ∨ k = s.evaluators.length → k ≠ i →
              (endState (step (passes depth) (.mk on action) u)).evaluators[k]? =
                u.evaluators[k]? := by
  refine ⟨fun conditions strict specs h again ha => ⟨validate_again h ha, ?_⟩,
    fun conditions fallback strict source e => Evaluator.reconstruct_of_construct,
    fun conditions fallback strict source p s hp => make_eq_construct hp s,
    fun process steps => reachable_after depth process steps, fun s hs => ?_,
    fun s hs n e he => ?_⟩
  · rw [validate_again h ha, h]
  · have hkeep : ∀ (c : Change) (u : Session), Reachable u → Reachable (c.perform u) :=
      fun c _ => .change c
    exact ⟨fun st => step_keeps hkeep depth st s hs,
      fun body f hf => run_keeps hkeep depth body (hf ▸ hs),
      fun e c => ⟨evaluated_keep hkeep depth hs e c, explained_keep hkeep depth hs e c⟩⟩
  · have hvalid : e.Valid := valid_of_reachable hs n e he
    refine ⟨hvalid.reconstruct, fork_of_valid hvalid n s,
      fun p on name hn => step_fork_of_valid hn he hvalid name, ?_⟩
    rintro t rfl
    have hparent : (s.forked n e).evaluators[n]? = some e :=
      (List.getElem?_append_left (List.getElem?_eq_some_iff.1 he).1).trans he
    have hchild : (s.forked n e).evaluators[s.evaluators.length]? = some e :=
      List.getElem?_concat_length
    have hboth : ∀ k, k = n ∨ k = s.evaluators.length →
        (s.forked n e).evaluators[k]? = some e := by
      rintro k (rfl | rfl)
      · exact hparent
      · exact hchild
    refine ⟨hparent, hchild, fun u hu => ?_, fun u hu on i e' hi he' action ha k hk hne => ?_⟩
    · obtain ⟨deeds, hhistory, hevaluators⟩ := hu.exists_deeds
      refine ⟨deeds, hhistory, fun k hk => ⟨hevaluators k e (hboth k hk), fun hd => ?_⟩⟩
      rw [hevaluators k e (hboth k hk), Deed.applyOn_of_others hd]
    · obtain ⟨deeds, -, hevaluators⟩ := hu.exists_deeds
      have hother := hevaluators k e (hboth k hk)
      rw [hother, getElem?_of_step hi he' ha hne hother]

/-- A session with a strict evaluator that was made from a mapping and a specification, without a
value as its fallback, that was given a key and forked. -/
def strictlyForked : Session :=
  (Change.fork 0).perform
    ((Change.give 0 (some (.dict [(.str "k", .int 1)]))).perform
      ((Change.make (.mk (some (.list
        [.dict [(.str "check", .bool true), (.str "name", .str "a")],
          .spec (.object 0 (.predicate none (.step (.mk "e" (.fork "f"))))) (.str "b")]))
        (some .null) true .process)).perform (start [])))

/-- The fork of a fork has what the first evaluator was given, and keeps it when that is reset. -/
theorem forks_are_rebuilt_strictlyForked :
    ∃ e, strictlyForked.evaluators[1]? = some e ∧ e.strict = true ∧ e.fallback = .null ∧
      e.accumulated = [(.str "k", .plain (.int 1))] ∧
      fork 1 e strictlyForked = .ok 2 (strictlyForked.forked 1 e) ∧
      ((Change.clear 1).perform (strictlyForked.forked 1 e)).evaluators[2]? = some e := by
  have hr : Reachable strictlyForked := .change _ (.change _ (.change _ (.start [])))
  obtain ⟨e, he, hstrict, hfallback, hacc⟩ : ∃ e, strictlyForked.evaluators[1]? = some e ∧
      e.strict = true ∧ e.fallback = .null ∧ e.accumulated = [(.str "k", .plain (.int 1))] :=
    ⟨_, rfl, rfl, rfl, rfl⟩
  obtain ⟨-, hfork, -, hafter⟩ := (forks_are_rebuilt 1).2.2.2.2.2 strictlyForked hr 1 e he
  obtain ⟨-, -, hlater, -⟩ := hafter _ rfl
  obtain ⟨deeds, hdeeds, hkept⟩ := hlater _ (.change (.clear 1) .now)
  have hcleared : deeds = [.cleared 1] := (List.append_cancel_left hdeeds).symm
  refine ⟨e, he, hstrict, hfallback, hacc, hfork, (hkept 2 (.inr rfl)).2 ?_⟩
  rw [hcleared]
  exact List.forall_mem_singleton.2 rfl

end Session

end NamedConditions
