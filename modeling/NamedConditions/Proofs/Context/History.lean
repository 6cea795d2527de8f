import NamedConditions.Proofs.Context.Overlay
import NamedConditions.Proofs.Pass.Started
import NamedConditions.Proofs.Session.Effect
/-!
Accumulated contexts and what they were made of. The history of a session lists what was done to
accumulated contexts: making, forking, giving a context and clearing. From the history alone comes
what an evaluator was given since it was last cleared, through its parents as far as it is a fork
(`given`).

Main statement (`accumulated_eq_overlay_given`): in every session to which a run leads, at its end
or in the midst of a step, the accumulated context of every evaluator is the overlay of what it was
given; and a step adds to the history what it says and nothing else, where passes add nothing but by
what their predicates start while they run, which is pinned down one after another.
-/
namespace NamedConditions

/-- Whether an action only looks at an evaluator, or at a copy of its context. -/
def Action.onlyReads : Action → Bool
  | .getContext | .pokeContext .. | .describe => true
  | _ => false

namespace Session

/-! ## What was given -/

/-- What an evaluator was given since it was last cleared, by what was done, the latest first. -/
def givenBefore : List Deed → Nat → Context
  | [], _ => []
  | .made number :: past, n => if number = n then [] else givenBefore past n
  | .forked parent child :: past, n =>
    if child = n then givenBefore past parent else givenBefore past n
  | .given number layer :: past, n =>
    if number = n then givenBefore past n ++ layer.getD [] else givenBefore past n
  | .cleared number :: past, n => if number = n then [] else givenBefore past n

/-- What an evaluator was given since it was last cleared; a fork was given what its parent had
been given when it was forked. -/
def given (number : Nat) (history : List Deed) : Context := givenBefore history.reverse number

theorem given_append (number : Nat) (history : List Deed) (d : Deed) :
    given number (history ++ [d]) = givenBefore (d :: history.reverse) number := by
  rw [given, List.reverse_append, List.reverse_singleton, List.singleton_append]

/-! ## The invariant -/

/-- The accumulated context of every evaluator is the overlay of what it was given. -/
def Accounted (s : Session) : Prop :=
  ∀ n e, s.evaluators[n]? = some e → e.accumulated = Layer.overlay (given n s.history)

theorem accounted_of_sameAccounts {s t : Session} (hst : SameAccounts s t) (h : Accounted s) :
    Accounted t := by
  unfold Accounted
  rw [hst.1, hst.2]
  exact h

theorem evaluators_give (number : Nat) (c : Context) (s : Session) :
    (s.give number (some c)).evaluators =
      (s.onAccumulated number fun a => Layer.merge a c).evaluators := rfl

theorem evaluators_clear (number : Nat) (s : Session) :
    (s.clear number).evaluators = (s.onAccumulated number fun _ => []).evaluators := rfl

theorem getElem?_onAccumulated_self (number : Nat) (f : Context → Context) (s : Session) :
    (s.onAccumulated number f).evaluators[number]? =
      s.evaluators[number]?.map fun e => { e with accumulated := f e.accumulated } :=
  List.getElem?_modify_eq _ _ _

theorem accounted_give {s : Session} (h : Accounted s) (number : Nat) (layer : Option Context) :
    Accounted (s.give number layer) := by
  intro n e he
  rw [history_give, given_append, givenBefore]
  cases layer with
  | none =>
    have hn := h n e he
    rw [Option.getD_none, List.append_nil, ite_self]
    exact hn
  | some c =>
    rw [evaluators_give] at he
    by_cases hnum : number = n
    · subst hnum
      rw [getElem?_onAccumulated_self] at he
      obtain ⟨e', he', rfl⟩ := Option.map_eq_some_iff.1 he
      rw [if_pos rfl, Option.getD_some, ← Layer.merge_overlay]
      exact congrArg (Layer.merge · c) (h number e' he')
    · rw [getElem?_onAccumulated_of_ne (Ne.symm hnum)] at he
      rw [if_neg hnum]
      exact h n e he

theorem accounted_clear {s : Session} (h : Accounted s) (number : Nat) :
    Accounted (s.clear number) := by
  intro n e he
  have hh : (s.clear number).history = s.history ++ [.cleared number] := rfl
  rw [hh, given_append, givenBefore]
  rw [evaluators_clear] at he
  by_cases hnum : number = n
  · subst hnum
    rw [getElem?_onAccumulated_self] at he
    obtain ⟨e', he', rfl⟩ := Option.map_eq_some_iff.1 he
    rw [if_pos rfl]
    rfl
  · rw [getElem?_onAccumulated_of_ne (Ne.symm hnum)] at he
    rw [if_neg hnum]
    exact h n e he

/-- A deed that adds an evaluator says nothing about those that there are. -/
theorem given_of_adds {s : Session} {e : Evaluator} {d : Deed} (hd : Adds s e d) {n : Nat}
    (hn : n < s.evaluators.length) : given n (s.history ++ [d]) = given n s.history := by
  have hne : s.evaluators.length ≠ n := by omega
  cases hd with
  | made => rw [given_append, givenBefore, if_neg hne, given]
  | forked => rw [given_append, givenBefore, if_neg hne, given]

/-- The accumulated context that a new evaluator starts with is accounted for by the deed. -/
theorem accumulated_of_adds {s : Session} (h : Accounted s) {e : Evaluator} {d : Deed}
    (hd : Adds s e d) :
    e.accumulated = Layer.overlay (given s.evaluators.length (s.history ++ [d])) := by
  cases hd with
  | made ha =>
    rw [given_append, givenBefore, if_pos rfl, ha]
    rfl
  | forked hp ha =>
    rw [given_append, givenBefore, if_pos rfl, ha]
    exact h _ _ hp

theorem accounted_add {s t : Session} {e : Evaluator} {d : Deed} (h : Accounted s)
    (hd : Adds s e d) (he : t.evaluators = s.evaluators ++ [e])
    (hh : t.history = s.history ++ [d]) : Accounted t := by
  intro n e' hn
  rw [he] at hn
  rw [hh]
  rcases getElem?_concat_cases hn with ⟨hlt, hn⟩ | ⟨rfl, rfl⟩
  · rw [given_of_adds hd hlt]
    exact h n e' hn
  · exact accumulated_of_adds h hd

/-- Every change keeps the account. -/
theorem accounted_perform (c : Change) {s : Session} (h : Accounted s) :
    Accounted (c.perform s) := by
  cases effect_perform c s with
  | kept hs => exact accounted_of_sameAccounts hs h
  | gave number layer hs => exact accounted_of_sameAccounts hs (accounted_give h number layer)
  | cleared number hs => exact accounted_of_sameAccounts hs (accounted_clear h number)
  | added e d hd he hh => exact accounted_add h hd he hh

theorem accounted_of_reachable {s : Session} (h : Reachable s) : Accounted s := by
  induction h with
  | start process =>
    intro n e he
    cases he
  | change c _ ih => exact accounted_perform c ih

/-! ## What calls record -/

/-- The history only grows. -/
theorem history_prefix_perform (c : Change) (s : Session) :
    s.history <+: (c.perform s).history := by
  cases effect_perform c s with
  | kept hs => exact ⟨[], (List.append_nil _).trans hs.2.symm⟩
  | gave number layer hs =>
    rw [hs.2, history_give]
    exact List.prefix_append _ _
  | cleared number hs =>
    rw [hs.2]
    exact List.prefix_append _ _
  | added e d hd he hh =>
    rw [hh]
    exact List.prefix_append _ _

theorem still_sameAccounts : Still Change.isQuiet SameAccounts where
  refl _ := ⟨rfl, rfl⟩
  trans := SameAccounts.trans
  change hc s := sameAccounts_perform (Change.isDeed_of_isQuiet hc) s

/-- A step failed and changed nothing, or it added one evaluator with its deed. -/
def AddsOne (d : Deed) (s : Session) (r : EStateM.Result Stop Session StepResult) : Prop :=
  (∃ stop, r = .error stop s) ∨ ∃ e, (endState r).evaluators = s.evaluators ++ [e] ∧
    (endState r).history = s.history ++ [d]

section

variable {p : Passes} {on : String} {n : Nat} {e : Evaluator} {s : Session}

theorem actOnNamed_of_some (hn : s.number? on = some n) (he : s.evaluators[n]? = some e)
    (action : Action) : actOnNamed p on action s = actOn p n e action s := by
  simp only [actOnNamed, Bind.bind, EStateM.bind, Run.get_run]
  rw [hn]
  dsimp only
  rw [he]

/-- Giving a context records the slots of the argument's entries, if it is a mapping. -/
theorem step_withContext (hn : s.number? on = some n) (he : s.evaluators[n]? = some e)
    (argument : Option Value) :
    ∃ layer t, step p (.mk on (.withContext argument)) s = .ok (.same n) t ∧
      t.history = s.history ++ [.given n layer] ∧
      layer.map t.store.values = argumentEntries? argument := by
  simp only [step, actOnNamed_of_some hn he, actOn, Bind.bind, EStateM.bind]
  cases ha : argumentEntries? argument with
  | none =>
    obtain ⟨notes, hs⟩ := exists_notes_ignore "context" argument s
    rw [withContext_of_no_entries ha, hs]
    exact ⟨none, _, rfl, history_give n none _, rfl⟩
  | some es =>
    rw [withContext_of_entries ha]
    refine ⟨some (s.store.context es).1, _, rfl, rfl, ?_⟩
    exact congrArg some (Store.values_context s.store es)

theorem step_resetContext (hn : s.number? on = some n) (he : s.evaluators[n]? = some e) :
    ∃ t, step p (.mk on .resetContext) s = .ok (.same n) t ∧
      t.history = s.history ++ [.cleared n] := by
  simp only [step, actOnNamed_of_some hn he, actOn]
  exact ⟨_, rfl, rfl⟩

theorem step_fork (hn : s.number? on = some n) (he : s.evaluators[n]? = some e) (name : String) :
    AddsOne (.forked n s.evaluators.length) s (step p (.mk on (.fork name)) s) := by
  simp only [step, actOnNamed_of_some hn he, actOn, Bind.bind, EStateM.bind, fork_run]
  cases validate (.tuple (e.specs.map Spec.toValue)) e.strict with
  | error fault => exact .inl ⟨_, rfl⟩
  | ok specs => cases e.shown <;> exact .inr ⟨{ e with specs := specs }, rfl, rfl⟩

theorem step_make (setup : Setup) :
    AddsOne (.made s.evaluators.length) s (step p (.mk on (.make setup)) s) := by
  rcases setup with ⟨conditions, fallback, strict, source⟩
  simp only [step, Bind.bind, EStateM.bind, make_run]
  cases provider source with
  | error e => exact .inl ⟨_, rfl⟩
  | ok q =>
    cases validate (conditions.getD (.tuple [])) strict with
    | error fault => exact .inl ⟨_, rfl⟩
    | ok specs =>
      have hf : ((withMade q specs fallback strict s).bind on s.evaluators.length).evaluators[
          s.evaluators.length]? = some ⟨specs, fallback.getD (.list []), strict, s.sources.length,
            []⟩ := List.getElem?_concat_length
      simp only [Run.modify_run, Run.get_run]
      rw [hf]
      exact .inr ⟨_, rfl, rfl⟩

/-- Looking at an evaluator, or editing a copy of its context, changes nothing. -/
theorem step_of_onlyReads (hn : s.number? on = some n) (he : s.evaluators[n]? = some e)
    {action : Action} (hr : action.onlyReads = true) :
    endState (step p (.mk on action) s) = s := by
  cases action with
  | getContext => simp only [step, actOnNamed_of_some hn he, actOn]; rfl
  | pokeContext key v =>
    simp only [step, actOnNamed_of_some hn he, actOn, Run.needKey]
    cases key.keyRefusal? <;> rfl
  | describe =>
    simp only [step, actOnNamed_of_some hn he, actOn]
    cases e.shown <;> rfl
  | _ => cases hr

/-- Passes over quiet conditions leave every evaluator and the history as they are. -/
theorem step_of_quiet (hn : s.number? on = some n) (he : s.evaluators[n]? = some e)
    (hq : ∀ c ∈ e.conditions, c.isQuiet = true) (depth : Nat) (argument : Option Value) :
    SameAccounts s (endState (step (passes depth) (.mk on (.evaluate argument)) s)) ∧
      SameAccounts s (endState (step (passes depth) (.mk on (.explain argument)) s)) := by
  simp only [step, actOnNamed_of_some hn he, actOn]
  cases depth with
  | zero => exact ⟨⟨rfl, rfl⟩, ⟨rfl, rfl⟩⟩
  | succ depth =>
    have hk : ∀ c : Change, c.isQuiet = true →
        ∀ t, SameAccounts s t → SameAccounts s (c.perform t) := by
      intro c hc t ht
      exact ht.trans (sameAccounts_perform (Change.isDeed_of_isQuiet hc) t)
    have hc : ∀ e', s.evaluators[n]? = some e' → ∀ c ∈ e'.conditions, c.isQuiet = true := by
      intro e' he'
      rw [he] at he'
      cases he'
      exact hq
    have h := pass_keeps_of_quiet hk (⟨rfl, rfl⟩ : SameAccounts s s) hc (passes depth)
      (.given argument)
    rw [endState_bind_pure, endState_bind_pure]
    exact h

end

/-- Accumulated contexts are what the history says that was given, and the history is what was
called. -/
theorem accumulated_eq_overlay_given (depth : Nat) :
    (∀ process steps, Reachable (after depth process steps)) ∧
    (∀ st s, Reachable s → Reachable (endState (step (passes depth) st s))) ∧
    (∀ e f, Reachable f.session → Reachable (endState (Expr.run (passes depth) e f)).session) ∧
    (∀ s, Reachable s → ∀ n e, s.evaluators[n]? = some e →
      e.accumulated = Layer.overlay (given n s.history)) ∧
    (∀ st s, s.history <+: (endState (step (passes depth) st s)).history) ∧
    (∀ p number argument s,
      BySteps SameAccounts p s (startsOfEvaluate p number argument s)
        (endState (evaluate p number argument s)) ∧
      BySteps SameAccounts p s (startsOfExplain p number argument s)
        (endState (explain p number argument s))) ∧
    (∀ p on setup s,
      AddsOne (.made s.evaluators.length) s (step p (.mk on (.make setup)) s)) ∧
    (∀ on n e s, s.number? on = some n → s.evaluators[n]? = some e →
      (∀ p argument, ∃ layer t, step p (.mk on (.withContext argument)) s = .ok (.same n) t ∧
        t.history = s.history ++ [.given n layer] ∧
        layer.map t.store.values = argumentEntries? argument) ∧
      (∀ p, ∃ t, step p (.mk on .resetContext) s = .ok (.same n) t ∧
        t.history = s.history ++ [.cleared n]) ∧
      (∀ p name, AddsOne (.forked n s.evaluators.length) s
        (step p (.mk on (.fork name)) s)) ∧
      (∀ p action, action.onlyReads = true → endState (step p (.mk on action) s) = s) ∧
      ((∀ c ∈ e.conditions, c.isQuiet = true) → ∀ argument,
        SameAccounts s (endState (step (passes depth) (.mk on (.evaluate argument)) s)) ∧
        SameAccounts s (endState (step (passes depth) (.mk on (.explain argument)) s)))) := by
  refine ⟨fun process steps => reachable_after depth process steps, ?_, ?_, ?_, ?_,
    bySteps_pass still_sameAccounts, ?_, ?_⟩
  · intro st s h
    exact step_keeps (fun c _ => .change c) depth st s h
  · intro e f h
    exact run_keeps (fun c _ => .change c) depth e h
  · intro s h
    exact accounted_of_reachable h
  · intro st s
    have hk : ∀ (c : Change) t, s.history <+: t.history → s.history <+: (c.perform t).history :=
      fun c t ht => ht.trans (history_prefix_perform c t)
    exact step_keeps hk depth st s List.prefix_rfl
  · intro p on setup s
    exact step_make setup
  · intro on n e s hn he
    refine ⟨fun p argument => step_withContext hn he argument, fun p => step_resetContext hn he,
      fun p name => step_fork hn he name, fun p action hr => step_of_onlyReads hn he hr, ?_⟩
    intro hq argument
    exact step_of_quiet hn he hq depth argument

/-- A session in which an evaluator was given a key and then an equal key of another type. -/
def givenTwice : Session :=
  (Change.give 0 (some (.dict [(.bool true, .str "new")]))).perform
    ((Change.give 0 (some (.dict [(.int 1, .str "old"), (.str "other", .int 2)]))).perform
      ((Change.make (.mk none none false .process)).perform (start [])))

theorem accumulated_eq_overlay_given_givenTwice :
    ∃ e, givenTwice.evaluators[0]? = some e ∧
      e.accumulated = [(.int 1, .plain (.str "new")), (.str "other", .plain (.int 2))] := by
  have hr : Reachable givenTwice := .change _ (.change _ (.change _ (.start [])))
  exact ⟨_, rfl, (accumulated_eq_overlay_given 1).2.2.2.1 givenTwice hr 0 _ rfl⟩

end Session

end NamedConditions
