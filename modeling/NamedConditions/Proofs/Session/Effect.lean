import NamedConditions.Proofs.Context.Cells
import NamedConditions.Proofs.Session.Change
/-!
What elementary changes do to evaluators and to the history. Most changes leave both as they are; of
the others, each gives or clears an accumulated context or adds an evaluator, and the history says
which.

Main statements: every change has one of these effects (`effect_perform`), so that an evaluator
keeps all but its accumulated context (`evaluator_perform`).
-/
namespace NamedConditions.Session

/-- Evaluators and history are the same. -/
def SameAccounts (s t : Session) : Prop := t.evaluators = s.evaluators ∧ t.history = s.history

theorem SameAccounts.trans {s t u : Session} (hst : SameAccounts s t) (htu : SameAccounts t u) :
    SameAccounts s u :=
  ⟨htu.1.trans hst.1, htu.2.trans hst.2⟩

/-- Whether a change does something that the history records. -/
def Change.isDeed : Change → Bool
  | .give .. | .clear _ | .make _ | .fork _ => true
  | _ => false

theorem Change.isDeed_of_isQuiet {c : Change} (h : c.isQuiet = true) : c.isDeed = false := by
  cases c <;> first | rfl | cases h

/-- Only what the history records concerns evaluators. -/
theorem sameAccounts_perform {c : Change} (hc : c.isDeed = false) (s : Session) :
    SameAccounts s (c.perform s) := by
  cases c with
  | give | clear | make | fork => cases hc
  | log | note | bind | setProcess | hold | write | openSpan | closeSpan | mark | turn =>
    exact ⟨rfl, rfl⟩
  | abandonSpan stop => cases stop <;> exact ⟨rfl, rfl⟩
  | take argument =>
    rcases Change.perform_take argument s with ⟨es, -, hs⟩ | ⟨-, notes, hs⟩ <;> rw [hs] <;>
      exact ⟨rfl, rfl⟩
  | read source =>
    rcases Change.perform_read source s with ⟨-, hs⟩ | ⟨p, -, hs⟩ <;> rw [hs] <;>
      exact ⟨rfl, rfl⟩

/-- A deed that adds an evaluator, and the accumulated context that the evaluator starts with. -/
inductive Adds (s : Session) (e : Evaluator) : Deed → Prop
  | made (h : e.accumulated = []) : Adds s e (.made s.evaluators.length)
  | forked {parent : Nat} {e₀ : Evaluator} (hp : s.evaluators[parent]? = some e₀)
      (h : e.accumulated = e₀.accumulated) : Adds s e (.forked parent s.evaluators.length)

/-- What one change does to evaluators and to the history. -/
inductive Effect (s t : Session) : Prop
  | kept (h : SameAccounts s t)
  | gave (number : Nat) (layer : Option Context) (h : SameAccounts (s.give number layer) t)
      (hw : ∀ c, layer = some c → c.Within t.store)
  | cleared (number : Nat) (h : SameAccounts (s.clear number) t)
  | added (e : Evaluator) (d : Deed) (hd : Adds s e d) (he : t.evaluators = s.evaluators ++ [e])
      (hh : t.history = s.history ++ [d])

theorem history_give (number : Nat) (layer : Option Context) (s : Session) :
    (s.give number layer).history = s.history ++ [.given number layer] := by
  cases layer <;> rfl

/-- An evaluator among some and one more is one of them, or the new one behind them. -/
theorem getElem?_concat_cases {es : List Evaluator} {new e : Evaluator} {n : Nat}
    (h : (es ++ [new])[n]? = some e) :
    n < es.length ∧ es[n]? = some e ∨ n = es.length ∧ e = new := by
  rcases Nat.lt_trichotomy n es.length with hlt | heq | hgt
  · rw [List.getElem?_append_left hlt] at h
    exact .inl ⟨hlt, h⟩
  · subst heq
    rw [List.getElem?_concat_length] at h
    exact .inr ⟨rfl, (Option.some.inj h).symm⟩
  · have hnone : (es ++ [new])[n]? = none := by
      rw [List.getElem?_eq_none_iff, List.length_append]
      exact hgt
    rw [hnone] at h
    cases h

theorem effect_give (number : Nat) (argument : Option Value) (s : Session) :
    Effect s ((Change.give number argument).perform s) := by
  rcases Change.perform_give number argument s with ⟨es, -, hs⟩ | ⟨-, notes, hs⟩
  · rw [hs]
    refine .gave number (some (s.store.context es).1) ⟨rfl, rfl⟩ ?_
    rintro c ⟨⟩
    exact Store.within_context s.store es
  · rw [hs]
    refine .gave number none ⟨rfl, ?_⟩ ?_
    · rw [history_give, history_give]
    · intro c hc
      cases hc

/-- Every change has one of the effects. -/
theorem effect_perform (c : Change) (s : Session) : Effect s (c.perform s) := by
  cases hc : c.isDeed with
  | false => exact .kept (sameAccounts_perform hc s)
  | true =>
    cases c with
    | give number argument => exact effect_give number argument s
    | clear number => exact .cleared number ⟨rfl, rfl⟩
    | make setup =>
      rcases Change.perform_make setup s with hs | ⟨_, _, _, _, _, -, hs⟩
      · rw [hs]
        exact .kept ⟨rfl, rfl⟩
      · rw [hs]
        exact .added _ _ (.made rfl) rfl rfl
    | fork number =>
      rcases Change.perform_fork number s with hs | ⟨e, specs, he, -, hs⟩
      · rw [hs]
        exact .kept ⟨rfl, rfl⟩
      · rw [hs]
        exact .added { e with specs := specs } _ (.forked he rfl) rfl rfl
    | _ => cases hc

/-! ## What evaluators keep -/

theorem exists_accumulated_onAccumulated {s : Session} {n : Nat} {e : Evaluator}
    (h : s.evaluators[n]? = some e) (number : Nat) (f : Context → Context) :
    ∃ a, (s.onAccumulated number f).evaluators[n]? = some { e with accumulated := a } := by
  by_cases hn : n = number
  · subst hn
    refine ⟨f e.accumulated, ?_⟩
    rw [onAccumulated, List.getElem?_modify_eq, h]
    rfl
  · exact ⟨e.accumulated, (getElem?_onAccumulated_of_ne hn f s).trans h⟩

/-- No change replaces anything of an evaluator but its accumulated context. -/
theorem evaluator_perform (c : Change) {s : Session} {n : Nat} {e : Evaluator}
    (h : s.evaluators[n]? = some e) :
    ∃ a, (c.perform s).evaluators[n]? = some { e with accumulated := a } := by
  cases effect_perform c s with
  | kept hs => exact ⟨e.accumulated, (congrArg (·[n]?) hs.1).trans h⟩
  | gave number layer hs _ =>
    rw [hs.1]
    cases layer with
    | none => exact ⟨e.accumulated, h⟩
    | some given => exact exists_accumulated_onAccumulated h number fun a => Layer.merge a given
  | cleared number hs =>
    rw [hs.1]
    exact exists_accumulated_onAccumulated h number fun _ => []
  | added new d _ he _ =>
    rw [he, List.getElem?_append_left (List.getElem?_eq_some_iff.1 h).1]
    exact ⟨e.accumulated, h⟩

end NamedConditions.Session
