import NamedConditions.Proofs.Context.Layers
/-!
What holds of every evaluator. Stores evolve, contexts are given and cleared, and evaluators are
made and forked; nothing else happens to an evaluator.

Main statement (`EvaluatorLaw.of_reachable`): what these five keep holds of every evaluator of a
reachable session.
-/
namespace NamedConditions.Session

/-- A property of evaluators in stores that everything keeps which happens to an evaluator. -/
structure EvaluatorLaw (P : Store → Evaluator → Prop) : Prop where
  evolve {s t : Store} {e : Evaluator} : P s e → s.Evolves t → P t e
  give {s : Store} {e : Evaluator} (es : Entries) : P s e →
    P (s.context es).2 { e with accumulated := Layer.merge e.accumulated (s.context es).1 }
  clear {s : Store} {e : Evaluator} : P s e → P s { e with accumulated := [] }
  make {s : Store} {e : Evaluator} {conditions : Value} :
    validate conditions e.strict = .ok e.specs → e.accumulated = [] → P s e
  fork {s : Store} {e : Evaluator} {specs : List Spec} : P s e →
    validate (.tuple (e.specs.map Spec.toValue)) e.strict = .ok specs →
    P s { e with specs := specs }

namespace EvaluatorLaw

variable {P : Store → Evaluator → Prop} {s t : Session}

theorem of_evaluators (law : EvaluatorLaw P)
    (h : ∀ (n : Nat) e, s.evaluators[n]? = some e → P s.store e)
    (he : t.evaluators = s.evaluators) (hst : s.store.Evolves t.store) :
    ∀ (n : Nat) e, t.evaluators[n]? = some e → P t.store e := by
  intro n e hn
  rw [he] at hn
  exact law.evolve (h n e hn) hst

theorem append {new : Evaluator} (h : ∀ (n : Nat) e, s.evaluators[n]? = some e → P s.store e)
    (hnew : P s.store new) :
    ∀ (n : Nat) e, (s.evaluators ++ [new])[n]? = some e → P s.store e := by
  intro n e hn
  rcases getElem?_concat_cases hn with ⟨-, hn⟩ | ⟨-, rfl⟩
  · exact h n e hn
  · exact hnew

/-- Every change keeps such a property. -/
theorem perform (law : EvaluatorLaw P) (c : Change)
    (h : ∀ (n : Nat) e, s.evaluators[n]? = some e → P s.store e) :
    ∀ (n : Nat) e, (c.perform s).evaluators[n]? = some e → P (c.perform s).store e := by
  have hst := evolves_perform c s
  cases hc : c.isDeed with
  | false => exact law.of_evaluators h (sameAccounts_perform hc s).1 hst
  | true =>
    cases c with
    | give number argument =>
      rcases Change.perform_give number argument s with ⟨es, -, hs⟩ | ⟨-, notes, hs⟩
      · rw [hs]
        have hext := (s.store.extends_context es).evolves
        exact forall_onAccumulated (s := { s with store := (s.store.context es).2 }) number
          (fun c => Layer.merge c (s.store.context es).1)
          (fun n e he => law.evolve (h n e he) hext) fun e he => law.give es (h number e he)
      · rw [hs]
        exact h
    | clear number =>
      exact forall_onAccumulated number (fun _ => []) h fun e he => law.clear (h number e he)
    | make setup =>
      rcases Change.perform_make setup s with hs | ⟨_, _, _, _, _, hv, hs⟩
      · rw [hs]
        exact h
      · rw [hs]
        exact append h (law.make hv rfl)
    | fork number =>
      rcases Change.perform_fork number s with hs | ⟨e, specs, he, hv, hs⟩
      · rw [hs]
        exact h
      · rw [hs]
        exact append h (law.fork (h number e he) hv)
    | _ => cases hc

theorem of_reachable (law : EvaluatorLaw P) (hs : Reachable s) :
    ∀ (n : Nat) e, s.evaluators[n]? = some e → P s.store e := by
  induction hs with
  | start process =>
    intro n e he
    cases he
  | change c _ ih => exact law.perform c ih

end EvaluatorLaw

end NamedConditions.Session
