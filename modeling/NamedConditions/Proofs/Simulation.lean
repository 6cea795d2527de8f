import NamedConditions.Pass.Basic
/-!
Simulation of runs. Two runs simulate each other under a relation of their states when, from related
states, both come to their ends with related answers or both end early for the same reason, and the
states in which they end are related again. A run keeps a property when it holds wherever the run
ends, and that is a simulation of the run by itself.

Main statements: simulation goes through sequences of runs (`Simulates.bind`), and keeping a
property is simulation under equality together with it (`keeps_of_simulates`).
-/
namespace NamedConditions

variable {σ τ α β γ δ : Type}

/-- The state in which a run ended. -/
def endState : EStateM.Result Stop σ α → σ
  | .ok _ s => s
  | .error _ s => s

/-- What a run ended with, without its state. -/
def endResult : EStateM.Result Stop σ α → Except Stop α
  | .ok a _ => .ok a
  | .error stop _ => .error stop

/-- Answering for a failure leaves the state as the failure left it. -/
theorem Run.endState_attempt (a : α) (r : Run σ α) (s : σ) :
    endState (r.attempt a s) = endState (r s) := by
  unfold Run.attempt
  split
  · split <;> simp_all [endState]
  · rfl

theorem endState_bind_pure (r : Run σ α) (f : α → β) (s : σ) :
    endState ((r >>= fun a => pure (f a)) s) = endState (r s) := by
  simp only [Bind.bind, EStateM.bind]
  cases r s <;> rfl

/-- Two ends of runs that are alike: related answers or the same stop, in related states. -/
inductive Ends (R : σ → τ → Prop) (Q : α → β → Prop) :
    EStateM.Result Stop σ α → EStateM.Result Stop τ β → Prop
  | ok {a b s t} (hq : Q a b) (hr : R s t) : Ends R Q (.ok a s) (.ok b t)
  | error {stop s t} (hr : R s t) : Ends R Q (.error stop s) (.error stop t)

namespace Ends

variable {R : σ → τ → Prop} {Q : α → β → Prop}

theorem states {x : EStateM.Result Stop σ α} {y : EStateM.Result Stop τ β} (h : Ends R Q x y) :
    R (endState x) (endState y) := by
  cases h with
  | ok _ hr => exact hr
  | error hr => exact hr

theorem results {R : σ → τ → Prop} {x : EStateM.Result Stop σ α} {y : EStateM.Result Stop τ α}
    (h : Ends R Eq x y) : endResult x = endResult y := by
  cases h with
  | ok hq _ => exact congrArg Except.ok hq
  | error _ => rfl

theorem mono {R' : σ → τ → Prop} {x : EStateM.Result Stop σ α} {y : EStateM.Result Stop τ β}
    (h : Ends R Q x y) (hr : ∀ s t, R s t → R' s t) : Ends R' Q x y := by
  cases h with
  | ok hq h => exact .ok hq (hr _ _ h)
  | error h => exact .error (hr _ _ h)

/-- Ends that are the same apart from their states. -/
theorem of_eq {R : σ → τ → Prop} {x : EStateM.Result Stop σ α} {y : EStateM.Result Stop τ α}
    (he : endResult x = endResult y) (hr : R (endState x) (endState y)) : Ends R Eq x y := by
  cases x with
  | ok a s =>
    cases y with
    | ok b t =>
      cases he
      exact .ok rfl hr
    | error stop t => cases he
  | error stop s =>
    cases y with
    | ok b t => cases he
    | error stop' t =>
      cases he
      exact .error hr

/-- What is done next, after alike ends with related answers. -/
theorem bind {Q' : γ → δ → Prop} {r : Run σ α} {r' : Run τ β} {k : α → Run σ γ} {k' : β → Run τ δ}
    {s : σ} {t : τ} (h : Ends R Q (r s) (r' t))
    (hk : ∀ a b u v, Q a b → R u v → Ends R Q' (k a u) (k' b v)) :
    Ends R Q' ((r >>= k) s) ((r' >>= k') t) := by
  simp only [Bind.bind, EStateM.bind]
  generalize r s = x at h
  generalize r' t = y at h
  cases h with
  | ok hq hr => exact hk _ _ _ _ hq hr
  | error hr => exact .error hr

end Ends

namespace Run

/-- From related states the runs end alike, in related states. -/
def Simulates (R : σ → τ → Prop) (Q : α → β → Prop) (r : Run σ α) (r' : Run τ β) : Prop :=
  ∀ s t, R s t → Ends R Q (r s) (r' t)

/-- The property holds where the run ends, if it held before. -/
def Keeps (P : σ → Prop) (r : Run σ α) : Prop := ∀ s, P s → P (endState (r s))

namespace Simulates

variable {R : σ → τ → Prop} {Q : α → β → Prop} {Q' : γ → δ → Prop}

theorem pure {a : α} {b : β} (h : Q a b) :
    Simulates R Q (Pure.pure a : Run σ α) (Pure.pure b : Run τ β) :=
  fun _ _ hr => .ok h hr

theorem mono {Q' : α → β → Prop} {r : Run σ α} {r' : Run τ β} (h : Simulates R Q r r')
    (hq : ∀ a b, Q a b → Q' a b) : Simulates R Q' r r' := by
  intro s t hr
  have he := h s t hr
  generalize r s = x at he
  generalize r' t = y at he
  cases he with
  | ok h hr => exact .ok (hq _ _ h) hr
  | error hr => exact .error hr

theorem throw (stop : Stop) :
    Simulates R Q (MonadExcept.throw stop : Run σ α) (MonadExcept.throw stop : Run τ β) :=
  fun _ _ hr => .error hr

theorem raise (error : Raised) :
    Simulates R Q (Run.raise error : Run σ α) (Run.raise error : Run τ β) :=
  throw _

theorem ofExcept (x : Except Raised α) :
    Simulates R Eq (Run.ofExcept x : Run σ α) (Run.ofExcept x : Run τ α) := by
  cases x with
  | ok a => exact pure rfl
  | error e => exact raise e

/-- Runs that fail for the same reason are answered for alike. -/
theorem attempt {a : α} {b : β} {r : Run σ α} {r' : Run τ β} (h : Simulates R Q r r')
    (hab : Q a b) : Simulates R Q (r.attempt a) (r'.attempt b) := by
  intro s t hr
  have he := h s t hr
  unfold Run.attempt
  generalize r s = x at he
  generalize r' t = y at he
  cases he with
  | ok hq hr => exact .ok hq hr
  | @error stop u v hr =>
    cases stop with
    | exhausted => exact .error hr
    | failure f =>
      dsimp only
      split
      · exact .error hr
      · exact .ok hab hr

theorem modify {f : σ → σ} {g : τ → τ} (h : ∀ s t, R s t → R (f s) (g t)) :
    Simulates R Eq (modifyGet fun s => ((), f s) : Run σ Unit)
      (modifyGet fun t => ((), g t) : Run τ Unit) :=
  fun s t hr => .ok rfl (h s t hr)

theorem bind {r : Run σ α} {r' : Run τ β} {k : α → Run σ γ} {k' : β → Run τ δ}
    (h : Simulates R Q r r') (hk : ∀ a b, Q a b → Simulates R Q' (k a) (k' b)) :
    Simulates R Q' (r >>= k) (r' >>= k') :=
  fun s t hr => (h s t hr).bind fun a b u v hq hr => hk a b hq u v hr

theorem map {r : Run σ α} {r' : Run τ α} (h : Simulates R Eq r r') (f : α → γ) :
    Simulates R Eq (f <$> r) (f <$> r') := by
  intro s t hr
  have he := h s t hr
  simp only [Functor.map, EStateM.map]
  generalize r s = x at he
  generalize r' t = y at he
  cases he with
  | ok hq hr => exact .ok (congrArg f hq) hr
  | error hr => exact .error hr

/-- What is done with the same answer. -/
theorem bind_eq {r : Run σ α} {r' : Run τ α} {k : α → Run σ γ} {k' : α → Run τ δ}
    (h : Simulates R Eq r r') (hk : ∀ a, Simulates R Q' (k a) (k' a)) :
    Simulates R Q' (r >>= k) (r' >>= k') :=
  bind h fun a _ hab => hab ▸ hk a

/-- What is done with the states as they are. -/
theorem get_bind {k : σ → Run σ γ} {k' : τ → Run τ δ}
    (h : ∀ s t, R s t → Ends R Q' (k s s) (k' t t)) :
    Simulates R Q' (get >>= k) (get >>= k') :=
  fun s t hr => h s t hr

end Simulates

/-- A run that simulates itself under equality with a property keeps the property. -/
theorem keeps_of_simulates {P : σ → Prop} {Q : α → α → Prop} {r : Run σ α}
    (h : Simulates (fun s t => s = t ∧ P s) Q r r) : Keeps P r :=
  fun s hs => (h s s ⟨rfl, hs⟩).states.2

theorem Keeps.simulates {P : σ → Prop} {r : Run σ α} (h : Keeps P r) :
    Simulates (fun s t => s = t ∧ P s) Eq r r := by
  rintro s t ⟨rfl, hs⟩
  exact Ends.of_eq rfl ⟨rfl, h s hs⟩

end Run

end NamedConditions
