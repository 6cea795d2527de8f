import NamedConditions.Command.Run
import NamedConditions.Proofs.Session.Interpreter
/-!
The search for an evaluator and the session that it leaves. On its way to a target the search calls
what modules give for the names that they lack, and at the end it may make an evaluator; all that it
does to the session is made of elementary changes.

Main statement: whether or not an evaluator is found, the session is one that changes lead to
(`reachable_evaluatorAt`).
-/
namespace NamedConditions

namespace Session

/-! ## What a search keeps -/

variable {P : Session → Prop}

section

variable (h : ∀ (c : Change) (s : Session), P s → P (c.perform s))

include h

/-- What every elementary change keeps is kept by calling a value. -/
theorem call_keeps (depth : Nat) (v : Value) {f : Frame} (hf : P f.session) :
    P (endState (v.call (passes depth) f)).session := by
  unfold Value.call
  cases v.callable? with
  | none => exact hf
  | some callable =>
    have hd := decide_keeps h depth ⟨0, .null, .predicate callable⟩ hf
    unfold decide runCheck at hd
    dsimp only at hd ⊢
    generalize callable.call (passes depth) f = ended at hd ⊢
    cases ended <;> exact hd

theorem callFor_keeps (depth : Nat) (f : Value) (name : String) :
    Run.Keeps P (ModuleAttributes.callFor (passes depth) f name) := by
  intro s hs
  have hc := call_keeps h depth f (f := ⟨s, .name name, []⟩) hs
  unfold ModuleAttributes.callFor
  cases hf : f.call (passes depth) ⟨s, .name name, []⟩ with
  | ok v g =>
    rw [hf] at hc
    exact hc
  | error stop g =>
    rw [hf] at hc
    dsimp only
    split
    · split <;> exact hc
    · exact hc

theorem give_keeps (depth : Nat) (attributes : ModuleAttributes) (name : String) :
    Run.Keeps P (attributes.give (passes depth) name) := by
  intro s hs
  unfold ModuleAttributes.give
  cases (Thing.loaded attributes).member? name with
  | some t => exact hs
  | none =>
    cases attributes.lookup ModuleAttributes.stepInName with
    | none => exact hs
    | some f =>
      dsimp only
      rw [endState_bind_pure]
      exact callFor_keeps h depth f name s hs

theorem load_keeps (c : Catalogue) (depth : Nat) (name : String) :
    Run.Keeps P (c.load (passes depth) name) := by
  have hinside : ∀ (components : List String) (name : String),
      Run.Keeps P (c.loadInside (passes depth) name components) := by
    intro components
    induction components with
    | nil => exact fun name => Run.keeps_of_simulates (Run.Simulates.ofExcept _)
    | cons component components ih =>
      intro name
      refine Run.keeps_of_simulates (Q := Eq) (Run.Simulates.bind_eq (Run.Simulates.ofExcept _)
        fun attributes => ?_)
      refine Run.Simulates.bind_eq (give_keeps h depth attributes _).simulates fun places? => ?_
      cases places? with
      | none => exact Run.Simulates.raise _
      | some places =>
        refine Run.Simulates.bind_eq (Run.Simulates.ofExcept _) fun _ => ?_
        refine Run.Simulates.bind_eq (Run.Simulates.ofExcept _) fun _ => ?_
        exact (ih _).simulates
  intro s hs
  unfold Catalogue.load
  split
  · exact hs
  · cases Text.piecesOf '.' name with
    | nil => exact hs
    | cons component components => exact hinside components component s hs

theorem loadModule_keeps (c : Catalogue) (depth : Nat) (name : String) :
    Run.Keeps P (Target.loadModule c (passes depth) name) := by
  intro s hs
  have hload := load_keeps h c depth name s hs
  unfold Target.loadModule
  cases hl : c.load (passes depth) name s with
  | ok attributes t =>
    rw [hl] at hload
    exact hload
  | error stop t =>
    rw [hl] at hload
    dsimp only
    split
    · split
      · split <;> exact hload
      · exact hload
    · exact hload

theorem follow?_keeps (depth : Nat) (attributes : ModuleAttributes) (path : List String) :
    Run.Keeps P (Target.follow? (passes depth) attributes path) := by
  cases path with
  | nil => exact fun s hs => hs
  | cons name path =>
    intro s hs
    unfold Target.follow?
    rw [endState_bind_pure]
    exact give_keeps h depth attributes name s hs

theorem resolve_keeps (c : Catalogue) (depth : Nat) (target : String) :
    Run.Keeps P (Target.resolve c (passes depth) target) := by
  have hlocate : Run.Keeps P (Target.locate c (passes depth) target) := by
    unfold Target.locate
    cases Text.cutOf? ':' target with
    | none => exact fun s hs => hs
    | some parts =>
      dsimp only
      split
      · exact fun s hs => hs
      · refine Run.keeps_of_simulates (Q := Eq) (Run.Simulates.bind_eq
          (loadModule_keeps h c depth parts.1).simulates fun loaded => ?_)
        cases loaded with
        | error fault => exact Run.Simulates.pure rfl
        | ok attributes =>
          refine Run.Simulates.bind_eq (follow?_keeps h depth attributes _).simulates fun t => ?_
          cases t <;> exact Run.Simulates.pure rfl
  refine Run.keeps_of_simulates (Q := Eq) (Run.Simulates.bind_eq hlocate.simulates fun found => ?_)
  cases found <;> exact Run.Simulates.pure rfl

theorem make_keeps (setup : Setup) : Run.Keeps P (make setup) :=
  Run.keeps_of_simulates ((Law.ofInvariant h).make setup)

end

end Session

namespace Command

open Session

/-- The session in which a run finds its evaluator, or fails to, is one that changes lead to. -/
theorem reachable_evaluatorAt (s : Setting) (target : String) (fallback : Value) (strict : Bool) :
    Reachable (evaluatorAt s target fallback strict).2 := by
  have hchange : ∀ (c : Change) (t : Session), Reachable t → Reachable (c.perform t) :=
    fun c _ => .change c
  have hnumber : Run.Keeps Reachable (evaluatorNumber s target fallback strict) := by
    unfold evaluatorNumber
    refine Run.keeps_of_simulates (Q := Eq) (Run.Simulates.bind_eq
      (resolve_keeps hchange s.catalogue s.depth target).simulates fun found => ?_)
    cases found with
    | error fault => exact Run.Simulates.pure rfl
    | ok found =>
      cases found with
      | conditions v =>
        exact Run.Simulates.bind_eq (make_keeps hchange _).simulates
          fun _ => Run.Simulates.pure rfl
      | evaluator setup =>
        exact Run.Simulates.bind_eq (make_keeps hchange setup).simulates
          fun _ => Run.Simulates.pure rfl
      | made number => exact Run.Simulates.pure rfl
  have hend := hnumber (.start s.process) (.start s.process)
  unfold evaluatorAt
  generalize evaluatorNumber s target fallback strict (.start s.process) = ended at hend ⊢
  cases ended with
  | ok x t => cases x <;> exact hend
  | error stop t => exact hend

end Command

end NamedConditions
