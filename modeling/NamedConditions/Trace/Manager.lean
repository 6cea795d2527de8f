import NamedConditions.Failure.Basic
/-!
Managers, which stand around pieces of work. A manager is entered before the work and left behind
it, and when it is left it may let what the work threw end there. A manager can be made of a routine
that pauses once: the routine runs up to its pause before the work and goes on behind it, where what
the work threw is thrown into it.

What is thrown is an object with a number, and a manager tells objects apart by their numbers, not
by what they say. One sort of failure never leaves a routine, the one that says that a routine has
come to its end. Something new comes out in its place, of which it is the cause.

Main statements: if a routine throws again what is thrown into it, the manager made of it lets that
go on, also if it is of the sort that leaves no routine (`leave_ofRoutine`); it lets it end exactly
if the routine goes on to its end (`leave_ofRoutine_eq_true_iff`).
-/
namespace NamedConditions

namespace ErrorKind

/-- The kind of an error that says that a routine has come to its end. -/
def routineEnd : ErrorKind := other "StopIteration"

/-- Whether a kind counts as an error in the running of a program. -/
def isRuntime : ErrorKind → Bool
  | other name => name ∈ ["RuntimeError", "NotImplementedError", "RecursionError"]
  | _ => false

end ErrorKind

/-- A failure that was thrown: an object with a number, and the number of the one it comes of. -/
structure Thrown where
  number : Nat
  failure : Failure
  cause? : Option Nat

namespace Thrown

/-- The kind of an error that was thrown. -/
def kind? (t : Thrown) : Option ErrorKind :=
  match t.failure with
  | .raised error => some error.kind
  | .condition .. => none

/-- Whether it says that a routine has come to its end. -/
def isRoutineEnd (t : Thrown) : Bool := t.kind? = some .routineEnd

/-- Whether it counts as an error in the running of a program. -/
def isRuntime (t : Thrown) : Bool := t.kind?.any ErrorKind.isRuntime

/-- Whether a routine that throws `t` passes on what was thrown into it: `t` is that object, or was
made of it because it may not leave a routine. -/
def passesOn (t into : Thrown) : Bool :=
  t.number = into.number || (t.isRuntime && into.isRoutineEnd && t.cause? = some into.number)

@[simp] theorem passesOn_self (t : Thrown) : t.passesOn t = true := by
  simp [passesOn]

end Thrown

/-- Where work goes on: what it holds, and the number of the next object that is thrown. -/
structure Scene (σ : Type) where
  held : σ
  nextNumber : Nat

/-- Work that may throw; what it did until then stays done. -/
abbrev Work (σ : Type) := EStateM Thrown (Scene σ)

namespace Work

variable {σ : Type}

/-- Throws a new object. -/
def throwNew {α : Type} (f : Failure) (cause? : Option Nat) : Work σ α := fun s =>
  .error ⟨s.nextNumber, f, cause?⟩ { s with nextNumber := s.nextNumber + 1 }

/-- Changes what is held. -/
def change (f : σ → σ) : Work σ Unit := fun s => .ok () { s with held := f s.held }

end Work

/-- A manager. Left with what work threw, if anything, it says whether that ends there. -/
structure Manager (σ : Type) where
  enter : Work σ Unit
  leave : Option Thrown → Work σ Bool

/-- A routine that pauses once. What is thrown into it is thrown where it pauses. -/
structure Routine (σ : Type) where
  before : Work σ Unit
  after : Option Thrown → Work σ Unit

namespace Manager

variable {σ : Type}

/-- The manager that does nothing. -/
def idle : Manager σ where
  enter := pure ()
  leave _ := pure false

/-- Leaves a manager behind work that ended somehow, and goes on as the manager says. -/
def close (m : Manager σ) :
    EStateM.Result Thrown (Scene σ) Unit → EStateM.Result Thrown (Scene σ) Unit
  | .ok () s =>
    match m.leave none s with
    | .ok _ s => .ok () s
    | .error t s => .error t s
  | .error t s =>
    match m.leave (some t) s with
    | .ok true s => .ok () s
    | .ok false s => .error t s
    | .error other s => .error other s

end Manager

namespace Routine

variable {σ : Type}

/-- The routine that only pauses. -/
def idle : Routine σ where
  before := pure ()
  after
    | none => pure ()
    | some t => throw t

/-- The routine that pauses inside a manager, and does nothing else. -/
def inside (m : Manager σ) : Routine σ where
  before := m.enter
  after
    | none => fun s => m.close (.ok () s)
    | some t => fun s => m.close (.error t s)

/-- The failure that comes in place of one that may not leave a routine. -/
def endInside : Failure :=
  .raised (.ofText (.other "RuntimeError") "generator raised StopIteration")

/-- A part of a routine, seen by what runs the routine. -/
def outward (part : Work σ Unit) : Work σ Unit := fun s =>
  match part s with
  | .ok () s => .ok () s
  | .error t s =>
    if t.isRoutineEnd then Work.throwNew endInside (some t.number) s else .error t s

end Routine

/-- The manager made of a routine. Of what the routine throws when it goes on, it lets go on by
itself what the routine only passes on. -/
def Manager.ofRoutine {σ : Type} (r : Routine σ) : Manager σ where
  enter := Routine.outward r.before
  leave
    | none => do
      Routine.outward (r.after none)
      return false
    | some t => fun s =>
      match Routine.outward (r.after (some t)) s with
      -- the end of the routine is told by a new object, which is never the one that was thrown
      | .ok () s => .ok true s
      | .error other s => if other.passesOn t then .ok false s else .error other s

section

variable {σ : Type} {r : Routine σ} {t : Thrown} {s s' : Scene σ}

namespace Routine

theorem outward_of_ok {part : Work σ Unit} (h : part s = .ok () s') :
    outward part s = .ok () s' := by
  rw [outward, h]

/-- What leaves a routine is what the routine threw, or was made of it. -/
theorem exists_outward_of_error {part : Work σ Unit} (h : part s = .error t s') :
    ∃ other u, outward part s = .error other u ∧ other.passesOn t = true ∧ u.held = s'.held := by
  rw [outward, h]
  dsimp only
  by_cases hend : t.isRoutineEnd = true
  · -- the new object is an error in the running of a program and names the other one as its cause
    refine ⟨_, _, if_pos hend, ?_, rfl⟩
    simp only [Thrown.passesOn, hend, Bool.and_true, decide_true, Bool.or_eq_true]
    exact .inr rfl
  · exact ⟨t, s', if_neg hend, t.passesOn_self, rfl⟩

end Routine

namespace Manager

/-- What a routine throws again when it is thrown into it goes on. -/
theorem leave_ofRoutine (h : r.after (some t) s = .error t s') :
    ∃ u, (ofRoutine r).leave (some t) s = .ok false u ∧ u.held = s'.held := by
  obtain ⟨other, u, hother, hpasses, hheld⟩ := Routine.exists_outward_of_error h
  refine ⟨u, ?_, hheld⟩
  simp only [ofRoutine, hother, hpasses, if_pos]

/-- What is thrown into a routine ends exactly if the routine goes on to its end. -/
theorem leave_ofRoutine_eq_true_iff :
    (ofRoutine r).leave (some t) s = .ok true s' ↔ r.after (some t) s = .ok () s' := by
  cases h : r.after (some t) s with
  | ok _ u => simp [ofRoutine, Routine.outward_of_ok h]
  | error thrown u =>
    obtain ⟨other, v, hother, -, -⟩ := Routine.exists_outward_of_error h
    by_cases hpasses : other.passesOn t = true
    · simp [ofRoutine, hother, hpasses]
    · simp [ofRoutine, hother, hpasses]

theorem leave_none_ofRoutine (h : r.after none s = .ok () s') :
    (ofRoutine r).leave none s = .ok false s' := by
  show (Routine.outward (r.after none) >>= fun _ => pure false) s = _
  simp only [bind, EStateM.bind, Routine.outward_of_ok h]
  rfl

end Manager

end

end NamedConditions
