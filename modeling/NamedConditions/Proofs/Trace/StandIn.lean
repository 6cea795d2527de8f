import NamedConditions.Trace.Tracer
/-!
The silent tracer stands in for any tracer that keeps out of the work inside its spans. The calls of
such a tracer give nothing, and what the work throws goes on, whether the span lets it go on or
throws it itself. Work cannot tell two such tracers apart: it gets the same from every call, and the
very object that it throws comes out.

The silent tracer keeps out of all work. Its detached spans let everything go on at once. Its
current spans do so through a routine, which throws again what is thrown into it; nothing but that
comes out, even where an end of a routine is thrown. The recording tracer does the same for work
that throws nothing or what can be recorded. What has no text cannot be recorded, and what its text
fails with comes out instead.

Main statements: what comes out of work inside a silent span is what comes out of it inside a span
of any tracer that keeps out of it, but nothing is recorded (`silent_stands_in`); the recording
tracer keeps out of exactly the work whose failure can be recorded (`keepsOut_recording_iff`).
-/
namespace NamedConditions

variable {σ : Type}

/-! ## Managers that pass something on -/

/-- A manager that is left with what was thrown lets it go on or throws it itself. -/
def Manager.PassesOn (m : Manager σ) (t : Thrown) : Prop :=
  ∀ s, ∃ u, m.leave (some t) s = .ok false u ∨ m.leave (some t) s = .error t u

/-- A routine throws again what is thrown into it. -/
def Routine.Rethrows (r : Routine σ) (t : Thrown) : Prop :=
  ∀ s, ∃ u, r.after (some t) s = .error t u

namespace Manager

variable {m : Manager σ} {r : Routine σ} {t : Thrown}

theorem close_of_passesOn (h : m.PassesOn t) (s : Scene σ) :
    ∃ u, m.close (.error t s) = .error t u := by
  obtain ⟨u, hu | hu⟩ := h s
  · exact ⟨u, by rw [close, hu]⟩
  · exact ⟨u, by rw [close, hu]⟩

theorem rethrows_inside (h : m.PassesOn t) : (Routine.inside m).Rethrows t := close_of_passesOn h

theorem passesOn_ofRoutine (h : r.Rethrows t) : (ofRoutine r).PassesOn t := by
  intro s
  obtain ⟨u, hu⟩ := h s
  obtain ⟨v, hv, -⟩ := leave_ofRoutine hu
  exact ⟨v, .inl hv⟩

end Manager

/-! ## Tracers that keep out of work -/

namespace Tracer

/-- A tracer keeps out of work inside a span: the span can be opened and left, its calls give
nothing, and what the work throws goes on. -/
structure KeepsOut (t : Tracer σ) (how : Opening) (name : String) (w : SpanWork) : Prop where
  enters : ∀ s, ∃ u, (t.manager how name).enter s = .ok () u
  returns : ∀ c ∈ w.calls, ∀ s, ∃ u, t.call c s = .ok .null u
  leaves : ∀ s, ∃ ends u, (t.manager how name).leave none s = .ok ends u
  passesOn : ∀ thrown ∈ w.throws?, (t.manager how name).PassesOn thrown

variable {t : Tracer σ} {how : Opening} {name : String} {w : SpanWork}

theorem callAll_of_returns {cs : List SpanCall}
    (h : ∀ c ∈ cs, ∀ s, ∃ u, t.call c s = .ok .null u) (s : Scene σ) :
    ∃ u, t.callAll cs s = (cs.map fun _ => .null, .ok () u) := by
  induction cs generalizing s with
  | nil => exact ⟨s, rfl⟩
  | cons c cs ih =>
    obtain ⟨u, hu⟩ := h c List.mem_cons_self s
    obtain ⟨v, hv⟩ := ih (fun d hd => h d (List.mem_cons_of_mem c hd)) u
    exact ⟨v, by rw [callAll_cons_of_ok hu, hv, List.map_cons]⟩

/-- Work of which a tracer keeps out gets nothing from its calls, and what it throws comes out. -/
theorem run_of_keepsOut (h : t.KeepsOut how name w) (s : Scene σ) :
    ∃ held, t.run how name w s = ⟨w.calls.map fun _ => .null, w.throws?, held⟩ := by
  obtain ⟨u, hu⟩ := h.enters s
  obtain ⟨v, hv⟩ := callAll_of_returns h.returns u
  rw [run_of_enter hu, hv]
  dsimp only [SpanWork.ending]
  cases hthrows : w.throws? with
  | none =>
    obtain ⟨ends, x, hx⟩ := h.leaves v
    exact ⟨x.held, by rw [Option.elim_none, Manager.close, hx, WorkResult.ofEnding]⟩
  | some thrown =>
    obtain ⟨x, hx⟩ := Manager.close_of_passesOn (h.passesOn thrown hthrows) v
    exact ⟨x.held, by rw [Option.elim_some, hx, WorkResult.ofEnding]⟩

theorem keepsOut_silent (how : Opening) (name : String) (w : SpanWork) :
    (silent : Tracer σ).KeepsOut how name w where
  enters s := ⟨s, enter_silent how name s⟩
  returns _ _ s := ⟨s, rfl⟩
  leaves s := by
    obtain ⟨u, hu, -⟩ := leave_silent how name none s
    exact ⟨false, u, hu⟩
  passesOn thrown _ s := by
    obtain ⟨u, hu, -⟩ := leave_silent how name (some thrown) s
    exact ⟨u, .inl hu⟩

end Tracer

/-! ## What is thrown in place of something -/

/-- It was made after something was thrown, as was what it comes of. -/
def Thrown.IsNewer (other t : Thrown) : Prop :=
  t.number < other.number ∧ ∀ cause ∈ other.cause?, t.number < cause

/-- What was thrown gives way: work ends with something newer. -/
def Thrown.GivesWay {α : Type} (t : Thrown) (ended : EStateM.Result Thrown (Scene σ) α) : Prop :=
  ∃ other u, ended = .error other u ∧ other.IsNewer t ∧ t.number < u.nextNumber

namespace Thrown

variable {t other : Thrown} {s : Scene σ}

theorem IsNewer.passesOn_eq_false (h : other.IsNewer t) : other.passesOn t = false := by
  have hcause : other.cause? ≠ some t.number := fun hc => Nat.lt_irrefl _ (h.2 _ hc)
  simp [passesOn, Nat.ne_of_gt h.1, hcause]

theorem GivesWay.outward {part : Work σ Unit} (h : t.GivesWay (part s)) :
    t.GivesWay (Routine.outward part s) := by
  obtain ⟨other, u, hpart, hnewer, hlt⟩ := h
  rw [Routine.outward, hpart]
  by_cases hend : other.isRoutineEnd = true
  · -- what comes in its place is newer still, and comes of it
    refine ⟨_, _, if_pos hend, ⟨hlt, fun cause hcause => ?_⟩, Nat.lt_succ_of_lt hlt⟩
    rw [← Option.mem_some.1 hcause]
    exact hnewer.1
  · exact ⟨other, u, if_neg hend, hnewer, hlt⟩

theorem GivesWay.leave_ofRoutine {r : Routine σ} (h : t.GivesWay (r.after (some t) s)) :
    t.GivesWay ((Manager.ofRoutine r).leave (some t) s) := by
  obtain ⟨other, u, hother, hnewer, hlt⟩ := h.outward
  refine ⟨other, u, ?_, hnewer, hlt⟩
  simp only [Manager.ofRoutine, hother, hnewer.passesOn_eq_false, Bool.false_eq_true, if_false]

theorem GivesWay.after_inside {m : Manager σ} (h : t.GivesWay (m.leave (some t) s)) :
    t.GivesWay ((Routine.inside m).after (some t) s) := by
  obtain ⟨other, u, hother, hnewer, hlt⟩ := h
  exact ⟨other, u, by simp only [Routine.inside, Manager.close, hother], hnewer, hlt⟩

theorem GivesWay.not_passesOn {m : Manager σ} (h : t.GivesWay (m.leave (some t) s)) :
    ¬m.PassesOn t := by
  intro hpasses
  obtain ⟨other, u, hother, hnewer, -⟩ := h
  obtain ⟨v, hv | hv⟩ := hpasses s
  · cases hother.symm.trans hv
  · cases hother.symm.trans hv
    exact Nat.lt_irrefl _ hnewer.1

end Thrown

/-! ## Where the recording tracer keeps out of work -/

namespace Recorder

variable {how : Opening} {t : Thrown}

/-- What is thrown can be recorded: it has a text, or it is an interrupt, which leaves no mark on a
current span. -/
def Records (how : Opening) (t : Thrown) : Prop :=
  (∃ text, t.failure.text = .ok text) ∨ how = .current ∧ t.failure.isInterrupt = true

theorem mark_of_text {text : String} (h : t.failure.text = .ok text) (s : Scene Recorder) :
    ∃ u, mark t s = .ok () u := by
  unfold mark
  split
  · exact ⟨s, rfl⟩
  · rw [Span.markFailure, h]
    exact ⟨_, rfl⟩

/-- The routine around work in a current span throws again what can be recorded. -/
theorem rethrows_current (h : Records .current t) (span : Span) : (current span).Rethrows t := by
  intro s
  dsimp only [current]
  by_cases hinterrupt : t.failure.isInterrupt = true
  · rw [if_pos hinterrupt]
    exact ⟨_, rfl⟩
  · obtain ⟨text, htext⟩ | ⟨-, hinterrupt'⟩ := h
    · obtain ⟨u, hu⟩ := mark_of_text htext s
      rw [if_neg hinterrupt, hu]
      exact ⟨_, rfl⟩
    · exact absurd hinterrupt' hinterrupt

/-- A scene in which a span is open, just after something was thrown. -/
def opened (span : Span) (t : Thrown) : Scene Recorder := ⟨empty.start span, t.number + 1⟩

/-- What has no text gives way to what its text fails with. -/
theorem givesWay_mark {error : Raised} (h : t.failure.text = .error error) (span : Span) :
    t.GivesWay (mark t (opened span t)) := by
  refine ⟨⟨t.number + 1, .raised error, none⟩, { opened span t with nextNumber := t.number + 2 },
    ?_, ⟨Nat.lt_succ_self _, nofun⟩, Nat.lt_add_of_pos_right (by decide)⟩
  simp only [mark, opened, start, Span.markFailure, h]
  rfl

end Recorder

namespace Tracer

variable {how : Opening} {t : Thrown}

/-- A span that records passes on what can be recorded. -/
theorem passesOn_recording (h : Recorder.Records how t) (scope name : String) :
    ((recording scope).manager how name).PassesOn t := by
  cases how with
  | detached =>
    intro s
    obtain ⟨text, htext⟩ | ⟨hhow, -⟩ := h
    · obtain ⟨u, hu⟩ := Recorder.mark_of_text htext s
      exact ⟨_, .inl (Recorder.leave_detached_of_ok _ hu)⟩
    · cases hhow
  | current =>
    -- a routine in a manager in a routine: each throws again or passes on what the one inside does
    have hinner := Manager.passesOn_ofRoutine
      (Recorder.rethrows_current h (.fresh name scope none))
    exact Manager.passesOn_ofRoutine (Manager.rethrows_inside hinner)

/-- In a span that records, what cannot be recorded gives way. -/
theorem givesWay_recording (h : ¬Recorder.Records how t) (scope name : String) :
    t.GivesWay (((recording scope).manager how name).leave (some t)
      (Recorder.opened (.fresh name scope none) t)) := by
  cases htext : t.failure.text with
  | ok text => exact absurd (.inl ⟨text, htext⟩) h
  | error error =>
    obtain ⟨other, u, hmark, hnewer, hlt⟩ :=
      Recorder.givesWay_mark htext (.fresh name scope none)
    cases how with
    | detached => exact ⟨other, u, Recorder.leave_detached_of_error _ hmark, hnewer, hlt⟩
    | current =>
      have hinterrupt : ¬t.failure.isInterrupt = true := fun hi => h (.inr ⟨rfl, hi⟩)
      have hafter : t.GivesWay ((Recorder.current (.fresh name scope none)).after (some t)
          (Recorder.opened (.fresh name scope none) t)) := by
        dsimp only [Recorder.current]
        rw [if_neg hinterrupt, hmark]
        exact ⟨other, _, rfl, hnewer, hlt⟩
      exact hafter.leave_ofRoutine.after_inside.leave_ofRoutine

/-- The recording tracer keeps out of exactly the work whose failure, if any, can be recorded. -/
theorem keepsOut_recording_iff (scope : String) (how : Opening) (name : String) (w : SpanWork) :
    (recording scope).KeepsOut how name w ↔ ∀ thrown ∈ w.throws?, Recorder.Records how thrown := by
  constructor
  · intro h thrown ht
    exact Classical.byContradiction fun hnot =>
      (givesWay_recording hnot scope name).not_passesOn (h.passesOn thrown ht)
  · intro h
    refine ⟨fun s => ?_, fun c _ s => ⟨_, rfl⟩, fun s => ?_, fun thrown ht =>
      passesOn_recording (h thrown ht) scope name⟩
    · cases how <;> exact ⟨_, rfl⟩
    · cases how <;> exact ⟨_, _, rfl⟩

/-! ## The silent tracer in place of another one -/

/-- In a host that has no means to record, work inside a span comes to what it comes to where spans
are recorded by a tracer that keeps out of it: every call gives the same, and the very object that
the work throws is thrown. Only what is held stays as it was. -/
theorem silent_stands_in (recorders : String → Tracer σ) (scope : String) (how : Opening)
    (name : String) (w : SpanWork) (h : (recorders scope).KeepsOut how name w) (s : Scene σ) :
    (ofHost false recorders scope).run how name w s =
      { (ofHost true recorders scope).run how name w s with held := s.held } ∧
    ((ofHost false recorders scope).run how name w s).returned = w.calls.map (fun _ => .null) ∧
    ((ofHost false recorders scope).run how name w s).thrown? = w.throws? := by
  obtain ⟨held, hsilent⟩ := run_of_keepsOut (keepsOut_silent how name w) s
  obtain ⟨recorded, hrecorded⟩ := run_of_keepsOut h s
  have hheld : held = s.held := by rw [← held_run_silent how name w s, hsilent]
  simp only [ofHost, Bool.false_eq_true, if_false, if_true, hsilent, hrecorded, hheld, and_self]

/-- Work that sets an attribute, adds an event and says that a routine has come to its end. -/
def endingRoutine : SpanWork :=
  ⟨[.setAttribute "count" (.int 2), .addEvent "seen" [("at", .list [.bool true])]],
    some ⟨0, .raised (.ofText .routineEnd "no more"), none⟩⟩

/-- An end of a routine comes out of a silent span as the object that it is, as it does where the
span is recorded. -/
theorem silent_stands_in_endingRoutine :
    (recording "envs").KeepsOut .current "work" endingRoutine ∧
    (ofHost false recording "envs").run .current "work" endingRoutine ⟨.empty, 1⟩ =
      { (ofHost true recording "envs").run .current "work" endingRoutine ⟨.empty, 1⟩ with
        held := .empty } ∧
    ((ofHost false recording "envs").run .current "work" endingRoutine ⟨.empty, 1⟩).thrown? =
      endingRoutine.throws? ∧
    ((ofHost true recording "envs").run .current "work" endingRoutine ⟨.empty, 1⟩).held.ended.length
      = 1 := by
  have hkeeps : (recording "envs").KeepsOut .current "work" endingRoutine := by
    refine (keepsOut_recording_iff _ _ _ _).2 fun thrown ht => .inl ⟨"no more", ?_⟩
    rw [← Option.mem_some.1 ht]
    rfl
  obtain ⟨hsame, -, hthrown⟩ :=
    silent_stands_in recording "envs" .current "work" endingRoutine hkeeps ⟨.empty, 1⟩
  exact ⟨hkeeps, hsame, hthrown, rfl⟩

end Tracer

end NamedConditions
