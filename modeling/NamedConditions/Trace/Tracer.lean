import NamedConditions.Trace.Attribute
import NamedConditions.Trace.Manager
import NamedConditions.Trace.Span
/-!
Tracers: what opens spans for pieces of work. A span that is opened by itself is its own manager; a
span inside which others are opened is managed by a routine. One tracer records spans. Another one,
for a host that has no means to record, takes every call and keeps nothing.

Main statements: the silent tracer leaves what is held as it is, whatever the work does.
-/
namespace NamedConditions

/-- How a span is opened: by itself, or as the one inside which others are opened. -/
inductive Opening
  | detached
  | current

/-- What work asks of its span. -/
inductive SpanCall
  | setAttribute (name : String) (v : Value)
  | addEvent (name : String) (attributes : Attributes)
  | finish

/-- A piece of work inside a span: the calls that it makes, and what it throws behind them, if
anything. -/
structure SpanWork where
  calls : List SpanCall
  throws? : Option Thrown

/-- How work ends whose calls ended somehow. -/
def SpanWork.ending {σ : Type} (w : SpanWork) :
    EStateM.Result Thrown (Scene σ) Unit → EStateM.Result Thrown (Scene σ) Unit
  | .ok () s => w.throws?.elim (.ok () s) fun t => .error t s
  | .error t s => .error t s

/-- What comes out of work inside a span: what each call gave, what is thrown, and what is held. -/
structure WorkResult (σ : Type) where
  returned : List Value
  thrown? : Option Thrown
  held : σ

/-- What comes out of work that ended somehow. -/
def WorkResult.ofEnding {σ : Type} (returned : List Value) :
    EStateM.Result Thrown (Scene σ) Unit → WorkResult σ
  | .ok () s => ⟨returned, none, s.held⟩
  | .error t s => ⟨returned, some t, s.held⟩

/-- A tracer, by what it holds: how its spans are opened, and what calls to them do. -/
structure Tracer (σ : Type) where
  manager : Opening → String → Manager σ
  call : SpanCall → Work σ Value

namespace Tracer

variable {σ : Type}

/-- Makes calls one after another, up to the first that throws: what they gave, and how that
ended. -/
def callAll (t : Tracer σ) :
    List SpanCall → Scene σ → List Value × EStateM.Result Thrown (Scene σ) Unit
  | [], s => ([], .ok () s)
  | c :: cs, s =>
    match t.call c s with
    | .error thrown s => ([], .error thrown s)
    | .ok v s =>
      let (vs, ended) := t.callAll cs s
      (v :: vs, ended)

/-- Does a piece of work inside a new span. -/
def run (t : Tracer σ) (how : Opening) (name : String) (w : SpanWork) (s : Scene σ) :
    WorkResult σ :=
  let m := t.manager how name
  match m.enter s with
  | .error thrown s => .ofEnding [] (.error thrown s)
  | .ok () s =>
    let (returned, ended) := t.callAll w.calls s
    .ofEnding returned (m.close (w.ending ended))

theorem callAll_cons_of_ok {t : Tracer σ} {c : SpanCall} {v : Value} {s u : Scene σ}
    (h : t.call c s = .ok v u) (cs : List SpanCall) :
    t.callAll (c :: cs) s = (v :: (t.callAll cs u).1, (t.callAll cs u).2) := by
  rw [callAll, h]

theorem run_of_enter {t : Tracer σ} {how : Opening} {name : String} {s u : Scene σ}
    (h : (t.manager how name).enter s = .ok () u) (w : SpanWork) :
    t.run how name w s = .ofEnding (t.callAll w.calls u).1
      ((t.manager how name).close (w.ending (t.callAll w.calls u).2)) := by
  rw [run, h]

/-- The tracer that records nothing: `_NoOpTracer`, whose spans are `_NoOpSpan`s. -/
def silent : Tracer σ where
  manager
    | .detached, _ => .idle
    | .current, _ => .ofRoutine .idle
  call _ := pure .null

/-- The tracer of a name, in a host that may have no means to record: `get_tracer`. -/
def ofHost (isAvailable : Bool) (recorders : String → Tracer σ) (scope : String) : Tracer σ :=
  if isAvailable then recorders scope else silent

end Tracer

/-! ## Recording -/

/-- What a recording tracer holds: the span that is open, and those that were ended. -/
structure Recorder where
  opened? : Option Span
  ended : List Span

namespace Recorder

/-- No span at all. -/
def empty : Recorder := ⟨none, []⟩

/-- Opens a span. -/
def start (span : Span) (r : Recorder) : Recorder := { r with opened? := some span }

/-- Changes the span that is open. -/
def change (f : Span → Span) (r : Recorder) : Recorder := { r with opened? := r.opened?.map f }

/-- Ends the span that is open. -/
def finish (r : Recorder) : Recorder := ⟨none, r.ended ++ r.opened?.toList⟩

/-- An event with attributes; those with no name are dropped. -/
def event (name : String) (attributes : Attributes) : Event where
  name := name
  attributes := attributes.foldl
    (fun kept a => if a.1.isEmpty then kept else kept.set a.1 a.2.asAttribute) []

/-- What a call does to the span that is open: an attribute with no name is dropped. -/
def call : SpanCall → Recorder → Recorder
  | .setAttribute name v =>
    if name.isEmpty then id else change (Span.setAttribute name v.asAttribute)
  | .addEvent name attributes => change (Span.addEvent (event name attributes))
  | .finish => finish

/-- Marks the span that is open with what was thrown. If that has no text, what its text fails with
is thrown instead. -/
def mark (t : Thrown) : Work Recorder Unit := fun s =>
  match s.held.opened? with
  | none => .ok () s
  | some span =>
    match span.markFailure t.failure with
    | .ok span => .ok () { s with held := s.held.start span }
    | .error error => Work.throwNew (.raised error) none s

/-- A span that is opened by itself: whatever is thrown marks it, and then it is ended. -/
def detached (span : Span) : Manager Recorder where
  enter := Work.change (start span)
  leave thrown? := do
    thrown?.forM mark
    Work.change finish
    return false

/-- The routine around work in a current span: the work's failure marks the span, unless it is an
interrupt, and is thrown again. The span is ended in any case. -/
def current (span : Span) : Routine Recorder where
  before := Work.change (start span)
  after
    | none => Work.change finish
    | some t => fun s =>
      match (if t.failure.isInterrupt then pure () else mark t : Work Recorder Unit) s with
      | .ok () s => .error t { s with held := s.held.finish }
      | .error other s => .error other { s with held := s.held.finish }

theorem leave_detached_of_ok (span : Span) {t : Thrown} {s u : Scene Recorder}
    (h : mark t s = .ok () u) :
    (detached span).leave (some t) s = .ok false { u with held := u.held.finish } := by
  show (mark t >>= fun _ => Work.change finish >>= fun _ => pure false) s = _
  simp only [bind, EStateM.bind, h, Work.change]
  rfl

theorem leave_detached_of_error (span : Span) {t other : Thrown} {s u : Scene Recorder}
    (h : mark t s = .error other u) : (detached span).leave (some t) s = .error other u := by
  show (mark t >>= fun _ => Work.change finish >>= fun _ => pure false) s = _
  simp only [bind, EStateM.bind, h]

end Recorder

/-- The tracer that records spans under a scope. -/
def Tracer.recording (scope : String) : Tracer Recorder where
  manager
    | .detached, name => Recorder.detached (.fresh name scope none)
    | .current, name =>
      .ofRoutine (.inside (.ofRoutine (Recorder.current (.fresh name scope none))))
  call c := do
    Work.change (Recorder.call c)
    return .null

/-! ## The silent tracer -/

namespace Tracer

variable {σ : Type}

theorem enter_silent (how : Opening) (name : String) (s : Scene σ) :
    (silent.manager how name).enter s = .ok () s := by
  cases how <;> rfl

/-- The managers of silent spans let everything go on. -/
theorem leave_silent (how : Opening) (name : String) (thrown? : Option Thrown) (s : Scene σ) :
    ∃ u, (silent.manager how name).leave thrown? s = .ok false u ∧ u.held = s.held := by
  cases how with
  | detached => exact ⟨s, rfl, rfl⟩
  | current =>
    cases thrown? with
    | none => exact ⟨s, Manager.leave_none_ofRoutine rfl, rfl⟩
    | some t => exact Manager.leave_ofRoutine rfl

theorem callAll_silent (cs : List SpanCall) (s : Scene σ) :
    silent.callAll cs s = (cs.map fun _ => .null, .ok () s) := by
  induction cs with
  | nil => rfl
  | cons c cs ih => rw [callAll_cons_of_ok (u := s) rfl, ih, List.map_cons]

/-- Whatever work does inside a silent span, nothing is recorded. -/
theorem held_run_silent (how : Opening) (name : String) (w : SpanWork) (s : Scene σ) :
    (silent.run how name w s).held = s.held := by
  rw [run_of_enter (enter_silent how name s), callAll_silent]
  dsimp only
  cases hthrows : w.throws? with
  | none =>
    obtain ⟨u, hu, hheld⟩ := leave_silent how name none s
    rw [SpanWork.ending, hthrows, Option.elim_none, Manager.close, hu]
    exact hheld
  | some t =>
    obtain ⟨u, hu, hheld⟩ := leave_silent how name (some t) s
    rw [SpanWork.ending, hthrows, Option.elim_some, Manager.close, hu]
    exact hheld

end Tracer

end NamedConditions
