import Mathlib.Data.List.Forall2
import NamedConditions.Proofs.Simulation
import NamedConditions.Session.Evaluation
/-!
What can happen to a session. Whatever a step, a predicate or a pass does to the session in which it
runs, it does by elementary changes, which are listed here once. A session is reachable when such
changes lead to it from a session that was just started, so that the sessions in the middle of a
step, in which predicates run, are reachable too.

A law is a relation of sessions which every elementary change respects, where the sessions differ at
most in their journals and in the strict rules of their evaluators. Main statements: every
elementary run simulates itself under a law, and a property that every change keeps makes a law
(`Law.ofInvariant`).
-/
namespace NamedConditions.Session

/-- An elementary change. -/
inductive Change
  | log (v : Value)
  | note (text : String)
  | bind (name : String) (number : Nat)
  | setProcess (changes : List (String × Option String))
  /-- A value gets a slot. -/
  | hold (v : Value)
  /-- An item of a cell is written. -/
  | write (number : Nat) (key v : Value)
  /-- A pass takes its argument. -/
  | take (argument : Option Value)
  | give (number : Nat) (argument : Option Value)
  | clear (number : Nat)
  | make (setup : Setup)
  | fork (number : Nat)
  | read (source : Nat)
  | openSpan (name : String) (count : Nat)
  | closeSpan (matchCount : Nat)
  | abandonSpan (stop : Stop)
  | mark (c : ConditionFailure)
  /-- A new step of the user begins. -/
  | turn

namespace Change

/-- The session after a change. -/
def perform (c : Change) (s : Session) : Session :=
  match c with
  | log v => s.logValue v
  | note text => s.note text
  | bind name number => s.bind name number
  | setProcess changes => { s with process := s.process.change changes }
  | hold v => { s with store := (s.store.slot v).2 }
  | write number key v =>
    { s with store := (s.store.write number key v).toOption.getD s.store }
  | take argument => endState (takeArgument "runtime context" argument s)
  | give number argument => endState (withContext number argument s)
  | clear number => s.clear number
  | make setup => endState (Session.make setup s)
  | fork number => s.evaluators[number]?.elim s fun e => endState (Session.fork number e s)
  | read source => endState (readSource source s)
  | openSpan name count => s.openSpan name count
  | closeSpan matchCount => s.closeSpan matchCount
  | abandonSpan stop => (s.abandonSpan stop).2
  | mark c => (markFailure c ⟨s, .name "", []⟩).session
  | turn => { s with journal := .empty }

/-- Whether a change is one that a pass and predicates that take no steps can make. -/
def isQuiet : Change → Bool
  | give .. | clear _ | make _ | fork _ | bind .. | setProcess _ | turn => false
  | _ => true

end Change

/-- The sessions to which elementary changes lead from one that was just started. -/
inductive Reachable : Session → Prop
  | start (process : Variables) : Reachable (start process)
  | change (c : Change) {s : Session} (h : Reachable s) : Reachable (c.perform s)

/-! ## Arguments that are contexts -/

theorem takeArgument_of_entries {argument : Option Value} {es : Entries}
    (h : argumentEntries? argument = some es) (sort : String) (s : Session) :
    takeArgument sort argument s =
      .ok (some (s.store.context es).1) { s with store := (s.store.context es).2 } := by
  simp only [takeArgument, h]
  rfl

theorem takeArgument_of_no_entries {argument : Option Value}
    (h : argumentEntries? argument = none) (sort : String) (s : Session) :
    takeArgument sort argument s = .ok none (ignore sort argument s) := by
  simp only [takeArgument, h]
  rfl

/-- A context argument that is no mapping changes nothing but the notes. -/
theorem exists_notes_ignore (sort : String) (argument : Option Value) (s : Session) :
    ∃ notes, ignore sort argument s =
      { s with journal := { s.journal with notes := notes } } := by
  unfold ignore
  split
  · exact ⟨s.journal.notes, rfl⟩
  · exact ⟨s.journal.notes, rfl⟩
  · exact ⟨_, rfl⟩

theorem withContext_of_entries {argument : Option Value} {es : Entries}
    (h : argumentEntries? argument = some es) (number : Nat) (s : Session) :
    withContext number argument s =
      .ok () (give number (some (s.store.context es).1)
        { s with store := (s.store.context es).2 }) := by
  simp only [withContext, Bind.bind, EStateM.bind, takeArgument_of_entries h]
  rfl

theorem withContext_of_no_entries {argument : Option Value}
    (h : argumentEntries? argument = none) (number : Nat) (s : Session) :
    withContext number argument s = .ok () (give number none (ignore "context" argument s)) := by
  simp only [withContext, Bind.bind, EStateM.bind, takeArgument_of_no_entries h]
  rfl

/-! ## Reading and making -/

theorem readSource_of_none {source : Nat} {s : Session} (h : s.sources[source]? = none) :
    readSource source s = .ok (.plain .null) (s.noteReading source) := by
  simp only [readSource, Bind.bind, EStateM.bind, Run.get_run, h]
  rfl

theorem readSource_of_some {source : Nat} {s : Session} {p : Provider}
    (h : s.sources[source]? = some p) :
    readSource source s = Run.ofExcept (p.read s.process s.store).1 (s.afterReading source p) := by
  simp only [readSource, Bind.bind, EStateM.bind, Run.get_run, h]
  rfl

@[simp] theorem endState_ofExcept {σ α : Type} (x : Except Raised α) (s : σ) :
    endState (Run.ofExcept x s) = s := by
  cases x <;> rfl

/-- A session with a new evaluator. -/
def withMade (p : Provider) (specs : List Spec) (fallback : Option Value) (strict : Bool)
    (s : Session) : Session :=
  ((s.addSource p).2.addEvaluator
    ⟨specs, fallback.getD (.list []), strict, s.sources.length, []⟩).2.record
      (.made s.evaluators.length)

/-- Making an evaluator fails without a trace or adds one. -/
theorem make_run (conditions fallback : Option Value) (strict : Bool) (source : Source)
    (s : Session) :
    make (.mk conditions fallback strict source) s =
      match provider source, validate (conditions.getD (.tuple [])) strict with
      | .error e, _ => .error (.failure (.raised e)) s
      | .ok _, .error fault => .error (.failure fault.failure) s
      | .ok p, .ok specs => .ok s.evaluators.length (withMade p specs fallback strict s) := by
  simp only [make, Bind.bind, EStateM.bind]
  cases provider source with
  | error e => rfl
  | ok p =>
    simp only [Run.ofExcept, pure, EStateM.pure]
    cases validate (conditions.getD (.tuple [])) strict with
    | error fault => rfl
    | ok specs => rfl

/-- A new evaluator is found under its number. -/
theorem getElem?_withMade (p : Provider) (specs : List Spec) (fallback : Option Value)
    (strict : Bool) (s : Session) :
    (withMade p specs fallback strict s).evaluators[s.evaluators.length]? =
      some ⟨specs, fallback.getD (.list []), strict, s.sources.length, []⟩ := by
  simp [withMade, record, addSource, addEvaluator]

/-- A session with a fork of an evaluator. -/
def withFork (parent : Nat) (e : Evaluator) (specs : List Spec) (s : Session) : Session :=
  (s.addEvaluator { e with specs := specs }).2.record (.forked parent s.evaluators.length)

theorem fork_run (parent : Nat) (e : Evaluator) (s : Session) :
    fork parent e s =
      match validate (.tuple (e.specs.map Spec.toValue)) e.strict with
      | .error fault => .error (.failure fault.failure) s
      | .ok specs => .ok s.evaluators.length (withFork parent e specs s) := by
  simp only [fork]
  cases validate (.tuple (e.specs.map Spec.toValue)) e.strict with
  | error fault => rfl
  | ok specs => rfl

/-! ## What changes come to -/

namespace Change

/-- The entries of an argument get slots; without entries a note is entered at most. -/
theorem perform_take (argument : Option Value) (s : Session) :
    (∃ es, argumentEntries? argument = some es ∧
      (take argument).perform s = { s with store := (s.store.context es).2 }) ∨
    argumentEntries? argument = none ∧ ∃ notes,
      (take argument).perform s = { s with journal := { s.journal with notes := notes } } := by
  cases h : argumentEntries? argument with
  | none =>
    obtain ⟨notes, hn⟩ := exists_notes_ignore "runtime context" argument s
    refine .inr ⟨rfl, notes, ?_⟩
    rw [perform, takeArgument_of_no_entries h, endState, hn]
  | some es =>
    refine .inl ⟨es, rfl, ?_⟩
    rw [perform, takeArgument_of_entries h, endState]

/-- What is given are the slots of the entries; without entries it is nothing. -/
theorem perform_give (number : Nat) (argument : Option Value) (s : Session) :
    (∃ es, argumentEntries? argument = some es ∧
      (give number argument).perform s =
        Session.give number (some (s.store.context es).1)
          { s with store := (s.store.context es).2 }) ∨
    argumentEntries? argument = none ∧ ∃ notes,
      (give number argument).perform s =
        Session.give number none { s with journal := { s.journal with notes := notes } } := by
  cases h : argumentEntries? argument with
  | none =>
    obtain ⟨notes, hn⟩ := exists_notes_ignore "context" argument s
    refine .inr ⟨rfl, notes, ?_⟩
    rw [perform, withContext_of_no_entries h, endState, hn]
  | some es =>
    refine .inl ⟨es, rfl, ?_⟩
    rw [perform, withContext_of_entries h, endState]

/-- An evaluator with valid specifications is made, or nothing happens. -/
theorem perform_make (setup : Setup) (s : Session) :
    (make setup).perform s = s ∨
    ∃ conditions strict specs p fallback, validate conditions strict = .ok specs ∧
      (make setup).perform s = withMade p specs fallback strict s := by
  rcases setup with ⟨conditions, fallback, strict, source⟩
  rw [perform, make_run]
  cases provider source with
  | error e => exact .inl rfl
  | ok p =>
    cases hv : validate (conditions.getD (.tuple [])) strict with
    | error fault => exact .inl rfl
    | ok specs => exact .inr ⟨_, strict, specs, p, fallback, hv, rfl⟩

/-- An evaluator is forked with its own specifications, or nothing happens. -/
theorem perform_fork (number : Nat) (s : Session) :
    (fork number).perform s = s ∨
    ∃ e specs, s.evaluators[number]? = some e ∧
      validate (.tuple (e.specs.map Spec.toValue)) e.strict = .ok specs ∧
      (fork number).perform s = withFork number e specs s := by
  rw [perform]
  cases he : s.evaluators[number]? with
  | none => exact .inl rfl
  | some e =>
    rw [Option.elim_some, fork_run]
    cases hv : validate (.tuple (e.specs.map Spec.toValue)) e.strict with
    | error fault => exact .inl rfl
    | ok specs => exact .inr ⟨e, specs, rfl, hv, rfl⟩

/-- Reading a source that is not there is noted; reading another one changes it. -/
theorem perform_read (source : Nat) (s : Session) :
    s.sources[source]? = none ∧ (read source).perform s = s.noteReading source ∨
    ∃ p, s.sources[source]? = some p ∧ (read source).perform s = s.afterReading source p := by
  rw [perform]
  cases h : s.sources[source]? with
  | none => exact .inl ⟨rfl, by rw [readSource_of_none h, endState]⟩
  | some p => exact .inr ⟨p, rfl, by rw [readSource_of_some h, endState_ofExcept]⟩

end Change

/-! ## Laws -/

/-- Evaluators that differ at most in the strict rule, and whose own specifications both rules
judge alike. -/
def Twin (e e' : Evaluator) : Prop :=
  ∃ strict, e' = { e with strict := strict } ∧
    validate (.tuple (e.specs.map Spec.toValue)) strict =
      validate (.tuple (e.specs.map Spec.toValue)) e.strict

theorem Twin.refl (e : Evaluator) : Twin e e := ⟨e.strict, rfl, rfl⟩

/-- Lists of related items have related items in the same places. -/
theorem getElem?_cases_of_forall₂ {α : Type} {r : α → α → Prop} {xs ys : List α}
    (h : List.Forall₂ r xs ys) (n : Nat) :
    xs[n]? = none ∧ ys[n]? = none ∨ ∃ x y, xs[n]? = some x ∧ ys[n]? = some y ∧ r x y := by
  induction h generalizing n with
  | nil => exact .inl ⟨rfl, rfl⟩
  | cons hx _ ih =>
    cases n with
    | zero => exact .inr ⟨_, _, rfl, rfl, hx⟩
    | succ n => exact ih n

/-- Sessions that differ at most in their journals and in the strict rules of their evaluators. -/
structure Akin (s t : Session) : Prop where
  same : t = { s with journal := t.journal, evaluators := t.evaluators }
  evaluators : List.Forall₂ Twin s.evaluators t.evaluators

theorem akin_withJournal (s : Session) (j : Journal) : Akin s { s with journal := j } :=
  ⟨rfl, List.forall₂_same.2 fun e _ => Twin.refl e⟩

namespace Akin

variable {s t : Session}

theorem store (h : Akin s t) : s.store = t.store := (congrArg Session.store h.same).symm

theorem number? (h : Akin s t) (name : String) : s.number? name = t.number? name :=
  (congrArg (fun u => u.number? name) h.same).symm

/-- Under a number both have an evaluator or none. -/
theorem evaluator_cases (h : Akin s t) (n : Nat) :
    s.evaluators[n]? = none ∧ t.evaluators[n]? = none ∨
      ∃ e e', s.evaluators[n]? = some e ∧ t.evaluators[n]? = some e' ∧ Twin e e' :=
  getElem?_cases_of_forall₂ h.evaluators n

/-- As a value an evaluator says nothing of its strict rule. -/
theorem evaluatorValue (h : Akin s t) (n : Nat) : s.evaluatorValue n = t.evaluatorValue n := by
  rcases h.evaluator_cases n with ⟨hn, hn'⟩ | ⟨e, e', hn, hn', strict, rfl, -⟩
  · rw [Session.evaluatorValue, hn, Session.evaluatorValue, hn']
  · rw [Session.evaluatorValue, hn, Session.evaluatorValue, hn']
    rfl

end Akin

/-- A relation of sessions that are akin, which every quiet change respects. -/
structure QuietLaw (R : Session → Session → Prop) : Prop where
  akin {s t : Session} : R s t → Akin s t
  change {c : Change} (hc : c.isQuiet = true) {s t : Session} :
    R s t → R (c.perform s) (c.perform t)
  abandon (stop : Stop) {s t : Session} : R s t → (s.abandonSpan stop).1 = (t.abandonSpan stop).1

/-- A relation of sessions that are akin, which every change respects. -/
structure Law (R : Session → Session → Prop) : Prop where
  akin {s t : Session} : R s t → Akin s t
  change (c : Change) {s t : Session} : R s t → R (c.perform s) (c.perform t)
  abandon (stop : Stop) {s t : Session} : R s t → (s.abandonSpan stop).1 = (t.abandonSpan stop).1

/-- A property that every quiet change keeps. -/
theorem QuietLaw.ofInvariant {P : Session → Prop}
    (h : ∀ c : Change, c.isQuiet = true → ∀ s, P s → P (c.perform s)) :
    QuietLaw fun s t => s = t ∧ P s where
  akin := by
    rintro s t ⟨rfl, -⟩
    exact akin_withJournal s s.journal
  change := by
    rintro c hc s t ⟨rfl, hs⟩
    exact ⟨rfl, h c hc s hs⟩
  abandon := by
    rintro stop s t ⟨rfl, -⟩
    rfl

/-- A property that every change keeps. -/
theorem Law.ofInvariant {P : Session → Prop}
    (h : ∀ (c : Change) (s : Session), P s → P (c.perform s)) : Law fun s t => s = t ∧ P s where
  akin := (QuietLaw.ofInvariant fun c _ => h c).akin
  change := by
    rintro c s t ⟨rfl, hs⟩
    exact ⟨rfl, h c s hs⟩
  abandon := (QuietLaw.ofInvariant fun c _ => h c).abandon

section

variable {R : Session → Session → Prop}

theorem Law.quiet (law : Law R) : QuietLaw R := ⟨law.akin, fun _ => law.change _, law.abandon⟩

namespace QuietLaw

theorem store {s t : Session} (law : QuietLaw R) (h : R s t) : s.store = t.store :=
  (law.akin h).store

/-- A run that makes an elementary change, and of which the result depends neither on the journal
nor on anything of the evaluators but their number. -/
theorem simulates_of_change {α : Type} (law : QuietLaw R) {c : Change}
    (hR : ∀ s t, R s t → R (c.perform s) (c.perform t)) {r : Run Session α}
    (hc : ∀ s, endState (r s) = c.perform s)
    (hr : ∀ (s : Session) (j : Journal) (es : List Evaluator),
      es.length = s.evaluators.length →
      endResult (r s) = endResult (r { s with journal := j, evaluators := es })) :
    Run.Simulates R Eq r r := by
  intro s t h
  have hakin := law.akin h
  refine Ends.of_eq ?_ ?_
  · rw [hakin.same]
    exact hr s _ _ hakin.evaluators.length_eq.symm
  · rw [hc, hc]
    exact hR s t h

theorem modify (law : QuietLaw R) {c : Change} (hq : c.isQuiet = true) {f : Session → Session}
    (hf : ∀ s, f s = c.perform s) :
    Run.Simulates R Eq (modifyGet fun s => ((), f s) : Run Session Unit)
      (modifyGet fun s => ((), f s)) := by
  refine Run.Simulates.modify fun s t h => ?_
  rw [hf, hf]
  exact law.change hq h

theorem takeArgument (law : QuietLaw R) (argument : Option Value) :
    Run.Simulates R Eq (takeArgument "runtime context" argument)
      (takeArgument "runtime context" argument) := by
  refine law.simulates_of_change (c := .take argument) (fun s t => law.change rfl) (fun _ => rfl)
    fun s j es _ => ?_
  cases h : argumentEntries? argument with
  | none => rw [takeArgument_of_no_entries h, takeArgument_of_no_entries h, endResult, endResult]
  | some es => rw [takeArgument_of_entries h, takeArgument_of_entries h, endResult, endResult]

theorem readSource (law : QuietLaw R) (source : Nat) :
    Run.Simulates R Eq (readSource source) (readSource source) := by
  refine law.simulates_of_change (c := .read source) (fun s t => law.change rfl) (fun _ => rfl)
    fun s j es _ => ?_
  cases h : s.sources[source]? with
  | none =>
    rw [readSource_of_none h,
      readSource_of_none (s := { s with journal := j, evaluators := es }) h]
    rfl
  | some p =>
    rw [readSource_of_some h,
      readSource_of_some (s := { s with journal := j, evaluators := es }) h]
    cases (p.read s.process s.store).1 <;> rfl

end QuietLaw

namespace Law

theorem modify (law : Law R) (c : Change) {f : Session → Session} (hf : ∀ s, f s = c.perform s) :
    Run.Simulates R Eq (modifyGet fun s => ((), f s) : Run Session Unit)
      (modifyGet fun s => ((), f s)) := by
  refine Run.Simulates.modify fun s t h => ?_
  rw [hf, hf]
  exact law.change c h

theorem withContext (law : Law R) (number : Nat) (argument : Option Value) :
    Run.Simulates R Eq (withContext number argument) (withContext number argument) := by
  refine law.quiet.simulates_of_change (c := .give number argument) (fun s t => law.change _)
    (fun _ => rfl) fun s j es _ => ?_
  cases h : argumentEntries? argument with
  | none => rw [withContext_of_no_entries h, withContext_of_no_entries h, endResult, endResult]
  | some es => rw [withContext_of_entries h, withContext_of_entries h, endResult, endResult]

theorem make (law : Law R) (setup : Setup) : Run.Simulates R Eq (make setup) (make setup) := by
  refine law.quiet.simulates_of_change (c := .make setup) (fun s t => law.change _) (fun _ => rfl)
    fun s j es hlen => ?_
  rcases setup with ⟨conditions, fallback, strict, source⟩
  rw [make_run, make_run]
  cases provider source with
  | error e => rfl
  | ok p =>
    cases validate (conditions.getD (.tuple [])) strict with
    | error fault => rfl
    | ok specs => exact congrArg Except.ok hlen.symm

/-- Forks of evaluators that are twins. -/
theorem fork (law : Law R) {number : Nat} {e e' : Evaluator} {s t : Session} (h : R s t)
    (he : s.evaluators[number]? = some e) (he' : t.evaluators[number]? = some e')
    (htwin : Twin e e') :
    Ends R Eq (Session.fork number e s) (Session.fork number e' t) := by
  have hc := law.change (.fork number) h
  simp only [Change.perform, he, he', Option.elim_some] at hc
  refine Ends.of_eq ?_ hc
  obtain ⟨strict, rfl, hv⟩ := htwin
  rw [fork_run, fork_run, hv]
  cases validate (.tuple (e.specs.map Spec.toValue)) e.strict with
  | error fault => rfl
  | ok specs => exact congrArg Except.ok (law.akin h).evaluators.length_eq

end Law

end

end NamedConditions.Session
