import NamedConditions.Proofs.Session.Effect
/-!
What validation reports. A condition list that is no sequence is at fault as a whole; of one that
is, the entry that comes first among those at fault is reported, and of its faults the one that
comes first in their order. Whether an entry is held to the strict rule is settled before the next
entry is looked at, so the strict rule counts as the last fault of its entry.

One entry is treated first, then a run of entries, then the list. An evaluator keeps what its list
was read into: nothing that happens later reaches it.

Main statement (`validated_reports_first_fault`): which lists are refused and with which text, what
the others are read into, and that this stays as it is.
-/
namespace NamedConditions

/-- What is wrong with an entry by itself. -/
inductive EntryFault
  | noObject | noCheck | noName | badCheck
  deriving DecidableEq

namespace EntryFault

/-- The place of a fault in the order in which an entry is looked at. -/
def rank : EntryFault → Nat
  | noObject => 0
  | noCheck => 1
  | noName => 2
  | badCheck => 3

/-- What is said of an entry with the fault. -/
def text : EntryFault → String
  | noObject => "must be an object"
  | noCheck => "missing required property 'check'"
  | noName => "missing required property 'name'"
  | badCheck => "property 'check' must be a boolean or function"

/-- The fault of a list with such an entry in a place. -/
def toFault (index : Nat) : EntryFault → Fault
  | noObject => .noObject index
  | noCheck => .noCheck index
  | noName => .noName index
  | badCheck => .badCheck index

theorem rank_injective {k k' : EntryFault} (h : k.rank = k'.rank) : k = k' := by
  cases k <;> cases k' <;> first | rfl | cases h

theorem message_toFault (k : EntryFault) (index : Nat) :
    (k.toFault index).message = "Condition at index " ++ toString index ++ " " ++ k.text := by
  have hspace : ∀ t : String, "Condition at index " ++ toString index ++ " " ++ t =
      "Condition at index " ++ toString index ++ (" " ++ t) := fun t => String.append_assoc
  rw [hspace]
  cases k <;> exact congrArg (fun t => "Condition at index " ++ toString index ++ t) (by decide)

end EntryFault

/-- The check that an entry gives, if it gives one. -/
def Value.givenCheck? : Value → Option Value
  | .spec check _ => some check
  | v => v.entries?.bind fun es => Layer.find? es (.str "check")

/-- The faults that an entry has, whichever of them is reported. -/
inductive EntryFault.In (strict : Bool) (entry : Value) : EntryFault → Prop
  | noObject (hs : ∀ s : Spec, entry ≠ s.toValue) (he : entry.entries? = none) :
    In strict entry .noObject
  | noCheck {es : Entries} (he : entry.entries? = some es)
      (hc : Layer.find? es (.str "check") = none) : In strict entry .noCheck
  | noName {es : Entries} (he : entry.entries? = some es)
      (hn : Layer.find? es (.str "name") = none) : In strict entry .noName
  | badCheck {check : Value} (hs : strict = true) (hc : entry.givenCheck? = some check)
      (hb : check.isBool = false) (hf : check.isCallable = false) : In strict entry .badCheck

/-- The fault of an entry that comes before its others. -/
structure EntryFault.IsFirst (strict : Bool) (entry : Value) (k : EntryFault) : Prop where
  has : k.In strict entry
  first {k' : EntryFault} (h : k'.In strict entry) : k.rank ≤ k'.rank

/-- No fault at all. -/
def Value.IsSound (strict : Bool) (entry : Value) : Prop := ∀ k : EntryFault, ¬ k.In strict entry

/-- The specification of an entry: the entry itself, or the check and the name of a mapping. -/
inductive Spec.StandsFor (s : Spec) (entry : Value) : Prop
  | itself (h : entry = s.toValue)
  | mapping {es : Entries} (he : entry.entries? = some es)
      (hc : Layer.find? es (.str "check") = some s.check)
      (hn : Layer.find? es (.str "name") = some s.name)

/-- The first entry at fault of a run of entries, and its first fault. -/
structure FirstFault (strict : Bool) (entries : List Value) (i : Nat) (k : EntryFault) : Prop where
  fault : ∃ entry, entries[i]? = some entry ∧ k.IsFirst strict entry
  before (j : Nat) (hj : j < i) (entry : Value) (he : entries[j]? = some entry) :
    entry.IsSound strict

/-- The specifications of a run of entries without a fault. -/
structure ReadInto (strict : Bool) (entries : List Value) (specs : List Spec) : Prop where
  sound (i : Nat) (entry : Value) (he : entries[i]? = some entry) : entry.IsSound strict
  length : specs.length = entries.length
  stands (i : Nat) (entry : Value) (s : Spec) (he : entries[i]? = some entry)
    (hs : specs[i]? = some s) : s.StandsFor entry

/-! ## One entry -/

theorem EntryFault.IsFirst.unique {strict : Bool} {entry : Value} {k k' : EntryFault}
    (h : k.IsFirst strict entry) (h' : k'.IsFirst strict entry) : k = k' :=
  rank_injective (Nat.le_antisymm (h.first h'.has) (h'.first h.has))

theorem Value.IsSound.not_isFirst {strict : Bool} {entry : Value} (h : entry.IsSound strict)
    (k : EntryFault) : ¬ k.IsFirst strict entry := fun hk => h k hk.has

/-- Every entry is a specification, a mapping or neither. -/
theorem Value.entry_cases (v : Value) :
    (∃ s : Spec, v = s.toValue) ∨ (∃ es, v.entries? = some es) ∨
      (∀ s : Spec, v ≠ s.toValue) ∧ v.entries? = none := by
  cases he : v.entries? with
  | some es => exact .inr (.inl ⟨es, rfl⟩)
  | none =>
    by_cases hs : ∃ s : Spec, v = s.toValue
    · exact .inl hs
    · exact .inr (.inr ⟨fun s h => hs ⟨s, h⟩, rfl⟩)

namespace Spec

variable {strict : Bool} {index : Nat} {entry : Value} {es : Entries}

theorem StandsFor.unique {s s' : Spec} (h : s.StandsFor entry) (h' : s'.StandsFor entry) :
    s = s' := by
  rcases s with ⟨check, name⟩
  rcases s' with ⟨check', name'⟩
  rcases h with rfl | ⟨he, hc, hn⟩
  · rcases h' with heq | ⟨he', -, -⟩
    · cases heq
      rfl
    · cases he'
  · rcases h' with rfl | ⟨he', hc', hn'⟩
    · cases he
    · cases he.symm.trans he'
      cases hc.symm.trans hc'
      cases hn.symm.trans hn'
      rfl

theorem ofEntry_of_neither (hs : ∀ s : Spec, entry ≠ s.toValue) (he : entry.entries? = none)
    (index : Nat) : ofEntry index entry = .error (.noObject index) := by
  unfold ofEntry
  split
  · rename_i check name
    exact absurd rfl (hs ⟨check, name⟩)
  · rw [he]

theorem ofEntry_of_entries (he : entry.entries? = some es) (index : Nat) :
    ofEntry index entry =
      match Layer.find? es (.str "check"), Layer.find? es (.str "name") with
      | none, _ => .error (.noCheck index)
      | some _, none => .error (.noName index)
      | some check, some name => .ok ⟨check, name⟩ := by
  unfold ofEntry
  split
  · cases he
  · cases hcheck : Layer.find? es (.str "check") <;>
      cases hname : Layer.find? es (.str "name") <;> simp only [he, hcheck, hname]

theorem givenCheck?_of_entries (he : entry.entries? = some es) :
    entry.givenCheck? = Layer.find? es (.str "check") := by
  unfold Value.givenCheck?
  split
  · cases he
  · rw [he, Option.bind_some]

theorem StandsFor.givenCheck? {s : Spec} (h : s.StandsFor entry) :
    entry.givenCheck? = some s.check := by
  rcases h with rfl | ⟨he, hc, -⟩
  · rfl
  · rw [givenCheck?_of_entries he, hc]

/-- An entry with a specification can only break the strict rule. -/
theorem StandsFor.in_iff {s : Spec} (h : s.StandsFor entry) (k : EntryFault) :
    k.In strict entry ↔ k = .badCheck ∧ (strict && !s.isStrict) = true := by
  constructor
  · intro hk
    cases hk with
    | noObject hs he =>
      rcases h with rfl | ⟨he', -, -⟩
      · exact absurd rfl (hs s)
      · cases he.symm.trans he'
    | noCheck he hc =>
      rcases h with rfl | ⟨he', hc', -⟩
      · cases he
      · cases he.symm.trans he'
        cases hc.symm.trans hc'
    | noName he hn =>
      rcases h with rfl | ⟨he', -, hn'⟩
      · cases he
      · cases he.symm.trans he'
        cases hn.symm.trans hn'
    | badCheck hs hc hb hf =>
      cases h.givenCheck?.symm.trans hc
      exact ⟨rfl, by simp [hs, isStrict, hb, hf]⟩
  · rintro ⟨rfl, hs⟩
    simp only [Bool.and_eq_true, Bool.not_eq_true', isStrict, Bool.or_eq_false_iff] at hs
    exact .badCheck hs.1 h.givenCheck? hs.2.1 hs.2.2

/-- What the entry of a specification is taken for. -/
theorem ofEntryIn_of_ofEntry {s : Spec} (hs : ofEntry index entry = .ok s)
    (h : s.StandsFor entry) :
    (entry.IsSound strict ∧ ofEntryIn strict index entry = .ok s) ∨
      EntryFault.IsFirst strict entry .badCheck ∧
        ofEntryIn strict index entry = .error (.badCheck index) := by
  rw [ofEntryIn, hs]
  dsimp only
  cases hb : strict && !s.isStrict with
  | false =>
    refine .inl ⟨fun k hk => ?_, rfl⟩
    have hbad := ((h.in_iff k).1 hk).2
    rw [hb] at hbad
    cases hbad
  | true =>
    refine .inr ⟨⟨(h.in_iff _).2 ⟨rfl, hb⟩, fun {k'} hk' => ?_⟩, rfl⟩
    exact Nat.le_of_eq (congrArg EntryFault.rank ((h.in_iff k').1 hk').1.symm)

theorem ofEntryIn_of_error {f : Fault} (h : ofEntry index entry = .error f) (strict : Bool) :
    ofEntryIn strict index entry = .error f := by
  rw [ofEntryIn, h]

/-- An entry without a fault is read into its specification; of any other the first fault is
given. -/
theorem ofEntryIn_cases (strict : Bool) (index : Nat) (entry : Value) :
    (∃ s : Spec, entry.IsSound strict ∧ s.StandsFor entry ∧
        ofEntryIn strict index entry = .ok s) ∨
      ∃ k, EntryFault.IsFirst strict entry k ∧
        ofEntryIn strict index entry = .error (k.toFault index) := by
  rcases entry.entry_cases with ⟨s, rfl⟩ | ⟨es, he⟩ | ⟨hs, he⟩
  case inl =>
    rcases ofEntryIn_of_ofEntry (ofEntry_toValue index s) (.itself rfl) with ⟨ho, hr⟩ | ⟨ho, hr⟩
    · exact .inl ⟨s, ho, .itself rfl, hr⟩
    · exact .inr ⟨.badCheck, ho, hr⟩
  case inr.inr =>
    refine .inr ⟨.noObject, ⟨.noObject hs he, fun _ => Nat.zero_le _⟩, ?_⟩
    exact ofEntryIn_of_error (ofEntry_of_neither hs he index) strict
  case inr.inl =>
    have hof := ofEntry_of_entries he index
    cases hc : Layer.find? es (.str "check") with
    | none =>
      rw [hc] at hof
      refine .inr ⟨.noCheck, ⟨.noCheck he hc, fun {k'} hk' => ?_⟩, ofEntryIn_of_error hof strict⟩
      cases hk' with
      | noObject _ he' => cases he'.symm.trans he
      | noCheck | noName | badCheck => decide
    | some check =>
      cases hn : Layer.find? es (.str "name") with
      | none =>
        rw [hc, hn] at hof
        refine .inr ⟨.noName, ⟨.noName he hn, fun {k'} hk' => ?_⟩, ofEntryIn_of_error hof strict⟩
        cases hk' with
        | noObject _ he' => cases he'.symm.trans he
        | noCheck he' hc' =>
          cases he'.symm.trans he
          cases hc'.symm.trans hc
        | noName | badCheck => decide
      | some name =>
        rw [hc, hn] at hof
        have hst : StandsFor ⟨check, name⟩ entry := .mapping he hc hn
        rcases ofEntryIn_of_ofEntry hof hst with ⟨ho, hr⟩ | ⟨ho, hr⟩
        · exact .inl ⟨_, ho, hst, hr⟩
        · exact .inr ⟨.badCheck, ho, hr⟩

end Spec

/-! ## A run of entries -/

section

variable {strict : Bool} {entry : Value} {entries : List Value} {i : Nat} {k : EntryFault}

theorem FirstFault.zero (h : k.IsFirst strict entry) :
    FirstFault strict (entry :: entries) 0 k :=
  ⟨⟨entry, rfl, h⟩, fun _ hj => absurd hj (Nat.not_lt_zero _)⟩

theorem FirstFault.succ (hs : entry.IsSound strict) (h : FirstFault strict entries i k) :
    FirstFault strict (entry :: entries) (i + 1) k := by
  refine ⟨h.fault, fun j hj e he => ?_⟩
  cases j with
  | zero =>
    cases he
    exact hs
  | succ j => exact h.before j (Nat.lt_of_succ_lt_succ hj) e he

theorem FirstFault.unique {i' : Nat} {k' : EntryFault} (h : FirstFault strict entries i k)
    (h' : FirstFault strict entries i' k') : i = i' ∧ k = k' := by
  obtain ⟨e, he, hk⟩ := h.fault
  obtain ⟨e', he', hk'⟩ := h'.fault
  rcases Nat.lt_trichotomy i i' with hlt | rfl | hgt
  · exact absurd hk ((h'.before i hlt e he).not_isFirst k)
  · cases he.symm.trans he'
    exact ⟨rfl, hk.unique hk'⟩
  · exact absurd hk' ((h.before i' hgt e' he').not_isFirst k')

theorem ReadInto.nil : ReadInto strict [] [] :=
  ⟨fun _ _ he => by simp at he, rfl, fun _ _ _ he => by simp at he⟩

theorem ReadInto.cons {s : Spec} {specs : List Spec} (hs : entry.IsSound strict)
    (hst : s.StandsFor entry) (h : ReadInto strict entries specs) :
    ReadInto strict (entry :: entries) (s :: specs) := by
  refine ⟨fun i e he => ?_, congrArg (· + 1) h.length, fun i e s' he hs' => ?_⟩
  · cases i with
    | zero =>
      cases he
      exact hs
    | succ i => exact h.sound i e he
  · cases i with
    | zero =>
      cases he
      cases hs'
      exact hst
    | succ i => exact h.stands i e s' he hs'

theorem ReadInto.unique {specs specs' : List Spec} (h : ReadInto strict entries specs)
    (h' : ReadInto strict entries specs') : specs = specs' := by
  refine List.ext_getElem (h.length.trans h'.length.symm) fun i hi hi' => ?_
  have hlt : i < entries.length := h.length ▸ hi
  have he := List.getElem?_eq_getElem hlt
  exact (h.stands i _ _ he (List.getElem?_eq_getElem hi)).unique
    (h'.stands i _ _ he (List.getElem?_eq_getElem hi'))

theorem ReadInto.not_firstFault {specs : List Spec} (h : ReadInto strict entries specs) :
    ¬ FirstFault strict entries i k := by
  intro hf
  obtain ⟨e, he, hk⟩ := hf.fault
  exact (h.sound i e he).not_isFirst k hk

/-- A run of entries is read as a whole, or its first fault is given. -/
theorem Spec.ofEntriesFrom_cases (strict : Bool) (index : Nat) (entries : List Value) :
    (∃ specs, ReadInto strict entries specs ∧
        ofEntriesFrom strict index entries = .ok specs) ∨
      ∃ i k, FirstFault strict entries i k ∧
        ofEntriesFrom strict index entries = .error (k.toFault (index + i)) := by
  induction entries generalizing index with
  | nil => exact .inl ⟨[], .nil, rfl⟩
  | cons entry rest ih =>
    rw [ofEntriesFrom]
    rcases ofEntryIn_cases strict index entry with ⟨s, hsound, hst, hr⟩ | ⟨k, hk, hr⟩
    · rw [hr]
      rcases ih (index + 1) with ⟨specs, hspecs, hrest⟩ | ⟨i, k, hk, hrest⟩
      · rw [hrest]
        exact .inl ⟨s :: specs, hspecs.cons hsound hst, rfl⟩
      · rw [hrest, Nat.add_assoc, Nat.add_comm 1 i]
        exact .inr ⟨i + 1, k, hk.succ hsound, rfl⟩
    · rw [hr]
      exact .inr ⟨0, k, .zero hk, rfl⟩

end

/-! ## The list -/

/-- The specifications of a condition list, or the failure with which the list is refused. -/
def validated (conditions : Value) (strict : Bool) : Except Failure (List Spec) :=
  (validate conditions strict).mapError Fault.failure

/-- The failure with which a list is refused for a reason. -/
def refusal (text : String) : Failure := .raised (.ofText .invalidArgument text)

theorem validated_of_no_sequence {conditions : Value} (h : conditions.items? = none)
    (strict : Bool) :
    validated conditions strict = .error (refusal "Conditions must be an array") := by
  rw [validated, validate_of_no_sequence h]
  rfl

/-- A sequence is read as a whole, or refused for its first fault. -/
theorem validated_cases {conditions : Value} {entries : List Value}
    (h : conditions.items? = some entries) (strict : Bool) :
    (∃ specs, ReadInto strict entries specs ∧ validated conditions strict = .ok specs) ∨
      ∃ i k, FirstFault strict entries i k ∧ validated conditions strict =
        .error (refusal ("Condition at index " ++ toString i ++ " " ++ k.text)) := by
  rw [validated, validate_of_items? h]
  rcases Spec.ofEntriesFrom_cases strict 0 entries with ⟨specs, hs, hr⟩ | ⟨i, k, hk, hr⟩
  · rw [hr]
    exact .inl ⟨specs, hs, rfl⟩
  · rw [hr, Nat.zero_add]
    refine .inr ⟨i, k, hk, ?_⟩
    rw [← k.message_toFault]
    rfl

theorem validated_eq_error_iff (conditions : Value) (strict : Bool) (e : Failure) :
    validated conditions strict = .error e ↔
      conditions.items? = none ∧ e = refusal "Conditions must be an array" ∨
      ∃ entries i k, conditions.items? = some entries ∧ FirstFault strict entries i k ∧
        e = refusal ("Condition at index " ++ toString i ++ " " ++ k.text) := by
  cases hi : conditions.items? with
  | none =>
    rw [validated_of_no_sequence hi]
    simp [eq_comm]
  | some entries =>
    rcases validated_cases hi strict with ⟨specs, hs, hr⟩ | ⟨i, k, hk, hr⟩
    · rw [hr]
      constructor
      · rintro ⟨⟩
      · rintro (⟨⟨⟩, -⟩ | ⟨_, i, k, ⟨⟩, hk, -⟩)
        exact absurd hk hs.not_firstFault
    · rw [hr]
      constructor
      · rintro ⟨⟩
        exact .inr ⟨entries, i, k, rfl, hk, rfl⟩
      · rintro (⟨⟨⟩, -⟩ | ⟨_, i', k', ⟨⟩, hk', rfl⟩)
        obtain ⟨rfl, rfl⟩ := hk.unique hk'
        rfl

theorem validated_eq_ok_iff (conditions : Value) (strict : Bool) (specs : List Spec) :
    validated conditions strict = .ok specs ↔
      ∃ entries, conditions.items? = some entries ∧ ReadInto strict entries specs := by
  cases hi : conditions.items? with
  | none =>
    rw [validated_of_no_sequence hi]
    simp
  | some entries =>
    rcases validated_cases hi strict with ⟨specs', hs, hr⟩ | ⟨i, k, hk, hr⟩
    · rw [hr]
      constructor
      · rintro ⟨⟩
        exact ⟨entries, rfl, hs⟩
      · rintro ⟨_, ⟨⟩, hs'⟩
        rw [hs.unique hs']
    · rw [hr]
      constructor
      · rintro ⟨⟩
      · rintro ⟨_, ⟨⟩, hs'⟩
        exact absurd hk hs'.not_firstFault

/-- Specifications are read as they are if the strict rule admits them. -/
theorem validate_specs {specs : List Spec} {strict : Bool}
    (h : ∀ s ∈ specs, (strict && !s.isStrict) = false) :
    validate (.tuple (specs.map Spec.toValue)) strict = .ok specs := by
  have hitems : (Value.tuple (specs.map Spec.toValue)).items? = some (specs.map Spec.toValue) := rfl
  rw [validate_of_items? hitems]
  rcases Spec.ofEntriesFrom_cases strict 0 (specs.map Spec.toValue) with
    ⟨specs', hread, hr⟩ | ⟨i, k, hk, -⟩
  · have hself : ReadInto strict (specs.map Spec.toValue) specs := by
      refine ⟨hread.sound, (List.length_map _).symm, fun i entry s he hs => .itself ?_⟩
      rw [List.getElem?_map, hs] at he
      exact (Option.some.inj he).symm
    rw [hr, hread.unique hself]
  · obtain ⟨entry, he, hfirst⟩ := hk.fault
    obtain ⟨s, hs, rfl⟩ := List.mem_map.1 (List.mem_of_getElem? he)
    have hbad := ((Spec.StandsFor.itself rfl).in_iff k).1 hfirst.has
    rw [h s hs] at hbad
    cases hbad.2

/-- What was read is admitted by the strict rule. -/
theorem isStrict_of_validate {conditions : Value} {strict : Bool} {specs : List Spec}
    (h : validate conditions strict = .ok specs) {s : Spec} (hs : s ∈ specs) :
    (strict && !s.isStrict) = false := by
  have hv : validated conditions strict = .ok specs := by
    rw [validated, h]
    rfl
  obtain ⟨entries, -, hread⟩ := (validated_eq_ok_iff conditions strict specs).1 hv
  obtain ⟨i, hi⟩ := List.mem_iff_getElem?.1 hs
  have hlt : i < entries.length := hread.length ▸ (List.getElem?_eq_some_iff.1 hi).1
  have he := List.getElem?_eq_getElem hlt
  refine Bool.eq_false_iff.2 fun hbad => ?_
  exact hread.sound i _ he .badCheck (((hread.stands i _ s he hi).in_iff _).2 ⟨rfl, hbad⟩)

/-- Texts and byte strings of every class are no sequences. -/
theorem Value.items?_of_textLength? {v : Value} (h : v.textLength?.isSome = true) :
    v.items? = none := by
  cases v with
  | object id o => cases o <;> first | rfl | cases h
  | _ => first | rfl | cases h

namespace Session

/-! ## What evaluators keep -/

/-- A session after some changes. -/
def performAll (cs : List Change) (s : Session) : Session := cs.foldl (fun t c => c.perform t) s

/-- The specifications of the evaluator of a number. -/
def specs? (s : Session) (n : Nat) : Option (List Spec) := s.evaluators[n]?.map Evaluator.specs

/-- No change replaces the specifications of an evaluator. -/
theorem specs?_perform {s : Session} {n : Nat} {specs : List Spec} (h : s.specs? n = some specs)
    (c : Change) : (c.perform s).specs? n = some specs := by
  obtain ⟨e, he, rfl⟩ := Option.map_eq_some_iff.1 h
  obtain ⟨a, ha⟩ := evaluator_perform c he
  rw [specs?, ha]
  rfl

theorem specs?_performAll {s : Session} {n : Nat} {specs : List Spec}
    (h : s.specs? n = some specs) (cs : List Change) : (s.performAll cs).specs? n = some specs := by
  induction cs generalizing s with
  | nil => exact h
  | cons c cs ih => exact ih (specs?_perform h c)

/-- A new evaluator has the specifications that its list is read into; a missing list is empty. -/
theorem specs?_of_make {conditions fallback : Option Value} {strict : Bool} {source : Source}
    {s t : Session} {n : Nat} (h : make (.mk conditions fallback strict source) s = .ok n t) :
    ∃ specs, validated (conditions.getD (.tuple [])) strict = .ok specs ∧
      t.specs? n = some specs := by
  rw [make_run] at h
  cases hp : provider source with
  | error e =>
    rw [hp] at h
    cases h
  | ok p =>
    rw [hp] at h
    cases hv : validate (conditions.getD (.tuple [])) strict with
    | error fault =>
      rw [hv] at h
      cases h
    | ok specs =>
      rw [hv] at h
      cases h
      refine ⟨specs, ?_, ?_⟩
      · rw [validated, hv]
        rfl
      · rw [specs?, getElem?_withMade]
        rfl

/-- A condition list, wherever it is kept, is refused exactly if it is no sequence or some entry is
at fault, and the text names the first entry at fault and its first fault. Any other list is read
into one specification an entry: the entry itself, or its check and its name. An evaluator that is
made from the list keeps what it was read into, also when the list or its entries are written later
or anything else happens. -/
theorem validated_reports_first_fault (s : Session) (place : Slot) (strict : Bool) :
    (∀ e, validated (s.store.value place) strict = .error e ↔
      (s.store.value place).items? = none ∧ e = refusal "Conditions must be an array" ∨
      ∃ entries i k, (s.store.value place).items? = some entries ∧
        FirstFault strict entries i k ∧
        e = refusal ("Condition at index " ++ toString i ++ " " ++ k.text)) ∧
    (∀ specs, validated (s.store.value place) strict = .ok specs ↔
      ∃ entries, (s.store.value place).items? = some entries ∧ ReadInto strict entries specs) ∧
    ((s.store.value place).textLength?.isSome = true → (s.store.value place).items? = none) ∧
    ∀ (fallback : Option Value) (source : Source) (n : Nat) (t : Session),
      make (.mk (some (s.store.value place)) fallback strict source) s = .ok n t →
      ∃ specs, validated (s.store.value place) strict = .ok specs ∧
        ∀ cs : List Change, (t.performAll cs).specs? n = some specs := by
  refine ⟨validated_eq_error_iff _ strict, validated_eq_ok_iff _ strict,
    Value.items?_of_textLength?, fun fallback source n t hmake => ?_⟩
  obtain ⟨specs, hv, ht⟩ := specs?_of_make hmake
  exact ⟨specs, hv, specs?_performAll ht⟩

/-- A list with one mapping, which is kept in a cell. -/
def listInCell : Session :=
  (Change.hold (.list [.dict [(.str "check", .bool true), (.str "name", .str "a")]])).perform
    (start [])

/-- The list in the cell is written after an evaluator was made from it: no other evaluator could be
made from it any more, and the first one keeps its condition. -/
theorem specs_kept_after_list_written :
    ∃ t, make (.mk (some (listInCell.store.value (.shared 0))) none false .process) listInCell =
        .ok 0 t ∧
      (t.performAll [.write 0 (.int 0) (.int 7)]).specs? 0 = some [⟨.bool true, .str "a"⟩] ∧
      validated ((t.performAll [.write 0 (.int 0) (.int 7)]).store.value (.shared 0)) false =
        .error (refusal "Condition at index 0 must be an object") := by
  refine ⟨_, rfl, ?_, rfl⟩
  obtain ⟨-, -, -, hkept⟩ := validated_reports_first_fault listInCell (.shared 0) false
  obtain ⟨specs, hv, hspecs⟩ := hkept none .process 0 _ rfl
  cases hv
  exact hspecs _

end Session

end NamedConditions
