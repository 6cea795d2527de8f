import NamedConditions.Context.Source
/-!
Slots and the cells behind them. A store that only gained cells extends the one before, and slots
that lie within a store stand for the same values in every store that extends it. Every slot that
the store hands out lies within it; so does every slot of a context that a mapping was taken into,
and its values are those of the mapping.
-/
namespace NamedConditions

namespace Value

theorem exists_of_bind_eq_ok {ε α β : Type} {x : Except ε α} {f : α → Except ε β} {b : β}
    (h : (x >>= f) = .ok b) : ∃ a, x = .ok a ∧ f a = .ok b := by
  cases x with
  | error e => cases h
  | ok a => exact ⟨a, rfl, h⟩

/-- What an item is written into can change before and after. -/
theorem isChangeable_of_withItem {key v w w' : Value} (h : withItem key v w = .ok w') :
    w'.isChangeable = true ∧ w.isChangeable = true := by
  unfold withItem at h
  split at h
  · split at h
    · cases h
    · cases h
      exact ⟨rfl, rfl⟩
  · obtain ⟨place, -, h⟩ := exists_of_bind_eq_ok h
    obtain ⟨xs, -, h⟩ := exists_of_bind_eq_ok h
    cases h
    exact ⟨rfl, rfl⟩
  · obtain ⟨place, -, h⟩ := exists_of_bind_eq_ok h
    obtain ⟨xs, -, h⟩ := exists_of_bind_eq_ok h
    cases h
    exact ⟨rfl, rfl⟩
  · obtain ⟨place, -, h⟩ := exists_of_bind_eq_ok h
    obtain ⟨xs, -, h⟩ := exists_of_bind_eq_ok h
    cases h
    exact ⟨rfl, rfl⟩
  · obtain ⟨place, -, h⟩ := exists_of_bind_eq_ok h
    obtain ⟨os, -, h⟩ := exists_of_bind_eq_ok h
    cases h
    exact ⟨rfl, rfl⟩
  · cases h
  · cases h

end Value

/-- The slot is a value, or a cell that the store has. -/
def Slot.Within (s : Store) : Slot → Prop
  | .plain _ => True
  | .shared number => number < s.cells.length

/-- All slots of the context lie within the store. -/
def Context.Within (s : Store) (c : Context) : Prop := ∀ e ∈ c, e.2.Within s

namespace Store

/-- The second store has the cells of the first, unchanged, and perhaps more. -/
def Extends (s t : Store) : Prop := s.cells <+: t.cells

theorem Extends.refl (s : Store) : s.Extends s := List.prefix_rfl

theorem Extends.trans {s t u : Store} (hst : s.Extends t) (htu : t.Extends u) : s.Extends u :=
  List.IsPrefix.trans hst htu

theorem extends_allocate (s : Store) (v : Value) : s.Extends (s.allocate v).2 :=
  List.prefix_append _ _

theorem extends_slot (s : Store) (v : Value) : s.Extends (s.slot v).2 := by
  unfold slot
  split
  · exact extends_allocate s v
  · exact .refl s

theorem extends_context (s : Store) (es : Entries) : s.Extends (s.context es).2 := by
  induction es generalizing s with
  | nil => exact .refl s
  | cons e es ih => exact (extends_slot s e.2).trans (ih _)

theorem extends_read (p : Provider) (process : Variables) (s : Store) :
    s.Extends (p.read process s).2.2 := by
  cases p with
  | fixed es => exact extends_allocate s _
  | varying outcomes =>
    rw [Provider.read]
    cases outcomes 0 with
    | ok v => exact extends_slot s v
    | error e => exact .refl s
  | process => exact extends_allocate s _

theorem Extends.within {s t : Store} (h : s.Extends t) {slot : Slot} (hs : slot.Within s) :
    slot.Within t := by
  cases slot with
  | plain v => trivial
  | shared number => exact Nat.lt_of_lt_of_le hs (List.IsPrefix.length_le h)

theorem Extends.value {s t : Store} (h : s.Extends t) {slot : Slot} (hs : slot.Within s) :
    t.value slot = s.value slot := by
  cases slot with
  | plain v => rfl
  | shared number =>
    obtain ⟨rest, hr⟩ := h
    rw [Store.value, Store.value, content, content, ← hr, List.getD, List.getD,
      List.getElem?_append_left hs]

theorem Extends.values {s t : Store} (h : s.Extends t) {c : Context} (hc : c.Within s) :
    t.values c = s.values c := by
  refine List.map_congr_left fun e he => ?_
  rw [h.value (hc e he)]

/-! ## What the store hands out -/

theorem within_allocate (s : Store) (v : Value) :
    (Slot.shared (s.allocate v).1).Within (s.allocate v).2 := by
  rw [Slot.Within, allocate, List.length_append]
  exact Nat.lt_succ_self _

theorem within_slot (s : Store) (v : Value) : (s.slot v).1.Within (s.slot v).2 := by
  unfold slot
  split
  · exact within_allocate s v
  · trivial

theorem within_context (s : Store) (es : Entries) :
    Context.Within (s.context es).2 (s.context es).1 := by
  induction es generalizing s with
  | nil =>
    intro e he
    cases he
  | cons e es ih =>
    intro x hx
    rcases List.mem_cons.1 hx with rfl | hx
    · exact (extends_context _ es).within (within_slot s e.2)
    · exact ih _ x hx

/-- A context that a mapping was taken into has the entries of the mapping. -/
theorem values_context (s : Store) (es : Entries) :
    (s.context es).2.values (s.context es).1 = es := by
  induction es generalizing s with
  | nil => rfl
  | cons e es ih =>
    have hv := (extends_context (s.slot e.2).2 es).value (within_slot s e.2)
    rw [value_slot_self] at hv
    have ht := ih (s.slot e.2).2
    simp only [values, Layer.mapStored] at ht ⊢
    simp only [context, List.map_cons, hv, ht]

/-! ## Cells that a store does not have -/

theorem content_of_length_le {s : Store} {number : Nat} (h : s.cells.length ≤ number) :
    s.content number = .null := by
  rw [content, List.getD_eq_getElem?_getD, List.getElem?_eq_none h]
  rfl

theorem lt_length_of_isChangeable {s : Store} {number : Nat}
    (h : (s.content number).isChangeable = true) : number < s.cells.length := by
  refine Nat.lt_of_not_le fun hn => ?_
  rw [content_of_length_le hn] at h
  cases h

theorem content_allocate_of_ne {s : Store} {number : Nat} (h : number ≠ s.cells.length)
    (v : Value) : (s.allocate v).2.content number = s.content number := by
  rcases Nat.lt_or_ge number s.cells.length with hlt | hge
  · exact content_allocate_of_lt hlt v
  · rw [content_of_length_le hge, content_of_length_le]
    rw [allocate, List.length_append]
    exact Nat.lt_of_le_of_ne hge (Ne.symm h)

/-! ## Writes -/

/-- A write of a cell keeps the number of cells. -/
theorem length_of_write {s t : Store} {number : Nat} {key v : Value}
    (h : s.write number key v = .ok t) : t.cells.length = s.cells.length := by
  unfold write at h
  cases hw : Value.withItem key v (s.content number) with
  | error e =>
    rw [hw] at h
    cases h
  | ok w =>
    rw [hw] at h
    cases h
    exact List.length_set

/-- The second store has the cells of the first, each holding what can change if it did before, and
perhaps more. -/
structure Evolves (s t : Store) : Prop where
  length : s.cells.length ≤ t.cells.length
  changeable : ∀ number < s.cells.length,
    (t.content number).isChangeable = (s.content number).isChangeable

theorem Extends.content {s t : Store} (h : s.Extends t) {number : Nat}
    (hn : number < s.cells.length) : t.content number = s.content number :=
  h.value (show Slot.Within s (.shared number) from hn)

theorem Extends.evolves {s t : Store} (h : s.Extends t) : s.Evolves t :=
  ⟨List.IsPrefix.length_le h, fun _ hn => by rw [h.content hn]⟩

/-- What is written into can still change. -/
theorem evolves_of_write {s t : Store} {number : Nat} {key v : Value}
    (h : s.write number key v = .ok t) : s.Evolves t := by
  refine ⟨Nat.le_of_eq (length_of_write h).symm, fun other hn => ?_⟩
  by_cases hne : other = number
  · subst hne
    unfold write at h
    cases hw : Value.withItem key v (s.content other) with
    | error e =>
      rw [hw] at h
      cases h
    | ok w =>
      rw [hw] at h
      cases h
      obtain ⟨hw', hw⟩ := Value.isChangeable_of_withItem hw
      rw [content_replace_self hn, hw, hw']
  · rw [content_of_write_of_ne h hne]

end Store

theorem Slot.within_of_length_le {s t : Store} (h : s.cells.length ≤ t.cells.length) {slot : Slot}
    (hs : slot.Within s) : slot.Within t := by
  cases slot with
  | plain v => trivial
  | shared number => exact Nat.lt_of_lt_of_le hs h

end NamedConditions
