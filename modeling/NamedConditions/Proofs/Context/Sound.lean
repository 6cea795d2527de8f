import NamedConditions.Proofs.Session.Invariant
/-!
Contexts as sessions make them. Their cells are there, no cell stands under two keys of one context,
and a slot is a cell exactly if what it stands for can change. So what a predicate writes into one
value of its context is seen under one key of it, and two contexts with the same values are made of
cells in the same places.

Main statement (`sound_of_reachable`): every accumulated context of a reachable session is like
this.
-/
namespace NamedConditions

/-- The cell of a slot, if it has one. -/
def Slot.cell? : Slot → Option Nat
  | .plain _ => none
  | .shared number => some number

/-- A slot is a cell exactly if what it stands for can change. -/
def Slot.Settled (s : Store) (slot : Slot) : Prop :=
  slot.cell?.isSome = (s.value slot).isChangeable

theorem Slot.lt_of_cell? {s : Store} {slot : Slot} (hw : slot.Within s) {number : Nat}
    (h : slot.cell? = some number) : number < s.cells.length := by
  cases slot with
  | plain v => cases h
  | shared n =>
    cases h
    exact hw

namespace Context

/-- The cells that a context holds, one entry after another. -/
def cells (c : Context) : List Nat := c.filterMap fun e => e.2.cell?

/-- A context as sessions make them. -/
structure Sound (s : Store) (c : Context) : Prop where
  within : c.Within s
  /-- No cell stands under two keys. -/
  unshared : c.cells.Nodup
  settled : ∀ e ∈ c, e.2.Settled s

/-! ## Cells of contexts -/

theorem nodup_toList (cell? : Option Nat) : cell?.toList.Nodup := by
  cases cell? with
  | none => exact List.nodup_nil
  | some number => simp

theorem cells_cons (e : Value × Slot) (c : Context) :
    cells (e :: c) = e.2.cell?.toList ++ cells c := by
  rw [cells, List.filterMap_cons]
  cases e.2.cell? <;> rfl

theorem mem_cells {c : Context} {number : Nat} :
    number ∈ c.cells ↔ ∃ e ∈ c, e.2 = .shared number := by
  rw [cells, List.mem_filterMap]
  refine exists_congr fun e => and_congr_right fun _ => ?_
  cases e.2 with
  | plain v => exact ⟨nofun, nofun⟩
  | shared n => exact ⟨fun h => congrArg Slot.shared (Option.some.inj h), fun h => by cases h; rfl⟩

theorem Within.lt_of_mem_cells {s : Store} {c : Context} (h : c.Within s) {number : Nat}
    (hn : number ∈ c.cells) : number < s.cells.length := by
  obtain ⟨e, he, hs⟩ := mem_cells.1 hn
  have hw := h e he
  rwa [hs] at hw

theorem mem_cells_insert {key : Value} {slot : Slot} {c : Context} {number : Nat}
    (h : number ∈ cells (Layer.insert key slot c)) :
    slot.cell? = some number ∨ number ∈ c.cells := by
  obtain ⟨e, he, hs⟩ := mem_cells.1 h
  obtain ⟨y, hy, hyx⟩ := Layer.exists_of_mem_insert (e := (key, slot)) he
  rw [hs] at hyx
  rcases List.mem_cons.1 hy with rfl | hy
  · exact .inl (by rw [show slot = .shared number from hyx]; rfl)
  · exact .inr (mem_cells.2 ⟨y, hy, hyx⟩)

/-- A cell of a merged context is one of its two layers. -/
theorem mem_cells_merge {a b : Context} {number : Nat} (h : number ∈ cells (Layer.merge a b)) :
    number ∈ a.cells ∨ number ∈ b.cells := by
  obtain ⟨x, hx, hs⟩ := mem_cells.1 h
  obtain ⟨y, hy, hyx⟩ := Layer.exists_of_mem_merge hx
  rw [hs] at hyx
  exact (List.mem_append.1 hy).imp (fun hy => mem_cells.2 ⟨y, hy, hyx⟩)
    fun hy => mem_cells.2 ⟨y, hy, hyx⟩

/-- Writing a slot that stands nowhere else puts no cell under two keys. -/
theorem nodup_cells_insert {c : Context} (hc : c.cells.Nodup) {slot : Slot}
    (hs : ∀ number, slot.cell? = some number → number ∉ c.cells) (key : Value) :
    (cells (Layer.insert key slot c)).Nodup := by
  induction c with
  | nil =>
    rw [Layer.insert, cells_cons, cells, List.filterMap_nil, List.append_nil]
    exact nodup_toList slot.cell?
  | cons e c ih =>
    rw [cells_cons] at hc hs
    obtain ⟨hfirst, hrest, hapart⟩ := List.nodup_append.1 hc
    rw [Layer.insert]
    split
    · rw [cells_cons, List.nodup_append]
      refine ⟨nodup_toList slot.cell?, hrest, ?_⟩
      · intro n hn m hm he
        subst he
        exact hs n (Option.mem_toList.1 hn) (List.mem_append_right _ hm)
    · rw [cells_cons, List.nodup_append]
      refine ⟨hfirst, ih hrest fun n hn hm => ?_, ?_⟩
      · exact hs n hn (List.mem_append_right _ hm)
      · intro n hn m hm he
        subst he
        rcases mem_cells_insert hm with hm | hm
        · exact hs n hm (List.mem_append_left _ hn)
        · exact hapart n hn n hm rfl

/-- Merging contexts that hold no cell in common puts no cell under two keys. -/
theorem nodup_cells_merge {a b : Context} (h : (a.cells ++ b.cells).Nodup) :
    (cells (Layer.merge a b)).Nodup := by
  induction b generalizing a with
  | nil => exact (List.nodup_append.1 h).1
  | cons e b ih =>
    rw [cells_cons] at h
    obtain ⟨ha, hb, hapart⟩ := List.nodup_append.1 h
    obtain ⟨-, hb', hapart'⟩ := List.nodup_append.1 hb
    rw [Layer.merge_cons]
    refine ih (List.nodup_append.2 ⟨nodup_cells_insert ha (fun n hn hm => ?_) e.1, hb', ?_⟩)
    · exact hapart n hm n (List.mem_append_left _ (Option.mem_toList.2 hn)) rfl
    · intro n hn m hm he
      subst he
      rcases mem_cells_insert hn with hn | hn
      · exact hapart' n (Option.mem_toList.2 hn) n hm rfl
      · exact hapart n hn n (List.mem_append_right _ hm) rfl

/-! ## Sound contexts -/

theorem sound_nil (s : Store) : Sound s [] :=
  ⟨nofun, List.nodup_nil, nofun⟩

/-- A context stays sound whatever is written into cells. -/
theorem Sound.evolve {s t : Store} {c : Context} (h : c.Sound s) (hst : s.Evolves t) :
    c.Sound t := by
  refine ⟨fun e he => Slot.within_of_length_le hst.length (h.within e he), h.unshared, ?_⟩
  intro e he
  have hw := h.within e he
  have hset := h.settled e he
  unfold Slot.Settled at hset ⊢
  rw [hset]
  cases hs : e.2 with
  | plain v => rfl
  | shared number =>
    rw [hs] at hw
    exact (hst.changeable number hw).symm

theorem Sound.merge {s : Store} {a b : Context} (ha : a.Sound s) (hb : b.Sound s)
    (h : ∀ number ∈ a.cells, number ∉ b.cells) : Sound s (Layer.merge a b) := by
  refine ⟨?_, nodup_cells_merge (List.nodup_append.2 ⟨ha.unshared, hb.unshared, ?_⟩), ?_⟩
  · exact Session.within_merge ha.within hb.within
  · intro n hn m hm he
    subst he
    exact h n hn hm
  · intro e he
    obtain ⟨y, hy, hyx⟩ := Layer.exists_of_mem_merge he
    rw [← hyx]
    rcases List.mem_append.1 hy with hy | hy
    · exact ha.settled y hy
    · exact hb.settled y hy

theorem Sound.erase {s : Store} {c : Context} (h : c.Sound s) (key : Value) :
    Sound s (Layer.erase key c) := by
  have hsub : (Layer.erase key c).Sublist c := List.filter_sublist
  exact ⟨fun e he => h.within e (hsub.subset he), h.unshared.sublist (hsub.filterMap _),
    fun e he => h.settled e (hsub.subset he)⟩

/-- A context of one entry, of which the slot is new. -/
theorem sound_singleton {s : Store} {slot : Slot} (key : Value) (hw : slot.Within s)
    (hs : slot.Settled s) : Sound s [(key, slot)] := by
  refine ⟨?_, ?_, ?_⟩
  · intro e he
    rw [List.mem_singleton.1 he]
    exact hw
  · rw [cells_cons, cells, List.filterMap_nil, List.append_nil]
    exact nodup_toList slot.cell?
  · intro e he
    rw [List.mem_singleton.1 he]
    exact hs

end Context

namespace Store

theorem settled_slot (s : Store) (v : Value) : (s.slot v).1.Settled (s.slot v).2 := by
  rw [Slot.Settled, value_slot_self]
  unfold slot
  split
  · rename_i h
    rw [h]
    rfl
  · rename_i h
    rw [Bool.not_eq_true] at h
    rw [h]
    rfl

/-- The cell of a new slot is a new one. -/
theorem le_of_cell?_slot {s : Store} {v : Value} {number : Nat}
    (h : (s.slot v).1.cell? = some number) : s.cells.length ≤ number := by
  unfold slot at h
  split at h
  · cases h
    exact Nat.le_refl _
  · cases h

/-- A new slot under a key keeps a context sound. -/
theorem sound_insert_slot {s : Store} {c : Context} (h : c.Sound s) (key v : Value) :
    Context.Sound (s.slot v).2 (Layer.insert key (s.slot v).1 c) := by
  have hold := h.evolve (s.extends_slot v).evolves
  refine ⟨?_, Context.nodup_cells_insert h.unshared (fun number hn hm => ?_) key, ?_⟩
  · intro x hx
    obtain ⟨y, hy, hyx⟩ := Layer.exists_of_mem_insert (e := (key, (s.slot v).1)) hx
    rw [← hyx]
    rcases List.mem_cons.1 hy with rfl | hy
    · exact within_slot s v
    · exact hold.within y hy
  · have := h.within.lt_of_mem_cells hm
    have := le_of_cell?_slot hn
    omega
  · intro x hx
    obtain ⟨y, hy, hyx⟩ := Layer.exists_of_mem_insert (e := (key, (s.slot v).1)) hx
    rw [← hyx]
    rcases List.mem_cons.1 hy with rfl | hy
    · exact settled_slot s v
    · exact hold.settled y hy

/-- A context that a mapping was taken into is sound and of new cells. -/
theorem sound_context (s : Store) (es : Entries) :
    Context.Sound (s.context es).2 (s.context es).1 ∧
      ∀ number ∈ Context.cells (s.context es).1, s.cells.length ≤ number := by
  induction es generalizing s with
  | nil => exact ⟨Context.sound_nil s, fun _ h => by cases h⟩
  | cons e es ih =>
    obtain ⟨hsound, hnew⟩ := ih (s.slot e.2).2
    have hext := extends_context (s.slot e.2).2 es
    have hlen := List.IsPrefix.length_le (extends_slot s e.2)
    rw [context]
    refine ⟨⟨?_, ?_, ?_⟩, ?_⟩
    · exact within_context s (e :: es)
    · rw [Context.cells_cons, List.nodup_append]
      refine ⟨Context.nodup_toList _, hsound.unshared, ?_⟩
      intro n hn m hm he
      subst he
      have hlt := Slot.lt_of_cell? (within_slot s e.2) (Option.mem_toList.1 hn)
      exact absurd (hnew n hm) (Nat.not_le.2 hlt)
    · intro x hx
      rcases List.mem_cons.1 hx with rfl | hx
      · have hset := settled_slot s e.2
        unfold Slot.Settled at hset ⊢
        rw [hset, hext.value (within_slot s e.2)]
      · exact hsound.settled x hx
    · intro n hn
      rw [Context.cells_cons] at hn
      rcases List.mem_append.1 hn with hn | hn
      · exact le_of_cell?_slot (Option.mem_toList.1 hn)
      · exact Nat.le_trans hlen (hnew n hn)

/-- A mapping that is taken into a store adds new cells to a context that is merged with it. -/
theorem sound_merge_context {s : Store} {c : Context} (hc : c.Sound s) (es : Entries) :
    Context.Sound (s.context es).2 (Layer.merge c (s.context es).1) := by
  obtain ⟨hsound, hnew⟩ := s.sound_context es
  refine (hc.evolve (s.extends_context es).evolves).merge hsound fun number hn hn' => ?_
  exact absurd (hc.within.lt_of_mem_cells hn) (Nat.not_lt.2 (hnew number hn'))

end Store

namespace Session

/-! ## Accumulated contexts are sound -/

theorem soundLaw : EvaluatorLaw fun s e => e.accumulated.Sound s where
  evolve h hst := h.evolve hst
  give es h := Store.sound_merge_context h es
  clear _ := Context.sound_nil _
  make _ ha := ha ▸ Context.sound_nil _
  fork h _ := h

theorem sound_of_reachable {s : Session} (h : Reachable s) (n : Nat) (e : Evaluator)
    (he : s.evaluators[n]? = some e) : e.accumulated.Sound s.store :=
  soundLaw.of_reachable h n e he

end Session

end NamedConditions
