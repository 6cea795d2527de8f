import Mathlib.Data.List.Forall2
import NamedConditions.Proofs.Session.Confined
/-!
Two runs in which different cells stand for the same things. A renaming links cells of the one run
with cells of the other, one to one; cells that are made from some point on are linked in the order
in which they are made, which is why the renaming can be fixed before the runs. Linked cells hold
the same, and stay so, since what is written into one of them is written into the other.

Main statement (`dependsOnReceived_of_quiet`): a quiet condition depends on what it receives and on
nothing else, because the cells in two sound contexts of the same values can be linked place by
place.
-/
namespace NamedConditions

/-- Links between the cells of two stores, which have so many cells to begin with. -/
structure Renaming (first second : Nat) where
  links : Nat → Nat → Prop
  unique {m a b : Nat} : links m a → links m b → a = b
  injective {m n a : Nat} : links m a → links n a → m = n
  /-- Cells that are made at the same time are linked. -/
  fresh (count : Nat) : links (first + count) (second + count)

namespace Renaming

variable {first second : Nat} (ρ : Renaming first second)

/-- Slots that stand for the same. -/
inductive Slots : Slot → Slot → Prop
  | plain (v : Value) : Slots (.plain v) (.plain v)
  | shared {m n : Nat} (h : ρ.links m n) : Slots (.shared m) (.shared n)

/-- Operands that stand for the same. -/
inductive Operands : Operand → Operand → Prop
  | slot {a b : Slot} (h : ρ.Slots a b) : Operands (.slot a) (.slot b)
  | subject : Operands .subject .subject

/-- Contexts of the same keys, with slots that stand for the same. -/
def Contexts : Context → Context → Prop :=
  List.Forall₂ fun x y => x.1 = y.1 ∧ ρ.Slots x.2 y.2

/-- Stores that gained equally many cells, and in which linked cells hold the same. -/
structure Stores (s t : Store) : Prop where
  grown : ∃ count, s.cells.length = first + count ∧ t.cells.length = second + count
  content {m n : Nat} : ρ.links m n → s.content m = t.content n

/-- Frames in which the same is received. -/
structure Frames (f g : Frame) : Prop where
  subject : ∃ c c', f.subject = .context c ∧ g.subject = .context c' ∧ ρ.Contexts c c'
  store : ρ.Stores f.session.store g.session.store

variable {ρ} {s t : Store} {a b : Slot} {c c' : Context}

/-! ## What is looked up -/

theorem Stores.value (h : ρ.Stores s t) (hs : ρ.Slots a b) : s.value a = t.value b := by
  cases hs with
  | plain v => rfl
  | shared hl => exact h.content hl

theorem Stores.values (h : ρ.Stores s t) (hc : ρ.Contexts c c') : s.values c = t.values c' := by
  induction hc with
  | nil => rfl
  | @cons x y c c' hx _ ih =>
    have hv : (x.1, s.value x.2) = (y.1, t.value y.2) := by rw [hx.1, h.value hx.2]
    exact List.cons_eq_cons.2 ⟨hv, ih⟩

theorem Contexts.find? (hc : ρ.Contexts c c') (key : Value) :
    Option.Rel ρ.Slots (Layer.find? c key) (Layer.find? c' key) := by
  induction hc with
  | nil => exact .none
  | cons hx _ ih =>
    rw [Layer.find?_cons, Layer.find?_cons, hx.1]
    split
    · exact .some hx.2
    · exact ih

theorem Contexts.has (hc : ρ.Contexts c c') (key : Value) : Layer.has c key = Layer.has c' key := by
  have h := hc.find? key
  rw [Layer.has, Layer.has]
  generalize Layer.find? c key = x at h
  generalize Layer.find? c' key = y at h
  cases h <;> rfl

theorem Contexts.insert (hc : ρ.Contexts c c') (hs : ρ.Slots a b) (key : Value) :
    ρ.Contexts (Layer.insert key a c) (Layer.insert key b c') := by
  induction hc with
  | nil => exact .cons ⟨rfl, hs⟩ .nil
  | cons hx hrest ih =>
    rw [Layer.insert, Layer.insert, hx.1]
    split
    · exact .cons ⟨rfl, hs⟩ hrest
    · exact .cons hx ih

theorem Contexts.erase (hc : ρ.Contexts c c') (key : Value) :
    ρ.Contexts (Layer.erase key c) (Layer.erase key c') := by
  induction hc with
  | nil => exact .nil
  | cons hx _ ih =>
    rw [Layer.erase, Layer.erase, List.filter_cons, List.filter_cons, hx.1]
    split
    · exact .cons hx ih
    · exact ih

/-! ## Cells -/

/-- Cells that are allocated for the same value are linked. -/
theorem Stores.allocate (h : ρ.Stores s t) (v : Value) :
    ρ.links (s.allocate v).1 (t.allocate v).1 ∧ ρ.Stores (s.allocate v).2 (t.allocate v).2 := by
  obtain ⟨count, hs, ht⟩ := h.grown
  have hnew : ρ.links s.cells.length t.cells.length := by
    rw [hs, ht]
    exact ρ.fresh count
  refine ⟨hnew, ⟨count + 1, ?_, ?_⟩, fun {m n} hl => ?_⟩
  · rw [Store.allocate, List.length_append, hs]
    rfl
  · rw [Store.allocate, List.length_append, ht]
    rfl
  · by_cases hm : m = s.cells.length
    · subst hm
      rw [ρ.unique hl hnew]
      exact (s.content_allocate_self v).trans (t.content_allocate_self v).symm
    · have hn : n ≠ t.cells.length := by
        rintro rfl
        exact hm (ρ.injective hl hnew)
      rw [Store.content_allocate_of_ne hm, Store.content_allocate_of_ne hn, h.content hl]

theorem Stores.slot (h : ρ.Stores s t) (v : Value) :
    ρ.Slots (s.slot v).1 (t.slot v).1 ∧ ρ.Stores (s.slot v).2 (t.slot v).2 := by
  unfold Store.slot
  split
  · exact ⟨.shared (h.allocate v).1, (h.allocate v).2⟩
  · exact ⟨.plain v, h⟩

/-- An item that is written into linked cells is refused by both or leaves them the same. -/
theorem Stores.write (h : ρ.Stores s t) {m n : Nat} (hl : ρ.links m n) (key v : Value) :
    (∃ e, s.write m key v = .error e ∧ t.write n key v = .error e) ∨
      ∃ s' t', s.write m key v = .ok s' ∧ t.write n key v = .ok t' ∧ ρ.Stores s' t' := by
  rw [Store.write, Store.write, h.content hl]
  cases hw : Value.withItem key v (t.content n) with
  | error e => exact .inl ⟨e, rfl, rfl⟩
  | ok w =>
    have hch := (Value.isChangeable_of_withItem hw).2
    have hn := Store.lt_length_of_isChangeable hch
    have hm : m < s.cells.length := Store.lt_length_of_isChangeable (by rw [h.content hl, hch])
    refine .inr ⟨_, _, rfl, rfl, ?_, fun {m' n'} hl' => ?_⟩
    · obtain ⟨count, hs, ht⟩ := h.grown
      exact ⟨count, by rw [Store.replace, List.length_set, hs],
        by rw [Store.replace, List.length_set, ht]⟩
    · by_cases hmm : m' = m
      · subst hmm
        rw [ρ.unique hl' hl, Store.content_replace_self hm, Store.content_replace_self hn]
      · have hnn : n' ≠ n := by
          rintro rfl
          exact hmm (ρ.injective hl' hl)
        rw [Store.content_replace_of_ne hmm, Store.content_replace_of_ne hnn, h.content hl']

/-! ## Expressions -/

namespace Frames

variable {f g : Frame}

theorem received (h : ρ.Frames f g) : f.received = g.received := by
  obtain ⟨c, c', hf, hg, hc⟩ := h.subject
  rw [Frame.received, Frame.received, hf, hg]
  exact congrArg Value.dict (h.store.values hc)

theorem contextFor (member : String) :
    Run.Simulates ρ.Frames ρ.Contexts (Frame.contextFor member) (Frame.contextFor member) := by
  refine Run.Simulates.get_bind fun f g h => ?_
  obtain ⟨c, c', hf, hg, hc⟩ := h.subject
  rw [hf, hg]
  exact .ok hc h

theorem lookUp? (key : Value) :
    Run.Simulates ρ.Frames (Option.Rel ρ.Slots) (Frame.lookUp? key) (Frame.lookUp? key) := by
  unfold Frame.lookUp?
  refine Run.Simulates.bind (contextFor "get") fun c c' hc => ?_
  exact Run.Simulates.bind_eq (Run.needKey_simulates key)
    fun _ => Run.Simulates.pure (hc.find? key)

theorem has (key : Value) :
    Run.Simulates ρ.Frames Eq (Frame.has key) (Frame.has key) := by
  refine Run.Simulates.get_bind fun f g h => ?_
  obtain ⟨c, c', hf, hg, hc⟩ := h.subject
  rw [hf, hg]
  exact Run.Simulates.bind_eq (Run.needKey_simulates key)
    (fun _ => Run.Simulates.pure (hc.has key)) f g h

theorem item (path : List Value) :
    Run.Simulates ρ.Frames ρ.Operands (Frame.item path) (Frame.item path) := by
  refine Run.Simulates.get_bind fun f g h => ?_
  obtain ⟨c, c', hf, hg, hc⟩ := h.subject
  rcases path with _ | ⟨key, _ | ⟨next, path⟩⟩
  · exact .ok .subject h
  · rw [hf, hg]
    refine Run.Simulates.bind_eq (Run.needKey_simulates key) (fun _ => ?_) f g h
    have hfind := hc.find? key
    generalize Layer.find? c key = x at hfind
    generalize Layer.find? c' key = y at hfind
    cases hfind with
    | some hs => exact Run.Simulates.pure (.slot hs)
    | none => exact Run.Simulates.raise _
  · dsimp only
    rw [show f.subject.value f.session.store = g.subject.value g.session.store from h.received]
    exact Run.Simulates.bind_eq (Run.Simulates.ofExcept _)
      (fun v => Run.Simulates.pure (.slot (.plain v))) f g h

theorem assign (key v : Value) :
    Run.Simulates ρ.Frames Eq (Frame.assign key v) (Frame.assign key v) := by
  refine Run.Simulates.get_bind fun f g h => ?_
  obtain ⟨c, c', hf, hg, hc⟩ := h.subject
  rw [hf, hg]
  refine Run.Simulates.bind_eq (Run.needKey_simulates key) (fun _ => ?_) f g h
  refine Run.Simulates.modify fun f g h => ?_
  obtain ⟨c, c', hf, hg, hc⟩ := h.subject
  obtain ⟨hslot, hstore⟩ := h.store.slot v
  exact ⟨⟨_, _, Frame.subject_write hf _, Frame.subject_write hg _, hc.insert hslot key⟩, hstore⟩

theorem remove (key : Value) :
    Run.Simulates ρ.Frames ρ.Operands (Frame.remove key) (Frame.remove key) := by
  refine Run.Simulates.bind (contextFor "pop") fun c c' hc => ?_
  cases hc with
  | nil => exact Run.Simulates.pure (.slot (.plain .null))
  | cons hx hrest =>
    refine Run.Simulates.bind_eq (Run.needKey_simulates key) fun _ => ?_
    refine Run.Simulates.bind_eq (Run.Simulates.modify fun f g h => ?_) fun _ => ?_
    · obtain ⟨d, d', hf, hg, hd⟩ := h.subject
      exact ⟨⟨_, _, Frame.subject_write hf _, Frame.subject_write hg _, hd.erase key⟩, h.store⟩
    · have hfind := Contexts.find? (List.Forall₂.cons hx hrest) key
      refine Run.Simulates.pure ?_
      generalize Layer.find? (_ :: _) key = x at hfind
      generalize Layer.find? (_ :: _) key = y at hfind
      cases hfind with
      | some hs => exact .slot hs
      | none => exact .slot (.plain .null)

theorem assignEnv (key v : Value) :
    Run.Simulates ρ.Frames Eq (Frame.assignEnv key v) (Frame.assignEnv key v) := by
  refine Run.Simulates.get_bind fun f g h => ?_
  obtain ⟨c, c', hf, hg, hc⟩ := h.subject
  have hfind := hc.find? Context.envKey
  rw [hf, hg]
  dsimp only
  generalize Layer.find? c Context.envKey = x at hfind
  generalize Layer.find? c' Context.envKey = y at hfind
  cases hfind with
  | none => exact .error h
  | some hs =>
    cases hs with
    | plain w =>
      dsimp only
      refine Run.Simulates.bind_eq (Run.Simulates.ofExcept _) (fun w' => ?_) f g h
      refine Run.Simulates.modify fun f g h => ?_
      obtain ⟨d, d', hf, hg, hd⟩ := h.subject
      exact ⟨⟨_, _, Frame.subject_write hf _, Frame.subject_write hg _,
        hd.insert (.plain w') Context.envKey⟩, h.store⟩
    | @shared m n hl =>
      dsimp only
      rcases h.store.write hl key v with ⟨e, hw, hw'⟩ | ⟨s', t', hw, hw', hst⟩
      · simp only [hw, hw', Bind.bind, EStateM.bind]
        exact .error h
      · simp only [hw, hw', Bind.bind, EStateM.bind]
        exact .ok rfl ⟨⟨c, c', hf, hg, hc⟩, hst⟩

/-- What expressions do beyond their effects respects a renaming. -/
theorem law : Frame.OperandLaw ρ.Frames ρ.Operands where
  resolve h ho := by
    cases ho with
    | slot hs => exact h.store.value hs
    | subject => exact h.received
  value v := .slot (.plain v)
  subject := .subject
  lookUp? key := (lookUp? key).mono fun x y hxy => by
    cases hxy with
    | some hs => exact .some (.slot hs)
    | none => exact .none
  has := has
  item := item
  log v f g h := ⟨h.subject, h.store⟩
  assign := assign
  remove := remove

end Frames

/-! ## Sound contexts of the same values -/

theorem index_unique {α : Type} {l : List α} (h : l.Nodup) {i j : Nat} {x : α}
    (hi : l[i]? = some x) (hj : l[j]? = some x) : i = j :=
  (List.getElem?_inj (List.getElem?_eq_some_iff.1 hi).1 h).1 (hi.trans hj.symm)

/-- Links between the cells of two lists, place by place, and between new cells. -/
def ofCells {first second : Nat} {ms ns : List Nat} (hms : ms.Nodup) (hns : ns.Nodup)
    (hm : ∀ m ∈ ms, m < first) (hn : ∀ n ∈ ns, n < second) : Renaming first second where
  links m n := (∃ i : Nat, ms[i]? = some m ∧ ns[i]? = some n) ∨
    ∃ count, m = first + count ∧ n = second + count
  unique := by
    rintro m a b (⟨i, him, hia⟩ | ⟨count, rfl, rfl⟩) (⟨j, hjm, hjb⟩ | ⟨count', hc, rfl⟩)
    · obtain rfl := index_unique hms him hjm
      exact Option.some.inj (hia.symm.trans hjb)
    · have := hm m (List.mem_of_getElem? him)
      omega
    · have := hm _ (List.mem_of_getElem? hjm)
      omega
    · omega
  injective := by
    rintro m n a (⟨i, him, hia⟩ | ⟨count, rfl, rfl⟩) (⟨j, hjn, hja⟩ | ⟨count', rfl, hc⟩)
    · obtain rfl := index_unique hns hia hja
      exact Option.some.inj (him.symm.trans hjn)
    · have := hn a (List.mem_of_getElem? hia)
      omega
    · have := hn _ (List.mem_of_getElem? hja)
      omega
    · omega
  fresh count := .inr ⟨count, rfl, rfl⟩

/-- Slots of the same value are the same value or cells of the same content, if each is a cell
exactly if its value can change. -/
theorem settled_cases (ha : a.Settled s) (hb : b.Settled t) (h : s.value a = t.value b) :
    (∃ v, a = .plain v ∧ b = .plain v) ∨
      ∃ m n, a = .shared m ∧ b = .shared n ∧ s.content m = t.content n := by
  unfold Slot.Settled at ha hb
  rw [h, ← hb] at ha
  cases a with
  | plain v =>
    cases b with
    | plain w => exact .inl ⟨v, rfl, congrArg Slot.plain (Eq.symm h)⟩
    | shared n => cases ha
  | shared m =>
    cases b with
    | plain w => cases ha
    | shared n => exact .inr ⟨m, n, rfl, rfl, h⟩

/-- Contexts of the same values have cells in the same places, with the same contents; and they
stand for the same if these cells are linked. -/
theorem contexts_of_values (hc : ∀ x ∈ c, x.2.Settled s) (hc' : ∀ x ∈ c', x.2.Settled t)
    (h : s.values c = t.values c') :
    (∀ (i m n : Nat), c.cells[i]? = some m → c'.cells[i]? = some n → s.content m = t.content n) ∧
      ((∀ (i m n : Nat), c.cells[i]? = some m → c'.cells[i]? = some n → ρ.links m n) →
        ρ.Contexts c c') := by
  induction c generalizing c' with
  | nil =>
    cases c' with
    | nil => exact ⟨nofun, fun _ => .nil⟩
    | cons y c' => cases h
  | cons x c ih =>
    cases c' with
    | nil => cases h
    | cons y c' =>
      obtain ⟨hxy, hrest⟩ := List.cons.inj h
      obtain ⟨hkey, hvalue⟩ := Prod.mk.inj hxy
      obtain ⟨hx, hc⟩ := List.forall_mem_cons.1 hc
      obtain ⟨hy, hc'⟩ := List.forall_mem_cons.1 hc'
      obtain ⟨hcontents, hcontexts⟩ := ih hc hc' hrest
      rw [Context.cells_cons, Context.cells_cons]
      rcases settled_cases hx hy hvalue with ⟨v, hxv, hyv⟩ | ⟨m, n, hxm, hyn, hmn⟩
      · rw [hxv, hyv]
        refine ⟨hcontents, fun hl => .cons ⟨hkey, ?_⟩ (hcontexts hl)⟩
        rw [hxv, hyv]
        exact .plain v
      · rw [hxm, hyn]
        refine ⟨fun i => ?_, fun hl => .cons ⟨hkey, ?_⟩ (hcontexts fun i => hl (i + 1))⟩
        · cases i with
          | zero =>
            rintro m' n' ⟨⟩ ⟨⟩
            exact hmn
          | succ i => exact hcontents i
        · rw [hxm, hyn]
          exact .shared (hl 0 m n rfl rfl)

/-- Sound frames in which the same is received are frames of a renaming. -/
theorem exists_of_received {f g : Frame} (hf : f.Sound) (hg : g.Sound)
    (h : f.received = g.received) :
    ∃ ρ : Renaming f.session.store.cells.length g.session.store.cells.length, ρ.Frames f g := by
  obtain ⟨c, hfc, hc⟩ := hf
  obtain ⟨c', hgc, hc'⟩ := hg
  rw [Frame.received, Frame.received, hfc, hgc] at h
  obtain ⟨hcontents, hcontexts⟩ := contexts_of_values (ρ := ofCells hc.unshared hc'.unshared
    (fun _ => hc.within.lt_of_mem_cells) fun _ => hc'.within.lt_of_mem_cells)
    hc.settled hc'.settled (Value.dict.inj h)
  have hlinked := hcontexts fun i m n hm hn => .inl ⟨i, hm, hn⟩
  refine ⟨_, ⟨c, c', hfc, hgc, hlinked⟩, ⟨⟨0, rfl, rfl⟩, ?_⟩⟩
  rintro m n (⟨i, hm, hn⟩ | ⟨count, rfl, rfl⟩)
  · exact hcontents i m n hm hn
  · rw [Store.content_of_length_le (Nat.le_add_right _ _),
      Store.content_of_length_le (Nat.le_add_right _ _)]

end Renaming

/-- A quiet condition depends on what it receives and on nothing else. -/
theorem Condition.dependsOnReceived_of_quiet {c : Condition} (hq : c.isQuiet = true) (p : Passes) :
    c.DependsOnReceived p := by
  intro f g hf hg h
  obtain ⟨ρ, hρ⟩ := Renaming.exists_of_received hf hg h
  have hsim : Run.Simulates ρ.Frames Eq (Session.runCheck p c.check)
      (Session.runCheck p c.check) := by
    refine Session.runCheck_simulates_of Renaming.Frames.law c fun x hx => ?_
    cases Condition.isEffect_of_mem hx with
    | assignEnv key v =>
      simp only [Expr.run]
      exact Run.Simulates.bind_eq (Renaming.Frames.assignEnv key v)
        fun _ => Run.Simulates.pure (.slot (.plain .null))
    | nested h => exact Bool.noConfusion (hq.symm.trans h)
    | step h => exact Bool.noConfusion (hq.symm.trans h)
  exact (hsim f g hρ).mono fun _ _ => Renaming.Frames.received

end NamedConditions
