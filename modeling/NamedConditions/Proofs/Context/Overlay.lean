import NamedConditions.Value.Layer
/-!
What remains of entries that are written one after another. Of equal keys the one that came first
stays, where it stood, and what was written last under it is what it holds. This says what a layer
holds without saying how one is written.

Main statement (`ofEntries_eq_overlay`): writing entries into an empty layer leaves exactly that.
-/
namespace NamedConditions.Layer

variable {β : Type}

/-- The entries of which no entry before has the key. -/
def firsts : Layer β → Layer β
  | [] => []
  | e :: l => e :: (firsts l).filter fun x => !e.1.sameKey x.1

/-- Every key where it first stood, with what was written last under it. -/
def overlay (es : Layer β) : Layer β :=
  (firsts es).map fun e => (e.1, (find? es.reverse e.1).getD e.2)

/-- No two entries have the same key. -/
def Distinct (l : Layer β) : Prop := l.Pairwise fun a b => a.1.sameKey b.1 = false

/-! ## First entries -/

theorem mem_of_mem_firsts {es : Layer β} {x : Value × β} (h : x ∈ firsts es) : x ∈ es := by
  induction es with
  | nil => cases h
  | cons e es ih =>
    rcases List.mem_cons.1 h with rfl | h
    · exact List.mem_cons_self
    · exact List.mem_cons_of_mem _ (ih (List.mem_filter.1 h).1)

theorem distinct_firsts (es : Layer β) : Distinct (firsts es) := by
  induction es with
  | nil => exact List.Pairwise.nil
  | cons e es ih =>
    refine List.Pairwise.cons ?_ (List.Pairwise.filter _ ih)
    intro x hx
    have hk := (List.mem_filter.1 hx).2
    rwa [Bool.not_eq_true'] at hk

theorem has_iff {l : Layer β} {key : Value} :
    has l key = true ↔ ∃ x ∈ l, x.1.sameKey key = true := by
  simp [has, find?]

theorem exists_of_find? {l : Layer β} {key : Value} {b : β} (h : find? l key = some b) :
    ∃ x ∈ l, x.1.sameKey key = true ∧ x.2 = b := by
  rw [find?, Option.map_eq_some_iff] at h
  obtain ⟨x, hx, hb⟩ := h
  exact ⟨x, List.mem_of_find?_eq_some hx, by simpa using List.find?_some hx, hb⟩

/-- What an overlay holds are the keys and what stood under keys of the entries. -/
theorem exists_of_mem_overlay {es : Layer β} {e : Value × β} (h : e ∈ overlay es) :
    (∃ x ∈ es, x.1 = e.1) ∧ ∃ y ∈ es, y.2 = e.2 := by
  obtain ⟨x, hx, rfl⟩ := List.mem_map.1 h
  have hxs := mem_of_mem_firsts hx
  refine ⟨⟨x, hxs, rfl⟩, ?_⟩
  cases hf : find? es.reverse x.1 with
  | none => exact ⟨x, hxs, rfl⟩
  | some b =>
    obtain ⟨y, hy, -, hb⟩ := exists_of_find? hf
    exact ⟨y, List.mem_reverse.1 hy, hb⟩

/-- What is found without a key, is found with it. -/
theorem find?_of_find?_erase {key other : Value} {b : β} {l : Layer β}
    (h : find? (erase key l) other = some b) : find? l other = some b := by
  cases hk : key.sameKey other with
  | true =>
    rw [← find?_congr hk, find?_erase_self] at h
    cases h
  | false =>
    induction l with
    | nil => exact h
    | cons e l ih =>
      rw [find?_cons]
      rw [erase, List.filter_cons] at h
      cases he : e.1.sameKey key with
      | true =>
        rw [he] at h
        have hne : e.1.sameKey other = false := by
          rw [Value.sameKey_comm e.1 key] at he
          cases ho : e.1.sameKey other with
          | true => rw [Value.sameKey_trans he ho] at hk; cases hk
          | false => rfl
        rw [hne]
        exact ih h
      | false =>
        rw [he, Bool.not_false, if_pos rfl, find?_cons] at h
        split
        · rename_i ho
          rwa [if_pos ho] at h
        · rename_i ho
          rw [if_neg ho] at h
          exact ih h

theorem has_eq_any (l : Layer β) (key : Value) :
    has l key = l.keys.any fun k => k.sameKey key := by
  rw [Bool.eq_iff_iff, has_iff]
  simp [keys]

/-- A key is present in the first entries if it is in any. -/
theorem has_firsts (es : Layer β) (key : Value) : has (firsts es) key = has es key := by
  induction es with
  | nil => rfl
  | cons e es ih =>
    have hf : has ((firsts es).filter fun x => !e.1.sameKey x.1) key =
        (has es key && !e.1.sameKey key) := by
      rw [Bool.eq_iff_iff, Bool.and_eq_true, ← ih, has_iff, has_iff, Bool.not_eq_true']
      constructor
      · rintro ⟨x, hx, hk⟩
        obtain ⟨hm, he⟩ := List.mem_filter.1 hx
        rw [Bool.not_eq_true', Value.sameKey_congr hk] at he
        exact ⟨⟨x, hm, hk⟩, he⟩
      · rintro ⟨⟨x, hm, hk⟩, he⟩
        refine ⟨x, List.mem_filter.2 ⟨hm, ?_⟩, hk⟩
        rw [Bool.not_eq_true', Value.sameKey_congr hk]
        exact he
    simp only [has, firsts, find?_cons] at hf ⊢
    cases he : e.1.sameKey key with
    | true => rfl
    | false =>
      rw [if_neg Bool.false_ne_true, if_neg Bool.false_ne_true, hf, he]
      exact Bool.and_true _

/-- An entry behind others is a first one unless its key is among theirs. -/
theorem firsts_append_singleton (es : Layer β) (e : Value × β) :
    firsts (es ++ [e]) = if has es e.1 then firsts es else firsts es ++ [e] := by
  induction es with
  | nil => rfl
  | cons d es ih =>
    rw [List.cons_append, firsts, ih, firsts]
    have hd : has (d :: es) e.1 = (d.1.sameKey e.1 || has es e.1) := by
      simp only [has, find?_cons]
      cases d.1.sameKey e.1 <;> rfl
    rw [hd]
    cases has es e.1 with
    | true => rw [if_pos rfl, Bool.or_true, if_pos rfl]
    | false =>
      rw [if_neg Bool.false_ne_true, Bool.or_false, List.filter_append]
      cases hk : d.1.sameKey e.1 with
      | true => simp [hk]
      | false => simp [hk]

/-! ## Writing into layers of distinct keys -/

/-- In a layer of distinct keys a write replaces one entry or adds one. -/
theorem insert_of_distinct {l : Layer β} (h : Distinct l) (key : Value) (b : β) :
    insert key b l =
      if has l key then l.map fun x => (x.1, if key.sameKey x.1 then b else x.2)
      else l ++ [(key, b)] := by
  induction l with
  | nil => rfl
  | cons e l ih =>
    obtain ⟨he, hl⟩ := List.pairwise_cons.1 h
    rw [insert]
    cases hk : e.1.sameKey key with
    | true =>
      have hke : key.sameKey e.1 = true := by rw [Value.sameKey_comm]; exact hk
      have hother : ∀ x ∈ l, (x.1, if key.sameKey x.1 then b else x.2) = x := by
        intro x hx
        have hx' := he x hx
        rw [Value.sameKey_comm, Value.sameKey_congr hk, Value.sameKey_comm] at hx'
        rw [hx']
        rfl
      have hh : has (e :: l) key = true := has_iff.2 ⟨e, List.mem_cons_self, hk⟩
      rw [if_pos rfl, hh, if_pos rfl, List.map_cons, hke, if_pos rfl, List.map_congr_left hother,
        List.map_id']
    | false =>
      have hke : key.sameKey e.1 = false := by rw [Value.sameKey_comm]; exact hk
      have hh : has (e :: l) key = has l key := by
        simp only [has, find?_cons, hk, if_neg Bool.false_ne_true]
      rw [if_neg Bool.false_ne_true, ih hl, hh]
      cases has l key with
      | true => rw [if_pos rfl, if_pos rfl, List.map_cons, hke, if_neg Bool.false_ne_true]
      | false => rw [if_neg Bool.false_ne_true, if_neg Bool.false_ne_true, List.cons_append]

@[simp] theorem keys_overlay (es : Layer β) : keys (overlay es) = keys (firsts es) := by
  simp [keys, overlay]

theorem has_overlay (es : Layer β) (key : Value) : has (overlay es) key = has es key := by
  rw [has_eq_any, keys_overlay, ← has_eq_any, has_firsts]

theorem distinct_overlay (es : Layer β) : Distinct (overlay es) :=
  List.pairwise_map.2 (distinct_firsts es)

/-! ## The overlay of what is written -/

theorem find?_reverse_append_singleton (es : Layer β) (e : Value × β) (key : Value) :
    find? (es ++ [e]).reverse key = if e.1.sameKey key then some e.2 else find? es.reverse key := by
  rw [List.reverse_append, List.reverse_singleton, List.singleton_append, find?_cons]

theorem has_reverse (es : Layer β) (key : Value) : has es.reverse key = has es key := by
  rw [Bool.eq_iff_iff, has_iff, has_iff]
  simp only [List.mem_reverse]

/-- What is written after other entries is written into their overlay. -/
theorem overlay_append_singleton (es : Layer β) (e : Value × β) :
    overlay (es ++ [e]) = insert e.1 e.2 (overlay es) := by
  rw [insert_of_distinct (distinct_overlay es), has_overlay, overlay, firsts_append_singleton]
  simp only [find?_reverse_append_singleton]
  cases hh : has es e.1 with
  | true =>
    rw [if_pos rfl, if_pos rfl, overlay, List.map_map]
    refine List.map_congr_left fun x _ => ?_
    simp only [Function.comp]
    cases e.1.sameKey x.1 <;> rfl
  | false =>
    have hold : ∀ x ∈ firsts es, e.1.sameKey x.1 = false := by
      intro x hx
      cases hk : e.1.sameKey x.1 with
      | false => rfl
      | true =>
        rw [Value.sameKey_comm] at hk
        rw [has_iff.2 ⟨x, mem_of_mem_firsts hx, hk⟩] at hh
        cases hh
    have hnew : find? es.reverse e.1 = none := by
      rw [← has_reverse, has] at hh
      exact Option.isNone_iff_eq_none.1 (by simpa using hh)
    rw [if_neg Bool.false_ne_true, if_neg Bool.false_ne_true, List.map_append, List.map_singleton,
      hnew]
    congr 1
    · refine List.map_congr_left fun x hx => ?_
      rw [hold x hx]
      rfl
    · cases e.1.sameKey e.1 <;> rfl

/-- Writing entries one after another leaves their overlay. -/
theorem ofEntries_eq_overlay (es : Layer β) : ofEntries es = overlay es := by
  have hw : ∀ l : Layer β, overlay l.reverse = ofEntries l.reverse := by
    intro l
    induction l with
    | nil => rfl
    | cons e l ih =>
      rw [List.reverse_cons, overlay_append_singleton, ih]
      exact (merge_append [] l.reverse [e]).symm
  have h := hw es.reverse
  rw [List.reverse_reverse] at h
  exact h.symm

/-- Merging into an overlay overlays what it was made of. -/
theorem merge_overlay (es upper : Layer β) : merge (overlay es) upper = overlay (es ++ upper) := by
  rw [← ofEntries_eq_overlay, ← ofEntries_eq_overlay]
  exact (merge_append [] es upper).symm

theorem find?_overlay (es : Layer β) (key : Value) :
    find? (overlay es) key = find? es.reverse key := by
  rw [← ofEntries_eq_overlay, ofEntries, find?_merge, find?_nil, Option.or_none]

/-! ## Layers over layers -/

/-- Behind a layer of distinct keys come the keys that it has not. -/
theorem firsts_append_of_distinct {l : Layer β} (h : Distinct l) (u : Layer β) :
    firsts (l ++ u) = l ++ (firsts u).filter fun x => !has l x.1 := by
  induction l with
  | nil =>
    rw [List.nil_append, List.nil_append, List.filter_eq_self.2]
    intro x _
    rfl
  | cons e l ih =>
    obtain ⟨he, hl⟩ := List.pairwise_cons.1 h
    have hself : (l.filter fun x => !e.1.sameKey x.1) = l := by
      rw [List.filter_eq_self]
      intro x hx
      rw [he x hx]
      rfl
    rw [List.cons_append, firsts, ih hl, List.filter_append, hself, List.filter_filter,
      List.cons_append]
    congr 3
    funext x
    simp only [has, find?_cons]
    cases e.1.sameKey x.1 <;> rfl

theorem distinct_reverse {l : Layer β} (h : Distinct l) : Distinct l.reverse := by
  refine List.pairwise_reverse.2 (List.Pairwise.imp ?_ h)
  intro a b hab
  rw [Value.sameKey_comm]
  exact hab

theorem distinct_mapStored {γ : Type} {l : Layer β} (h : Distinct l) (f : β → γ) :
    Distinct (mapStored f l) := List.pairwise_map.2 h

/-- In a layer of distinct keys, whichever entry has a key is the one that is found. -/
theorem find?_of_mem {l : Layer β} (h : Distinct l) {x : Value × β} (hx : x ∈ l) {key : Value}
    (hk : x.1.sameKey key = true) : find? l key = some x.2 := by
  induction l with
  | nil => cases hx
  | cons e l ih =>
    obtain ⟨he, hl⟩ := List.pairwise_cons.1 h
    rw [find?_cons]
    rcases List.mem_cons.1 hx with rfl | hx
    · rw [hk, if_pos rfl]
    · have hne : e.1.sameKey key = false := by
        rw [← Value.sameKey_congr hk]
        exact he x hx
      rw [hne, if_neg Bool.false_ne_true]
      exact ih hl hx

theorem find?_reverse_of_distinct {l : Layer β} (h : Distinct l) (key : Value) :
    find? l.reverse key = find? l key := by
  cases hh : has l key with
  | false =>
    have hr : has l.reverse key = false := by rw [has_reverse, hh]
    rw [has, Option.isSome_eq_false_iff, Option.isNone_iff_eq_none] at hh hr
    rw [hh, hr]
  | true =>
    obtain ⟨x, hx, hk⟩ := has_iff.1 hh
    rw [find?_of_mem h hx hk, find?_of_mem (distinct_reverse h) (List.mem_reverse.2 hx) hk]

/-- A layer of distinct keys is its own overlay. -/
theorem overlay_of_distinct {l : Layer β} (h : Distinct l) : overlay l = l := by
  have hfirsts : firsts l = l := by
    have happend := firsts_append_of_distinct h []
    rwa [List.append_nil, firsts, List.filter_nil, List.append_nil] at happend
  have hsame : ∀ e ∈ l, (e.1, (find? l.reverse e.1).getD e.2) = e := by
    intro e he
    rw [find?_reverse_of_distinct h]
    cases hf : find? l e.1 with
    | none => rfl
    | some b =>
      obtain ⟨x, hx, hk, -⟩ := exists_of_find? hf
      have hself : e.1.sameKey e.1 = true :=
        Value.sameKey_trans (by rw [Value.sameKey_comm]; exact hk) hk
      rw [find?_of_mem h he hself] at hf
      cases hf
      rfl
  rw [overlay, hfirsts]
  exact (List.map_congr_left hsame).trans (List.map_id l)

/-! ## Merging overlays -/

/-- A write over one that was just made of the same key leaves nothing of that. -/
theorem insert_insert_of_sameKey {key other : Value} (h : other.sameKey key = true) (b c : β)
    (l : Layer β) : insert key b (insert other c l) = insert other b l := by
  induction l with
  | nil => simp [insert, h]
  | cons e l ih =>
    have hk : e.1.sameKey key = e.1.sameKey other := (Value.sameKey_congr h e.1).symm
    cases ho : e.1.sameKey other with
    | true => simp [insert, hk, ho]
    | false => simp [insert, hk, ho, ih]

/-- A write of a key that is present changes places with one of another key. -/
theorem insert_comm_of_has {key other : Value} (hne : other.sameKey key = false) (b c : β)
    {l : Layer β} (h : has l key = true) :
    insert key b (insert other c l) = insert other c (insert key b l) := by
  induction l with
  | nil => cases h
  | cons e l ih =>
    cases hk : e.1.sameKey key with
    | true =>
      have ho : e.1.sameKey other = false := by
        rw [Value.sameKey_comm, Value.sameKey_congr hk, hne]
      simp [insert, hk, ho]
    | false =>
      have hl : has l key = true := by rwa [has, find?_cons, hk, if_neg Bool.false_ne_true] at h
      cases ho : e.1.sameKey other with
      | true => simp [insert, hk, ho]
      | false => simp [insert, hk, ho, ih hl]

theorem insert_merge_of_has {key : Value} (b : β) {l u : Layer β} (h : has l key = true)
    (hu : ∀ x ∈ u, x.1.sameKey key = false) :
    insert key b (merge l u) = merge (insert key b l) u := by
  induction u generalizing l with
  | nil => rfl
  | cons e u ih =>
    have he : has (insert e.1 e.2 l) key = true := by
      rwa [has, find?_insert_of_ne (hu e List.mem_cons_self)]
    rw [merge_cons, merge_cons, ih he fun x hx => hu x (List.mem_cons_of_mem e hx),
      insert_comm_of_has (hu e List.mem_cons_self) b e.2 h]

/-- A write into a layer of distinct keys can as well be made after that is merged. -/
theorem merge_insert_of_distinct {u : Layer β} (h : Distinct u) (key : Value) (b : β)
    (l : Layer β) : merge l (insert key b u) = insert key b (merge l u) := by
  induction u generalizing l with
  | nil => rfl
  | cons e u ih =>
    obtain ⟨he, hu⟩ := List.pairwise_cons.1 h
    rw [insert, merge_cons]
    cases hk : e.1.sameKey key with
    | true =>
      have hnot : ∀ x ∈ u, x.1.sameKey key = false := by
        intro x hx
        rw [← Value.sameKey_congr hk, Value.sameKey_comm]
        exact he x hx
      have hhas : has (insert e.1 e.2 l) key = true := by rw [has, find?_insert, hk]; rfl
      rw [if_pos rfl, merge_cons, insert_merge_of_has b hhas hnot, insert_insert_of_sameKey hk]
    | false => rw [if_neg Bool.false_ne_true, merge_cons, ih hu]

/-- Merging the overlay of entries is merging the entries. -/
theorem merge_overlay_right (l es : Layer β) : merge l (overlay es) = merge l es := by
  have hw : ∀ u : Layer β, merge l (overlay u.reverse) = merge l u.reverse := by
    intro u
    induction u with
    | nil => rfl
    | cons e u ih =>
      rw [List.reverse_cons, overlay_append_singleton,
        merge_insert_of_distinct (distinct_overlay _), ih, merge_append]
      rfl
  have h := hw es.reverse
  rwa [List.reverse_reverse] at h

/-! ## Layers with what is stored replaced -/

variable {γ : Type}

theorem mapStored_insert (f : β → γ) (key : Value) (b : β) (l : Layer β) :
    mapStored f (insert key b l) = insert key (f b) (mapStored f l) := by
  induction l with
  | nil => rfl
  | cons e l ih =>
    simp only [mapStored, insert, List.map_cons] at ih ⊢
    split
    · rfl
    · rw [List.map_cons, ih]

theorem mapStored_merge (f : β → γ) (l u : Layer β) :
    mapStored f (merge l u) = merge (mapStored f l) (mapStored f u) := by
  induction u generalizing l with
  | nil => rfl
  | cons e u ih =>
    rw [merge_cons, ih, mapStored_insert]
    rfl

/-- What a layer holds after a write, was written or held before. -/
theorem exists_of_mem_insert {e x : Value × β} {l : Layer β} (h : x ∈ insert e.1 e.2 l) :
    ∃ y ∈ e :: l, y.2 = x.2 := by
  induction l with
  | nil =>
    rcases List.mem_singleton.1 h with rfl
    exact ⟨e, List.mem_cons_self, rfl⟩
  | cons d l ih =>
    rw [insert] at h
    split at h
    · rcases List.mem_cons.1 h with rfl | h
      · exact ⟨e, List.mem_cons_self, rfl⟩
      · exact ⟨x, List.mem_cons_of_mem _ (List.mem_cons_of_mem _ h), rfl⟩
    · rcases List.mem_cons.1 h with rfl | h
      · exact ⟨x, List.mem_cons_of_mem _ List.mem_cons_self, rfl⟩
      · obtain ⟨y, hy, he⟩ := ih h
        rcases List.mem_cons.1 hy with rfl | hy
        · exact ⟨y, List.mem_cons_self, he⟩
        · exact ⟨y, List.mem_cons_of_mem _ (List.mem_cons_of_mem _ hy), he⟩

/-- What a merge holds, one of its two layers held. -/
theorem exists_of_mem_merge {l u : Layer β} {x : Value × β} (h : x ∈ merge l u) :
    ∃ y ∈ l ++ u, y.2 = x.2 := by
  induction u generalizing l with
  | nil => exact ⟨x, List.mem_append_left _ h, rfl⟩
  | cons e u ih =>
    obtain ⟨y, hy, he⟩ := ih h
    rcases List.mem_append.1 hy with hy | hy
    · obtain ⟨z, hz, hze⟩ := exists_of_mem_insert hy
      refine ⟨z, ?_, hze.trans he⟩
      rcases List.mem_cons.1 hz with rfl | hz
      · exact List.mem_append_right _ List.mem_cons_self
      · exact List.mem_append_left _ hz
    · exact ⟨y, List.mem_append_right _ (List.mem_cons_of_mem _ hy), he⟩

end NamedConditions.Layer
