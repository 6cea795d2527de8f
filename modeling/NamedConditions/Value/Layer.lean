import NamedConditions.Value.Key
/-!
Layers: ordered maps from keys to anything, as lists of entries. Writing a key that is present
replaces what is stored and keeps the first key and its place; a new key goes to the end. The
entries of a dictionary are a layer of values.

Main statement: what a layer holds under a key after a write, a removal and a merge.
-/
namespace NamedConditions

/-- Keys with what is stored under them, in the order in which the keys came. -/
abbrev Layer (β : Type) := List (Value × β)

namespace Layer

variable {β γ : Type}

/-- What is stored under a key. -/
def find? (l : Layer β) (key : Value) : Option β :=
  (List.find? (fun e => e.1.sameKey key) l).map Prod.snd

/-- Whether a key is present. -/
def has (l : Layer β) (key : Value) : Bool := (l.find? key).isSome

/-- Writes a key. -/
def insert (key : Value) (b : β) : Layer β → Layer β
  | [] => [(key, b)]
  | e :: l => if e.1.sameKey key then (e.1, b) :: l else e :: insert key b l

/-- Removes a key. -/
def erase (key : Value) (l : Layer β) : Layer β := l.filter fun e => !e.1.sameKey key

/-- Writes all entries of `upper` into `lower`, in their order. -/
def merge (lower upper : Layer β) : Layer β := upper.foldl (fun l e => insert e.1 e.2 l) lower

/-- The keys in their order. -/
def keys (l : Layer β) : List Value := l.map Prod.fst

/-- The layer with everything that is stored replaced. -/
def mapStored (f : β → γ) (l : Layer β) : Layer γ := l.map fun e => (e.1, f e.2)

/-- A layer from entries of which later ones may repeat a key. -/
def ofEntries (es : List (Value × β)) : Layer β := merge [] es

/-! ## What is stored -/

@[simp] theorem find?_nil (key : Value) : find? ([] : Layer β) key = none := rfl

theorem find?_cons (e : Value × β) (l : Layer β) (key : Value) :
    find? (e :: l) key = if e.1.sameKey key then some e.2 else find? l key := by
  unfold find?
  rw [List.find?_cons]
  split <;> simp_all

/-- A key that was written is found again, if it can be found at all. -/
theorem find?_insert_self {key : Value} (h : key.sameKey key = true) (b : β) (l : Layer β) :
    (insert key b l).find? key = some b := by
  induction l with
  | nil => simp [insert, find?_cons, h]
  | cons e l ih =>
    unfold insert
    split
    · rename_i he
      simp [find?_cons, he]
    · rename_i he
      simp [find?_cons, he, ih]

/-- Writing a key leaves every other key alone. -/
theorem find?_insert_of_ne {key other : Value} (h : key.sameKey other = false) (b : β)
    (l : Layer β) : (insert key b l).find? other = l.find? other := by
  induction l with
  | nil => simp [insert, find?_cons, h]
  | cons e l ih =>
    unfold insert
    split
    · rename_i he
      have hne : e.1.sameKey other = false := by
        cases ho : e.1.sameKey other
        · rfl
        · have hk : key.sameKey e.1 = true := by rw [Value.sameKey_comm]; exact he
          rw [Value.sameKey_trans hk ho] at h
          cases h
      simp [find?_cons, hne]
    · simp [find?_cons, ih]

/-- Equal keys find the same. -/
theorem find?_congr {a b : Value} (h : a.sameKey b = true) (l : Layer β) :
    l.find? a = l.find? b := by
  induction l with
  | nil => rfl
  | cons e l ih => rw [find?_cons, find?_cons, Value.sameKey_congr h, ih]

/-- What a write changes: the key that is written and no other. -/
theorem find?_insert (key other : Value) (b : β) (l : Layer β) :
    (insert key b l).find? other = if key.sameKey other then some b else l.find? other := by
  cases h : key.sameKey other with
  | true =>
    have hc : other.sameKey key = true := by rw [Value.sameKey_comm]; exact h
    rw [← find?_congr h, find?_insert_self (Value.sameKey_trans h hc), if_pos rfl]
  | false => rw [find?_insert_of_ne h, if_neg Bool.false_ne_true]

@[simp] theorem find?_erase_self (key : Value) (l : Layer β) : (erase key l).find? key = none := by
  unfold erase
  induction l with
  | nil => rfl
  | cons e l ih =>
    rw [List.filter_cons]
    split
    · rename_i he
      rw [find?_cons]
      simp_all
    · exact ih

/-! ## Where keys stand -/

theorem merge_cons (l : Layer β) (e : Value × β) (u : Layer β) :
    merge l (e :: u) = merge (insert e.1 e.2 l) u := rfl

theorem merge_append (l u v : Layer β) : merge l (u ++ v) = merge (merge l u) v := by
  simp [merge]

theorem find?_append (l u : Layer β) (key : Value) :
    find? (l ++ u) key = (l.find? key).or (u.find? key) := by
  induction l with
  | nil => rfl
  | cons e l ih =>
    rw [List.cons_append, find?_cons, find?_cons, ih]
    split <;> rfl

/-- The last entry of the upper layer wins, and the lower layer holds where the upper has none. -/
theorem find?_merge (l u : Layer β) (key : Value) :
    (merge l u).find? key = (find? u.reverse key).or (l.find? key) := by
  induction u generalizing l with
  | nil => rfl
  | cons e u ih =>
    rw [merge_cons, ih, find?_insert, List.reverse_cons, find?_append, find?_cons, find?_nil]
    cases find? u.reverse key with
    | some b => rfl
    | none => cases e.1.sameKey key <;> rfl

theorem find?_mapStored (f : β → γ) (l : Layer β) (key : Value) :
    (mapStored f l).find? key = (l.find? key).map f := by
  induction l with
  | nil => rfl
  | cons e l ih =>
    simp only [mapStored, List.map_cons, find?_cons] at ih ⊢
    split
    · rfl
    · exact ih

end Layer

end NamedConditions
