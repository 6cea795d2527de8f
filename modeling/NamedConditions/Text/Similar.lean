/-!
How alike two texts are. The longest run of characters that both have is matched, then what stands
before it in both and what stands behind it in both, in the same way; the likeness of the texts is
the share of their characters that are matched. For a word that is not known, the known ones that
are most like it are named.

Main statements: no more characters are matched than either text has, and of the known words no
other is named.
-/
namespace NamedConditions.Text

/-- The number of characters that two texts have in common at their start. -/
def commonLength : List Char → List Char → Nat
  | c :: s, d :: t => if c = d then commonLength s t + 1 else 0
  | _, _ => 0

/-- A run of characters that stands in two texts: where it starts in each, and how long it is. -/
structure Block where
  left : Nat
  right : Nat
  length : Nat

namespace Block

/-- The longer of two runs, of two of the same length the first. -/
def longer (x y : Block) : Block := if x.length < y.length then y else x

/-- The longest of some runs, or else a given one; of several the first. -/
def longest (x : Block) (ys : List Block) : Block := ys.foldl longer x

theorem longest_mem (x : Block) (ys : List Block) : longest x ys = x ∨ longest x ys ∈ ys := by
  unfold longest
  induction ys generalizing x with
  | nil => exact .inl rfl
  | cons y ys ih =>
    rw [List.foldl_cons]
    rcases ih (longer x y) with h | h
    · rw [h]
      unfold longer
      split <;> simp
    · exact .inr (List.mem_cons_of_mem y h)

end Block

/-- For each place of `t`, counted from `right`, the run that starts there and at the start of
`s`, which is the place `left` of its text. -/
def blocksAt (left : Nat) (s : List Char) (right : Nat) : List Char → List Block
  | [] => []
  | c :: t => ⟨left, right, commonLength s (c :: t)⟩ :: blocksAt left s (right + 1) t

/-- The runs that start at places of both texts, the places of the first counted from `left`. -/
def blocksFrom (left : Nat) (s t : List Char) : List Block :=
  match s with
  | [] => []
  | c :: r => blocksAt left (c :: r) 0 t ++ blocksFrom (left + 1) r t

/-- The longest run that stands in both texts; of several the one that starts first in the first
text, then in the second. -/
def longestBlock (s t : List Char) : Block := .longest ⟨0, 0, 0⟩ (blocksFrom 0 s t)

/-! ## Runs lie inside their texts -/

theorem commonLength_le (s t : List Char) :
    commonLength s t ≤ s.length ∧ commonLength s t ≤ t.length := by
  fun_induction commonLength s t <;> simp_all

theorem blocksAt_inside {left right : Nat} {s t : List Char} {x : Block}
    (h : x ∈ blocksAt left s right t) :
    x.left = left ∧ x.length ≤ s.length ∧ x.right + x.length ≤ right + t.length := by
  induction t generalizing right with
  | nil => cases h
  | cons c t ih =>
    rcases List.mem_cons.1 h with rfl | h
    · have hc := commonLength_le s (c :: t)
      exact ⟨rfl, hc.1, Nat.add_le_add_left hc.2 right⟩
    · have hi := ih h
      simp only [List.length_cons]
      omega

theorem blocksFrom_inside {left : Nat} {s t : List Char} {x : Block}
    (h : x ∈ blocksFrom left s t) :
    x.left + x.length ≤ left + s.length ∧ x.right + x.length ≤ t.length := by
  induction s generalizing left with
  | nil => cases h
  | cons c r ih =>
    rcases List.mem_append.1 h with h | h
    · have hb := blocksAt_inside h
      omega
    · have hi := ih h
      simp only [List.length_cons]
      omega

theorem longestBlock_inside (s t : List Char) :
    (longestBlock s t).left + (longestBlock s t).length ≤ s.length ∧
      (longestBlock s t).right + (longestBlock s t).length ≤ t.length := by
  rcases Block.longest_mem ⟨0, 0, 0⟩ (blocksFrom 0 s t) with h | h
  · rw [longestBlock, h]
    simp
  · have hb := blocksFrom_inside h
    rw [Nat.zero_add] at hb
    exact hb

/-! ## Likeness -/

/-- What stands before a run in the two texts that it is a run of. -/
def Block.before (x : Block) (s t : List Char) : List Char × List Char :=
  (s.take x.left, t.take x.right)

/-- What stands behind a run in the two texts that it is a run of. -/
def Block.behind (x : Block) (s t : List Char) : List Char × List Char :=
  (s.drop (x.left + x.length), t.drop (x.right + x.length))

theorem length_before_lt {s t : List Char} (h : 0 < (longestBlock s t).length) :
    ((longestBlock s t).before s t).1.length < s.length := by
  have hi := longestBlock_inside s t
  simp only [Block.before, List.length_take]
  omega

theorem length_behind_lt {s t : List Char} (h : 0 < (longestBlock s t).length) :
    ((longestBlock s t).behind s t).1.length < s.length := by
  have hi := longestBlock_inside s t
  simp only [Block.behind, List.length_drop]
  omega

/-- The number of characters that are matched in two texts. -/
def matchedCount (s t : List Char) : Nat :=
  if h : 0 < (longestBlock s t).length then
    have := length_before_lt h
    have := length_behind_lt h
    matchedCount ((longestBlock s t).before s t).1 ((longestBlock s t).before s t).2 +
      (longestBlock s t).length +
      matchedCount ((longestBlock s t).behind s t).1 ((longestBlock s t).behind s t).2
  else 0
termination_by s.length

theorem matchedCount_le (s t : List Char) :
    matchedCount s t ≤ s.length ∧ matchedCount s t ≤ t.length := by
  fun_induction matchedCount s t with
  | case1 s t _ _ _ ih₁ ih₂ =>
    have hi := longestBlock_inside s t
    simp only [Block.before, Block.behind, List.length_take, List.length_drop] at ih₁ ih₂ ⊢
    omega
  | case2 s t => simp

/-- The share of the characters of two texts that are matched. -/
def likeness (s t : String) : Rat :=
  2 * matchedCount s.toList t.toList / (s.toList.length + t.toList.length : Nat)

/-- The least likeness of a known word that is named for another. -/
def leastLikeness : Rat := 3 / 5

/-- Whether the first of two words comes before the second when those most like a word are sought;
of two that are equally like it the greater one. -/
def isNearer (word a b : String) : Bool :=
  likeness b word < likeness a word || (likeness a word = likeness b word && !(a < b))

/-- The known words that are most like a word, three at most, in order. -/
def nearest (word : String) (known : List String) : List String :=
  let near := known.filter fun k => leastLikeness ≤ likeness k word
  ((near.mergeSort (isNearer word)).take 3).mergeSort fun a b => !(b < a)

theorem mem_of_mem_nearest {word w : String} {known : List String} (h : w ∈ nearest word known) :
    w ∈ known := by
  unfold nearest at h
  rw [List.mem_mergeSort] at h
  exact (List.mem_filter.1 (List.mem_mergeSort.1 (List.mem_of_mem_take h))).1

end NamedConditions.Text
