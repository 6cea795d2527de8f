/-!
Texts cut at a separator: at each one (`pieces`), or at the first (`cut?`); and texts that occur in
others.

Main statements: pieces joined by the separator are the text again and none of them holds the
separator; the pieces of two texts with a separator between them are the pieces of both; a text is
cut where the separator stands first; a text occurs in another if it is an infix of it.
-/
namespace NamedConditions.Text

/-- The pieces of a text between separators; a text without separator is one piece. -/
def pieces (separator : Char) : List Char → List (List Char)
  | [] => [[]]
  | c :: s =>
    let rest := pieces separator s
    if c = separator then [] :: rest else (c :: rest.headD []) :: rest.tail

/-- The text before the first separator and the text behind it. -/
def cut? (separator : Char) : List Char → Option (List Char × List Char)
  | [] => none
  | c :: s =>
    if c = separator then some ([], s) else (cut? separator s).map fun p => (c :: p.1, p.2)

/-- The pieces of a text between separators, as texts. -/
def piecesOf (separator : Char) (s : String) : List String :=
  (pieces separator s.toList).map String.ofList

/-- The text before the first separator and the text behind it, as texts. -/
def cutOf? (separator : Char) (s : String) : Option (String × String) :=
  (cut? separator s.toList).map fun p => (String.ofList p.1, String.ofList p.2)

/-- Whether a text occurs in another one. -/
def occursIn (part : List Char) : List Char → Bool
  | [] => part.isEmpty
  | c :: s => part.isPrefixOf (c :: s) || occursIn part s

/-! ## Pieces -/

theorem pieces_ne_nil (separator : Char) (s : List Char) : pieces separator s ≠ [] := by
  cases s with
  | nil => simp [pieces]
  | cons c s =>
    unfold pieces
    dsimp only
    split <;> simp

theorem pieces_separator_cons (separator : Char) (s : List Char) :
    pieces separator (separator :: s) = [] :: pieces separator s := by
  simp [pieces]

theorem pieces_cons_of_ne {separator c : Char} (h : c ≠ separator) (s : List Char) :
    pieces separator (c :: s) =
      (c :: (pieces separator s).headD []) :: (pieces separator s).tail := by
  simp [pieces, h]

theorem pieces_of_not_mem {separator : Char} {s : List Char} (h : separator ∉ s) :
    pieces separator s = [s] := by
  induction s with
  | nil => rfl
  | cons c s ih =>
    have hc : c ≠ separator := fun e => h (by simp [e])
    have hs : separator ∉ s := fun m => h (List.mem_cons_of_mem c m)
    simp [pieces_cons_of_ne hc, ih hs]

theorem pieces_append_separator (separator : Char) (a b : List Char) :
    pieces separator (a ++ separator :: b) = pieces separator a ++ pieces separator b := by
  induction a with
  | nil => simp [pieces]
  | cons c a ih =>
    by_cases hc : c = separator
    · subst hc
      simp [pieces_separator_cons, ih]
    · have hne := pieces_ne_nil separator a
      rw [List.cons_append, pieces_cons_of_ne hc, pieces_cons_of_ne hc, ih]
      cases hp : pieces separator a with
      | nil => exact absurd hp hne
      | cons p ps => simp

theorem not_mem_of_mem_pieces {separator : Char} {s p : List Char}
    (h : p ∈ pieces separator s) : separator ∉ p := by
  induction s generalizing p with
  | nil =>
    simp only [pieces, List.mem_singleton] at h
    simp [h]
  | cons c s ih =>
    have hne := pieces_ne_nil separator s
    cases hp : pieces separator s with
    | nil => exact absurd hp hne
    | cons q qs =>
      rw [hp] at ih
      by_cases hc : c = separator
      · subst hc
        rw [pieces_separator_cons, hp] at h
        rcases List.mem_cons.1 h with rfl | h
        · simp
        · exact ih h
      · rw [pieces_cons_of_ne hc, hp] at h
        rcases List.mem_cons.1 h with rfl | h
        · have hq : separator ∉ q := ih (by simp)
          simp [hq, Ne.symm hc]
        · exact ih (List.mem_cons_of_mem q h)

/-! ## The first separator -/

theorem cut?_append {separator : Char} {a : List Char} (h : separator ∉ a) (b : List Char) :
    cut? separator (a ++ separator :: b) = some (a, b) := by
  induction a with
  | nil => simp [cut?]
  | cons c a ih =>
    have hc : c ≠ separator := fun e => h (by simp [e])
    have ha : separator ∉ a := fun m => h (List.mem_cons_of_mem c m)
    simp [cut?, hc, ih ha]

theorem cut?_eq_none_iff (separator : Char) (s : List Char) :
    cut? separator s = none ↔ separator ∉ s := by
  induction s with
  | nil => simp [cut?]
  | cons c s ih =>
    by_cases hc : c = separator
    · simp [cut?, hc]
    · simp [cut?, hc, ih, Ne.symm hc]

theorem eq_append_of_cut? {separator : Char} {s a b : List Char}
    (h : cut? separator s = some (a, b)) : s = a ++ separator :: b ∧ separator ∉ a := by
  induction s generalizing a with
  | nil => cases h
  | cons c s ih =>
    by_cases hc : c = separator
    · simp only [cut?, hc, if_true, Option.some.injEq, Prod.mk.injEq] at h
      obtain ⟨rfl, rfl⟩ := h
      simp [hc]
    · simp only [cut?, hc, if_false, Option.map_eq_some_iff] at h
      obtain ⟨⟨a', b'⟩, hcut, he⟩ := h
      obtain ⟨rfl, rfl⟩ := Prod.mk.inj he
      obtain ⟨rfl, hn⟩ := ih hcut
      exact ⟨rfl, by simp [hn, Ne.symm hc]⟩

/-- A text is cut where the separator stands first. -/
theorem cutOf?_eq_some_iff {separator : Char} {s a b : String} :
    cutOf? separator s = some (a, b) ↔
      s = a ++ .singleton separator ++ b ∧ separator ∉ a.toList := by
  constructor
  · intro h
    obtain ⟨⟨front, back⟩, hcut, he⟩ := Option.map_eq_some_iff.1 h
    obtain ⟨rfl, rfl⟩ := Prod.mk.inj he
    obtain ⟨hs, hn⟩ := eq_append_of_cut? hcut
    refine ⟨String.toList_inj.1 ?_, by rwa [String.toList_ofList]⟩
    rw [hs]
    simp
  · rintro ⟨rfl, hn⟩
    have hs : (a ++ .singleton separator ++ b).toList = a.toList ++ separator :: b.toList := by
      simp
    rw [cutOf?, hs, cut?_append hn]
    simp

/-! ## Occurrences -/

theorem occursIn_iff (part s : List Char) : occursIn part s = true ↔ part <:+: s := by
  induction s with
  | nil => simp [occursIn]
  | cons c s ih => simp [occursIn, ih, List.infix_cons_iff]

end NamedConditions.Text
