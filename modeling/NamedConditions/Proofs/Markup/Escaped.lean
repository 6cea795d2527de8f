import NamedConditions.Markup.Display
/-!
What an escaped text is taken apart into inside markup. None of its brackets acts as a tag, also not
together with what is written behind it.

The argument follows the pieces of the text. What stands behind the text is a parameter, of which
two things are asked (`IsApart`): it does not make a tag of an open bracket before it, neither by
its first character nor by a closing bracket.

Main statements: a bracket that starts no tag starts none when what follows is escaped
(`tag?_disarmed`), and backslashes before no tag stay before none (`no_tag_disarmed`).
-/
namespace NamedConditions.Markup

/-! ## Pieces -/

theorem tag?_of_ne {c : Char} (h : c ≠ '[') (s : List Char) : tag? (c :: s) = none := by
  unfold tag?
  split
  · rename_i heq
    exact absurd (List.cons.inj heq).1 h
  · rfl

theorem tag?_of_not_start {c : Char} (h : isTagStart c = false) (s : List Char) :
    tag? ('[' :: c :: s) = none := by
  rw [tag?, h]
  rfl

theorem tag?_of_start {c : Char} (h : isTagStart c = true) (s : List Char) :
    tag? ('[' :: c :: s) = (untilClosing? s).map fun p => (c :: p.1, p.2) := by
  rw [tag?, h]
  rfl

theorem pieces_of_tag? {s content rest : List Char}
    (h : tag? (s.drop (slashCount s)) = some (content, rest)) :
    pieces s = .tag (slashCount s) content :: pieces rest := by
  cases s with
  | nil => cases h
  | cons c r =>
    rw [pieces]
    split
    · rename_i content' rest' h'
      cases h.symm.trans h'
      rfl
    · rename_i h'
      rw [h] at h'
      cases h'

theorem pieces_of_no_tag {c : Char} {s : List Char}
    (h : tag? ((c :: s).drop (slashCount (c :: s))) = none) :
    pieces (c :: s) = .char c :: pieces s := by
  rw [pieces]
  split
  · rename_i h'
    rw [h] at h'
    cases h'
  · rfl

theorem slashCount_of_ne {c : Char} (h : c ≠ '\\') (s : List Char) : slashCount (c :: s) = 0 := by
  rw [slashCount, if_neg h]

theorem slashCount_replicate (k : Nat) {s : List Char} (h : slashCount s = 0) :
    slashCount (List.replicate k '\\' ++ s) = k := by
  induction k with
  | zero => exact h
  | succ k ih =>
    rw [List.replicate_succ, List.cons_append, slashCount, if_pos rfl, ih]

/-- What is behind the closing bracket does not matter for what is before it. -/
theorem untilClosing?_append {s a b : List Char} (h : untilClosing? s = some (a, b))
    (b' : List Char) : untilClosing? (a ++ ']' :: b') = some (a, b') := by
  induction s generalizing a with
  | nil => cases h
  | cons c s ih =>
    unfold untilClosing? at h
    split at h
    · cases h
      rfl
    · rename_i hc
      split at h
      · cases h
      · rename_i hb
        obtain ⟨⟨a', b''⟩, hs, he⟩ := Option.map_eq_some_iff.1 h
        cases he
        rw [List.cons_append, untilClosing?, if_neg hc, if_neg hb, ih hs]
        rfl

theorem tag?_append {s content rest : List Char} (h : tag? s = some (content, rest))
    (s' : List Char) : tag? ('[' :: content ++ ']' :: s') = some (content, s') := by
  unfold tag? at h
  split at h
  · rename_i c t
    cases hc : isTagStart c with
    | false =>
      rw [hc] at h
      cases h
    | true =>
      rw [hc, if_pos rfl] at h
      obtain ⟨⟨a, b⟩, hs, he⟩ := Option.map_eq_some_iff.1 h
      cases he
      rw [List.cons_append, List.cons_append, tag?_of_start hc, untilClosing?_append hs]
      rfl
  · cases h

/-- No bracket opens inside a tag. -/
theorem not_mem_of_tag? {s content rest : List Char} (h : tag? s = some (content, rest)) :
    '[' ∉ content := by
  have huntil : ∀ {s a b : List Char}, untilClosing? s = some (a, b) → '[' ∉ a := by
    intro s
    induction s with
    | nil => exact nofun
    | cons c s ih =>
      intro a b h
      unfold untilClosing? at h
      split at h
      · cases h
        exact List.not_mem_nil
      · split at h
        · cases h
        · rename_i hb
          obtain ⟨p, hp, he⟩ := Option.map_eq_some_iff.1 h
          cases he
          exact List.not_mem_cons_of_ne_of_not_mem (Ne.symm hb) (ih hp)
  unfold tag? at h
  split at h
  · rename_i c t
    split at h
    · rename_i hc
      obtain ⟨p, hp, he⟩ := Option.map_eq_some_iff.1 h
      cases he
      refine List.not_mem_cons_of_ne_of_not_mem ?_ (huntil hp)
      rintro rfl
      cases hc
    · cases h
  · cases h

/-- Backslashes and a tag are one piece, whatever follows. -/
theorem pieces_slashes_tag {t content rest : List Char} (h : tag? t = some (content, rest))
    (k : Nat) (s : List Char) :
    pieces (List.replicate k '\\' ++ ('[' :: content ++ ']' :: s)) =
      .tag k content :: pieces s := by
  have hcount : slashCount (List.replicate k '\\' ++ ('[' :: content ++ ']' :: s)) = k :=
    slashCount_replicate k (slashCount_of_ne (by decide) _)
  have hdrop : (List.replicate k '\\' ++ ('[' :: content ++ ']' :: s)).drop k =
      '[' :: content ++ ']' :: s := List.drop_left' List.length_replicate
  have htag : tag? ((List.replicate k '\\' ++ ('[' :: content ++ ']' :: s)).drop
      (slashCount (List.replicate k '\\' ++ ('[' :: content ++ ']' :: s)))) =
        some (content, s) := by
    rw [hcount, hdrop]
    exact tag?_append h s
  rw [pieces_of_tag? htag, hcount]

/-- A text that makes no tag of an open bracket before it. -/
structure IsApart (t : List Char) : Prop where
  unclosed : untilClosing? t = none
  start {c : Char} {s : List Char} (h : t = c :: s) : isTagStart c = false

variable {t : List Char}

theorem isApart_bracket (s : List Char) : IsApart ('[' :: s) where
  unclosed := rfl
  start h := by
    cases h
    rfl

/-- Any other character that starts no tag may stand before a text in which no bracket closes before
another one opens. -/
theorem isApart_cons (hu : untilClosing? t = none) {c : Char} (hc : isTagStart c = false)
    (hx : c ≠ ']') : IsApart (c :: t) where
  unclosed := by
    rw [untilClosing?, if_neg hx, hu]
    split <;> rfl
  start h := by
    cases h
    exact hc

theorem untilClosing?_of_not_mem {s : List Char} (h : ']' ∉ s) : untilClosing? s = none := by
  induction s with
  | nil => rfl
  | cons c s ih =>
    rw [untilClosing?, if_neg fun hc => h (by rw [hc]; exact List.mem_cons_self),
      ih fun hm => h (List.mem_cons_of_mem c hm)]
    split <;> rfl

/-- Where no bracket closes before another one opens in two texts, none does in both together. -/
theorem untilClosing?_append_eq_none {s : List Char} (hs : untilClosing? s = none)
    (ht : untilClosing? t = none) : untilClosing? (s ++ t) = none := by
  induction s with
  | nil => exact ht
  | cons c s ih =>
    rw [List.cons_append, untilClosing?]
    rw [untilClosing?] at hs
    split
    · rename_i hc
      rw [if_pos hc] at hs
      cases hs
    · rename_i hc
      rw [if_neg hc] at hs
      split
      · rfl
      · rename_i ho
        rw [if_neg ho, Option.map_eq_none_iff] at hs
        rw [ih hs]
        rfl

/-! ## Texts with nothing to escape -/

/-- A text without brackets and backslashes, and without the control characters that are not shown
as they are or that end lines. -/
def IsPlain (s : List Char) : Prop :=
  ∀ c ∈ s, c ≠ '[' ∧ c ≠ ']' ∧ c ≠ '\\' ∧ (c.toNat < 7 ∨ 13 < c.toNat)

instance (s : List Char) : Decidable (IsPlain s) := List.decidableBAll _ s

theorem IsPlain.append {a b : List Char} (ha : IsPlain a) (hb : IsPlain b) : IsPlain (a ++ b) :=
  fun c hc => (List.mem_append.1 hc).elim (ha c) (hb c)

theorem IsPlain.not_mem {s : List Char} (h : IsPlain s) : '[' ∉ s :=
  fun hm => (h _ hm).1 rfl

theorem IsPlain.unclosed {s : List Char} (h : IsPlain s) : untilClosing? s = none :=
  untilClosing?_of_not_mem fun hm => (h _ hm).2.1 rfl

/-- A number in words is plain. -/
theorem isPlain_toString (n : Nat) : IsPlain (toString n).toList := by
  intro c hc
  rw [Nat.toString_eq_repr, Nat.toList_repr] at hc
  have hd := Nat.isDigit_of_mem_toDigits (by decide) (by decide) hc
  refine ⟨?_, ?_, ?_, ?_⟩
  · rintro rfl
    exact absurd hd (by decide)
  · rintro rfl
    exact absurd hd (by decide)
  · rintro rfl
    exact absurd hd (by decide)
  · simp only [Char.isDigit, Bool.and_eq_true, decide_eq_true_eq] at hd
    have hlow : 48 ≤ c.toNat := hd.1
    omega

/-- A plain text around a number is plain. -/
theorem isPlain_around {a b : String} (ha : IsPlain a.toList) (hb : IsPlain b.toList) (n : Nat) :
    IsPlain (a ++ toString n ++ b).toList := by
  rw [String.toList_append, String.toList_append]
  exact (ha.append (isPlain_toString n)).append hb

theorem escape_of_isPlain {s : List Char} (h : IsPlain s) : escape s = s := by
  rw [escape_of_not_mem h.not_mem, guardEnd]
  split
  · rfl
  · rename_i hlast
    have hmem : '\\' ∈ s := List.mem_reverse.1 (hlast ▸ List.mem_cons_self)
    exact absurd rfl (h _ hmem).2.2.1
  · rfl

/-! ## Escaped texts -/

/-- A text with its tags escaped, its end left as it is. -/
def disarmed (s : List Char) : List Char := (pieces s).flatMap Piece.escaped

theorem disarmed_nil : disarmed [] = [] := by
  rw [disarmed, pieces]
  rfl

theorem disarmed_of_tag? {s content rest : List Char}
    (h : tag? (s.drop (slashCount s)) = some (content, rest)) :
    disarmed s = List.replicate (2 * slashCount s + 1) '\\' ++
      ('[' :: content ++ ']' :: disarmed rest) := by
  rw [disarmed, pieces_of_tag? h, List.flatMap_cons, Piece.escaped, List.append_assoc,
    List.append_assoc]
  rfl

theorem disarmed_of_no_tag {c : Char} {s : List Char}
    (h : tag? ((c :: s).drop (slashCount (c :: s))) = none) :
    disarmed (c :: s) = c :: disarmed s := by
  rw [disarmed, pieces_of_no_tag h, List.flatMap_cons]
  rfl

theorem disarmed_of_not_mem {s : List Char} (h : '[' ∉ s) : disarmed s = s := by
  rw [disarmed, pieces_of_not_mem h, List.flatMap_map]
  exact List.flatMap_singleton' s

theorem disarmed_slashes (k : Nat) :
    disarmed (List.replicate k '\\') = List.replicate k '\\' :=
  disarmed_of_not_mem fun h => absurd (List.eq_of_mem_replicate h) (by decide)

/-- A text in which no bracket closes before another one opens is like this also when it is
disarmed. -/
theorem untilClosing?_disarmed (ht : untilClosing? t = none) {s : List Char}
    (hs : untilClosing? s = none) : untilClosing? (disarmed s ++ t) = none := by
  have hslash : ∀ (k : Nat) u, untilClosing? (List.replicate k '\\' ++ '[' :: u) = none := by
    intro k u
    induction k with
    | zero => rfl
    | succ k ih =>
      rw [List.replicate_succ, List.cons_append, untilClosing?, if_neg (by decide),
        if_neg (by decide), ih]
      rfl
  induction s with
  | nil => rwa [disarmed_nil]
  | cons c s ih =>
    cases htag : tag? ((c :: s).drop (slashCount (c :: s))) with
    | some p =>
      rw [disarmed_of_tag? htag, List.append_assoc]
      exact hslash _ _
    | none =>
      rw [disarmed_of_no_tag htag, List.cons_append, untilClosing?]
      rw [untilClosing?] at hs
      split
      · rename_i hc
        rw [if_pos hc] at hs
        cases hs
      · rename_i hc
        rw [if_neg hc] at hs
        split
        · rfl
        · rename_i ho
          rw [if_neg ho, Option.map_eq_none_iff] at hs
          rw [ih hs]
          rfl

/-- A bracket that starts no tag starts none when what follows is disarmed. -/
theorem tag?_disarmed (ht : IsApart t) {c : Char} {s : List Char} (h : tag? (c :: s) = none) :
    tag? (c :: (disarmed s ++ t)) = none := by
  by_cases hc : c = '['
  · subst hc
    cases s with
    | nil =>
      rw [disarmed_nil, List.nil_append]
      cases t with
      | nil => rfl
      | cons d u => exact tag?_of_not_start (ht.start rfl) u
    | cons d s =>
      cases htag : tag? ((d :: s).drop (slashCount (d :: s))) with
      | some p =>
        rw [disarmed_of_tag? htag, Nat.mul_comm, List.replicate_succ]
        exact tag?_of_not_start rfl _
      | none =>
        rw [disarmed_of_no_tag htag, List.cons_append]
        cases hd : isTagStart d with
        | false => exact tag?_of_not_start hd _
        | true =>
          rw [tag?_of_start hd, Option.map_eq_none_iff] at h ⊢
          exact untilClosing?_disarmed ht.unclosed h
  · exact tag?_of_ne hc _

/-- Backslashes at the start of a text stand before no tag also when it is disarmed, unless nothing
but what follows is behind them. -/
theorem no_tag_disarmed (ht : IsApart t) {s : List Char}
    (h : tag? (s.drop (slashCount s)) = none) :
    tag? ((disarmed s ++ t).drop (slashCount (disarmed s ++ t))) = none ∨
      ∃ k, s = List.replicate k '\\' := by
  induction s with
  | nil => exact .inr ⟨0, rfl⟩
  | cons c s ih =>
    rw [disarmed_of_no_tag h, List.cons_append]
    by_cases hc : c = '\\'
    · subst hc
      have hs : tag? (s.drop (slashCount s)) = none := by
        rwa [slashCount, if_pos rfl, List.drop_succ_cons] at h
      rcases ih hs with hnone | ⟨k, hk⟩
      · refine .inl ?_
        rw [slashCount, if_pos rfl, List.drop_succ_cons]
        exact hnone
      · exact .inr ⟨k + 1, by rw [hk, List.replicate_succ]⟩
    · refine .inl ?_
      rw [slashCount_of_ne hc] at h ⊢
      exact tag?_disarmed ht h

theorem count_disarmed {c : Char} (hc : c ≠ '\\') (s : List Char) :
    (disarmed s).count c = s.count c := by
  have hslash (k : Nat) : (List.replicate k '\\').count c = 0 :=
    List.count_eq_zero.2 fun h => hc (List.eq_of_mem_replicate h)
  have hpiece : ∀ p : Piece, p.escaped.count c = p.written.count c := by
    intro p
    cases p with
    | char c => rfl
    | tag slashes content =>
      simp only [Piece.escaped, Piece.written, List.count_append, hslash]
  have hall : ∀ ps : List Piece,
      (ps.flatMap Piece.escaped).count c = (ps.flatMap Piece.written).count c := by
    intro ps
    induction ps with
    | nil => rfl
    | cons p ps ih =>
      rw [List.flatMap_cons, List.flatMap_cons, List.count_append, List.count_append, hpiece, ih]
  rw [disarmed, hall, flatMap_written_pieces]

end NamedConditions.Markup
