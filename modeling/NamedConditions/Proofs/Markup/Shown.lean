import NamedConditions.Proofs.Markup.Escaped
/-!
What is shown of an escaped text. Escaping keeps the brackets of a text from acting as tags, but the
text is not always shown as it is: a backslash directly before a bracket that starts no tag is lost,
since escaping leaves it alone, and a single backslash at the end is doubled, since it might stand
before a tag.

The argument follows the pieces of the text once, for anything that may stand behind it, given what
is shown of that behind any number of backslashes (`displays_disarmed`). Behind a blank or the end
of the line these backslashes are all shown (`displays_escape`), before a closing tag half of them.

Main statements: what is shown of an escaped text before a blank (`displays_escape`), and that it is
the text itself exactly if it has no such backslashes (`asShown_eq_self_iff`).
-/
namespace NamedConditions.Markup

/-! ## Backslashes -/

/-- A text that ends in one backslash, and not in two. -/
def EndsAlone (s : List Char) : Prop := ['\\'] <:+ s ∧ ¬ ['\\', '\\'] <:+ s

instance (s : List Char) : Decidable (EndsAlone s) := inferInstanceAs (Decidable (_ ∧ _))

/-- A character is a backslash directly before a bracket that starts no tag. -/
def IsLost (c : Char) (s : List Char) : Prop := c = '\\' ∧ s.head? = some '[' ∧ tag? s = none

instance (c : Char) (s : List Char) : Decidable (IsLost c s) := inferInstanceAs (Decidable (_ ∧ _))

/-- A text without the backslashes that are directly before a bracket that starts no tag. -/
def withoutLost : List Char → List Char
  | [] => []
  | c :: s => if IsLost c s then withoutLost s else c :: withoutLost s

/-- What is shown of an escaped text. -/
def asShown (s : List Char) : List Char := guardEnd (withoutLost s)

/-- A text of which no backslash is lost and none is doubled. -/
structure IsVerbatim (s : List Char) : Prop where
  keeps {a b : List Char} (h : s = a ++ '\\' :: '[' :: b) : tag? ('[' :: b) ≠ none
  ends : ¬ EndsAlone s

theorem guardEnd_eq (s : List Char) : guardEnd s = if EndsAlone s then s ++ ['\\'] else s := by
  have hone : ['\\'] <:+ s ↔ ['\\'] <+: s.reverse := List.reverse_prefix.symm
  have htwo : ['\\', '\\'] <:+ s ↔ ['\\', '\\'] <+: s.reverse := List.reverse_prefix.symm
  unfold guardEnd
  split
  · rename_i h
    refine (if_neg fun he => he.2 ?_).symm
    rw [htwo, h]
    exact List.prefix_append ['\\', '\\'] _
  · rename_i hnot h
    refine (if_pos ⟨?_, fun he => ?_⟩).symm
    · rw [hone, h]
      exact List.prefix_append ['\\'] _
    · obtain ⟨rest, hrest⟩ := htwo.1 he
      rw [h] at hrest
      exact hnot rest (List.cons.inj hrest).2.symm
  · rename_i hnot
    refine (if_neg fun he => ?_).symm
    obtain ⟨rest, hrest⟩ := hone.1 he.1
    exact hnot _ hrest.symm

theorem withoutLost_cons (c : Char) (s : List Char) :
    withoutLost (c :: s) = if IsLost c s then withoutLost s else c :: withoutLost s := rfl

theorem not_isLost_of_ne {c : Char} (h : c ≠ '\\') (s : List Char) : ¬ IsLost c s :=
  fun hl => h hl.1

theorem withoutLost_of_not_mem {s : List Char} (h : '[' ∉ s) : withoutLost s = s := by
  induction s with
  | nil => rfl
  | cons c s ih =>
    have hs : '[' ∉ s := fun hm => h (List.mem_cons_of_mem c hm)
    rw [withoutLost_cons, if_neg (fun hl => hs (List.mem_of_mem_head? hl.2.1)), ih hs]

theorem count_withoutLost {c : Char} (hc : c ≠ '\\') (s : List Char) :
    (withoutLost s).count c = s.count c := by
  induction s with
  | nil => rfl
  | cons d s ih =>
    rw [withoutLost_cons]
    split
    · rename_i hl
      rw [ih, hl.1, List.count_cons_of_ne hc.symm]
    · rw [List.count_cons, List.count_cons, ih]

/-- Backslashes at the end of a text are behind any other character of it. -/
theorem slashes_suffix_append {c : Char} (hc : c ≠ '\\') (a b : List Char) (n : Nat) :
    List.replicate n '\\' <:+ a ++ c :: b ↔ List.replicate n '\\' <:+ b := by
  have hmem {l : List Char} (h : List.replicate n '\\' = l) : c ∉ l :=
    fun hm => hc (List.eq_of_mem_replicate (h ▸ hm))
  induction a with
  | nil =>
    rw [List.nil_append, List.suffix_cons_iff]
    exact or_iff_right fun h => hmem h List.mem_cons_self
  | cons d a ih =>
    refine List.suffix_cons_iff.trans ((or_iff_right fun h => hmem h ?_).trans ih)
    exact List.mem_cons_of_mem d (List.mem_append_right a List.mem_cons_self)

/-- A way to write texts that leaves brackets, and texts without brackets, as they are, does nothing
to the backslashes at their end. -/
theorem slashes_suffix_cons {f : List Char → List Char}
    (hf : ∀ s, '[' ∉ s → f s = s) (hmem : ∀ s, '[' ∈ s → '[' ∈ f s) (c : Char) {s : List Char}
    {n : Nat} (h : List.replicate n '\\' <:+ f s ↔ List.replicate n '\\' <:+ s) :
    List.replicate n '\\' <:+ c :: f s ↔ List.replicate n '\\' <:+ c :: s := by
  have hnot {l : List Char} (hl : List.replicate n '\\' = l) : '[' ∉ l :=
    fun hm => absurd (List.eq_of_mem_replicate (hl ▸ hm)) (by decide)
  rw [List.suffix_cons_iff, List.suffix_cons_iff, h]
  by_cases hs : '[' ∈ s
  · exact or_congr_left (iff_of_false (fun he => hnot he (List.mem_cons_of_mem c (hmem s hs)))
      fun he => hnot he (List.mem_cons_of_mem c hs))
  · rw [hf s hs]

theorem slashes_suffix_disarmed (s : List Char) (n : Nat) :
    List.replicate n '\\' <:+ disarmed s ↔ List.replicate n '\\' <:+ s := by
  fun_induction pieces s with
  | case1 => rw [disarmed_nil]
  | case2 c r content rest h _ ih =>
    have hs := replicate_append_drop_slashCount (c :: r)
    rw [eq_append_of_tag? h, ← List.append_assoc] at hs
    rw [disarmed_of_tag? h, ← List.append_assoc, slashes_suffix_append (by decide), ih, ← hs,
      slashes_suffix_append (by decide)]
  | case3 c r h ih =>
    rw [disarmed_of_no_tag h]
    refine slashes_suffix_cons (fun _ => disarmed_of_not_mem) (fun s hs => ?_) c ih
    rw [← List.count_pos_iff, count_disarmed (by decide)]
    exact List.count_pos_iff.2 hs

theorem slashes_suffix_withoutLost (s : List Char) (n : Nat) :
    List.replicate n '\\' <:+ withoutLost s ↔ List.replicate n '\\' <:+ s := by
  have hmem (s : List Char) (hs : '[' ∈ s) : '[' ∈ withoutLost s := by
    rw [← List.count_pos_iff, count_withoutLost (by decide)]
    exact List.count_pos_iff.2 hs
  induction s with
  | nil => rfl
  | cons c s ih =>
    rw [withoutLost_cons]
    split
    · rename_i hl
      refine ih.trans (List.suffix_cons_iff.trans (or_iff_right fun h => ?_)).symm
      have hbracket : '[' ∈ List.replicate n '\\' := by
        rw [h]
        exact List.mem_cons_of_mem c (List.mem_of_mem_head? hl.2.1)
      exact absurd (List.eq_of_mem_replicate hbracket) (by decide)
    · exact slashes_suffix_cons (fun _ => withoutLost_of_not_mem) hmem c ih

theorem endsAlone_disarmed (s : List Char) : EndsAlone (disarmed s) ↔ EndsAlone s :=
  and_congr (slashes_suffix_disarmed s 1) (not_congr (slashes_suffix_disarmed s 2))

theorem endsAlone_withoutLost (s : List Char) : EndsAlone (withoutLost s) ↔ EndsAlone s :=
  and_congr (slashes_suffix_withoutLost s 1) (not_congr (slashes_suffix_withoutLost s 2))

/-! ## Texts that are shown as they are -/

theorem withoutLost_append_eq_self {s e : List Char} (h : withoutLost s ++ e = s) :
    ∀ {a b : List Char}, s = a ++ '\\' :: '[' :: b → tag? ('[' :: b) ≠ none := by
  induction s with
  | nil => exact fun hs => absurd hs (by simp)
  | cons c s ih =>
    rw [withoutLost_cons] at h
    split at h
    · rename_i hl
      obtain ⟨rfl, hs, -⟩ := hl
      -- the bracket would stand where the backslash is
      cases s with
      | nil => cases hs
      | cons d s =>
        cases Option.some.inj hs
        rw [withoutLost_cons, if_neg (not_isLost_of_ne (by decide) s)] at h
        exact absurd (List.cons.inj h).1 (by decide)
    · rename_i hl
      intro a b hs
      cases a with
      | nil =>
        cases hs
        exact fun ht => hl ⟨rfl, rfl, ht⟩
      | cons d a => exact ih (List.cons.inj h).2 (List.cons.inj hs).2

theorem withoutLost_of_keeps {s : List Char}
    (h : ∀ {a b : List Char}, s = a ++ '\\' :: '[' :: b → tag? ('[' :: b) ≠ none) :
    withoutLost s = s := by
  induction s with
  | nil => rfl
  | cons c s ih =>
    have hl : ¬ IsLost c s := by
      rintro ⟨rfl, hs, ht⟩
      cases s with
      | nil => cases hs
      | cons d s =>
        cases Option.some.inj hs
        exact h (a := []) rfl ht
    rw [withoutLost_cons, if_neg hl, ih fun {a b} hs => h (a := c :: a) (by rw [hs]; rfl)]

/-- A text is shown as it is exactly if no backslash of it is directly before a bracket that starts
no tag and it does not end in a single one. -/
theorem asShown_eq_self_iff (s : List Char) : asShown s = s ↔ IsVerbatim s := by
  rw [asShown, guardEnd_eq]
  constructor
  · intro h
    split at h
    · rename_i he
      have hself := withoutLost_of_keeps (withoutLost_append_eq_self h)
      rw [hself] at h
      simp at h
    · rename_i he
      rw [endsAlone_withoutLost] at he
      exact ⟨withoutLost_append_eq_self (e := []) (by rwa [List.append_nil]), he⟩
  · intro h
    rw [withoutLost_of_keeps h.keeps, if_neg h.ends]

/-! ## What markup shows -/

/-- A character shows itself, but for a backslash before a bracket, which shows nothing. -/
theorem shown_char {c : Char} {ps : List Piece}
    (h : ¬ (c = '\\' ∧ ∃ rest, ps = .char '[' :: rest)) (opened : List String) (place : Nat) :
    shown opened place (.char c :: ps) = prepend [c] (shown opened (place + 1) ps) := by
  rw [shown]
  rintro rest rfl rfl
  exact h ⟨rfl, rest, rfl⟩

/-- What is shown of markup where tags are open; and it asks for styles that there are. -/
structure Displays (opened : List String) (s x : List Char) : Prop where
  shown (place : Nat) : shown opened place (pieces s) = .ok x
  styles : checkStyles (pieces s) = .ok ()

variable {opened : List String} {s t u x y : List Char}

theorem displays_nil : Displays opened [] [] where
  shown _ := by
    rw [pieces, Markup.shown]
  styles := by
    rw [pieces, checkStyles]

/-- What is a character of its own was written as one. -/
theorem exists_cons_of_pieces {c : Char} {ps : List Piece} (h : pieces s = .char c :: ps) :
    ∃ r, s = c :: r ∧ tag? (s.drop (slashCount s)) = none := by
  cases s with
  | nil =>
    rw [pieces] at h
    cases h
  | cons d r =>
    cases htag : tag? ((d :: r).drop (slashCount (d :: r))) with
    | some p =>
      rw [pieces_of_tag? htag] at h
      cases h
    | none =>
      rw [pieces_of_no_tag htag] at h
      cases h
      exact ⟨r, rfl, rfl⟩

/-- A character that is no part of a tag is shown, unless it is lost. -/
theorem Displays.cons {c : Char} (h : Displays opened s x)
    (hc : tag? ((c :: s).drop (slashCount (c :: s))) = none) :
    Displays opened (c :: s) (if IsLost c s then x else c :: x) where
  shown place := by
    rw [pieces_of_no_tag hc]
    split
    · rename_i hl
      obtain ⟨rfl, hs, ht⟩ := hl
      cases s with
      | nil => cases hs
      | cons d s =>
        cases Option.some.inj hs
        have hx := h.shown (place + 1)
        rw [pieces_of_no_tag (by rwa [slashCount_of_ne (by decide)])] at hx ⊢
        rw [shown_char (by simp)] at hx
        rw [Markup.shown]
        exact hx
    · rename_i hl
      rw [shown_char, h.shown]
      · rfl
      · rintro ⟨rfl, rest, hrest⟩
        obtain ⟨r, rfl, ht⟩ := exists_cons_of_pieces hrest
        rw [slashCount_of_ne (by decide)] at ht
        exact hl ⟨rfl, rfl, ht⟩
  styles := by
    rw [pieces_of_no_tag hc, checkStyles, h.styles]

theorem Displays.cons_plain {c : Char} (h : Displays opened s x) (hb : c ≠ '[') (hs : c ≠ '\\') :
    Displays opened (c :: s) (c :: x) := by
  have hc : tag? ((c :: s).drop (slashCount (c :: s))) = none := by
    rw [slashCount_of_ne hs]
    exact tag?_of_ne hb s
  have hcons := h.cons hc
  rwa [if_neg (not_isLost_of_ne hs s)] at hcons

theorem Displays.append_plain (h : Displays opened s x) {a : List Char} (ha : IsPlain a) :
    Displays opened (a ++ s) (a ++ x) := by
  induction a with
  | nil => exact h
  | cons c a ih =>
    obtain ⟨hb, -, hs, -⟩ := ha c List.mem_cons_self
    exact (ih fun d hd => ha d (List.mem_cons_of_mem c hd)).cons_plain hb hs

/-- Backslashes before anything but a bracket are all shown. -/
theorem Displays.append_slashes (h : Displays opened s x)
    (hs : ∀ {c r}, s = c :: r → c ≠ '[' ∧ c ≠ '\\') (k : Nat) :
    Displays opened (List.replicate k '\\' ++ s) (List.replicate k '\\' ++ x) := by
  have hcount : slashCount s = 0 := by
    cases s with
    | nil => rfl
    | cons c r => exact slashCount_of_ne (hs rfl).2 r
  have htag : tag? s = none := by
    cases s with
    | nil => rfl
    | cons c r => exact tag?_of_ne (hs rfl).1 r
  induction k with
  | zero => exact h
  | succ k ih =>
    have hno : tag? (('\\' :: (List.replicate k '\\' ++ s)).drop
        (slashCount ('\\' :: (List.replicate k '\\' ++ s)))) = none := by
      rw [slashCount, if_pos rfl, slashCount_replicate k hcount, List.drop_succ_cons,
        List.drop_left' List.length_replicate, htag]
    have hl : ¬ IsLost '\\' (List.replicate k '\\' ++ s) := by
      rintro ⟨-, hhead, -⟩
      cases k with
      | zero =>
        cases s with
        | nil => cases hhead
        | cons c r => exact (hs rfl).1 (Option.some.inj hhead)
      | succ k => cases hhead
    have hcons := ih.cons hno
    rwa [if_neg hl] at hcons

/-- Of backslashes before a tag that acts every second one is shown. -/
theorem Displays.append_tag {content rest : List Char} {style : String} {opened' : List String}
    (h : Displays opened' s x) (ht : tag? t = some (content, rest)) {k : Nat} (hk : k % 2 = 0)
    (hopen : ∀ place, openAfter opened place content = .ok opened')
    (hstyle : styleName content = .ok style) :
    Displays opened (List.replicate k '\\' ++ ('[' :: content ++ ']' :: s))
      (List.replicate (k / 2) '\\' ++ x) where
  shown place := by
    rw [pieces_slashes_tag ht, Markup.shown, if_neg (by omega), hopen]
    dsimp only
    rw [h.shown]
    rfl
  styles := by
    rw [pieces_slashes_tag ht, checkStyles, if_neg (by omega), hstyle, h.styles]
    rfl

/-- A tag behind an odd number of backslashes is shown, and of the others every second one. -/
theorem Displays.append_escaped {content rest : List Char} (h : Displays opened s x)
    (ht : tag? t = some (content, rest)) {k : Nat} (hk : k % 2 = 1) :
    Displays opened (List.replicate k '\\' ++ ('[' :: content ++ ']' :: s))
      (List.replicate (k / 2) '\\' ++ ('[' :: content ++ ']' :: x)) where
  shown place := by
    rw [pieces_slashes_tag ht, Markup.shown, if_pos hk, h.shown, prepend]
    simp [Except.map]
  styles := by
    rw [pieces_slashes_tag ht, checkStyles, if_pos hk, h.styles]

/-! ## Tags -/

/-- A tag that can be opened and closed, with the normal form of its name, and asks for a style that
there is. -/
structure IsStyleTag (name : List Char) (normal : String) : Prop where
  opening : ∃ s, tag? s = some (name, [])
  closing : ∃ s, tag? s = some ('/' :: name, [])
  opens (opened : List String) (place : Nat) : openAfter opened place name = .ok (normal :: opened)
  closes (opened : List String) (place : Nat) :
    openAfter (normal :: opened) place ('/' :: name) = .ok opened
  style : ∃ n, styleName name = .ok n
  closingStyle : styleName ('/' :: name) = .ok ""

/-- The tag of complaints. -/
theorem isStyleTag_red : IsStyleTag ['r', 'e', 'd'] "red" where
  opening := ⟨"[red]".toList, rfl⟩
  closing := ⟨"[/red]".toList, rfl⟩
  opens _ _ := rfl
  closes _ _ := rfl
  style := ⟨"", rfl⟩
  closingStyle := rfl

/-- The tag of what is in order. -/
theorem isStyleTag_green : IsStyleTag ['g', 'r', 'e', 'e', 'n'] "green" where
  opening := ⟨"[green]".toList, rfl⟩
  closing := ⟨"[/green]".toList, rfl⟩
  opens _ _ := rfl
  closes _ _ := rfl
  style := ⟨"", rfl⟩
  closingStyle := rfl

namespace IsStyleTag

variable {name : List Char} {normal : String}

/-- An opening tag shows nothing. -/
theorem displays_opening (hn : IsStyleTag name normal) (h : Displays (normal :: opened) s x) :
    Displays opened ('[' :: name ++ ']' :: s) x := by
  obtain ⟨t, ht⟩ := hn.opening
  obtain ⟨style, hstyle⟩ := hn.style
  exact h.append_tag ht (k := 0) rfl (hn.opens opened) hstyle

/-- Behind backslashes a closing tag acts or is shown. -/
theorem displays_slashes_closing (hn : IsStyleTag name normal) (h : Displays opened s x)
    (h' : Displays (normal :: opened) s y) (k : Nat) :
    Displays (normal :: opened) (List.replicate k '\\' ++ ('[' :: '/' :: name ++ ']' :: s))
      (List.replicate (k / 2) '\\' ++
        if k % 2 = 0 then x else '[' :: '/' :: name ++ ']' :: y) := by
  obtain ⟨t, ht⟩ := hn.closing
  split
  · rename_i hk
    exact h.append_tag ht hk (hn.closes opened) hn.closingStyle
  · rename_i hk
    exact h'.append_escaped ht (by omega)

/-- A closing tag shows nothing. -/
theorem displays_closing (hn : IsStyleTag name normal) (h : Displays opened s x) :
    Displays (normal :: opened) ('[' :: '/' :: name ++ ']' :: s) x := by
  obtain ⟨t, ht⟩ := hn.closing
  exact h.append_tag ht (k := 0) rfl (hn.closes opened) hn.closingStyle

/-- A plain text between an opening and a closing tag is shown. -/
theorem displays_plain (hn : IsStyleTag name normal) (h : Displays opened s x) {a : List Char}
    (ha : IsPlain a) :
    Displays opened ('[' :: name ++ ']' :: (a ++ ('[' :: '/' :: name ++ ']' :: s))) (a ++ x) :=
  hn.displays_opening ((hn.displays_closing h).append_plain ha)

end IsStyleTag

/-! ## Escaped texts -/

theorem untilClosing?_slashes (k : Nat) : untilClosing? (List.replicate k '\\') = none :=
  untilClosing?_of_not_mem fun h => absurd (List.eq_of_mem_replicate h) (by decide)

/-- A bracket in a text starts a tag or not, whatever backslashes are behind the text. -/
theorem tag?_append_slashes_eq_none_iff (c : Char) (s : List Char) (k : Nat) :
    tag? (c :: (s ++ List.replicate k '\\')) = none ↔ tag? (c :: s) = none := by
  constructor
  · intro h
    cases ht : tag? (c :: s) with
    | none => rfl
    | some p =>
      obtain ⟨content, rest⟩ := p
      have happ : c :: (s ++ List.replicate k '\\') =
          '[' :: content ++ ']' :: (rest ++ List.replicate k '\\') := by
        rw [← List.cons_append, eq_append_of_tag? ht, List.append_assoc]
        rfl
      rw [happ, tag?_append ht] at h
      cases h
  · intro h
    by_cases hc : c = '['
    · subst hc
      cases s with
      | nil =>
        cases k with
        | zero => rfl
        | succ k => exact tag?_of_not_start rfl _
      | cons d s =>
        cases hd : isTagStart d with
        | false => exact tag?_of_not_start hd _
        | true =>
          rw [tag?_of_start hd, Option.map_eq_none_iff] at h
          rw [List.cons_append, tag?_of_start hd, Option.map_eq_none_iff]
          exact untilClosing?_append_eq_none h (untilClosing?_slashes k)
    · exact tag?_of_ne hc _

theorem isLost_append_slashes (c : Char) (s : List Char) (k : Nat) :
    IsLost c (s ++ List.replicate k '\\') ↔ IsLost c s := by
  unfold IsLost
  cases s with
  | nil =>
    have hnil : (List.replicate k '\\').head? ≠ some '[' := fun h =>
      absurd (List.eq_of_mem_replicate (List.mem_of_mem_head? h)) (by decide)
    simp [hnil]
  | cons d s =>
    rw [List.cons_append, tag?_append_slashes_eq_none_iff, List.head?_cons, List.head?_cons]

theorem withoutLost_append_slashes (s : List Char) (k : Nat) :
    withoutLost (s ++ List.replicate k '\\') = withoutLost s ++ List.replicate k '\\' := by
  induction s with
  | nil =>
    exact withoutLost_of_not_mem fun h => absurd (List.eq_of_mem_replicate h) (by decide)
  | cons c s ih =>
    rw [List.cons_append, withoutLost_cons, withoutLost_cons, ih]
    simp only [isLost_append_slashes]
    split <;> rfl

/-- Disarming what is behind a backslash does not change whether the backslash is lost. -/
theorem isLost_disarmed (ht : IsApart t) (c : Char) (hs : s ≠ []) :
    IsLost c (disarmed s ++ t) ↔ IsLost c s := by
  obtain ⟨d, r, rfl⟩ := List.exists_cons_of_ne_nil hs
  cases htag : tag? ((d :: r).drop (slashCount (d :: r))) with
  | some p =>
    -- both texts start with backslashes or a tag
    refine iff_of_false ?_ ?_
    · rintro ⟨-, hhead, -⟩
      rw [disarmed_of_tag? htag, List.replicate_succ] at hhead
      cases hhead
    · rintro ⟨-, hhead, hno⟩
      cases Option.some.inj hhead
      rw [slashCount_of_ne (by decide), List.drop_zero, hno] at htag
      cases htag
  | none =>
    rw [disarmed_of_no_tag htag, List.cons_append]
    refine and_congr_right fun _ => and_congr_right fun hhead => ?_
    cases Option.some.inj hhead
    rw [slashCount_of_ne (by decide), List.drop_zero] at htag
    exact iff_of_true (tag?_disarmed ht htag) htag

/-- Nothing of a tag and the backslashes before it is lost. -/
theorem withoutLost_slashes_tag {content rest : List Char} (ht : tag? t = some (content, rest))
    (k : Nat) (s : List Char) :
    withoutLost (List.replicate k '\\' ++ ('[' :: content ++ ']' :: s)) =
      List.replicate k '\\' ++ ('[' :: content ++ ']' :: withoutLost s) := by
  have hcontent : ∀ a : List Char, '[' ∉ a →
      withoutLost (a ++ ']' :: s) = a ++ ']' :: withoutLost s := by
    intro a ha
    induction a with
    | nil => rw [List.nil_append, withoutLost_cons, if_neg (not_isLost_of_ne (by decide) s)]; rfl
    | cons c a ih =>
      have hl : ¬ IsLost c (a ++ ']' :: s) := by
        rintro ⟨-, hhead, -⟩
        cases a with
        | nil => cases hhead
        | cons d a => exact ha (by simp [Option.some.inj hhead])
      rw [List.cons_append, withoutLost_cons, if_neg hl,
        ih fun h => ha (List.mem_cons_of_mem c h)]
      rfl
  have htag : withoutLost ('[' :: content ++ ']' :: s) =
      '[' :: content ++ ']' :: withoutLost s := by
    rw [List.cons_append, withoutLost_cons, if_neg (not_isLost_of_ne (by decide) _),
      hcontent content (not_mem_of_tag? ht)]
    rfl
  induction k with
  | zero => exact htag
  | succ k ih =>
    have hl : ¬ IsLost '\\' (List.replicate k '\\' ++ ('[' :: content ++ ']' :: s)) := by
      rintro ⟨-, hhead, hno⟩
      cases k with
      | zero =>
        rw [List.replicate_zero, List.nil_append, tag?_append ht] at hno
        cases hno
      | succ k => cases hhead
    rw [List.replicate_succ, List.cons_append, withoutLost_cons, if_neg hl, ih]
    rfl

/-- What is shown of a disarmed text and what is behind it: of the text without the backslashes at
its end, what is not lost, and behind it what is shown of these backslashes and of the rest. -/
theorem displays_disarmed (ht : IsApart t) {shownBehind : Nat → List Char}
    (h : ∀ k, Displays opened (List.replicate k '\\' ++ t) (shownBehind k)) (s : List Char) :
    ∃ b k, s = b ++ List.replicate k '\\' ∧
      Displays opened (disarmed s ++ t) (withoutLost b ++ shownBehind k) := by
  fun_induction pieces s with
  | case1 =>
    refine ⟨[], 0, rfl, ?_⟩
    rw [disarmed_nil]
    exact h 0
  | case2 c r content rest htag _ ih =>
    obtain ⟨b, k, hb, hd⟩ := ih
    have hs := replicate_append_drop_slashCount (c :: r)
    rw [eq_append_of_tag? htag] at hs
    refine ⟨List.replicate (slashCount (c :: r)) '\\' ++ ('[' :: content ++ ']' :: b), k, ?_, ?_⟩
    · refine hs.symm.trans ?_
      rw [hb, List.append_assoc, List.append_assoc]
      rfl
    · have hodd : (2 * slashCount (c :: r) + 1) % 2 = 1 := by omega
      have hhalf : (2 * slashCount (c :: r) + 1) / 2 = slashCount (c :: r) := by omega
      have hdisplays := hd.append_escaped htag hodd
      rw [hhalf] at hdisplays
      rw [disarmed_of_tag? htag, withoutLost_slashes_tag htag]
      simpa using hdisplays
  | case3 c r hno ih =>
    by_cases hslash : ∃ k, c :: r = List.replicate k '\\'
    · obtain ⟨k, hk⟩ := hslash
      refine ⟨[], k, hk, ?_⟩
      rw [hk, disarmed_slashes]
      exact h k
    · obtain ⟨b, k, hb, hd⟩ := ih
      have hfree := (no_tag_disarmed ht hno).resolve_right hslash
      rw [disarmed_of_no_tag hno, List.cons_append] at hfree ⊢
      have hcons := hd.cons hfree
      -- the backslash is lost before what was read so far exactly if it is lost before the whole
      have hl : IsLost c (disarmed r ++ t) ↔ IsLost c b := by
        by_cases hr : r = []
        · have hc : c ≠ '\\' := fun hc => hslash ⟨1, by rw [hc, hr]; rfl⟩
          exact iff_of_false (not_isLost_of_ne hc _) (not_isLost_of_ne hc _)
        · rw [isLost_disarmed ht c hr, hb, isLost_append_slashes]
      refine ⟨c :: b, k, by rw [hb]; rfl, ?_⟩
      rw [withoutLost_cons]
      simp only [hl] at hcons
      split <;> simp_all

/-- What may stand behind an escaped text without changing what is shown of it. -/
structure Follows (opened : List String) (t x : List Char) : Prop extends IsApart t where
  displays (k : Nat) :
    Displays opened (List.replicate k '\\' ++ t) (List.replicate k '\\' ++ x)

theorem Follows.slash (h : Follows opened t x) : Follows opened ('\\' :: t) ('\\' :: x) where
  toIsApart := isApart_cons h.unclosed rfl (by decide)
  displays k := by
    have hk := h.displays (k + 1)
    rw [List.replicate_succ', List.append_assoc, List.append_assoc] at hk
    exact hk

theorem follows_nil : Follows opened [] [] where
  unclosed := rfl
  start h := by cases h
  displays := displays_nil.append_slashes nofun

/-- Another character may stand there before what is displayed, if no bracket closes in it before
another one opens. -/
theorem Displays.follows_cons (h : Displays opened t x) (hu : untilClosing? t = none) {c : Char}
    (hc : isTagStart c = false) (hb : c ≠ '[') (hx : c ≠ ']') (hs : c ≠ '\\') :
    Follows opened (c :: t) (c :: x) where
  toIsApart := isApart_cons hu hc hx
  displays := (h.cons_plain hb hs).append_slashes fun he => by
    cases he
    exact ⟨hb, hs⟩

/-- What is shown of an escaped text. -/
theorem displays_escape (h : Follows opened t x) (s : List Char) :
    Displays opened (escape s ++ t) (asShown s ++ x) := by
  have hd {t x : List Char} (h : Follows opened t x) :
      Displays opened (disarmed s ++ t) (withoutLost s ++ x) := by
    obtain ⟨b, k, hb, hd⟩ := displays_disarmed h.toIsApart h.displays s
    rw [hb, withoutLost_append_slashes, ← hb, List.append_assoc]
    exact hd
  have hescape : escape s = guardEnd (disarmed s) := rfl
  rw [hescape, asShown, guardEnd_eq, guardEnd_eq]
  simp only [endsAlone_disarmed, endsAlone_withoutLost]
  split
  · rw [List.append_assoc, List.append_assoc]
    exact hd h.slash
  · exact hd h

/-- What is shown of an escaped text before what may not be shown the same behind backslashes. -/
theorem exists_displays_escape (ht : IsApart t) {shownBehind : Nat → List Char}
    (h : ∀ k, Displays opened (List.replicate k '\\' ++ t) (shownBehind k)) (s : List Char) :
    ∃ b k j, s = b ++ List.replicate k '\\' ∧
      Displays opened (escape s ++ t) (withoutLost b ++ shownBehind j) := by
  have hescape : escape s = guardEnd (disarmed s) := rfl
  rw [hescape, guardEnd_eq]
  split
  · have hslash (k : Nat) :
        Displays opened (List.replicate k '\\' ++ '\\' :: t) (shownBehind (k + 1)) := by
      have hk := h (k + 1)
      rwa [List.replicate_succ', List.append_assoc] at hk
    obtain ⟨b, k, hb, hd⟩ :=
      displays_disarmed (isApart_cons ht.unclosed rfl (by decide)) hslash s
    exact ⟨b, k, k + 1, hb, by rwa [List.append_assoc]⟩
  · obtain ⟨b, k, hb, hd⟩ := displays_disarmed ht h s
    exact ⟨b, k, k, hb, hd⟩

/-- Whatever an escaped text before a closing tag ends with, what is behind the tag is shown. -/
theorem IsStyleTag.exists_displays {name : List Char} {normal : String}
    (hn : IsStyleTag name normal) (opened : List String) (h : ∀ opened, Displays opened t t)
    (s : List Char) :
    ∃ front, Displays (normal :: opened) (escape s ++ ('[' :: '/' :: name ++ ']' :: t))
      (front ++ t) := by
  obtain ⟨b, k, j, -, hd⟩ := exists_displays_escape (isApart_bracket _)
    (hn.displays_slashes_closing (h opened) (h (normal :: opened))) s
  split at hd
  · exact ⟨withoutLost b ++ List.replicate (j / 2) '\\', by rwa [List.append_assoc]⟩
  · refine ⟨withoutLost b ++ (List.replicate (j / 2) '\\' ++ ('[' :: '/' :: name ++ [']'])), ?_⟩
    simpa using hd

/-! ## Lines -/

/-- A text without the control characters that are not shown as they are or that end lines. -/
def IsInLine (s : List Char) : Prop := ∀ c ∈ s, c.toNat < 7 ∨ 13 < c.toNat

instance (s : List Char) : Decidable (IsInLine s) := List.decidableBAll _ s

theorem IsPlain.inLine (h : IsPlain s) : IsInLine s := fun c hc => (h c hc).2.2.2

theorem IsInLine.append {a b : List Char} (ha : IsInLine a) (hb : IsInLine b) :
    IsInLine (a ++ b) :=
  fun c hc => (List.mem_append.1 hc).elim (ha c) (hb c)

theorem IsInLine.not_mem {c : Char} (h : IsInLine s) (hc : 7 ≤ c.toNat ∧ c.toNat ≤ 13) : c ∉ s :=
  fun hm => by
    have := h c hm
    omega

theorem IsInLine.filter (h : IsInLine s) : s.filter (fun c => !isDropped c) = s := by
  refine List.filter_eq_self.2 fun c hc => ?_
  have := h c hc
  simp [isDropped]
  omega

theorem isInLine_asShown (h : IsInLine s) : IsInLine (asShown s) := by
  have hlost : IsInLine (withoutLost s) := by
    intro c hc
    by_cases hs : c = '\\'
    · subst hs
      decide
    · refine h c (List.count_pos_iff.1 ?_)
      rw [← count_withoutLost hs]
      exact List.count_pos_iff.2 hc
  rw [asShown, guardEnd_eq]
  split
  · exact hlost.append (by decide)
  · exact hlost

theorem Displays.display_eq {markup : String} (h : Displays [] markup.toList x) :
    display markup = .ok (String.ofList
      (expandTabs (.ofCell 0) (x.filter fun c => !isDropped c) ++ ['\n'])) := by
  rw [display, h.shown, h.styles]
  rfl

/-- The line for a text without control characters. -/
theorem Displays.line {markup : String} (h : Displays [] markup.toList x) (hx : IsInLine x) :
    display markup = .ok (String.ofList x ++ "\n") := by
  rw [h.display_eq, hx.filter, expandTabs_of_not_mem (hx.not_mem (by decide)), String.ofList_append]

/-- The line ends with the part that has no control characters. -/
theorem Displays.exists_line {markup : String} (h : Displays [] markup.toList (x ++ y))
    (hy : IsInLine y) : ∃ front, display markup = .ok (front ++ String.ofList y ++ "\n") := by
  have hend : ∀ (a : List Char) (g : Text.Gauge),
      ∃ front, expandTabs g (a ++ y) = front ++ y := by
    intro a
    induction a with
    | nil => exact fun g => ⟨[], expandTabs_of_not_mem (hy.not_mem (by decide)) g⟩
    | cons c a ih =>
      intro g
      rw [List.cons_append, expandTabs]
      split
      · obtain ⟨front, hf⟩ := ih (.ofCell 0)
        exact ⟨c :: front, by rw [hf]; rfl⟩
      · split
        · obtain ⟨front, hf⟩ := ih (.ofCell (behindTab g))
          exact ⟨_, by rw [hf, ← List.append_assoc]⟩
        · obtain ⟨front, hf⟩ := ih (g.add c)
          exact ⟨c :: front, by rw [hf]; rfl⟩
  obtain ⟨front, hf⟩ := hend (x.filter fun c => !isDropped c) (.ofCell 0)
  refine ⟨String.ofList front, ?_⟩
  rw [h.display_eq, List.filter_append, hy.filter, hf, String.ofList_append, String.ofList_append]

theorem count_expandTabs (g : Text.Gauge) (s : List Char) :
    (expandTabs g s).count '\n' = s.count '\n' := by
  induction s generalizing g with
  | nil => rfl
  | cons c s ih =>
    unfold expandTabs
    split
    · rw [List.count_cons, List.count_cons, ih]
    · split
      · rename_i htab
        subst htab
        rw [List.count_append, List.count_replicate, ih]
        simp
      · rw [List.count_cons, List.count_cons, ih]

/-- A line has its own end besides the ends of line in it. -/
theorem Displays.count_line {markup : String} (h : Displays [] markup.toList x) :
    ∃ text, display markup = .ok text ∧ text.toList.count '\n' = x.count '\n' + 1 := by
  refine ⟨_, h.display_eq, ?_⟩
  rw [String.toList_ofList, List.count_append, count_expandTabs, List.count_filter (by decide)]
  rfl

/-- No line has a carriage return. -/
theorem not_mem_display {markup text : String} (h : display markup = .ok text) :
    '\r' ∉ text.toList := by
  have htabs : ∀ (a : List Char) (g : Text.Gauge), '\r' ∉ a → '\r' ∉ expandTabs g a := by
    intro a
    induction a with
    | nil => exact fun _ ha => ha
    | cons c a ih =>
      intro g ha
      have hc : '\r' ≠ c := fun hc => ha (by rw [hc]; exact List.mem_cons_self)
      have ha : '\r' ∉ a := fun hm => ha (List.mem_cons_of_mem c hm)
      unfold expandTabs
      split
      · exact List.not_mem_cons_of_ne_of_not_mem hc (ih _ ha)
      · split
        · rw [List.mem_append, not_or]
          exact ⟨fun hm => absurd (List.eq_of_mem_replicate hm) (by decide), ih _ ha⟩
        · exact List.not_mem_cons_of_ne_of_not_mem hc (ih _ ha)
  unfold display at h
  cases hs : shown [] 0 (pieces markup.toList) with
  | error p =>
    rw [hs] at h
    cases h
  | ok x =>
    cases hc : checkStyles (pieces markup.toList) with
    | error p =>
      rw [hs, hc] at h
      cases h
    | ok _ =>
      rw [hs, hc] at h
      cases h
      rw [String.toList_ofList, List.mem_append, not_or]
      refine ⟨htabs _ _ fun hm => ?_, by decide⟩
      exact absurd (List.mem_filter.1 hm).2 (by decide)

end NamedConditions.Markup
