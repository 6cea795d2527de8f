/-!
Markup: text in which a tag, a short word in square brackets, says how what follows is shown. A text
is taken apart into pieces, the characters that stand for themselves and the tags, each tag with the
backslashes directly before it. To escape a text is to write it so that none of its brackets acts as
a tag.

Main statements: pieces written again are the text, a text without an opening bracket has no tags,
and escaping changes nothing about it but a single backslash at its end.
-/
namespace NamedConditions.Markup

/-- A piece of markup. -/
inductive Piece
  | char (c : Char)
  /-- A tag, without its brackets, and the number of backslashes before it. -/
  | tag (slashes : Nat) (content : List Char)

/-- Whether a character may be the first one of a tag. -/
def isTagStart (c : Char) : Bool :=
  ('a' ≤ c && c ≤ 'z') || c = '#' || c = '/' || c = '@'

/-- The text up to the first closing bracket, unless another bracket opens before. -/
def untilClosing? : List Char → Option (List Char × List Char)
  | [] => none
  | c :: s =>
    if c = ']' then some ([], s)
    else if c = '[' then none
    else (untilClosing? s).map fun p => (c :: p.1, p.2)

/-- The tag with which a text starts, and what follows it. -/
def tag? : List Char → Option (List Char × List Char)
  | '[' :: c :: s =>
    if isTagStart c then (untilClosing? s).map fun p => (c :: p.1, p.2) else none
  | _ => none

theorem eq_append_of_untilClosing? {s a b : List Char} (h : untilClosing? s = some (a, b)) :
    s = a ++ ']' :: b := by
  induction s generalizing a with
  | nil => cases h
  | cons c s ih =>
    unfold untilClosing? at h
    split at h
    · rename_i hc
      cases h
      simp [hc]
    · split at h
      · cases h
      · obtain ⟨⟨a', b'⟩, hs, he⟩ := Option.map_eq_some_iff.1 h
        obtain ⟨rfl, rfl⟩ := Prod.mk.inj he
        simp [ih hs]

theorem eq_append_of_tag? {s content rest : List Char} (h : tag? s = some (content, rest)) :
    s = '[' :: content ++ ']' :: rest := by
  unfold tag? at h
  split at h
  · rename_i c t
    split at h
    · obtain ⟨⟨a, b⟩, hs, he⟩ := Option.map_eq_some_iff.1 h
      obtain ⟨rfl, rfl⟩ := Prod.mk.inj he
      simp [eq_append_of_untilClosing? hs]
    · cases h
  · cases h

/-- The number of backslashes at the start of a text. -/
def slashCount : List Char → Nat
  | [] => 0
  | c :: s => if c = '\\' then slashCount s + 1 else 0

theorem replicate_append_drop_slashCount (s : List Char) :
    List.replicate (slashCount s) '\\' ++ s.drop (slashCount s) = s := by
  induction s with
  | nil => rfl
  | cons c s ih =>
    unfold slashCount
    split
    · rename_i hc
      simp [List.replicate_succ, ih, hc]
    · simp

/-- A tag behind backslashes takes something off a text. -/
theorem length_lt_of_tag? {s content rest : List Char} {n : Nat}
    (h : tag? (s.drop n) = some (content, rest)) : rest.length < s.length := by
  have ht := congrArg List.length (eq_append_of_tag? h)
  simp only [List.length_drop, List.length_append, List.length_cons] at ht
  omega

/-- The pieces of a text. -/
def pieces (s : List Char) : List Piece :=
  match s with
  | [] => []
  | c :: r =>
    match h : tag? ((c :: r).drop (slashCount (c :: r))) with
    | some (content, rest) =>
      have : rest.length < (c :: r).length := length_lt_of_tag? h
      .tag (slashCount (c :: r)) content :: pieces rest
    | none => .char c :: pieces r
termination_by s.length
decreasing_by
  · exact this
  · exact Nat.lt_succ_self r.length

/-- A piece as it is written in markup. -/
def Piece.written : Piece → List Char
  | char c => [c]
  | tag slashes content => List.replicate slashes '\\' ++ '[' :: content ++ [']']

/-- A piece written so that it shows itself. -/
def Piece.escaped : Piece → List Char
  | char c => [c]
  | tag slashes content => List.replicate (2 * slashes + 1) '\\' ++ '[' :: content ++ [']']

/-- A backslash alone at the end of a text is doubled, lest it escapes what is written behind. -/
def guardEnd (s : List Char) : List Char :=
  match s.reverse with
  | '\\' :: '\\' :: _ => s
  | '\\' :: _ => s ++ ['\\']
  | _ => s

/-- A text written so that none of its brackets acts as a tag. -/
def escape (s : List Char) : List Char := guardEnd ((pieces s).flatMap Piece.escaped)

theorem flatMap_written_pieces (s : List Char) : (pieces s).flatMap Piece.written = s := by
  fun_induction pieces s with
  | case1 => rfl
  | case2 c r content rest h _ ih =>
    have hr := replicate_append_drop_slashCount (c :: r)
    rw [eq_append_of_tag? h] at hr
    rw [List.flatMap_cons, ih]
    simpa [Piece.written] using hr
  | case3 c r _ ih => rw [List.flatMap_cons, ih]; rfl

theorem tag?_of_not_mem {s : List Char} (h : '[' ∉ s) : tag? s = none := by
  unfold tag?
  split
  · simp at h
  · rfl

theorem pieces_of_not_mem {s : List Char} (h : '[' ∉ s) : pieces s = s.map .char := by
  fun_induction pieces s with
  | case1 => rfl
  | case2 c r content rest ht _ _ =>
    rw [tag?_of_not_mem fun hm => h (List.mem_of_mem_drop hm)] at ht
    cases ht
  | case3 c r _ ih => simp [ih fun hm => h (List.mem_cons_of_mem c hm)]

theorem escape_of_not_mem {s : List Char} (h : '[' ∉ s) : escape s = guardEnd s := by
  unfold escape
  rw [pieces_of_not_mem h]
  congr 1
  clear h
  induction s with
  | nil => rfl
  | cons c s ih => simp_all [Piece.escaped]

end NamedConditions.Markup
