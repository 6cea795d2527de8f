import Mathlib.Data.List.TakeWhile
import NamedConditions.Text.Blank
/-!
Stripped texts: those that neither start nor end with a blank. Stripping takes blanks away at both
ends and nothing else, until the text is stripped; so blanks that are put around a stripped text are
all that stripping takes away again.

Main statements: what stripping leaves is stripped (`isStripped_strip`), and stripping undoes
padding (`strip_of_pads`).
-/
namespace NamedConditions.Text

/-- All characters of a text are blanks. -/
def AreBlank (s : List Char) : Prop := ∀ c ∈ s, isBlank c = true

/-- A text neither starts nor ends with a blank. -/
structure IsStripped (s : List Char) : Prop where
  head : ∀ c, s.head? = some c → isBlank c = false
  last : ∀ c, s.getLast? = some c → isBlank c = false

/-- A text is another one with blanks around it. -/
def Pads (padded s : List Char) : Prop :=
  ∃ before after, AreBlank before ∧ AreBlank after ∧ padded = before ++ s ++ after

variable {s padded : List Char}

theorem areBlank_takeWhile (s : List Char) : AreBlank (s.takeWhile isBlank) :=
  fun _ => List.mem_takeWhile_imp

/-- Without the blanks in front, a text is what is left of it and blanks. -/
theorem dropWhile_eq_strip_append (s : List Char) :
    s.dropWhile isBlank =
      strip s ++ ((s.dropWhile isBlank).reverse.takeWhile isBlank).reverse := by
  rw [strip, ← List.reverse_append, List.takeWhile_append_dropWhile, List.reverse_reverse]

/-- A text is what is left of it with blanks around. -/
theorem pads_strip (s : List Char) : Pads s (strip s) := by
  refine ⟨s.takeWhile isBlank, ((s.dropWhile isBlank).reverse.takeWhile isBlank).reverse,
    areBlank_takeWhile s, ?_, ?_⟩
  · exact fun c hc => areBlank_takeWhile _ c (List.mem_reverse.1 hc)
  · rw [List.append_assoc, ← dropWhile_eq_strip_append, List.takeWhile_append_dropWhile]

theorem mem_of_mem_strip {c : Char} (h : c ∈ strip s) : c ∈ s := by
  obtain ⟨before, after, -, -, hs⟩ := pads_strip s
  rw [hs]
  simp [h]

/-- Nothing blank is left at the ends. -/
theorem isStripped_strip (s : List Char) : IsStripped (strip s) := by
  refine ⟨fun c hc => ?_, fun c hc => getLast?_strip_not_blank hc⟩
  refine head?_dropWhile_not (s := s) ?_
  rw [dropWhile_eq_strip_append, List.head?_append, hc]
  rfl

theorem dropWhile_of_head {p : Char → Bool} (h : ∀ c, s.head? = some c → p c = false) :
    s.dropWhile p = s := by
  cases s with
  | nil => rfl
  | cons c s => rw [List.dropWhile_cons_of_neg (by rw [h c rfl]; exact Bool.false_ne_true)]

theorem dropWhile_of_areBlank (h : AreBlank s) : s.dropWhile isBlank = [] := by
  rw [← List.append_nil s, List.dropWhile_append_of_pos h, List.dropWhile_nil]

/-- Stripping takes away what a stripped text is padded with. -/
theorem strip_of_pads (h : Pads padded s) (hs : IsStripped s) : strip padded = s := by
  obtain ⟨before, after, hbefore, hafter, rfl⟩ := h
  rw [strip, List.append_assoc, List.dropWhile_append_of_pos hbefore]
  cases s with
  | nil => rw [List.nil_append, dropWhile_of_areBlank hafter]; rfl
  | cons c s =>
    have hfront : (c :: s ++ after).dropWhile isBlank = c :: s ++ after :=
      dropWhile_of_head fun d hd => hs.head d hd
    have hback : (c :: s).reverse.dropWhile isBlank = (c :: s).reverse :=
      dropWhile_of_head fun d hd => hs.last d (List.head?_reverse ▸ hd)
    rw [hfront, List.reverse_append, List.dropWhile_append_of_pos, hback, List.reverse_reverse]
    exact fun d hd => hafter d (List.mem_reverse.1 hd)

/-- The stripped texts are those of which stripping takes nothing away. -/
theorem strip_eq_self_iff : strip s = s ↔ IsStripped s := by
  constructor
  · intro h
    rw [← h]
    exact isStripped_strip s
  · exact strip_of_pads ⟨[], [], nofun, nofun, by simp⟩

end NamedConditions.Text
