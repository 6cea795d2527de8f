/-!
The words of a line that is typed to a shell. Blanks separate words; between single quotes every
character stands for itself, between double quotes all but the backslash, which takes the meaning
from a quote or a backslash behind it; outside of quotes a backslash takes the meaning from any
character. What is still open at the end of the line is a word as far as it goes.

Main statements: plain characters up to a blank are a word, and so is whatever stands between single
quotes, even if it is nothing.
-/
namespace NamedConditions.Text

/-- Whether a character separates words. -/
def isWordBreak (c : Char) : Bool := c = ' ' || c = '\t' || c = '\r' || c = '\n'

/-- Where in a line a reader of words stands. -/
inductive WordPlace
  | between
  | inWord
  | inQuotes (quote : Char)
  /-- Behind a backslash, outside of quotes. -/
  | escaped
  /-- Behind a backslash between quotes. -/
  | escapedIn (quote : Char)
  deriving DecidableEq

/-- Whether a character starts or ends quotes. -/
def isQuote (c : Char) : Bool := c = '\'' || c = '"'

/-- The words that remain at a place, where the characters of a word that was begun come last
first. -/
def wordsFrom (place : WordPlace) (begun : List Char) : List Char → List (List Char)
  | [] => if place = .between then [] else [begun.reverse]
  | c :: s =>
    match place with
    | .between =>
      if isWordBreak c then wordsFrom .between [] s
      else if c = '\\' then wordsFrom .escaped [] s
      else if isQuote c then wordsFrom (.inQuotes c) [] s
      else wordsFrom .inWord [c] s
    | .inWord =>
      if isWordBreak c then begun.reverse :: wordsFrom .between [] s
      else if c = '\\' then wordsFrom .escaped begun s
      else if isQuote c then wordsFrom (.inQuotes c) begun s
      else wordsFrom .inWord (c :: begun) s
    | .inQuotes quote =>
      if c = quote then wordsFrom .inWord begun s
      else if c = '\\' && quote = '"' then wordsFrom (.escapedIn quote) begun s
      else wordsFrom (.inQuotes quote) (c :: begun) s
    | .escaped => wordsFrom .inWord (c :: begun) s
    | .escapedIn quote =>
      wordsFrom (.inQuotes quote)
        (if c = quote || c = '\\' then c :: begun else c :: '\\' :: begun) s

/-- The words of a line. -/
def shellWords (line : String) : List String :=
  (wordsFrom .between [] line.toList).map String.ofList

/-- Whether a character stands for itself wherever it stands. -/
def isPlain (c : Char) : Bool := !isWordBreak c && c ≠ '\\' && !isQuote c

theorem wordsFrom_inWord_plain {s : List Char} (h : ∀ c ∈ s, isPlain c = true)
    (begun rest : List Char) :
    wordsFrom .inWord begun (s ++ ' ' :: rest) =
      (begun.reverse ++ s) :: wordsFrom .between [] rest := by
  induction s generalizing begun with
  | nil => simp [wordsFrom, isWordBreak]
  | cons c s ih =>
    have hc : isPlain c = true := h c List.mem_cons_self
    simp only [isPlain, Bool.and_eq_true, Bool.not_eq_true', decide_eq_true_eq] at hc
    obtain ⟨⟨hb, he⟩, hq⟩ := hc
    rw [List.cons_append, wordsFrom]
    simp [hb, he, hq, ih fun d hd => h d (List.mem_cons_of_mem c hd)]

/-- Plain characters up to a blank are a word. -/
theorem wordsFrom_plain {c : Char} {s : List Char} (h : ∀ d ∈ c :: s, isPlain d = true)
    (rest : List Char) :
    wordsFrom .between [] (c :: s ++ ' ' :: rest) = (c :: s) :: wordsFrom .between [] rest := by
  have hc : isPlain c = true := h c List.mem_cons_self
  simp only [isPlain, Bool.and_eq_true, Bool.not_eq_true', decide_eq_true_eq] at hc
  obtain ⟨⟨hb, he⟩, hq⟩ := hc
  rw [List.cons_append, wordsFrom]
  simp [hb, he, hq, wordsFrom_inWord_plain fun d hd => h d (List.mem_cons_of_mem c hd)]

theorem wordsFrom_inQuotes {s : List Char} (h : '\'' ∉ s) (begun : List Char) :
    wordsFrom (.inQuotes '\'') begun (s ++ ['\'']) = [begun.reverse ++ s] := by
  induction s generalizing begun with
  | nil => simp [wordsFrom]
  | cons c s ih =>
    have hc : c ≠ '\'' := fun e => h (by simp [e])
    have hs : '\'' ∉ s := fun m => h (List.mem_cons_of_mem c m)
    rw [List.cons_append, wordsFrom]
    simp [hc, ih hs]

/-- What stands between single quotes is a word. -/
theorem wordsFrom_quoted {s : List Char} (h : '\'' ∉ s) :
    wordsFrom .between [] ('\'' :: s ++ ['\'']) = [s] := by
  rw [List.cons_append, wordsFrom]
  simp [isWordBreak, isQuote, wordsFrom_inQuotes h]

end NamedConditions.Text
