import NamedConditions.Json.Document
/-!
Reading JSON documents, with the first problem and its place when a text is none. Beside what the
format admits, the words for numbers that are not finite are read. Every reader gives what remains
of the text, which is shorter.

Main statements: dropping blanks or digits never makes a text longer, which is why reading ends, and
a word is read as what it stands for.
-/
namespace NamedConditions.Json

/-- Why a text is no document. -/
inductive Problem
  | byteOrderMark
  | noValue
  | noName
  | noColon
  | noComma
  | openText
  | controlCharacter
  | badEscape
  | badUnicodeEscape
  | moreText
  /-- A whole number is written with more digits than are read. -/
  | tooManyDigits (count : Nat)
  /-- Arrays and objects stand in one another too deep. -/
  | tooDeep (isArray : Bool)
  deriving DecidableEq

/-- How deep arrays and objects may stand in one another. -/
def depthLimit : Nat := 985

namespace Problem

/-- A problem in words. -/
def message : Problem → String
  | byteOrderMark => "Unexpected UTF-8 BOM (decode using utf-8-sig)"
  | noValue => "Expecting value"
  | noName => "Expecting property name enclosed in double quotes"
  | noColon => "Expecting ':' delimiter"
  | noComma => "Expecting ',' delimiter"
  | openText => "Unterminated string starting at"
  | controlCharacter => "Invalid control character at"
  | badEscape => "Invalid \\escape"
  | badUnicodeEscape => "Invalid \\uXXXX escape"
  | moreText => "Extra data"
  | tooManyDigits count => Whole.tooManyDigitsText count
  | tooDeep isArray =>
    "maximum recursion depth exceeded while decoding a JSON " ++
      (if isArray then "array" else "object") ++ " from a unicode string"

end Problem

/-- A problem and its place, as the number of characters from there to the end. -/
structure Fault where
  problem : Problem
  left : Nat

namespace Fault

/-- The problem in words, with line, column and place in the text. -/
def message (text : List Char) (f : Fault) : String :=
  let before := text.take (text.length - f.left)
  let line := before.count '\n' + 1
  let column := (before.reverse.takeWhile (· ≠ '\n')).length + 1
  f.problem.message ++ ": line " ++ toString line ++ " column " ++ toString column ++ " (char " ++
    toString before.length ++ ")"

end Fault

/-- What was read from the start of a text, and the rest. -/
structure Reading (α : Type) (s : List Char) where
  result : α
  rest : List Char
  shorter : rest.length < s.length

namespace Reading

variable {α β : Type} {s t : List Char}

/-- A reading with another result, as one from a text at least as long. -/
def widen (f : α → β) (h : t.length ≤ s.length) (r : Reading α t) : Reading β s :=
  ⟨f r.result, r.rest, Nat.lt_of_lt_of_le r.shorter h⟩

end Reading

/-- What a reader gives: a reading, or the first problem. -/
abbrev ReadResult (α : Type) (s : List Char) := Except Fault (Reading α s)

/-! ## Blanks, words and numbers -/

/-- Whether a character may stand between the parts of a document. -/
def isSpace (c : Char) : Bool := c = ' ' || c = '\t' || c = '\n' || c = '\r'

/-- The text from its first character that is no blank. -/
def skipSpaces (s : List Char) : List Char := s.dropWhile isSpace

theorem length_dropWhile_le (p : Char → Bool) (s : List Char) :
    (s.dropWhile p).length ≤ s.length := by
  induction s with
  | nil => simp
  | cons c s ih =>
    rw [List.dropWhile_cons]
    split
    · exact Nat.le_succ_of_le ih
    · simp

theorem length_skipSpaces_le (s : List Char) : (skipSpaces s).length ≤ s.length :=
  length_dropWhile_le isSpace s

/-- The words of the format. -/
def words : List (List Char × Document) :=
  [("null".toList, .null), ("true".toList, .bool true), ("false".toList, .bool false),
    ("NaN".toList, .float (.nan 0)), ("Infinity".toList, .float (.infinite false)),
    ("-Infinity".toList, .float (.infinite true))]

/-- Reads a word. -/
def word? (s : List Char) : Option (Reading Document s) :=
  (words.find? fun w => w.1.isPrefixOf s && !w.1.isEmpty).bind fun w =>
    let rest := s.drop w.1.length
    if h : rest.length < s.length then some ⟨w.2, rest, h⟩ else none

/-- The value and the number of the digits of a whole part: a zero stands alone. -/
def wholePart? : (s : List Char) → Option (Reading (Nat × Nat) s)
  | [] => none
  | '0' :: r => some ⟨(0, 1), r, by simp⟩
  | c :: r =>
    if c.isDigit then
      let (n, count, rest) := Scientific.digits 0 0 (c :: r)
      if h : rest.length < (c :: r).length then some ⟨(n, count), rest, h⟩ else none
    else none

/-- The digits behind a point, added to a whole part, and their number. -/
def fractionPart (whole : Nat) (s : List Char) : Option (Nat × Nat × List Char) :=
  match s with
  | '.' :: c :: r => if c.isDigit then some (Scientific.digits whole 0 (c :: r)) else none
  | _ => none

/-- An exponent, if there is one with at least a digit. -/
def exponentPart (s : List Char) : Option (Int × List Char) :=
  match s with
  | [] => none
  | c :: r =>
    if c = 'e' ∨ c = 'E' then
      let (negative, r) := Scientific.sign r
      match Scientific.digits 0 0 r with
      | (_, 0, _) => none
      | (n, _, rest) => some (if negative then -(n : Int) else n, rest)
    else none

/-- The number with a sign and a whole part, and what of the text is behind it. -/
def numberFrom (negative : Bool) (whole : Nat) (s : List Char) : Document × List Char :=
  let (coefficient, places, rest) := (fractionPart whole s).getD (whole, 0, s)
  match exponentPart rest with
  | some (e, rest) => (.float (.ofScientific ⟨negative, coefficient, e - places⟩), rest)
  | none =>
    if places = 0 then (.int (if negative then -(whole : Int) else whole), rest)
    else (.float (.ofScientific ⟨negative, coefficient, -(places : Int)⟩), rest)

/-- Whether a document is a whole number. -/
def isWhole : Document → Bool
  | .int _ => true
  | _ => false

/-- Reads a number; a whole one must not have too many digits. -/
def number? (s : List Char) : Option (ReadResult Document s) :=
  let (negative, t) := match s with
    | '-' :: t => (true, t)
    | t => (false, t)
  (wholePart? t).bind fun whole =>
    let (n, count) := whole.result
    let (d, rest) := numberFrom negative n whole.rest
    if isWhole d && Whole.digitLimit < count then some (.error ⟨.tooManyDigits count, s.length⟩)
    else if h : rest.length < s.length then some (.ok ⟨d, rest, h⟩) else none

/-! ## Texts -/

/-- The value of a hexadecimal digit. -/
def hexValue? (c : Char) : Option Nat :=
  let n := c.toNat
  if 48 ≤ n ∧ n ≤ 57 then some (n - 48)
  else if 65 ≤ n ∧ n ≤ 70 then some (n - 55)
  else if 97 ≤ n ∧ n ≤ 102 then some (n - 87)
  else none

/-- The UTF-16 unit that four hexadecimal digits give. -/
def unit? (a b c d : Char) : Option Nat := do
  return 4096 * (← hexValue? a) + 256 * (← hexValue? b) + 16 * (← hexValue? c) + (← hexValue? d)

/-- The code point of a pair of units. -/
def ofPair (high low : Nat) : Nat := 0x10000 + (high - 0xd800) * 0x400 + (low - 0xdc00)

/-- Reads what may follow the first unit of an escape: the second half of a pair. -/
def secondUnit? (s : List Char) : Except Fault (Option (Reading Nat s)) :=
  match s with
  | '\\' :: 'u' :: a :: b :: c :: d :: e :: r =>
    match unit? a b c d with
    | none => .error ⟨.badUnicodeEscape, r.length + 6⟩
    | some u =>
      .ok (if 0xdc00 ≤ u ∧ u ≤ 0xdfff then some ⟨u, e :: r, by simp⟩ else none)
  | _ => .ok none

/-- Reads an escape by code behind its first two characters; a half of a pair may stand alone. -/
def readUnicode (s : List Char) : ReadResult Nat s :=
  match s with
  | a :: b :: c :: d :: e :: r =>
    match unit? a b c d with
    | none => .error ⟨.badUnicodeEscape, r.length + 6⟩
    | some u =>
      if 0xd800 ≤ u ∧ u ≤ 0xdbff then
        match secondUnit? (e :: r) with
        | .error f => .error f
        | .ok none => .ok ⟨u, e :: r, by simp⟩
        | .ok (some low) => .ok (low.widen (ofPair u) (by simp))
      else .ok ⟨u, e :: r, by simp⟩
  | s => .error ⟨.badUnicodeEscape, s.length + 1⟩

/-- The character that a letter stands for in an escape. -/
def escaped? (c : Char) : Option Char :=
  match c with
  | '"' => some '"'
  | '\\' => some '\\'
  | '/' => some '/'
  | 'b' => some '\x08'
  | 'f' => some '\x0c'
  | 'n' => some '\n'
  | 'r' => some '\r'
  | 't' => some '\t'
  | _ => none

/-- Reads an escape behind its backslash; `start` says where the text began. -/
def readEscape (start : Nat) (s : List Char) : ReadResult Nat s :=
  match s with
  | [] => .error ⟨.openText, start⟩
  | c :: r =>
    if c = 'u' then (readUnicode r).map (Reading.widen id (by simp))
    else
      match escaped? c with
      | some d => .ok ⟨d.toNat, r, by simp⟩
      | none => .error ⟨.badEscape, r.length + 2⟩

/-- Reads a text behind its first quote; `start` says where it began. -/
def readText (start : Nat) (s : List Char) : ReadResult CodePoints s :=
  match s with
  | [] => .error ⟨.openText, start⟩
  | c :: r =>
    if c = '"' then .ok ⟨[], r, by simp⟩
    else if c = '\\' then
      match readEscape start r with
      | .error f => .error f
      | .ok e =>
        have := e.shorter
        (readText start e.rest).map (Reading.widen (e.result :: ·) (by simp; omega))
    else if c.toNat < 0x20 then .error ⟨.controlCharacter, r.length + 1⟩
    else (readText start r).map (Reading.widen (c.toNat :: ·) (by simp))
termination_by s.length

/-! ## Documents -/

mutual

/-- Reads a document that starts with the first character; `room` says how deep arrays and objects
may still stand in it. -/
def readValue (room : Nat) (s : List Char) : ReadResult Document s :=
  match s with
  | [] => .error ⟨.noValue, 0⟩
  | c :: r =>
    if c = '"' then
      (readText (r.length + 1) r).map (Reading.widen .str (by simp))
    else if c = '[' then
      if room = 0 then .error ⟨.tooDeep true, r.length + 1⟩ else
      have := length_skipSpaces_le r
      match h : skipSpaces r with
      | ']' :: t => .ok ⟨.array [], t, by simp_all; omega⟩
      | t => (readItems (room - 1) t).map (Reading.widen .array (by simp_all; omega))
    else if c = '\x7b' then
      if room = 0 then .error ⟨.tooDeep false, r.length + 1⟩ else
      have := length_skipSpaces_le r
      match h : skipSpaces r with
      | '\x7d' :: t => .ok ⟨.object [], t, by simp_all; omega⟩
      | t => (readMembers (room - 1) t).map (Reading.widen .object (by simp_all; omega))
    else
      match word? (c :: r), number? (c :: r) with
      | some w, _ => .ok w
      | none, some n => n
      | none, none => .error ⟨.noValue, r.length + 1⟩
termination_by (s.length, 0)

/-- Reads the items of an array up to its closing bracket. -/
def readItems (room : Nat) (s : List Char) : ReadResult (List Document) s :=
  match readValue room s with
  | .error f => .error f
  | .ok item =>
    have := item.shorter
    have := length_skipSpaces_le item.rest
    match h : skipSpaces item.rest with
    | ']' :: r => .ok ⟨[item.result], r, by simp_all; omega⟩
    | ',' :: r =>
      have : (skipSpaces item.rest).length = r.length + 1 := by rw [h]; rfl
      have := length_skipSpaces_le r
      (readItems room (skipSpaces r)).map (Reading.widen (item.result :: ·) (by simp_all; omega))
    | t => .error ⟨.noComma, t.length⟩
termination_by (s.length, 1)

/-- Reads the members of an object up to its closing brace. -/
def readMembers (room : Nat) (s : List Char) : ReadResult (List (CodePoints × Document)) s :=
  match s with
  | '"' :: r =>
    match readText (r.length + 1) r with
    | .error f => .error f
    | .ok name =>
      have := name.shorter
      have := length_skipSpaces_le name.rest
      match h : skipSpaces name.rest with
      | ':' :: t =>
        have : (skipSpaces name.rest).length = t.length + 1 := by rw [h]; rfl
        have := length_skipSpaces_le t
        match readValue room (skipSpaces t) with
        | .error f => .error f
        | .ok v =>
          have := v.shorter
          have := length_skipSpaces_le v.rest
          match h' : skipSpaces v.rest with
          | '\x7d' :: u =>
            .ok ⟨[(name.result, v.result)], u, by simp_all; omega⟩
          | ',' :: u =>
            have : (skipSpaces v.rest).length = u.length + 1 := by rw [h']; rfl
            have := length_skipSpaces_le u
            (readMembers room (skipSpaces u)).map
              (Reading.widen ((name.result, v.result) :: ·) (by simp_all; omega))
          | u => .error ⟨.noComma, u.length⟩
      | t => .error ⟨.noColon, t.length⟩
  | s => .error ⟨.noName, s.length⟩
termination_by (s.length, 1)

end

/-- Reads a text as a document with nothing but blanks around it. -/
def readCharacters (s : List Char) : Except Fault Document :=
  match s with
  | '\uFEFF' :: r => .error ⟨.byteOrderMark, r.length + 1⟩
  | s =>
    match readValue depthLimit (skipSpaces s) with
    | .error f => .error f
    | .ok d =>
      match skipSpaces d.rest with
      | [] => .ok d.result
      | t => .error ⟨.moreText, t.length⟩

/-- Why a text is not read: it is no document, or reading it would go beyond a limit. -/
inductive Refusal
  | malformed (reason : String)
  | beyond (error : Raised)

/-- Why a text with a fault is not read, in words. -/
def Fault.refusal (text : List Char) (f : Fault) : Refusal :=
  match f.problem with
  | .tooManyDigits _ => .beyond (.ofText .badValue f.problem.message)
  | .tooDeep _ => .beyond (.ofText (.other "RecursionError") f.problem.message)
  | _ => .malformed (f.message text)

/-- Reads a text as a document. -/
def read (text : String) : Except Refusal Document :=
  match readCharacters text.toList with
  | .ok d => .ok d
  | .error f => .error (f.refusal text.toList)

/-! ## Words and numbers that stand alone -/

theorem readValue_word {room : Nat} {c : Char} {r : List Char} {w : Reading Document (c :: r)}
    (hc : c ∉ ['"', '[', '\x7b']) (h : word? (c :: r) = some w) :
    readValue room (c :: r) = .ok w := by
  simp only [List.mem_cons, List.not_mem_nil, or_false, not_or] at hc
  rw [readValue, if_neg hc.1, if_neg hc.2.1, if_neg hc.2.2, h]

theorem readValue_number {room : Nat} {c : Char} {r : List Char}
    {n : ReadResult Document (c :: r)} (hc : c ∉ ['"', '[', '\x7b'])
    (hw : word? (c :: r) = none) (h : number? (c :: r) = some n) :
    readValue room (c :: r) = n := by
  simp only [List.mem_cons, List.not_mem_nil, or_false, not_or] at hc
  rw [readValue, if_neg hc.1, if_neg hc.2.1, if_neg hc.2.2, hw, h]

theorem readCharacters_of_readValue {s : List Char} (hmark : s.head? ≠ some '\uFEFF')
    {w : Reading Document (skipSpaces s)} (h : readValue depthLimit (skipSpaces s) = .ok w)
    {d : Document} (hd : w.result = d) (hrest : skipSpaces w.rest = []) :
    readCharacters s = .ok d := by
  unfold readCharacters
  split
  · exact absurd rfl hmark
  · rw [h, ← hd]
    dsimp only
    rw [hrest]

theorem readCharacters_of_fault {s : List Char} (hmark : s.head? ≠ some '\uFEFF') {f : Fault}
    (h : readValue depthLimit (skipSpaces s) = .error f) : readCharacters s = .error f := by
  unfold readCharacters
  split
  · exact absurd rfl hmark
  · rw [h]

/-- A text that is a word is read as the document that the word stands for. -/
theorem read_word {w : List Char × Document} (h : w ∈ words) : read (.ofList w.1) = .ok w.2 := by
  have hchars : readCharacters w.1 = .ok w.2 := by
    simp only [words, List.mem_cons, List.not_mem_nil, or_false] at h
    rcases h with rfl | rfl | rfl | rfl | rfl | rfl <;>
      exact readCharacters_of_readValue (by decide) (readValue_word (by decide) rfl) rfl rfl
  rw [read, String.toList_ofList, hchars]

end NamedConditions.Json
