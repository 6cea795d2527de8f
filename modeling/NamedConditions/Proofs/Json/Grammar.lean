import NamedConditions.Json.Reader
/-!
The grammar of JSON: which texts are documents, without saying how one is read or written. A
document is a value with blanks around it. Numbers have no zeros in front, texts have no control
characters and only the escapes that the format knows, and there are three words.

Main statement (`Grammar.exists_leaves`): what stands outside the texts of a value is made of the
characters that the format has for it, so that neither of the two capital letters with which the
words for numbers begin that are not finite stands there.
-/
namespace NamedConditions.Json

/-! ## Blanks, numbers and texts -/

/-- Nothing but blanks. -/
def AreBlanks (s : List Char) : Prop := ∀ c ∈ s, isSpace c = true

/-- One digit or more. -/
def AreDigits (s : List Char) : Prop := s ≠ [] ∧ ∀ c ∈ s, c.isDigit = true

/-- The whole part of a number: a single zero, or digits of which the first is none. -/
inductive IsWholePart : List Char → Prop
  | zero : IsWholePart ['0']
  | digits {c : Char} {s : List Char} (hc : c.isDigit = true) (h0 : c ≠ '0')
    (hs : ∀ d ∈ s, d.isDigit = true) : IsWholePart (c :: s)

/-- What may stand behind the whole part of a number: a point and digits. -/
inductive IsFractionPart : List Char → Prop
  | absent : IsFractionPart []
  | digits {s : List Char} (h : AreDigits s) : IsFractionPart ('.' :: s)

/-- What may stand at the end of a number: a mark, a sign and digits. -/
inductive IsExponentPart : List Char → Prop
  | absent : IsExponentPart []
  | digits {mark : Char} {sign s : List Char} (hm : mark = 'e' ∨ mark = 'E')
    (hs : sign = [] ∨ sign = ['+'] ∨ sign = ['-']) (h : AreDigits s) :
    IsExponentPart (mark :: (sign ++ s))

/-- A number without a sign. -/
inductive IsMagnitude : List Char → Prop
  | intro {whole fraction exponent : List Char} (hw : IsWholePart whole)
    (hf : IsFractionPart fraction) (he : IsExponentPart exponent) :
    IsMagnitude (whole ++ (fraction ++ exponent))

/-- A number. -/
inductive IsNumber : List Char → Prop
  | unsigned {s : List Char} (h : IsMagnitude s) : IsNumber s
  | negative {s : List Char} (h : IsMagnitude s) : IsNumber ('-' :: s)

/-- The hexadecimal digits, of either case. -/
def hexDigits : List Char := "0123456789abcdefABCDEF".toList

/-- The inside of a text. -/
inductive AreCharacters : List Char → Prop
  | nil : AreCharacters []
  | plain {c : Char} {s : List Char} (hc : ' '.toNat ≤ c.toNat) (hq : c ≠ '"') (hb : c ≠ '\\')
    (hs : AreCharacters s) : AreCharacters (c :: s)
  | escape {c : Char} {s : List Char} (hc : c ∈ ['"', '\\', '/', 'b', 'f', 'n', 'r', 't'])
    (hs : AreCharacters s) : AreCharacters ('\\' :: c :: s)
  | code {a b c d : Char} {s : List Char} (hu : ∀ x ∈ [a, b, c, d], x ∈ hexDigits)
    (hs : AreCharacters s) : AreCharacters ('\\' :: 'u' :: a :: b :: c :: d :: s)

/-- A text in quotes. -/
def IsText (s : List Char) : Prop := ∃ t, AreCharacters t ∧ s = '"' :: (t ++ ['"'])

/-! ## Values -/

/-- What has entries between brackets. -/
inductive Enclosure
  | array | object

namespace Enclosure

/-- The bracket in front. -/
def left : Enclosure → Char
  | array => '['
  | object => '\x7b'

/-- The bracket at the end. -/
def right : Enclosure → Char
  | array => ']'
  | object => '\x7d'

end Enclosure

/-- A part of a document: a value, or one entry or all entries of what has entries. -/
inductive Part
  | value
  | entry (e : Enclosure)
  | entries (e : Enclosure)

/-- The words of the format. -/
def formatWords : List (List Char) := ["null".toList, "true".toList, "false".toList]

/-- The parts of documents with the given words. -/
inductive Grammar (words : List (List Char)) : Part → List Char → Prop
  | word {s : List Char} (h : s ∈ words) : Grammar words .value s
  | number {s : List Char} (h : IsNumber s) : Grammar words .value s
  | text {s : List Char} (h : IsText s) : Grammar words .value s
  | empty (e : Enclosure) {b : List Char} (hb : AreBlanks b) :
    Grammar words .value (e.left :: (b ++ [e.right]))
  | filled {e : Enclosure} {s : List Char} (h : Grammar words (.entries e) s) :
    Grammar words .value (e.left :: (s ++ [e.right]))
  | item {b s b' : List Char} (hb : AreBlanks b) (h : Grammar words .value s)
    (hb' : AreBlanks b') : Grammar words (.entry .array) (b ++ (s ++ b'))
  | member {b n b' a s a' : List Char} (hb : AreBlanks b) (hn : IsText n) (hb' : AreBlanks b')
    (ha : AreBlanks a) (h : Grammar words .value s) (ha' : AreBlanks a') :
    Grammar words (.entry .object) (b ++ (n ++ (b' ++ ':' :: (a ++ (s ++ a')))))
  | last {e : Enclosure} {s : List Char} (h : Grammar words (.entry e) s) :
    Grammar words (.entries e) s
  | next {e : Enclosure} {s t : List Char} (h : Grammar words (.entry e) s)
    (ht : Grammar words (.entries e) t) : Grammar words (.entries e) (s ++ ',' :: t)

/-- A document: a value with nothing but blanks around it. -/
def IsDocument (s : List Char) : Prop :=
  ∃ b v b', AreBlanks b ∧ Grammar formatWords .value v ∧ AreBlanks b' ∧ s = b ++ (v ++ b')

/-- Blanks may stand around an entry. -/
theorem Grammar.padded {words : List (List Char)} {e : Enclosure} {b s b' : List Char}
    (hb : AreBlanks b) (h : Grammar words (.entry e) s) (hb' : AreBlanks b') :
    Grammar words (.entry e) (b ++ (s ++ b')) := by
  have happend {a a' : List Char} (ha : AreBlanks a) (ha' : AreBlanks a') :
      AreBlanks (a ++ a') := fun c hc => (List.mem_append.1 hc).elim (ha c) (ha' c)
  cases h with
  | @item a s a' ha hs ha' =>
    have hpadded := Grammar.item (happend hb ha) hs (happend ha' hb')
    simpa only [List.append_assoc] using hpadded
  | @member c n c' a s a' hc hn hc' ha hs ha' =>
    have hpadded := Grammar.member (happend hb hc) hn hc' ha hs (happend ha' hb')
    simpa only [List.append_assoc, List.cons_append] using hpadded

/-- What is checked of the characters of a list one by one holds of them. -/
theorem forall_mem_of_all {P : Char → Prop} [DecidablePred P] {s : List Char}
    (h : s.all (fun c => decide (P c)) = true) : ∀ c ∈ s, P c := by
  simpa using h

/-! ## Outside of texts -/

/-- Where a character stands. -/
inductive Place
  | outside | inside
  /-- Behind a backslash in a text. -/
  | escaped
  deriving DecidableEq

/-- Where the character behind another one stands. -/
def Place.next (c : Char) : Place → Place
  | outside => if c = '"' then inside else outside
  | inside => if c = '"' then outside else if c = '\\' then escaped else inside
  | escaped => inside

/-- What stands outside of texts. -/
def outside : Place → List Char → List Char
  | _, [] => []
  | p, c :: s =>
    if p = .outside ∧ c ≠ '"' then c :: outside (p.next c) s else outside (p.next c) s

/-- Every text that starts in the first part ends there, and `o` is what stands outside of them. -/
def Leaves (s o : List Char) : Prop :=
  ∀ rest, outside .outside (s ++ rest) = o ++ outside .outside rest

theorem Leaves.append {s o t p : List Char} (hs : Leaves s o) (ht : Leaves t p) :
    Leaves (s ++ t) (o ++ p) := by
  intro rest
  rw [List.append_assoc, hs, ht, List.append_assoc]

theorem Leaves.unique {s o p : List Char} (h : Leaves s o) (h' : Leaves s p) : o = p := by
  have hnil := (h []).symm.trans (h' [])
  simpa [outside] using hnil

theorem leaves_of_not_mem {s : List Char} (h : '"' ∉ s) : Leaves s s := by
  intro rest
  induction s with
  | nil => rfl
  | cons c s ih =>
    rw [List.mem_cons, not_or] at h
    rw [List.cons_append, outside, if_pos ⟨rfl, Ne.symm h.1⟩, Place.next, if_neg (Ne.symm h.1),
      ih h.2, List.cons_append]

theorem Leaves.cons {s o : List Char} {c : Char} (hc : c ≠ '"') (h : Leaves s o) :
    Leaves (c :: s) (c :: o) :=
  (leaves_of_not_mem (s := [c]) (by simp [Ne.symm hc])).append h

theorem outside_inside_cons {c : Char} (hq : c ≠ '"') (hb : c ≠ '\\') (s : List Char) :
    outside .inside (c :: s) = outside .inside s := by
  rw [outside, if_neg (by simp), Place.next, if_neg hq, if_neg hb]

theorem outside_inside_escape (c : Char) (s : List Char) :
    outside .inside ('\\' :: c :: s) = outside .inside s := rfl

/-- Nothing of a text stands outside of it. -/
theorem leaves_of_isText {s : List Char} (h : IsText s) : Leaves s [] := by
  obtain ⟨t, ht, rfl⟩ := h
  intro rest
  have hinside : outside .inside (t ++ '"' :: rest) = outside .outside rest := by
    induction ht with
    | nil => rfl
    | plain _ hq hb _ ih => rw [List.cons_append, outside_inside_cons hq hb, ih]
    | escape _ _ ih => rw [List.cons_append, List.cons_append, outside_inside_escape, ih]
    | @code a b c d s hu _ ih =>
      have hplain : ∀ x ∈ hexDigits, x ≠ '"' ∧ x ≠ '\\' := forall_mem_of_all (by decide)
      simp only [List.cons_append, outside_inside_escape]
      simp only [List.forall_mem_cons] at hu
      obtain ⟨ha, hb, hc, hd, -⟩ := hu
      rw [outside_inside_cons (hplain a ha).1 (hplain a ha).2,
        outside_inside_cons (hplain b hb).1 (hplain b hb).2,
        outside_inside_cons (hplain c hc).1 (hplain c hc).2,
        outside_inside_cons (hplain d hd).1 (hplain d hd).2, ih]
  rw [List.cons_append, List.append_assoc]
  exact hinside

/-- Neither a quote nor one of the capital letters with which words for numbers begin. -/
def IsCalm (c : Char) : Prop := c ≠ '"' ∧ c ≠ 'N' ∧ c ≠ 'I'

instance : DecidablePred IsCalm := fun _ => inferInstanceAs (Decidable (_ ∧ _))

theorem isCalm_of_isSpace {c : Char} (h : isSpace c = true) : IsCalm c := by
  refine ⟨?_, ?_, ?_⟩ <;> rintro rfl <;> cases h

/-- A character of a number that is no digit. -/
def IsNumberSign (c : Char) : Prop := c ∈ ['-', '+', '.', 'e', 'E']

theorem IsMagnitude.mem {s : List Char} (h : IsMagnitude s) :
    ∀ c ∈ s, c.isDigit = true ∨ IsNumberSign c := by
  obtain ⟨hw, hf, he⟩ := h
  simp only [List.forall_mem_append]
  refine ⟨?_, ?_, ?_⟩
  · cases hw with
    | zero => exact List.forall_mem_singleton.2 (.inl rfl)
    | digits hc _ hs => exact List.forall_mem_cons.2 ⟨.inl hc, fun c hc => .inl (hs c hc)⟩
  · cases hf with
    | absent => exact nofun
    | digits h => exact List.forall_mem_cons.2 ⟨.inr (.tail _ (.tail _ (.head _))),
        fun c hc => .inl (h.2 c hc)⟩
  · cases he with
    | absent => exact nofun
    | digits hm hs h =>
      rw [List.forall_mem_cons, List.forall_mem_append]
      refine ⟨.inr ?_, ?_, fun c hc => .inl (h.2 c hc)⟩
      · rcases hm with rfl | rfl <;> simp [IsNumberSign]
      · rcases hs with rfl | rfl | rfl <;> simp [IsNumberSign]

/-- Numbers are made of digits and few other characters. -/
theorem IsNumber.mem {s : List Char} (h : IsNumber s) :
    ∀ c ∈ s, c.isDigit = true ∨ IsNumberSign c := by
  cases h with
  | unsigned h => exact h.mem
  | negative h => exact List.forall_mem_cons.2 ⟨.inr (.head _), h.mem⟩

theorem IsNumber.calm {s : List Char} (h : IsNumber s) : ∀ c ∈ s, IsCalm c := by
  intro c hc
  rcases h.mem c hc with hd | hs
  · refine ⟨?_, ?_, ?_⟩ <;> rintro rfl <;> cases hd
  · have hall : ∀ c ∈ ['-', '+', '.', 'e', 'E'], IsCalm c := forall_mem_of_all (by decide)
    exact hall c hs

/-- No control character stands in a text. -/
theorem IsText.blank_le {s : List Char} (h : IsText s) : ∀ c ∈ s, ' '.toNat ≤ c.toNat := by
  obtain ⟨t, ht, rfl⟩ := h
  have hinside : ∀ c ∈ t, ' '.toNat ≤ c.toNat := by
    induction ht with
    | nil => exact nofun
    | plain hc _ _ _ ih => exact List.forall_mem_cons.2 ⟨hc, ih⟩
    | escape hc _ ih =>
      have hall : ∀ c ∈ ['"', '\\', '/', 'b', 'f', 'n', 'r', 't'], ' '.toNat ≤ c.toNat :=
        forall_mem_of_all (by decide)
      exact List.forall_mem_cons.2 ⟨by decide, List.forall_mem_cons.2 ⟨hall _ hc, ih⟩⟩
    | @code a b c d s hu _ ih =>
      have hall : ∀ c ∈ hexDigits, ' '.toNat ≤ c.toNat := forall_mem_of_all (by decide)
      have hdigits : ∀ x ∈ [a, b, c, d] ++ s, ' '.toNat ≤ x.toNat :=
        List.forall_mem_append.2 ⟨fun x hx => hall x (hu x hx), ih⟩
      exact List.forall_mem_cons.2 ⟨by decide, List.forall_mem_cons.2 ⟨by decide, hdigits⟩⟩
  exact List.forall_mem_cons.2 ⟨by decide, List.forall_mem_append.2
    ⟨hinside, List.forall_mem_singleton.2 (by decide)⟩⟩

/-- What stands outside of the texts of a part: characters of the words, and calm ones. -/
theorem Grammar.exists_leaves {words : List (List Char)} {P : Char → Prop}
    (hP : ∀ c, IsCalm c → P c) (hw : ∀ w ∈ words, '"' ∉ w ∧ ∀ c ∈ w, P c) {p : Part}
    {s : List Char} (h : Grammar words p s) : ∃ o, Leaves s o ∧ ∀ c ∈ o, P c := by
  have hcalm {s : List Char} (hs : ∀ c ∈ s, IsCalm c) : ∃ o, Leaves s o ∧ ∀ c ∈ o, P c :=
    ⟨s, leaves_of_not_mem fun hq => (hs _ hq).1 rfl, fun c hc => hP c (hs c hc)⟩
  have hblank {s : List Char} (hs : AreBlanks s) : ∃ o, Leaves s o ∧ ∀ c ∈ o, P c :=
    hcalm fun c hc => isCalm_of_isSpace (hs c hc)
  have happend {s t : List Char} : (∃ o, Leaves s o ∧ ∀ c ∈ o, P c) →
      (∃ o, Leaves t o ∧ ∀ c ∈ o, P c) → ∃ o, Leaves (s ++ t) o ∧ ∀ c ∈ o, P c := by
    rintro ⟨o, hs, ho⟩ ⟨p, ht, hp⟩
    exact ⟨o ++ p, hs.append ht, List.forall_mem_append.2 ⟨ho, hp⟩⟩
  have hcons {c : Char} {s : List Char} (hc : IsCalm c) :
      (∃ o, Leaves s o ∧ ∀ c ∈ o, P c) → ∃ o, Leaves (c :: s) o ∧ ∀ c ∈ o, P c :=
    happend (s := [c]) (hcalm (List.forall_mem_singleton.2 hc))
  have hleft (e : Enclosure) : IsCalm e.left := by cases e <;> decide
  have hright (e : Enclosure) : ∃ o, Leaves [e.right] o ∧ ∀ c ∈ o, P c :=
    hcalm (List.forall_mem_singleton.2 (by cases e <;> decide))
  have htext {s : List Char} (hs : IsText s) : ∃ o, Leaves s o ∧ ∀ c ∈ o, P c :=
    ⟨[], leaves_of_isText hs, nofun⟩
  induction h with
  | word h => exact ⟨_, leaves_of_not_mem (hw _ h).1, (hw _ h).2⟩
  | number h => exact hcalm h.calm
  | text h => exact htext h
  | empty e hb => exact hcons (hleft e) (happend (hblank hb) (hright e))
  | filled _ ih => exact hcons (hleft _) (happend ih (hright _))
  | item hb _ hb' ih => exact happend (hblank hb) (happend ih (hblank hb'))
  | member hb hn hb' ha _ ha' ih =>
    exact happend (hblank hb) (happend (htext hn) (happend (hblank hb')
      (hcons (by decide) (happend (hblank ha) (happend ih (hblank ha'))))))
  | last _ ih => exact ih
  | next _ _ ih iht => exact happend ih (hcons (by decide) iht)

/-- Outside of the texts of a document nothing but calm characters stand. -/
theorem IsDocument.calm {s o : List Char} (h : IsDocument s) (ho : Leaves s o) :
    ∀ c ∈ o, IsCalm c := by
  obtain ⟨b, v, b', hb, hv, hb', rfl⟩ := h
  have hitem : Grammar formatWords (.entry .array) (b ++ (v ++ b')) := .item hb hv hb'
  have hwords : ∀ w ∈ formatWords, '"' ∉ w ∧ w.all (fun c => decide (IsCalm c)) = true := by decide
  obtain ⟨p, hp, hcalm⟩ := hitem.exists_leaves (fun _ => id) fun w hw =>
    ⟨(hwords w hw).1, forall_mem_of_all (hwords w hw).2⟩
  rwa [ho.unique hp]

end NamedConditions.Json
