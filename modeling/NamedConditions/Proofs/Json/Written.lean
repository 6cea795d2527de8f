import Mathlib.Data.List.GetD
import NamedConditions.Json.Writer
import NamedConditions.Proofs.Json.Numerals
/-!
Written documents and the grammar. Brackets, names and texts are always written as the grammar has
them. A number that is not finite is written as a word that the grammar does not have, and the
capital letter with which the word begins stands outside of all texts, where no document has one.

Main statement: what is written is a document, with nothing but an end of line behind it, exactly if
every number in it is finite (`isDocument_write_iff`). Nothing in it changes where its lines end
(`not_mem_writeAt`).
-/
namespace NamedConditions.Json

/-! ## Texts -/

theorem AreCharacters.append {s t : List Char} (hs : AreCharacters s) (ht : AreCharacters t) :
    AreCharacters (s ++ t) := by
  induction hs with
  | nil => exact ht
  | plain hc hq hb _ ih => exact .plain hc hq hb ih
  | escape hc _ ih => exact .escape hc ih
  | code hu _ ih => exact .code hu ih

theorem hexDigit_mem (n : Nat) : Text.hexDigit n ∈ hexDigits := by
  have hall : ∀ m < 16, Text.hexDigit m ∈ hexDigits := by decide
  by_cases h : n < 16
  · exact hall n h
  · rw [Text.hexDigit, List.getD_eq_default _ _ (by simpa using h)]
    decide

theorem areCharacters_unit (u : Nat) : AreCharacters ('\\' :: 'u' :: Text.hex 4 u) := by
  refine .code (fun x hx => ?_) .nil
  simp only [List.mem_cons, List.not_mem_nil, or_false] at hx
  rcases hx with rfl | rfl | rfl | rfl <;> exact hexDigit_mem _

/-- A code point is written in the characters of a text. -/
theorem areCharacters_writeCode (n : Nat) : AreCharacters (writeCode n) := by
  unfold writeCode
  cases hl : letter? n with
  | some c =>
    obtain ⟨front, back, he, -⟩ := List.lookup_eq_some_iff.1 hl
    have hmem : (n, c) ∈ front ++ (n, c) :: back := List.mem_append_right _ List.mem_cons_self
    rw [← he] at hmem
    refine .escape ?_ .nil
    have hletters : ∀ x ∈ [('"'.toNat, '"'), ('\\'.toNat, '\\'), (10, 'n'), (13, 'r'), (9, 't'),
        (8, 'b'), (12, 'f')], x.2 ∈ ['"', '\\', '/', 'b', 'f', 'n', 'r', 't'] := by decide
    exact hletters _ hmem
  | none =>
    dsimp only
    split
    · rename_i hrange
      have hchar : (Char.ofNat n).toNat = n := by
        have hlow : '~'.toNat < 0xd800 := by decide
        rw [Char.ofNat, dif_pos (.inl (by omega))]
        rfl
      have hother {c : Char} (hc : (letter? c.toNat).isSome = true) : Char.ofNat n ≠ c := by
        rintro rfl
        rw [hchar, hl] at hc
        cases hc
      exact .plain (by omega) (hother (by decide)) (hother (by decide)) .nil
    · induction units n with
      | nil => exact .nil
      | cons u us ih => exact (areCharacters_unit u).append ih

theorem isText_writeText (codes : CodePoints) : IsText (writeText codes).toList := by
  refine ⟨codes.flatMap writeCode, ?_, by rw [writeText, String.toList_ofList]; rfl⟩
  induction codes with
  | nil => exact .nil
  | cons n codes ih => exact (areCharacters_writeCode n).append ih

/-! ## Entries -/

/-- Written entries, each on a new line, with commas between them. -/
def entriesText (line : List Char) : List (List Char) → List Char
  | [] => []
  | [x] => line ++ x
  | x :: y :: xs => line ++ (x ++ ',' :: entriesText line (y :: xs))

theorem entriesText_eq (line x : List Char) (xs : List (List Char)) :
    entriesText line (x :: xs) = line ++ (',' :: line).intercalate (x :: xs) := by
  induction xs generalizing x with
  | nil => rw [List.intercalate_singleton, entriesText]
  | cons y xs ih =>
    rw [entriesText, ih, List.intercalate_cons_cons, List.append_assoc, List.cons_append]

theorem toList_enclosed (e : Enclosure) (depth : Nat) (x : String) (xs : List String) :
    (enclosed (.singleton e.left) (.singleton e.right) depth (x :: xs)).toList =
      e.left :: (entriesText (newLine (depth + 1)).toList ((x :: xs).map String.toList) ++
        (newLine depth).toList ++ [e.right]) := by
  rw [enclosed, if_neg (by simp), List.map_cons, entriesText_eq]
  simp [String.toList_intercalate]

theorem areBlanks_nil : AreBlanks [] := nofun

theorem areBlanks_newLine (depth : Nat) : AreBlanks (newLine depth).toList := by
  intro c hc
  rw [newLine, String.toList_append, List.mem_append] at hc
  rcases hc with hc | hc
  · cases List.mem_singleton.1 hc
    rfl
  · rw [String.toList_ofList] at hc
    rw [List.eq_of_mem_replicate hc]
    rfl

variable {words : List (List Char)} {e : Enclosure}

theorem grammar_entriesText {line : List Char} (hl : AreBlanks line) {x : List Char}
    {xs : List (List Char)} (h : ∀ y ∈ x :: xs, Grammar words (.entry e) y) {b : List Char}
    (hb : AreBlanks b) : Grammar words (.entries e) (entriesText line (x :: xs) ++ b) := by
  induction xs generalizing x with
  | nil =>
    rw [entriesText, List.append_assoc]
    exact .last ((h x List.mem_cons_self).padded hl hb)
  | cons y xs ih =>
    have hx := (h x List.mem_cons_self).padded hl areBlanks_nil
    rw [List.append_nil] at hx
    have hrest := ih fun z hz => h z (List.mem_cons_of_mem x hz)
    rw [entriesText]
    simpa only [List.append_assoc, List.cons_append] using Grammar.next hx hrest

/-- Written entries between brackets are a value. -/
theorem grammar_enclosed (depth : Nat) {items : List String}
    (h : ∀ x ∈ items, Grammar words (.entry e) x.toList) :
    Grammar words .value
      (enclosed (.singleton e.left) (.singleton e.right) depth items).toList := by
  cases items with
  | nil =>
    have hempty : Grammar words .value (e.left :: ([] ++ [e.right])) := .empty e nofun
    simpa [enclosed] using hempty
  | cons x xs =>
    have hentries : ∀ y ∈ (x :: xs).map String.toList, Grammar words (.entry e) y :=
      List.forall_mem_map.2 h
    rw [toList_enclosed]
    exact .filled (grammar_entriesText (areBlanks_newLine _) hentries (areBlanks_newLine _))

/-! ## Blots -/

/-- Something stands outside of the texts that no document has there. -/
def Blots (s : List Char) : Prop := ∃ o, Leaves s o ∧ ∃ c ∈ o, ¬ IsCalm c

theorem Blots.append_right {s t o : List Char} (hs : Blots s) (ht : Leaves t o) :
    Blots (s ++ t) := by
  obtain ⟨p, hp, c, hc, hblot⟩ := hs
  exact ⟨p ++ o, hp.append ht, c, List.mem_append_left o hc, hblot⟩

theorem Blots.append_left {s t o : List Char} (ht : Blots t) (hs : Leaves s o) :
    Blots (s ++ t) := by
  obtain ⟨p, hp, c, hc, hblot⟩ := ht
  exact ⟨o ++ p, hs.append hp, c, List.mem_append_right o hc, hblot⟩

theorem leaves_of_areBlanks {s : List Char} (h : AreBlanks s) : Leaves s s :=
  leaves_of_not_mem fun hq => absurd (h _ hq) (by decide)

/-- The entries blot if one of them does and every text in the others is closed. -/
theorem blots_entriesText {line : List Char} (hl : AreBlanks line) {xs : List (List Char)}
    (h : ∀ x ∈ xs, ∃ o, Leaves x o) {x : List Char} (hx : x ∈ xs) (hb : Blots x) :
    Blots (entriesText line xs) := by
  have hline := leaves_of_areBlanks hl
  have hclosed : ∀ (y : List Char) (ys : List (List Char)), (∀ z ∈ y :: ys, ∃ o, Leaves z o) →
      ∃ o, Leaves (entriesText line (y :: ys)) o := by
    intro y ys
    induction ys generalizing y with
    | nil =>
      intro h
      obtain ⟨o, ho⟩ := h y List.mem_cons_self
      exact ⟨_, hline.append ho⟩
    | cons z ys ih =>
      intro h
      obtain ⟨o, ho⟩ := h y List.mem_cons_self
      obtain ⟨p, hp⟩ := ih z fun w hw => h w (List.mem_cons_of_mem y hw)
      exact ⟨_, hline.append (ho.append (hp.cons (by decide)))⟩
  induction xs with
  | nil => cases hx
  | cons y xs ih =>
    obtain ⟨o, ho⟩ := h y List.mem_cons_self
    have hrest := fun z hz => h z (List.mem_cons_of_mem y hz)
    cases xs with
    | nil =>
      cases List.mem_singleton.1 hx
      exact hb.append_left hline
    | cons z xs =>
      rw [entriesText]
      rcases List.mem_cons.1 hx with rfl | hx
      · obtain ⟨p, hp⟩ := hclosed z xs hrest
        exact (hb.append_right (hp.cons (by decide))).append_left hline
      · exact (((ih hrest hx).append_left (leaves_of_not_mem (s := [',']) (by decide))).append_left
          ho).append_left hline

theorem blots_enclosed (e : Enclosure) (depth : Nat) {items : List String}
    (h : ∀ x ∈ items, ∃ o, Leaves x.toList o) {x : String} (hx : x ∈ items)
    (hb : Blots x.toList) :
    Blots (enclosed (.singleton e.left) (.singleton e.right) depth items).toList := by
  cases items with
  | nil => cases hx
  | cons y ys =>
    have hentries := blots_entriesText (areBlanks_newLine (depth + 1)) (List.forall_mem_map.2 h)
      (List.mem_map_of_mem hx) hb
    have hleft : '"' ∉ [e.left] := by cases e <;> decide
    have hright : '"' ∉ [e.right] := by cases e <;> decide
    rw [toList_enclosed]
    exact ((hentries.append_right (leaves_of_areBlanks (areBlanks_newLine depth))).append_right
      (leaves_of_not_mem hright)).append_left (leaves_of_not_mem hleft)

/-! ## Ends of lines -/

theorem not_mem_entriesText {line : List Char} (hl : '\r' ∉ line) {xs : List (List Char)}
    (h : ∀ x ∈ xs, '\r' ∉ x) : '\r' ∉ entriesText line xs := by
  induction xs with
  | nil => exact List.not_mem_nil
  | cons x xs ih =>
    have hx := h x List.mem_cons_self
    have hrest := ih fun y hy => h y (List.mem_cons_of_mem x hy)
    cases xs <;> simp [entriesText, hl, hx, hrest]

theorem not_mem_enclosed (e : Enclosure) (depth : Nat) {items : List String}
    (h : ∀ x ∈ items, '\r' ∉ x.toList) :
    '\r' ∉ (enclosed (.singleton e.left) (.singleton e.right) depth items).toList := by
  have hline (depth : Nat) : '\r' ∉ (newLine depth).toList := by simp [newLine]
  have hends : '\r' ≠ e.left ∧ '\r' ≠ e.right := by cases e <;> decide
  cases items with
  | nil => simp [enclosed, hends]
  | cons x xs =>
    have hentries := not_mem_entriesText (hline (depth + 1)) (List.forall_mem_map.2 h)
    rw [toList_enclosed]
    simp only [List.mem_cons, List.mem_append, List.not_mem_nil, or_false, not_or]
    exact ⟨hends.1, ⟨hentries, hline depth⟩, hends.2⟩

theorem IsNumber.not_mem {s : List Char} (h : IsNumber s) : '\r' ∉ s :=
  fun hr => absurd (h.mem _ hr) (by simp [IsNumberSign])

/-! ## Documents -/

namespace Document

/-- A document stands in another one, or is it. -/
inductive Holds : Document → Document → Prop
  | self (d : Document) : Holds d d
  | item {items : List Document} {d x : Document} (hd : d ∈ items) (h : Holds d x) :
    Holds (array items) x
  | member {members : List (CodePoints × Document)} {m : CodePoints × Document} {x : Document}
    (hm : m ∈ members) (h : Holds m.2 x) : Holds (object members) x

/-- Every number in a document is finite. -/
def IsFinite (d : Document) : Prop := ∀ x, d.Holds (.float x) → x.isFinite = true

/-- Documents by what stands in them. -/
theorem induct {P : Document → Prop} (null : P .null) (bool : ∀ b, P (.bool b))
    (int : ∀ n, P (.int n)) (float : ∀ x, P (.float x)) (str : ∀ codes, P (.str codes))
    (array : ∀ items, (∀ d ∈ items, P d) → P (.array items))
    (object : ∀ members, (∀ m ∈ members, P m.2) → P (.object members)) : (d : Document) → P d :=
  @Document.rec P (fun items => ∀ d ∈ items, P d) (fun members => ∀ m ∈ members, P m.2)
    (fun m => P m.2) null bool int float str array object nofun
    (fun _ _ hd hitems => List.forall_mem_cons.2 ⟨hd, hitems⟩) nofun
    (fun _ _ hm hmembers => List.forall_mem_cons.2 ⟨hm, hmembers⟩) (fun _ _ hd => hd)

/-- What is written is a value, if each number in it is finite or its text is one of the words. -/
theorem grammar_writeAt (hw : ∀ w ∈ formatWords, w ∈ words) (d : Document)
    (h : ∀ x, d.Holds (.float x) → x.isFinite = true ∨ (numberText x).toList ∈ words)
    (depth : Nat) : Grammar words .value (d.writeAt depth).toList := by
  induction d using induct generalizing depth with
  | null =>
    rw [writeAt]
    exact .word (hw _ (by decide))
  | bool b =>
    rw [writeAt]
    cases b <;> exact .word (hw _ (by decide))
  | int n =>
    rw [writeAt]
    exact .number (isNumber_toString n)
  | float x =>
    rw [writeAt]
    rcases h x (.self _) with hx | hx
    · cases x with
      | finite => exact .number (Binary64.isNumber_text hx)
      | _ => cases hx
    · exact .word hx
  | str codes =>
    rw [writeAt]
    exact .text (isText_writeText codes)
  | array items ih =>
    rw [writeAt, writeItems_eq_map]
    refine grammar_enclosed (e := .array) depth (List.forall_mem_map.2 fun d hd => ?_)
    have hitem := Grammar.item areBlanks_nil
      (ih d hd (fun x hx => h x (.item hd hx)) (depth + 1)) areBlanks_nil
    simpa using hitem
  | object members ih =>
    rw [writeAt, writeMembers_eq_map]
    refine grammar_enclosed (e := .object) depth (List.forall_mem_map.2 fun m hm => ?_)
    have hblank : AreBlanks [' '] := List.forall_mem_singleton.2 rfl
    have hmember := Grammar.member areBlanks_nil (isText_writeText m.1) areBlanks_nil hblank
      (ih m hm (fun x hx => h x (.member hm hx)) (depth + 1)) areBlanks_nil
    simpa using hmember

/-! ## Numbers that are not finite -/

/-- The words for numbers that are not finite, beside those of the format. -/
def allWords : List (List Char) :=
  formatWords ++ ["NaN".toList, "Infinity".toList, "-Infinity".toList]

theorem numberText_mem {x : Binary64} (h : x.isFinite = false) :
    (numberText x).toList ∈ allWords := by
  cases x with
  | finite => cases h
  | nan => exact List.mem_append_right _ (.head _)
  | infinite negative => cases negative <;> decide

/-- Every text in what is written is closed. -/
theorem exists_leaves_writeAt (d : Document) (depth : Nat) :
    ∃ o, Leaves (d.writeAt depth).toList o := by
  have hgrammar : Grammar allWords .value (d.writeAt depth).toList := by
    refine grammar_writeAt (fun w => List.mem_append_left _) d (fun x _ => ?_) depth
    cases hx : x.isFinite with
    | true => exact .inl rfl
    | false => exact .inr (numberText_mem hx)
  have hwords : ∀ w ∈ allWords, '"' ∉ w := by decide
  obtain ⟨o, ho, -⟩ := hgrammar.exists_leaves (P := fun _ => True) (fun _ _ => trivial)
    fun w hw => ⟨hwords w hw, fun _ _ => trivial⟩
  exact ⟨o, ho⟩

/-- A number that is not finite stands outside of the texts wherever it stands. -/
theorem blots_of_holds {d : Document} {x : Binary64} (h : d.Holds (.float x))
    (hx : x.isFinite = false) (depth : Nat) : Blots (d.writeAt depth).toList := by
  generalize he : Document.float x = inner at h
  induction h generalizing depth with
  | self d =>
    subst he
    rw [writeAt]
    cases x with
    | finite => cases hx
    | nan mark =>
      have hblots : Blots "NaN".toList :=
        ⟨_, leaves_of_not_mem (by decide), 'N', by decide, by decide⟩
      exact hblots
    | infinite negative =>
      cases negative <;> exact ⟨_, leaves_of_not_mem (by decide), 'I', by decide, by decide⟩
  | @item items d _ hd _ ih =>
    rw [writeAt, writeItems_eq_map]
    refine blots_enclosed .array depth (List.forall_mem_map.2 fun d _ =>
      exists_leaves_writeAt d (depth + 1)) (List.mem_map_of_mem hd) (ih (depth + 1) he)
  | @member members m _ hm _ ih =>
    rw [writeAt, writeMembers_eq_map]
    have hname (m : CodePoints × Document) :
        Leaves (writeText m.1 ++ ": ").toList (": ".toList) := by
      rw [String.toList_append]
      exact (leaves_of_isText (isText_writeText m.1)).append (leaves_of_not_mem (by decide))
    refine blots_enclosed .object depth (List.forall_mem_map.2 fun m _ => ?_)
      (List.mem_map_of_mem hm) ?_
    · obtain ⟨o, ho⟩ := exists_leaves_writeAt m.2 (depth + 1)
      rw [String.toList_append]
      exact ⟨_, (hname m).append ho⟩
    · rw [String.toList_append]
      exact (ih (depth + 1) he).append_left (hname m)

/-- What is written, and an end of line, is a document exactly if every number in it is finite. -/
theorem isDocument_write_iff (d : Document) :
    IsDocument (d.write ++ "\n").toList ↔ d.IsFinite := by
  have hend : AreBlanks "\n".toList := List.forall_mem_singleton.2 rfl
  rw [String.toList_append]
  constructor
  · intro h x hx
    cases hfinite : x.isFinite with
    | true => rfl
    | false =>
      obtain ⟨o, ho, c, hc, hblot⟩ :=
        (blots_of_holds hx hfinite 0).append_right (leaves_of_areBlanks hend)
      exact absurd (h.calm ho c hc) hblot
  · intro h
    refine ⟨[], (d.writeAt 0).toList, "\n".toList, areBlanks_nil, ?_, hend, rfl⟩
    exact grammar_writeAt (fun _ => id) d (fun x hx => .inl (h x hx)) 0

/-- Nothing but ends of lines ends a line of what is written. -/
theorem not_mem_writeAt (d : Document) (depth : Nat) : '\r' ∉ (d.writeAt depth).toList := by
  induction d using induct generalizing depth with
  | null =>
    rw [writeAt]
    decide
  | bool b =>
    rw [writeAt]
    cases b <;> decide
  | int n =>
    rw [writeAt]
    exact (isNumber_toString n).not_mem
  | float x =>
    rw [writeAt]
    cases hx : x.isFinite with
    | true =>
      cases x with
      | finite => exact (Binary64.isNumber_text hx).not_mem
      | _ => cases hx
    | false =>
      have hwords : ∀ w ∈ allWords, '\r' ∉ w := by decide
      exact hwords _ (numberText_mem hx)
  | str codes =>
    rw [writeAt]
    exact fun h => absurd ((isText_writeText codes).blank_le _ h) (by decide)
  | array items ih =>
    rw [writeAt, writeItems_eq_map]
    exact not_mem_enclosed .array depth
      (List.forall_mem_map.2 fun d hd => ih d hd (depth + 1))
  | object members ih =>
    rw [writeAt, writeMembers_eq_map]
    refine not_mem_enclosed .object depth (List.forall_mem_map.2 fun m hm h => ?_)
    rw [String.toList_append, String.toList_append, List.mem_append, List.mem_append] at h
    rcases h with (h | h) | h
    · exact absurd ((isText_writeText m.1).blank_le _ h) (by decide)
    · exact absurd h (by decide)
    · exact ih m hm (depth + 1) h

end Document

end NamedConditions.Json
