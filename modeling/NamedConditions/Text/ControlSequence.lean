/-!
Control sequences of a terminal: an escape character and an opening bracket, parameters (digits and
signs from U+0030 to U+003F), intermediates (the blank and signs up to U+002F), and a final one from
U+0040 to U+007E. Where no terminal reads a text they are left out.

Main statement: a text without escape characters is left as it is.
-/
namespace NamedConditions.Text

/-- The character that opens a control sequence. -/
def escapeCharacter : Char := '\x1b'

/-- Whether a character is a parameter of a control sequence. -/
def isSequenceParameter (c : Char) : Bool := 0x30 ≤ c.toNat && c.toNat ≤ 0x3f

/-- Whether a character is an intermediate of a control sequence. -/
def isSequenceIntermediate (c : Char) : Bool := 0x20 ≤ c.toNat && c.toNat ≤ 0x2f

/-- Whether a character ends a control sequence. -/
def isSequenceEnd (c : Char) : Bool := 0x40 ≤ c.toNat && c.toNat ≤ 0x7e

/-- What stands behind the control sequence with which a text starts. -/
def behindSequence? : List Char → Option (List Char)
  | c :: '[' :: s =>
    if c = escapeCharacter then
      match (s.dropWhile isSequenceParameter).dropWhile isSequenceIntermediate with
      | [] => none
      | d :: rest => if isSequenceEnd d then some rest else none
    else none
  | _ => none

theorem length_behindSequence?_lt {s rest : List Char} (h : behindSequence? s = some rest) :
    rest.length < s.length := by
  unfold behindSequence? at h
  split at h
  · rename_i c s
    split at h
    · split at h
      · cases h
      · rename_i d t hd
        split at h
        · cases h
          have hl := ((List.dropWhile_sublist isSequenceIntermediate).trans
            (List.dropWhile_sublist (l := s) isSequenceParameter)).length_le
          rw [hd] at hl
          simp only [List.length_cons] at hl ⊢
          omega
        · cases h
    · cases h
  · cases h

/-- A text without its control sequences. -/
def withoutSequences (s : List Char) : List Char :=
  match s with
  | [] => []
  | c :: r =>
    match h : behindSequence? (c :: r) with
    | some rest =>
      have : rest.length < (c :: r).length := length_behindSequence?_lt h
      withoutSequences rest
    | none => c :: withoutSequences r
termination_by s.length
decreasing_by
  · exact this
  · exact Nat.lt_succ_self r.length

theorem behindSequence?_of_not_mem {s : List Char} (h : escapeCharacter ∉ s) :
    behindSequence? s = none := by
  unfold behindSequence?
  split
  · rename_i c s
    have hc : c ≠ escapeCharacter := fun e => h (by simp [e])
    simp [hc]
  · rfl

theorem withoutSequences_of_not_mem {s : List Char} (h : escapeCharacter ∉ s) :
    withoutSequences s = s := by
  fun_induction withoutSequences s with
  | case1 => rfl
  | case2 c r rest hs _ _ =>
    rw [behindSequence?_of_not_mem h] at hs
    cases hs
  | case3 c r _ ih => rw [ih fun hm => h (List.mem_cons_of_mem c hm)]

end NamedConditions.Text
