import Mathlib.Algebra.Order.Floor.Ring
import Mathlib.Data.Rat.Floor
import Mathlib.Tactic.Linarith
import Mathlib.Tactic.Positivity
import NamedConditions.Proofs.Json.Grammar
/-!
The texts of numbers as numbers of documents. A whole number is written without zeros in front. The
text of a binary number starts with its shortest digits, and these are a single zero only for a zero
or where no further zeros are put behind them.

Main statements: the text of a whole number is a number of documents (`isNumber_toString`), and so
is the text of a binary number that is finite (`isNumber_text`).
-/
namespace NamedConditions

namespace Json

/-! ## Whole numbers -/

theorem digitChar_ne_zero {n : Nat} (hn : n ≠ 0) (h : n < 10) : n.digitChar ≠ '0' := by
  have hall : ∀ m < 10, m ≠ 0 → m.digitChar ≠ '0' := by decide
  exact hall n h hn

/-- The digits of a number that is not zero do not start with a zero. -/
theorem head?_toDigits_ne {n : Nat} (h : n ≠ 0) : (Nat.toDigits 10 n).head? ≠ some '0' := by
  induction n using Nat.strongRecOn with
  | ind n ih =>
    rw [Nat.toDigits_eq_if (by decide)]
    split
    · rename_i hn
      simpa using digitChar_ne_zero h hn
    · rename_i hn
      have hfront := ih (n / 10) (by omega) (by omega)
      have hpos : 0 < (Nat.toDigits 10 (n / 10)).length := Nat.length_toDigits_pos
      rw [List.head?_append_of_ne_nil _ (List.ne_nil_of_length_pos hpos)]
      exact hfront

theorem areDigits_toString (n : Nat) : AreDigits (toString n).toList := by
  rw [Nat.toString_eq_repr, Nat.toList_repr]
  exact ⟨List.ne_nil_of_length_pos Nat.length_toDigits_pos,
    fun c hc => Nat.isDigit_of_mem_toDigits (by decide) (by decide) hc⟩

/-- A number that is not zero is written with a digit in front that is not zero. -/
theorem exists_toString {n : Nat} (h : n ≠ 0) : ∃ c s, (toString n).toList = c :: s ∧
    c.isDigit = true ∧ c ≠ '0' ∧ ∀ d ∈ s, d.isDigit = true := by
  obtain ⟨hne, hdigits⟩ := areDigits_toString n
  have hhead : (toString n).toList.head? ≠ some '0' := by
    rw [Nat.toString_eq_repr, Nat.toList_repr]
    exact head?_toDigits_ne h
  cases hs : (toString n).toList with
  | nil => exact absurd hs hne
  | cons c s =>
    rw [hs] at hdigits hhead
    obtain ⟨hc, hs⟩ := List.forall_mem_cons.1 hdigits
    exact ⟨c, s, rfl, hc, fun h0 => hhead (congrArg some h0), hs⟩

theorem isWholePart_toString (n : Nat) : IsWholePart (toString n).toList := by
  by_cases h : n = 0
  · rw [h]
    exact .zero
  · obtain ⟨c, s, hs, hc, h0, hd⟩ := exists_toString h
    rw [hs]
    exact .digits hc h0 hd

/-- A whole number is written as a number of documents. -/
theorem isNumber_toString (n : Int) : IsNumber (toString n).toList := by
  have hnat (m : Nat) : IsMagnitude (toString m).toList := by
    have hm := IsMagnitude.intro (isWholePart_toString m) .absent .absent
    rwa [List.append_nil, List.append_nil] at hm
  cases n with
  | ofNat m => exact .unsigned (hnat m)
  | negSucc m =>
    have hs : (toString (Int.negSucc m)).toList = '-' :: (toString (m + 1)).toList := by
      rw [Int.toString_eq_repr, Int.repr, String.toList_append]
      rfl
    rw [hs]
    exact .negative (hnat (m + 1))

end Json

namespace Binary64

/-! ## Shortest digits -/

/-- The power of two that is found does not exceed the number. -/
theorem two_zpow_log2_le {q : Rat} (hq : 0 < q) : (2 : Rat) ^ log2 q ≤ q := by
  unfold log2
  dsimp only
  split
  · have hnum : q.num.natAbs ≠ 0 := by
      rw [Ne, Int.natAbs_eq_zero, Rat.num_eq_zero]
      exact hq.ne'
    have hlow : (2 : Rat) ^ (q.num.natAbs.log2 : Int) ≤ q.num.natAbs := by
      exact_mod_cast Nat.log2_self_le hnum
    have hhigh : (q.den : Rat) ≤ (2 : Rat) ^ ((q.den.log2 : Int) + 1) := by
      exact_mod_cast (Nat.lt_log2_self (n := q.den)).le
    have hden : (0 : Rat) < q.den := by exact_mod_cast q.den_pos
    have hcast : (q.num.natAbs : Rat) = q.num := by
      rw [Nat.cast_natAbs, abs_of_nonneg (Rat.num_nonneg.2 hq.le)]
    calc (2 : Rat) ^ ((q.num.natAbs.log2 : Int) - q.den.log2 - 1)
        = (2 : Rat) ^ (q.num.natAbs.log2 : Int) / (2 : Rat) ^ ((q.den.log2 : Int) + 1) := by
          rw [sub_sub, zpow_sub₀ two_ne_zero]
      _ ≤ q.num.natAbs / q.den := div_le_div₀ (Nat.cast_nonneg _) hlow hden hhigh
      _ = q := by rw [hcast, Rat.num_div_den]
  · rename_i h
    exact not_lt.1 h

/-- Where the power of ten that is found is far above a small one, the small one does not exceed the
number. -/
theorem ten_zpow_le_of_log10 {q : Rat} (hq : 0 < q) {k : Int} (h1 : 1 ≤ k) (h15 : k ≤ 15)
    (h : log10 q = k + 17) : (10 : Rat) ^ k ≤ q := by
  have hmono {j : Int} (hj : k ≤ j) (hle : (10 : Rat) ^ j ≤ q) : (10 : Rat) ^ k ≤ q :=
    (zpow_le_zpow_right₀ (by norm_num) hj).trans hle
  unfold log10 at h
  dsimp only at h
  split at h
  · rename_i hle
    exact hmono (by omega) hle
  · split at h
    · rename_i hle
      exact hmono (by omega) hle
    · -- the power of two is so great that even the same power of sixteen does not exceed the number
      have hlog : 4 * k ≤ log2 q := by omega
      calc (10 : Rat) ^ k ≤ (2 ^ (4 : Int)) ^ k := by
            exact zpow_le_zpow_left₀ (by omega) (by norm_num) (by norm_num)
        _ = (2 : Rat) ^ (4 * k) := (zpow_mul 2 4 k).symm
        _ ≤ (2 : Rat) ^ log2 q := zpow_le_zpow_right₀ (by norm_num) hlog
        _ ≤ q := two_zpow_log2_le hq

theorem interval_pos {mantissa : Nat} (h : mantissa ≠ 0) (exponent : Int) :
    0 < (interval mantissa exponent).1 := by
  have hm : (1 : Rat) ≤ mantissa := by exact_mod_cast Nat.one_le_iff_ne_zero.2 h
  unfold interval
  dsimp only
  split
  · exact mul_pos (by linarith) (zpow_pos two_pos _)
  · exact mul_pos (by linarith) (zpow_pos two_pos _)

/-- A neighbour on a grid that reads back is not zero, if nothing that reads back is. -/
theorem gridHit?_ne_zero {v : Rat} {bounds : Rat × Rat × Bool} {k : Int} {n : Nat}
    (hb : 0 < bounds.1) (h : gridHit? v bounds k = some n) : n ≠ 0 := by
  have hwithin {m : Nat} (hm : within (m * (10 : Rat) ^ k) bounds = true) : m ≠ 0 := by
    rintro rfl
    obtain ⟨low, high, closed⟩ := bounds
    cases closed <;> simp only [within, Nat.cast_zero, zero_mul] at hm <;> grind
  unfold gridHit? at h
  dsimp only at h
  split at h
  · rename_i hlower hupper
    cases h
    split
    · exact hwithin hlower
    · exact Nat.succ_ne_zero _
  · rename_i hlower hupper
    cases h
    exact hwithin hlower
  · cases h
    exact Nat.succ_ne_zero _
  · cases h

/-- Where the search ends with zero, no grid had a neighbour, and the number is below the last. -/
theorem lt_of_search {v : Rat} {bounds : Rat × Rat × Bool} (hb : 0 < bounds.1)
    {k j : Int} {count : Nat} (h : search v bounds k count = (0, j)) :
    j = k - count ∧ v < (10 : Rat) ^ j := by
  induction count generalizing k with
  | zero =>
    obtain ⟨hn, rfl⟩ := Prod.mk.inj h
    refine ⟨by omega, ?_⟩
    have hpow : (0 : Rat) < (10 : Rat) ^ k := zpow_pos (by norm_num) _
    have hfloor : (v / (10 : Rat) ^ k).floor < 1 := by omega
    have hdiv : v / (10 : Rat) ^ k < 1 := by
      have hlt := Int.floor_lt.1 (show ⌊v / (10 : Rat) ^ k⌋ < 1 from hfloor)
      exact_mod_cast hlt
    rwa [div_lt_one hpow] at hdiv
  | succ count ih =>
    unfold search at h
    split at h
    · rename_i n hn
      cases h
      exact absurd rfl (gridHit?_ne_zero hb hn)
    · obtain ⟨hj, hlt⟩ := ih h
      exact ⟨by omega, hlt⟩

theorem eq_of_stripZeros {n : Nat} {k j : Int} {count : Nat} (h : stripZeros n k count = (0, j)) :
    n = 0 ∧ j = k := by
  induction count generalizing n k with
  | zero =>
    cases h
    exact ⟨rfl, rfl⟩
  | succ count ih =>
    unfold stripZeros at h
    split at h
    · rename_i hn
      obtain ⟨hzero, -⟩ := ih h
      omega
    · cases h
      exact ⟨rfl, rfl⟩

/-- Digits that are a single zero stand for themselves, or far from the point. -/
theorem shortest_eq_zero {mantissa : Nat} {exponent k : Int}
    (h : shortest mantissa exponent = (0, k)) : ¬ (1 ≤ k ∧ k ≤ 15) := by
  rintro ⟨h1, h15⟩
  unfold shortest at h
  split at h
  · cases h
    omega
  · rename_i hm
    obtain ⟨hn, hk⟩ := eq_of_stripZeros h
    have hv : (0 : Rat) < mantissa * (2 : Rat) ^ exponent :=
      mul_pos (by exact_mod_cast Nat.pos_of_ne_zero hm) (zpow_pos two_pos _)
    have hsearch : search (mantissa * (2 : Rat) ^ exponent) (interval mantissa exponent)
        (log10 (mantissa * (2 : Rat) ^ exponent)) 17 = (0, k) := Prod.ext hn hk.symm
    obtain ⟨hj, hlt⟩ := lt_of_search (interval_pos hm exponent) hsearch
    exact absurd (ten_zpow_le_of_log10 hv h1 h15 (by omega)) (not_le.2 hlt)

end Binary64

namespace Json

open Scientific

/-! ## Layouts -/

theorem isFractionPart_whole : IsFractionPart ".0".toList :=
  .digits ⟨by decide, forall_mem_of_all (by decide)⟩

theorem not_mem_of_digits {s : List Char} (h : ∀ c ∈ s, c.isDigit = true) : '.' ∉ s :=
  fun hp => absurd (h _ hp) (by decide)

theorem isDigit_replicate (n : Nat) : ∀ c ∈ List.replicate n '0', c.isDigit = true := by
  intro c hc
  rw [List.eq_of_mem_replicate hc]
  rfl

/-- The digits of a whole number with zeros behind them; a single zero gets none. -/
theorem isWholePart_append_zeros {n zeros : Nat} (h : n = 0 → zeros = 0) :
    IsWholePart ((toString n).toList ++ List.replicate zeros '0') := by
  by_cases hn : n = 0
  · rw [h hn, List.replicate_zero, List.append_nil]
    exact isWholePart_toString n
  · obtain ⟨c, s, hs, hc, h0, hd⟩ := exists_toString hn
    rw [hs]
    exact .digits hc h0 (List.forall_mem_append.2 ⟨hd, isDigit_replicate _⟩)

/-- The first digits of a whole number that is not zero. -/
theorem isWholePart_take {n count : Nat} (hn : n ≠ 0) (hcount : count ≠ 0) :
    IsWholePart ((toString n).toList.take count) := by
  obtain ⟨c, s, hs, hc, h0, hd⟩ := exists_toString hn
  obtain ⟨m, rfl⟩ := Nat.exists_eq_add_one_of_ne_zero hcount
  rw [hs, List.take_succ_cons]
  exact .digits hc h0 fun d hmem => hd d (List.mem_of_mem_take hmem)

/-- Digits with a point among them or zeros around, and with a suffix if there is no point, are a
number of documents. A single zero gets no zeros behind it. -/
theorem isMagnitude_positional {n : Nat} {point : Int} (h : n = 0 → point ≤ 1) :
    IsMagnitude (if '.' ∈ positional (toString n).toList point then
      positional (toString n).toList point
      else positional (toString n).toList point ++ ".0".toList) := by
  obtain ⟨hne, hdigits⟩ := areDigits_toString n
  have hpos : 0 < (toString n).toList.length := List.length_pos_of_ne_nil hne
  have hpointed {whole fraction : List Char} (hw : IsWholePart whole)
      (hf : IsFractionPart fraction) : IsMagnitude (whole ++ fraction) := by
    have hm := IsMagnitude.intro hw hf .absent
    rwa [List.append_nil] at hm
  unfold positional
  by_cases hpoint : point ≤ 0
  · rw [if_pos hpoint, if_pos (by simp)]
    exact hpointed .zero
      (.digits ⟨by simp, List.forall_mem_append.2 ⟨isDigit_replicate _, hdigits⟩⟩)
  · by_cases hlength : (toString n).toList.length ≤ point.toNat
    · have hplain := not_mem_of_digits
        (List.forall_mem_append.2 ⟨hdigits, isDigit_replicate
          (point.toNat - (toString n).toList.length)⟩)
      rw [if_neg hpoint, if_pos hlength, if_neg hplain]
      refine hpointed (isWholePart_append_zeros fun hn => ?_) isFractionPart_whole
      have hle := h hn
      omega
    · have hn : n ≠ 0 := by
        rintro rfl
        have hone : (toString 0).toList.length = 1 := by decide
        omega
      rw [if_neg hpoint, if_neg hlength, if_pos (by simp)]
      refine hpointed (isWholePart_take hn (by omega)) (.digits ⟨?_, fun d hmem => ?_⟩)
      · rw [Ne, List.drop_eq_nil_iff]
        omega
      · exact hdigits d (List.mem_of_mem_drop hmem)

/-- Digits with an exponent are a number of documents. -/
theorem isMagnitude_exponential (n width : Nat) (exponent : Int) :
    IsMagnitude (exponential 'e' width (toString n).toList exponent) := by
  obtain ⟨hne, hdigits⟩ := areDigits_toString n
  obtain ⟨-, hsize⟩ := areDigits_toString exponent.natAbs
  have hexponent (size : List Char) (h : AreDigits size) :
      IsExponentPart ('e' :: (if exponent < 0 then '-' else '+') :: size) := by
    split
    · exact IsExponentPart.digits (.inl rfl) (.inr (.inr (Eq.refl ['-']))) h
    · exact IsExponentPart.digits (.inl rfl) (.inr (.inl (Eq.refl ['+']))) h
  unfold exponential
  cases hs : (toString n).toList with
  | nil => exact absurd hs hne
  | cons c s =>
    rw [hs] at hdigits
    obtain ⟨hc, hd⟩ := List.forall_mem_cons.1 hdigits
    have hwhole : IsWholePart [c] := by
      by_cases h0 : c = '0'
      · rw [h0]
        exact .zero
      · exact .digits hc h0 nofun
    have hpart := hexponent (List.replicate (width -
      (toString exponent.natAbs).toList.length) '0' ++ (toString exponent.natAbs).toList)
      ⟨by simp, List.forall_mem_append.2 ⟨isDigit_replicate _, hsize⟩⟩
    cases s with
    | nil => exact .intro hwhole .absent hpart
    | cons d s => exact .intro hwhole (.digits ⟨List.cons_ne_nil d s, hd⟩) hpart

end Json

namespace Binary64

open Json

theorem isMagnitude_magnitudeText (mantissa : Nat) (exponent : Int) :
    IsMagnitude (magnitudeText ".0" mantissa exponent).toList := by
  unfold magnitudeText
  cases hs : shortest mantissa exponent with
  | mk n k =>
    dsimp only
    rw [String.toList_ofList]
    split
    · rename_i hpoint
      refine isMagnitude_positional fun hn => ?_
      subst hn
      have hk := shortest_eq_zero hs
      have hone : (toString 0).toList.length = 1 := by decide
      omega
    · exact isMagnitude_exponential n 2 _

/-- A number that is finite. -/
def isFinite : Binary64 → Bool
  | finite .. => true
  | _ => false

/-- The text of a number that is finite is a number of documents. -/
theorem isNumber_text {x : Binary64} (h : x.isFinite = true) : IsNumber x.text.toList := by
  cases x with
  | nan => cases h
  | infinite => cases h
  | finite negative mantissa exponent =>
    have hm := isMagnitude_magnitudeText mantissa exponent
    rw [text, textWith, String.toList_append]
    cases negative with
    | false => exact .unsigned hm
    | true => exact .negative hm

end Binary64

end NamedConditions
