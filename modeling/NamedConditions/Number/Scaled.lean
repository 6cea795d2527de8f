/-!
Rational numbers as a significand times a power of ten. The significand has no factor five, neither
above nor below its line, so that every number has one form and numbers far from the units are told
apart without their powers of ten being written out.

Main statements: scaling a rational by a power of ten gives a form with that value, and two forms
with one value are the same.
-/
namespace NamedConditions

/-- Divides a number by a factor as often as it goes; gives how often, and what is left. The factor
is squared from one round to the next, and `rounds` is no less than the number. -/
def strip (p n : Nat) : Nat → Nat × Nat
  | 0 => (0, n)
  | rounds + 1 =>
    if n % p = 0 then
      let (k, m) := strip (p * p) (n / p) rounds
      if m % p = 0 then (2 * k + 2, m / p) else (2 * k + 1, m)
    else (0, n)

theorem strip_spec {rounds : Nat} : ∀ {p n : Nat}, 1 < p → 0 < n → n ≤ rounds →
    n = p.pow (strip p n rounds).1 * (strip p n rounds).2 ∧ (strip p n rounds).2 % p ≠ 0 := by
  induction rounds with
  | zero =>
    intro p n _ hn hr
    omega
  | succ rounds ih =>
    intro p n hp hn hr
    unfold strip
    by_cases h : n % p = 0
    · have hpp : 1 < p * p := Nat.lt_of_lt_of_le hp (Nat.le_mul_of_pos_left p (by omega))
      have hdiv : p * (n / p) = n := Nat.mul_div_cancel' (Nat.dvd_of_mod_eq_zero h)
      have hpos : 0 < n / p := Nat.pos_of_ne_zero fun e => by
        rw [e] at hdiv
        omega
      have hlt : n / p < n := Nat.div_lt_self hn hp
      obtain ⟨he, hm⟩ := ih hpp hpos (by omega)
      rcases hs : strip (p * p) (n / p) rounds with ⟨k, m⟩
      rw [hs] at he hm
      simp only at he hm
      rw [Nat.pow_eq] at he
      rw [if_pos h]
      have hsq : (p * p) ^ k = p ^ (2 * k) := by rw [Nat.pow_mul, Nat.pow_two]
      by_cases hmp : m % p = 0
      · simp only [hmp, if_true]
        have hmd : p * (m / p) = m := Nat.mul_div_cancel' (Nat.dvd_of_mod_eq_zero hmp)
        refine ⟨?_, fun hc => hm ?_⟩
        · rw [Nat.pow_eq, ← hdiv, he, hsq, Nat.pow_add, Nat.pow_two, ← hmd]
          simp only [Nat.mul_div_cancel_left _ (by omega : 0 < p)]
          ac_rfl
        · have hmm : p * (m / p / p) = m / p :=
            Nat.mul_div_cancel' (Nat.dvd_of_mod_eq_zero hc)
          rw [← hmd, ← hmm, ← Nat.mul_assoc, Nat.mul_mod_right]
      · simp only [hmp, if_false]
        refine ⟨?_, hmp⟩
        rw [Nat.pow_eq, ← hdiv, he, hsq, Nat.pow_add, Nat.pow_one]
        ac_rfl
    · rw [if_neg h]
      exact ⟨by simp, h⟩

/-- A rational number as a significand times a power of ten. -/
structure Scaled where
  significand : Rat
  tens : Int
  isNormal : significand = 0 ∧ tens = 0 ∨ significand.num % 5 ≠ 0 ∧ significand.den % 5 ≠ 0
  deriving DecidableEq

namespace Scaled

/-- The number itself. -/
def value (x : Scaled) : Rat := x.significand * (10 : Rat) ^ x.tens

/-- Zero. -/
def zero : Scaled := ⟨0, 0, .inl ⟨rfl, rfl⟩⟩

theorem num_mkRat_mod {n : Int} {d : Nat} (hd : d ≠ 0) (hn : n % 5 ≠ 0) :
    (mkRat n d).num % 5 ≠ 0 := by
  rw [Rat.num_mkRat, if_neg hd]
  intro h
  have hg : (↑(d.gcd n.natAbs) : Int) ∣ n :=
    Int.ofNat_dvd_left.2 (Nat.gcd_dvd_right _ _)
  obtain ⟨c, hc⟩ := Int.dvd_of_emod_eq_zero h
  have := Int.mul_ediv_cancel' hg
  rw [hc] at this
  apply hn
  rw [← this, Int.mul_left_comm]
  exact Int.mul_emod_right _ _

theorem den_mkRat_mod {n : Int} {d : Nat} (hd : d % 5 ≠ 0) : (mkRat n d).den % 5 ≠ 0 := by
  rw [Rat.den_mkRat, if_neg (by omega)]
  intro h
  have hg := Nat.mul_div_cancel' (Nat.gcd_dvd_left d n.natAbs)
  obtain ⟨c, hc⟩ := Nat.dvd_of_mod_eq_zero h
  rw [hc] at hg
  apply hd
  rw [← hg, Nat.mul_left_comm]
  exact Nat.mul_mod_right _ _

theorem mul_mod_five {a b : Nat} (ha : a % 5 ≠ 0) (hb : b % 5 ≠ 0) : a * b % 5 ≠ 0 := by
  have h : ∀ i < 5, ∀ j < 5, i ≠ 0 → j ≠ 0 → i * j % 5 ≠ 0 := by decide
  rw [Nat.mul_mod]
  exact h _ (Nat.mod_lt _ (by decide)) _ (Nat.mod_lt _ (by decide)) ha hb

theorem two_pow_mod_five (k : Nat) : Nat.pow 2 k % 5 ≠ 0 := by
  induction k with
  | zero => decide
  | succ k ih => exact mul_mod_five ih (by decide)

/-- A natural number without its factors five, and how many there are. -/
def fives (n : Nat) : Nat × Nat := strip 5 n n

theorem fives_spec {n : Nat} (h : n ≠ 0) :
    n = Nat.pow 5 (fives n).1 * (fives n).2 ∧ (fives n).2 % 5 ≠ 0 :=
  strip_spec (by decide) (Nat.pos_of_ne_zero h) (Nat.le_refl n)

/-- The significand that is left when a fraction loses its factors five: each of them is a ten
without its two. -/
def significandOf (negative : Bool) (above below : Nat × Nat) : Rat :=
  mkRat ((if negative then -1 else 1) * ↑(above.2 * Nat.pow 2 below.1))
    (below.2 * Nat.pow 2 above.1)

theorem isNormal_significandOf (negative : Bool) {above below : Nat × Nat}
    (ha : above.2 % 5 ≠ 0) (hb : below.2 % 5 ≠ 0) :
    (significandOf negative above below).num % 5 ≠ 0 ∧
      (significandOf negative above below).den % 5 ≠ 0 := by
  have hd := mul_mod_five hb (two_pow_mod_five above.1)
  have hn := mul_mod_five ha (two_pow_mod_five below.1)
  refine ⟨num_mkRat_mod (by omega) ?_, den_mkRat_mod hd⟩
  cases negative <;> simp only [Bool.false_eq_true, if_false, if_true] <;> omega

/-- A rational number times a power of ten. -/
def ofRat (q : Rat) (tens : Int) : Scaled :=
  if h : q = 0 then zero
  else
    have hn : q.num.natAbs ≠ 0 := fun e => h (Rat.num_eq_zero.1 (Int.natAbs_eq_zero.1 e))
    ⟨significandOf (q.num < 0) (fives q.num.natAbs) (fives q.den),
      tens + ((fives q.num.natAbs).1 - (fives q.den).1),
      .inr (isNormal_significandOf _ (fives_spec hn).2 (fives_spec q.den_nz).2)⟩

/-- A whole number. -/
def ofInt (n : Int) : Scaled := ofRat n 0

/-! ## Values -/

theorem ten_pow_ne_zero (e : Int) : (10 : Rat) ^ e ≠ 0 := fun h => by
  have hp : (0 : Rat) < (10 : Rat) ^ e := Rat.zpow_pos (by decide)
  rw [h] at hp
  exact absurd hp (by decide)

theorem ten_pow_eq (k : Nat) :
    (10 : Rat) ^ k = ((Nat.pow 2 k : Nat) : Rat) * ((Nat.pow 5 k : Nat) : Rat) := by
  rw [← Rat.natCast_mul, Nat.pow_eq, Nat.pow_eq, ← Nat.mul_pow, Rat.natCast_pow]
  rfl

theorem value_significandOf (negative : Bool) {above below : Nat × Nat} (hb : below.2 ≠ 0)
    (tens : Int) :
    significandOf negative above below * (10 : Rat) ^ (tens + (above.1 - below.1 : Int)) =
      mkRat ((if negative then -1 else 1) * ↑(Nat.pow 5 above.1 * above.2))
          (Nat.pow 5 below.1 * below.2) *
        (10 : Rat) ^ tens := by
  have hten : (10 : Rat) ≠ 0 := by decide
  have hk : (above.1 - below.1 : Int) = (above.1 : Int) + -(below.1 : Int) := by omega
  rw [hk, Rat.zpow_add hten, Rat.zpow_add hten, Rat.zpow_neg, Rat.zpow_natCast, Rat.zpow_natCast,
    ten_pow_eq, ten_pow_eq]
  have h2 : ∀ k, ((Nat.pow 2 k : Nat) : Rat) ≠ 0 := fun k e =>
    absurd (Rat.natCast_eq_zero_iff.1 e) (Nat.ne_of_gt (Nat.pow_pos (by decide)))
  have h5 : ∀ k, ((Nat.pow 5 k : Nat) : Rat) ≠ 0 := fun k e =>
    absurd (Rat.natCast_eq_zero_iff.1 e) (Nat.ne_of_gt (Nat.pow_pos (by decide)))
  have hbr : ((below.2 : Nat) : Rat) ≠ 0 := fun e => hb (Rat.natCast_eq_zero_iff.1 e)
  unfold significandOf
  rw [Rat.mkRat_eq_div, Rat.mkRat_eq_div]
  simp only [Rat.intCast_mul, Rat.intCast_natCast, Rat.natCast_mul]
  generalize hs : (((if negative then -1 else 1 : Int)) : Rat) = s
  have ha2 := h2 above.1
  have hb2 := h2 below.1
  have ha5 := h5 above.1
  have hb5 := h5 below.1
  generalize ((Nat.pow 2 above.1 : Nat) : Rat) = a2 at *
  generalize ((Nat.pow 2 below.1 : Nat) : Rat) = b2 at *
  generalize ((Nat.pow 5 above.1 : Nat) : Rat) = a5 at *
  generalize ((Nat.pow 5 below.1 : Nat) : Rat) = b5 at *
  generalize ((above.2 : Nat) : Rat) = a at *
  generalize ((below.2 : Nat) : Rat) = b at *
  generalize (10 : Rat) ^ tens = t
  grind

@[simp] theorem value_zero : zero.value = 0 := Rat.zero_mul _

/-- Scaling gives a form with the value of the number times the power of ten. -/
theorem value_ofRat (q : Rat) (tens : Int) : (ofRat q tens).value = q * (10 : Rat) ^ tens := by
  unfold ofRat
  split
  · rename_i h
    rw [h, Rat.zero_mul, value_zero]
  · rename_i h
    have hn : q.num.natAbs ≠ 0 := fun e => h (Rat.num_eq_zero.1 (Int.natAbs_eq_zero.1 e))
    have hd := fives_spec q.den_nz
    have hb : (fives q.den).2 ≠ 0 := fun e => hd.2 (by rw [e])
    rw [value, value_significandOf _ hb, ← hd.1, ← (fives_spec hn).1]
    have hs : (if decide (q.num < 0) = true then -1 else 1) * (q.num.natAbs : Int) = q.num := by
      by_cases hq : q.num < 0 <;> simp only [hq, decide_true, decide_false, if_true, if_false,
        Bool.false_eq_true] <;> omega
    rw [hs, Rat.mkRat_self]

theorem value_eq_zero_iff (x : Scaled) : x.value = 0 ↔ x = zero := by
  constructor
  · intro h
    rcases x with ⟨s, t, hx⟩
    have hs : s = 0 := (Rat.mul_eq_zero.1 h).resolve_right (ten_pow_ne_zero t)
    rcases hx with ⟨_, ht⟩ | ⟨hn, _⟩
    · subst hs
      subst ht
      rfl
    · subst hs
      exact absurd rfl hn
  · rintro rfl
    exact value_zero

/-- No significand is another one times a positive power of ten. -/
theorem ne_mul_ten_pow {s t : Rat} (hs : s.num % 5 ≠ 0) (ht : t.den % 5 ≠ 0) (k : Nat) :
    s ≠ t * (10 : Rat) ^ (k + 1) := by
  intro h
  have hm : t * (10 : Rat) ^ (k + 1) = mkRat (t.num * ((10 ^ (k + 1) : Nat) : Int)) t.den := by
    have hten : (10 : Rat) ^ (k + 1) = (((10 ^ (k + 1) : Nat) : Int) : Rat) := by
      rw [Rat.intCast_natCast, Rat.natCast_pow]
      rfl
    rw [hten, Rat.mkRat_eq_div, Rat.intCast_mul]
    have htd : t = (t.num : Rat) / (t.den : Rat) := by rw [← Rat.mkRat_eq_div, Rat.mkRat_self]
    have hd : (t.den : Rat) ≠ 0 := fun e => t.den_nz (Rat.natCast_eq_zero_iff.1 e)
    generalize (((10 ^ (k + 1) : Nat) : Int) : Rat) = p at *
    generalize (t.num : Rat) = n at *
    generalize (t.den : Rat) = d at *
    rw [htd]
    grind
  rw [hm, ← Rat.mkRat_self s, Rat.mkRat_eq_iff s.den_nz t.den_nz] at h
  have habs := congrArg Int.natAbs h
  rw [Int.natAbs_mul, Int.natAbs_mul, Int.natAbs_mul, Int.natAbs_natCast, Int.natAbs_natCast,
    Int.natAbs_natCast, Nat.pow_succ] at habs
  have hl := mul_mod_five (a := s.num.natAbs) (b := t.den) (by omega) ht
  apply hl
  rw [habs]
  apply Nat.mod_eq_zero_of_dvd
  exact Nat.dvd_mul_right_of_dvd (Nat.dvd_mul_left_of_dvd
    (Nat.dvd_mul_left_of_dvd (by decide : 5 ∣ 10) _) _) _

/-- A form with a greater power of ten does not have the same value. -/
theorem value_ne_of_tens_lt {x y : Scaled} (hx : x.significand.num % 5 ≠ 0)
    (hy : y.significand.den % 5 ≠ 0) (h : x.tens < y.tens) : x.value ≠ y.value := by
  intro he
  obtain ⟨k, hk⟩ : ∃ k : Nat, y.tens = x.tens + (k + 1 : Nat) :=
    ⟨(y.tens - x.tens - 1).toNat, by omega⟩
  unfold value at he
  rw [hk, Rat.zpow_add (by decide), Rat.zpow_natCast] at he
  apply ne_mul_ten_pow hx hy k
  have hp := ten_pow_ne_zero x.tens
  generalize (10 : Rat) ^ x.tens = p at *
  generalize (10 : Rat) ^ (k + 1) = r at *
  grind

/-- A number has one form. -/
theorem value_inj {x y : Scaled} : x.value = y.value ↔ x = y := by
  refine ⟨fun h => ?_, fun h => by rw [h]⟩
  by_cases h0 : x.value = 0
  · rw [(value_eq_zero_iff x).1 h0, (value_eq_zero_iff y).1 (h ▸ h0)]
  · have hx : x.significand.num % 5 ≠ 0 ∧ x.significand.den % 5 ≠ 0 :=
      x.isNormal.resolve_left fun hz => h0 (by rw [value, hz.1, Rat.zero_mul])
    have hy : y.significand.num % 5 ≠ 0 ∧ y.significand.den % 5 ≠ 0 :=
      y.isNormal.resolve_left fun hz => h0 (by rw [h, value, hz.1, Rat.zero_mul])
    have ht : x.tens = y.tens := by
      have h1 : ¬ x.tens < y.tens := fun hlt => value_ne_of_tens_lt hx.1 hy.2 hlt h
      have h2 : ¬ y.tens < x.tens := fun hlt => value_ne_of_tens_lt hy.1 hx.2 hlt h.symm
      omega
    have hs : x.significand = y.significand := by
      unfold value at h
      rw [ht] at h
      have hp := ten_pow_ne_zero y.tens
      generalize (10 : Rat) ^ y.tens = p at *
      grind
    rcases x with ⟨s, e, _⟩
    rcases y with ⟨s', e', _⟩
    simp only at ht hs
    subst ht
    subst hs
    rfl

theorem ofRat_inj {q r : Rat} : ofRat q 0 = ofRat r 0 ↔ q = r := by
  rw [← value_inj, value_ofRat, value_ofRat, Rat.zpow_zero, Rat.mul_one, Rat.mul_one]

theorem ofInt_inj {m n : Int} : ofInt m = ofInt n ↔ m = n := by
  rw [ofInt, ofInt, ofRat_inj, Rat.intCast_inj]

theorem ofInt_eq_zero_iff {n : Int} : ofInt n = zero ↔ n = 0 := ofInt_inj (n := 0)

theorem ofRat_eq_zero_iff {q : Rat} {tens : Int} : ofRat q tens = zero ↔ q = 0 := by
  rw [← value_eq_zero_iff, value_ofRat, Rat.mul_eq_zero]
  exact or_iff_left (ten_pow_ne_zero tens)

end Scaled

end NamedConditions
