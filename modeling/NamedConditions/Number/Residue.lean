import NamedConditions.Number.Exact
/-!
Residues: what is left of a number when multiples of one large prime are taken away. A quotient has
a residue as well, so that equal numbers of all kinds have the same one.

Main statement: the power of a number by repeated squaring is the power.
-/
namespace NamedConditions

/-- A power of a number, modulo another one, by repeated squaring. -/
def powerMod (m b e : Nat) : Nat :=
  if h : e = 0 then 1 % m
  else
    let squared := powerMod m (b * b % m) (e / 2)
    if e % 2 = 1 then b * squared % m else squared
termination_by e
decreasing_by exact Nat.div_lt_self (Nat.pos_of_ne_zero h) (by decide)

theorem powerMod_eq (m b e : Nat) : powerMod m b e = b.pow e % m := by
  rw [Nat.pow_eq]
  induction e using Nat.strongRecOn generalizing b with
  | _ e ih =>
    rw [powerMod]
    by_cases h : e = 0
    · rw [dif_pos h, h, Nat.pow_zero]
    · have hlt : e / 2 < e := Nat.div_lt_self (Nat.pos_of_ne_zero h) (by decide)
      have hs : powerMod m (b * b % m) (e / 2) = b ^ (2 * (e / 2)) % m := by
        rw [ih _ hlt, ← Nat.pow_mod, Nat.pow_mul, Nat.pow_two]
      have he := Nat.div_add_mod e 2
      simp only [dif_neg h, hs]
      by_cases ho : e % 2 = 1
      · rw [ho] at he
        have hp : b ^ (2 * (e / 2)) * b = b ^ e := by
          rw [← Nat.pow_succ]
          exact congrArg (b ^ ·) he
        rw [if_pos ho, Nat.mul_mod, Nat.mod_mod, ← Nat.mul_mod, Nat.mul_comm, hp]
      · rw [if_neg ho]
        have hz : e % 2 = 0 := by omega
        rw [hz, Nat.add_zero] at he
        rw [he]

namespace Residue

/-- The prime whose multiples are taken away. -/
def prime : Nat := (1 <<< 61) - 1

/-- What stands for an infinity, and for a quotient by a multiple of the prime. -/
def infinity : Nat := 314159

/-- A size with the sign of a number. -/
def signed (negative : Bool) (size : Nat) : Int := if negative then -(size : Int) else size

/-- The residue of a number, of the number's sign. -/
def ofScaled (x : Scaled) : Int :=
  let den := x.significand.den
  let negative : Bool := x.significand.num < 0
  if den % prime = 0 then signed negative infinity
  else
    let tens := powerMod prime 10 (x.tens % ((prime : Int) - 1)).toNat
    let inverse := powerMod prime den (prime - 2)
    signed negative (x.significand.num.natAbs * inverse * tens % prime)

/-- The residue of a real number; an undefined one has none. -/
def ofExact? : Exact → Option Int
  | .finite x => some (ofScaled x)
  | .infinite negative => some (signed negative infinity)
  | .undefined => none

end Residue

end NamedConditions
