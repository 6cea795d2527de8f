import NamedConditions.Number.Binary64
import NamedConditions.Number.Decimal
import NamedConditions.Number.Scaled
/-!
One exact view of all kinds of number, so that numbers of different kinds can be compared: a real
part and an imaginary part, each a rational, an infinity or undefined.

Main statements: comparison is symmetric, two finite reals are equal exactly when they have the same
value, and the truth of a decimal number, which is known without its power of ten, is that of its
exact value.
-/
namespace NamedConditions

/-- A real number as comparison sees it. -/
inductive Exact
  | finite (x : Scaled)
  | infinite (negative : Bool)
  | undefined
  deriving DecidableEq

namespace Exact

/-- Equality of two numbers; an undefined one equals nothing. -/
def equal : Exact → Exact → Bool
  | finite a, finite b => a = b
  | infinite a, infinite b => a = b
  | _, _ => false

/-- Zero. -/
def zero : Exact := finite .zero

/-- A rational number. -/
def ofRat (q : Rat) : Exact := finite (.ofRat q 0)

/-- The exact value of a binary number. -/
def ofBinary64 : Binary64 → Exact
  | .nan _ => .undefined
  | .infinite negative => .infinite negative
  | .finite negative m e =>
    let q : Rat := m * (2 : Rat) ^ e
    ofRat (if negative then -q else q)

/-- The exact value of a decimal number, whose power of ten is not written out. -/
def ofDecimal : Decimal → Exact
  | .finite x => .finite (.ofRat (x.signed : Rat) x.exponent)
  | .infinite negative => .infinite negative
  | .undefined .. => .undefined

theorem equal_comm (a b : Exact) : a.equal b = b.equal a := by
  cases a <;> cases b <;> simp [equal, eq_comm]

@[simp] theorem finite_equal_finite (a b : Scaled) :
    (finite a).equal (finite b) = decide (a = b) := rfl

theorem finite_equal_finite_iff (a b : Scaled) :
    (finite a).equal (finite b) = true ↔ a.value = b.value := by
  rw [finite_equal_finite, decide_eq_true_eq, Scaled.value_inj]

end Exact

/-- A complex number as comparison sees it; a signalling one refuses to be compared to a real
one. -/
structure Number where
  re : Exact
  im : Exact
  signalling : Bool

namespace Number

/-- A whole number. -/
def ofInt (n : Int) : Number := ⟨.finite (.ofInt n), .zero, false⟩

/-- A real number. -/
def ofExact (x : Exact) : Number := ⟨x, .zero, false⟩

/-- A decimal number, which may be signalling. -/
def ofDecimal (d : Decimal) : Number :=
  ⟨.ofDecimal d, .zero, match d with
    | .undefined _ signalling _ => signalling
    | _ => false⟩

/-- Whether the number is real. -/
def isReal (a : Number) : Bool := a.im = .zero

/-- Equality of two numbers, or none if one of them refuses: a signalling number refuses every real
number, and no other is equal to it. -/
def equal? (a b : Number) : Option Bool :=
  if a.signalling || b.signalling then if a.isReal && b.isReal then none else some false
  else some (a.re.equal b.re && a.im.equal b.im)

/-- Whether the number equals itself, which an undefined one does not. -/
def isDefined (a : Number) : Bool := a.re.equal a.re && a.im.equal a.im

/-- Truth of a number: it is neither zero nor undefined; none if it refuses the comparison. -/
def truth? (a : Number) : Option Bool :=
  (a.equal? (ofInt 0)).map fun isZero => !isZero && a.isDefined

theorem equal?_comm (a b : Number) : a.equal? b = b.equal? a := by
  simp [equal?, Exact.equal_comm a.re, Exact.equal_comm a.im, Bool.or_comm, Bool.and_comm]

theorem equal?_ofInt (m n : Int) : (ofInt m).equal? (ofInt n) = some (decide (m = n)) := by
  have h : (decide (Scaled.ofInt m = Scaled.ofInt n)) = decide (m = n) :=
    decide_eq_decide.2 Scaled.ofInt_inj
  simp only [equal?, ofInt, Bool.or_self, Bool.false_eq_true, if_false, Exact.zero,
    Exact.finite_equal_finite, decide_true, Bool.and_true, h]

theorem isDefined_ofInt (n : Int) : (ofInt n).isDefined = true := by
  simp only [isDefined, ofInt, Exact.zero, Exact.finite_equal_finite, decide_true, Bool.and_self]

theorem truth?_ofInt (n : Int) : (ofInt n).truth? = some (n != 0) := by
  rw [truth?, equal?_ofInt, isDefined_ofInt, Option.map_some, Bool.and_true]
  rfl

/-- The truth of a decimal number is that of its exact value. -/
theorem truth?_ofDecimal (d : Decimal) : (ofDecimal d).truth? = d.truth? := by
  cases d with
  | finite x =>
    have h : Scaled.ofRat (x.signed : Rat) x.exponent = .zero ↔ x.coefficient = 0 := by
      rw [Scaled.ofRat_eq_zero_iff, ← x.signed_eq_zero_iff, ← Rat.intCast_zero, Rat.intCast_inj]
    have hz : Scaled.ofInt 0 = .zero := rfl
    simp only [truth?, equal?, ofDecimal, ofInt, isDefined, Decimal.truth?, Exact.ofDecimal,
      Exact.zero, Exact.finite_equal_finite, hz, h, Bool.or_self, Bool.false_eq_true, if_false,
      decide_true, Bool.and_self, Bool.and_true, Option.map_some, ne_eq, decide_not]
  | infinite negative => cases negative <;> rfl
  | undefined negative signalling payload => cases signalling <;> rfl

end Number

end NamedConditions
