import NamedConditions.Value.Truth
/-!
Which values are true. Values fall into categories: absence, numbers, texts and octet strings,
containers, and everything else. Of the first four the truth is known from what they are, and of the
last it is what the host says, its errors among it.

Main statement (`truth_by_category`): in the first four categories exactly absence, zeros, undefined
numbers and empty texts are false, and numbers that are equal across their kinds are equally true;
the one exception is a signalling number, which refuses. Everything else is as true as the host
says.
-/
namespace NamedConditions

namespace Exact

theorem equal_self (a : Exact) : a.equal a = decide (a ≠ .undefined) := by
  cases a <;> simp [equal]

theorem equal_zero (a : Exact) : a.equal zero = decide (a = zero) := by
  cases a <;> simp [equal, zero]

/-- Equal numbers are the same number, and a defined one. -/
theorem eq_of_equal {a b : Exact} (h : a.equal b = true) : a = b ∧ a ≠ .undefined := by
  cases a <;> cases b <;> simp_all [equal]

/-- A binary number is zero exactly if its mantissa is. -/
theorem ofBinary64_eq_zero_iff (x : Binary64) : ofBinary64 x = zero ↔ x.isZero = true := by
  cases x with
  | nan mark => simp [ofBinary64, zero, Binary64.isZero]
  | infinite negative => simp [ofBinary64, zero, Binary64.isZero]
  | finite negative m e =>
    have htwo : (2 : Rat) ^ e ≠ 0 := fun h => by
      have hp : (0 : Rat) < (2 : Rat) ^ e := Rat.zpow_pos (by decide)
      rw [h] at hp
      exact absurd hp (by decide)
    have hm : (m : Rat) * (2 : Rat) ^ e = 0 ↔ m = 0 := by
      rw [Rat.mul_eq_zero, or_iff_left htwo, Rat.natCast_eq_zero_iff]
    simp only [ofBinary64, ofRat, zero, finite.injEq, Scaled.ofRat_eq_zero_iff, Binary64.isZero,
      decide_eq_true_eq]
    cases negative with
    | false => exact hm
    | true =>
      rw [if_pos rfl, ← hm]
      exact ⟨fun h => by rw [← Rat.neg_neg (_ * _), h, Rat.neg_zero], fun h => by
        rw [h, Rat.neg_zero]⟩

end Exact

namespace Number

/-- A number that refuses no comparison is true unless it is zero or undefined. -/
theorem truth?_of_quiet {x : Number} (h : x.signalling = false) :
    x.truth? = some (!(decide (x.re = .zero) && decide (x.im = .zero)) &&
      (decide (x.re ≠ .undefined) && decide (x.im ≠ .undefined))) := by
  have hz : (ofInt 0).re = .zero := rfl
  have hz' : (ofInt 0).im = .zero := rfl
  have hs : (ofInt 0).signalling = false := rfl
  rw [truth?, equal?, h, hs, hz, hz', isDefined, Exact.equal_self, Exact.equal_self,
    Exact.equal_zero, Exact.equal_zero]
  rfl

/-- Numbers that are equal have the same truth. -/
theorem truth?_congr {x y : Number} (h : x.equal? y = some true) : x.truth? = y.truth? := by
  unfold equal? at h
  split at h
  · split at h <;> cases h
  · rename_i hs
    rw [Bool.not_eq_true, Bool.or_eq_false_iff] at hs
    obtain ⟨hre, him⟩ := Bool.and_eq_true_iff.1 (Option.some.inj h)
    rw [truth?_of_quiet hs.1, truth?_of_quiet hs.2, (Exact.eq_of_equal hre).1,
      (Exact.eq_of_equal him).1]

end Number

namespace Value

/-! ## Categories -/

/-- What sort of value decides about its truth. -/
inductive Category
  | absent | number | text | container | other
  deriving DecidableEq

/-- The category of a value. A truth value is a number, and a text is no container. -/
def category : Value → Category
  | null => .absent
  | bool _ | int _ | float _ | complex .. => .number
  | str _ | brokenStr _ | bytes _ | byteArray _ => .text
  | list _ | tuple _ | set _ | frozenSet _ | range _ | dict _ => .container
  | spec .. | evaluator .. => .other
  | object _ o =>
    match o with
    | .decimal _ | .fraction _ => .number
    | .subText _ => .text
    | .byteView _ | .deque _ | .userList _ | .mapping _ | .readOnly _ | .keys _
    | .collection _ => .container
    | _ => .other

/-- Whether a number is a zero, of whatever kind and sign. -/
def isZeroNumber : Value → Bool
  | bool b => !b
  | int n => n = 0
  | float x => x.isZero
  | complex re im => re.isZero && im.isZero
  | object _ (.decimal d) => d.isZero
  | object _ (.fraction q) => q = 0
  | _ => false

/-- Whether a number is undefined, in one of its parts at least. -/
def isUndefinedNumber : Value → Bool
  | float (.nan _) => true
  | complex (.nan _) _ | complex _ (.nan _) => true
  | object _ (.decimal (.undefined ..)) => true
  | _ => false

/-- Whether a number is undefined and refuses to be compared. -/
def isSignalling : Value → Bool
  | object _ (.decimal (.undefined _ signalling _)) => signalling
  | _ => false

/-- Whether a text or octet string has nothing in it. -/
def isEmptyText : Value → Bool
  | str s | object _ (.subText s) => s = ""
  | brokenStr codes => codes.isEmpty
  | bytes octets | byteArray octets => octets.isEmpty
  | _ => false

/-- Whether a value is absence, a zero, an undefined number or an empty text. -/
def isNothing (v : Value) : Bool :=
  v.category = .absent || v.isZeroNumber || v.isUndefinedNumber || v.isEmptyText

/-- Whether a value is an object that cannot say whether it is true. -/
def failsToAnswer : Value → Bool
  | object _ (.truthFails _) => true
  | object _ (.sized length) => length < 0 || lengthBound ≤ length
  | object _ (.truth v) | object _ (.predicate (some v) _) => !v.isBool
  | _ => false

/-! ## Numbers -/

theorem isSome_number?_iff (v : Value) : v.number?.isSome = true ↔ v.category = .number := by
  cases v with
  | object id o => cases o <;> simp [number?, category]
  | _ => simp [number?, category]

/-- The truth of a number is that of its exact value. -/
theorem truth_of_number? {v : Value} {x : Number} (h : v.number? = some x) :
    v.truth = x.truth?.elim (.error signallingError) .ok := by
  cases v with
  | bool b =>
    cases h
    rw [truth_bool, Number.truth?_ofInt]
    cases b <;> rfl
  | int n | float y | complex re im =>
    simp only [truth, textLength?, text?, octets?, h]
  | object id o =>
    cases o with
    | decimal d =>
      cases h
      rw [Number.truth?_ofDecimal]
      rfl
    | fraction q => simp only [truth, textLength?, text?, octets?, h]
    | _ => cases h
  | _ => cases h

theorem signalling_of_number? {v : Value} {x : Number} (h : v.number? = some x) :
    x.signalling = v.isSignalling := by
  cases v with
  | bool | int | float | complex =>
    cases h
    rfl
  | object id o =>
    cases o with
    | decimal d =>
      cases h
      cases d <;> rfl
    | fraction q =>
      cases h
      rfl
    | _ => cases h
  | _ => cases h

/-- A number is seen as zero exactly if it is one. -/
theorem isZeroNumber_of_number? {v : Value} {x : Number} (h : v.number? = some x) :
    v.isZeroNumber = (decide (x.re = .zero) && decide (x.im = .zero)) := by
  cases v with
  | bool b =>
    cases h
    cases b <;> rfl
  | int n =>
    cases h
    simp [isZeroNumber, Number.ofInt, Exact.zero, Scaled.ofInt_eq_zero_iff]
  | float y =>
    cases h
    rw [isZeroNumber, Bool.eq_iff_iff]
    simp [Number.ofExact, Exact.ofBinary64_eq_zero_iff]
  | complex re im =>
    cases h
    rw [isZeroNumber, Bool.eq_iff_iff]
    simp [Exact.ofBinary64_eq_zero_iff]
  | object id o =>
    cases o with
    | decimal d =>
      cases h
      rw [isZeroNumber]
      cases d with
      | finite y =>
        have hy : Scaled.ofRat (y.signed : Rat) y.exponent = .zero ↔ y.coefficient = 0 := by
          rw [Scaled.ofRat_eq_zero_iff, ← y.signed_eq_zero_iff, ← Rat.intCast_zero,
            Rat.intCast_inj]
        simp [Number.ofDecimal, Exact.ofDecimal, Exact.zero, Decimal.isZero, hy]
      | infinite negative => simp [Number.ofDecimal, Exact.ofDecimal, Exact.zero, Decimal.isZero]
      | undefined n s t => simp [Number.ofDecimal, Exact.ofDecimal, Exact.zero, Decimal.isZero]
    | fraction q =>
      cases h
      simp [isZeroNumber, Number.ofExact, Exact.ofRat, Exact.zero, Scaled.ofRat_eq_zero_iff]
    | _ => cases h
  | _ => cases h

/-- A number is seen as undefined exactly if it is. -/
theorem isUndefinedNumber_of_number? {v : Value} {x : Number} (h : v.number? = some x) :
    v.isUndefinedNumber = !(decide (x.re ≠ .undefined) && decide (x.im ≠ .undefined)) := by
  cases v with
  | bool b =>
    cases h
    cases b <;> rfl
  | int n =>
    cases h
    rfl
  | float y =>
    cases h
    cases y <;> rfl
  | complex re im =>
    cases h
    cases re <;> cases im <;> rfl
  | object id o =>
    cases o with
    | decimal d =>
      cases h
      cases d <;> rfl
    | fraction q =>
      cases h
      rfl
    | _ => cases h
  | _ => cases h

/-- A number that refuses no comparison is true unless it is zero or undefined. -/
theorem truth_of_number {v : Value} (hv : v.category = .number) (hs : v.isSignalling = false) :
    v.truth = .ok !(v.isZeroNumber || v.isUndefinedNumber) := by
  obtain ⟨x, hx⟩ := Option.isSome_iff_exists.1 ((isSome_number?_iff v).2 hv)
  have hquiet : x.signalling = false := (signalling_of_number? hx).trans hs
  rw [truth_of_number? hx, Number.truth?_of_quiet hquiet, isZeroNumber_of_number? hx,
    isUndefinedNumber_of_number? hx, Bool.not_or, Bool.not_not]
  rfl

theorem truth_of_signalling {v : Value} (hs : v.isSignalling = true) :
    v.truth = .error signallingError := by
  cases v with
  | object id o =>
    cases o with
    | decimal d =>
      cases d with
      | undefined n s t =>
        cases hs
        rfl
      | _ => cases hs
    | _ => cases hs
  | _ => cases hs

theorem equal?_of_number {v : Value} (hv : v.category = .number) (w : Value) :
    v.equal? w = equalNumbers? v w := by
  cases v with
  | bool | int | float | complex => simp [equal?, equalIn?]
  | object id o => cases o <;> simp_all [category, equal?, equalIn?, equalObject?]
  | _ => simp [category] at hv

/-- Numbers that are equal, whatever their kinds, are equally true. -/
theorem truth_of_equal {v w : Value} (hv : v.category = .number) (hw : w.category = .number)
    (h : v.equal? w = some true) : v.truth = w.truth := by
  obtain ⟨x, hx⟩ := Option.isSome_iff_exists.1 ((isSome_number?_iff v).2 hv)
  obtain ⟨y, hy⟩ := Option.isSome_iff_exists.1 ((isSome_number?_iff w).2 hw)
  rw [equal?_of_number hv, equalNumbers?, hx, hy] at h
  rw [truth_of_number? hx, truth_of_number? hy, Number.truth?_congr h]

/-- A zero is a number that equals zero. -/
theorem equal?_zero_iff {v : Value} (hv : v.category = .number) (hs : v.isSignalling = false) :
    v.equal? (int 0) = some true ↔ v.isZeroNumber = true := by
  obtain ⟨x, hx⟩ := Option.isSome_iff_exists.1 ((isSome_number?_iff v).2 hv)
  have hquiet : x.signalling = false := (signalling_of_number? hx).trans hs
  have hz : (Number.ofInt 0).re = .zero := rfl
  have hz' : (Number.ofInt 0).im = .zero := rfl
  rw [equal?_of_number hv, equalNumbers?, hx, number?, isZeroNumber_of_number? hx]
  simp only [Number.equal?, hquiet, hz, hz', Exact.equal_zero]
  simp [Number.ofInt]

/-- An undefined number is one that does not equal itself. -/
theorem equal?_self_iff {v : Value} (hv : v.category = .number) (hs : v.isSignalling = false) :
    v.equal? v = some false ↔ v.isUndefinedNumber = true := by
  obtain ⟨x, hx⟩ := Option.isSome_iff_exists.1 ((isSome_number?_iff v).2 hv)
  have hquiet : x.signalling = false := (signalling_of_number? hx).trans hs
  rw [equal?_of_number hv, equalNumbers?, hx, isUndefinedNumber_of_number? hx]
  simp only [Number.equal?, hquiet, Exact.equal_self]
  cases (decide (x.re ≠ .undefined) && decide (x.im ≠ .undefined)) <;> simp

/-! ## The other categories -/

theorem truth_of_absent {v : Value} (hv : v.category = .absent) : v.truth = .ok false := by
  cases v with
  | null => rfl
  | object id o => cases o <;> cases hv
  | _ => cases hv

theorem truth_of_text {v : Value} (hv : v.category = .text) : v.truth = .ok !v.isEmptyText := by
  cases v with
  | str s =>
    rw [truth_str, isEmptyText]
    simp
  | brokenStr xs | bytes xs | byteArray xs => cases xs <;> rfl
  | object id o =>
    cases o with
    | subText s => simp [truth, textLength?, text?, isEmptyText]
    | _ => cases hv
  | _ => cases hv

/-- Every container is true, whatever it holds. -/
theorem truth_of_container {v : Value} (hv : v.category = .container) : v.truth = .ok true := by
  cases v with
  | list | tuple | set | frozenSet | range | dict => rfl
  | object id o =>
    cases o with
    | byteView | deque | userList | mapping | readOnly | keys | collection => rfl
    | _ => cases hv
  | _ => cases hv

/-- Everything else is as true as the host says. -/
theorem truth_of_other {v : Value} (hv : v.category = .other) : v.truth = v.hostTruth := by
  cases v with
  | spec | evaluator => rfl
  | object id o =>
    cases o with
    | decimal | fraction | subText | byteView | deque | userList | mapping | readOnly | keys
    | collection => cases hv
    | _ => rfl
  | _ => cases hv

/-- What else cannot say whether it is true has no truth, and nothing else has none. -/
theorem truth_of_other_eq_error_iff {v : Value} (hv : v.category = .other) :
    (∃ e, v.truth = .error e) ↔ v.failsToAnswer = true := by
  have hanswer : ∀ w : Value, (∃ e, truthAnswer w = .error e) ↔ (!w.isBool) = true := by
    intro w
    cases w <;> simp [truthAnswer, isBool]
  have htrue : (∃ e, (Except.ok true : Except Raised Bool) = .error e) ↔ false = true := by simp
  cases v with
  | spec | evaluator => exact htrue
  | object id o =>
    cases o with
    | truth w => exact hanswer w
    | predicate t body =>
      cases t with
      | none => exact htrue
      | some w => exact hanswer w
    | truthFails error => exact ⟨fun _ => rfl, fun _ => ⟨error, rfl⟩⟩
    | sized length =>
      have hlen : (object id (.sized length)).truth = lengthAnswer length := rfl
      rw [hlen, lengthAnswer, failsToAnswer, Bool.or_eq_true, decide_eq_true_eq,
        decide_eq_true_eq]
      split
      · exact ⟨fun _ => .inl ‹_›, fun _ => ⟨_, rfl⟩⟩
      · split
        · exact ⟨fun _ => .inr ‹_›, fun _ => ⟨_, rfl⟩⟩
        · constructor
          · rintro ⟨e, he⟩
            cases he
          · intro h
            omega
    | decimal | fraction | subText | byteView | deque | userList | mapping | readOnly | keys
    | collection => cases hv
    | _ => exact htrue
  | _ => cases hv

/-! ## All together -/

theorem category_of_isZeroNumber {v : Value} (h : v.isZeroNumber = true) :
    v.category = .number := by
  cases v with
  | bool | int | float | complex => rfl
  | object id o =>
    cases o with
    | decimal | fraction => rfl
    | _ => cases h
  | _ => cases h

theorem category_of_isUndefinedNumber {v : Value} (h : v.isUndefinedNumber = true) :
    v.category = .number := by
  cases v with
  | float | complex => rfl
  | object id o =>
    cases o with
    | decimal => rfl
    | _ => cases h
  | _ => cases h

theorem category_of_isSignalling {v : Value} (h : v.isSignalling = true) :
    v.category = .number := by
  cases v with
  | object id o =>
    cases o with
    | decimal => rfl
    | _ => cases h
  | _ => cases h

theorem category_of_isEmptyText {v : Value} (h : v.isEmptyText = true) : v.category = .text := by
  cases v with
  | str | brokenStr | bytes | byteArray => rfl
  | object id o =>
    cases o with
    | subText => rfl
    | _ => cases h
  | _ => cases h

/-- What counts as nothing in a category. -/
theorem isNothing_eq (v : Value) :
    v.isNothing =
      match v.category with
      | .absent => true
      | .number => v.isZeroNumber || v.isUndefinedNumber
      | .text => v.isEmptyText
      | .container | .other => false := by
  have hz := @category_of_isZeroNumber v
  have hu := @category_of_isUndefinedNumber v
  have ht := @category_of_isEmptyText v
  cases hc : v.category <;> simp_all [isNothing]

/-- The truth of every value, by its category. -/
theorem truth_by_category (v : Value) :
    (v.category ≠ .other → v.isSignalling = false → v.truth = .ok !v.isNothing) ∧
    (v.category = .container → v.truth = .ok true) ∧
    (v.category = .number → v.isSignalling = false →
      (v.isZeroNumber = true ↔ v.equal? (int 0) = some true) ∧
      (v.isUndefinedNumber = true ↔ v.equal? v = some false)) ∧
    (∀ w, v.category = .number → w.category = .number → v.equal? w = some true →
      v.truth = w.truth) ∧
    (v.isSignalling = true → v.category = .number ∧ v.truth = .error signallingError) ∧
    (v.category = .other → v.truth = v.hostTruth ∧
      ((∃ e, v.truth = .error e) ↔ v.failsToAnswer = true)) := by
  refine ⟨fun hv hs => ?_, truth_of_container, fun hv hs => ?_, fun w => truth_of_equal,
    fun hs => ⟨?_, truth_of_signalling hs⟩,
    fun hv => ⟨truth_of_other hv, truth_of_other_eq_error_iff hv⟩⟩
  · rw [isNothing_eq]
    cases hc : v.category with
    | absent => exact truth_of_absent hc
    | number => exact truth_of_number hc hs
    | text => exact truth_of_text hc
    | container => exact truth_of_container hc
    | other => exact absurd hc hv
  · exact ⟨(equal?_zero_iff hv hs).symm, (equal?_self_iff hv hs).symm⟩
  · exact category_of_isSignalling hs

/-- The negative zero is as false as the truth value that it equals, an empty mapping is true, a
signalling number refuses, and an object of negative length has no truth. -/
theorem truth_by_category_zeros :
    (float (.finite true 0 0)).truth = (bool false).truth ∧
    (float (.finite true 0 0)).truth = .ok false ∧
    (object 0 (.mapping [])).truth = .ok true ∧
    (object 0 (.decimal (.undefined false true ""))).truth = .error signallingError ∧
    ∃ e, (object 0 (.sized (-1))).truth = .error e :=
  ⟨(truth_by_category _).2.2.2.1 (bool false) rfl rfl (by decide +kernel),
    (truth_by_category _).1 (by decide) rfl, (truth_by_category _).2.1 rfl,
    ((truth_by_category _).2.2.2.2.1 rfl).2, ((truth_by_category _).2.2.2.2.2 rfl).2.2 rfl⟩

end Value

end NamedConditions
