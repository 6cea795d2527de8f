import NamedConditions.Value.Render
/-!
Values as keys. Two keys are equal when they have the same canonical form: numbers of all kinds go
by their exact value, so that `1`, `1.0` and truth are one key, and texts of all classes by their
characters. A frozen set goes by its members, in the order of their keys. An undefined number goes
by its mark, so that only itself finds it again. Some values are refused as keys.

Main statements: sorting the members of a set keeps them, and being the same key is symmetric,
transitive and, where there is a key, reflexive.
-/
namespace NamedConditions

/-- The canonical form of a value as a key. A run of keys is a chain of pairs. -/
inductive Key
  | null
  | number (re im : Exact)
  | undefined (marks : List Nat)
  | text (s : String)
  | codes (codes : CodePoints)
  | octets (os : List UInt8)
  | range (length : Nat)
  | empty
  | pair (first rest : Key)
  | frozen (members : Key)
  | spec (check name : Key)
  | native (f : Native)
  | object (id : Nat)
  | evaluator (number : Nat)
  deriving DecidableEq

/-- A real number as a run of whole numbers. -/
def Exact.code : Exact → List Int
  | finite x => [0, x.significand.num, x.significand.den, x.tens]
  | infinite negative => [1, if negative then 0 else 1]
  | undefined => [2]

namespace Key

/-- A text as a run of whole numbers, its length first. -/
def textCode (s : String) : List Int := s.length :: s.toList.map fun c => (c.toNat : Int)

/-- A key as a run of whole numbers, which is what keys are ordered by. -/
def code : Key → List Int
  | null => [0]
  | number re im => 1 :: (re.code ++ im.code)
  | text s => 2 :: textCode s
  | codes ns => 12 :: ns.length :: ns.map Int.ofNat
  | undefined marks => 13 :: marks.length :: marks.map Int.ofNat
  | octets os => 3 :: os.length :: os.map fun o => (o.toNat : Int)
  | range length => [4, length]
  | empty => [5]
  | pair first rest => 6 :: (code first ++ code rest)
  | frozen members => 7 :: code members
  | spec check name => 8 :: (code check ++ code name)
  | native f => 9 :: textCode f.shown
  | object id => [10, id]
  | evaluator n => [11, n]

/-- A chain of pairs as a list. -/
def toList : Key → List Key
  | pair first rest => first :: toList rest
  | _ => []

/-- A list as a chain of pairs. -/
def ofList : List Key → Key
  | [] => empty
  | k :: ks => pair k (ofList ks)

/-- A chain of pairs in the order of keys. -/
def sorted (chain : Key) : Key :=
  ofList (chain.toList.mergeSort fun a b => !(decide (b.code < a.code)))

@[simp] theorem toList_ofList (ks : List Key) : (ofList ks).toList = ks := by
  induction ks with
  | nil => rfl
  | cons k ks ih => simp [ofList, toList, ih]

/-- Sorting a chain keeps what it holds. -/
theorem toList_sorted_perm (chain : Key) : chain.sorted.toList.Perm chain.toList := by
  simp [sorted, List.mergeSort_perm]

end Key

namespace Value

/-- Why a value is refused as a key. -/
def refusal (v : Value) : String := "unhashable type: '" ++ v.typePath ++ "'"

mutual

/-- The reason for which a value is refused as a key, if it is. -/
def keyRefusal? : Value → Option String
  | byteArray octets => some (byteArray octets).refusal
  | list items => some (list items).refusal
  | set items => some (set items).refusal
  | dict entries => some (dict entries).refusal
  | tuple items => keyRefusals? items
  | spec check name => (keyRefusal? check).orElse fun _ => keyRefusal? name
  | object id o =>
    match o with
    | .deque _ | .userList _ | .mapping _ | .readOnly _ | .keys _ | .record _ =>
      some (object id o).refusal
    | .decimal (.undefined _ true _) => some "Cannot hash a signaling NaN value"
    | _ => none
  | _ => none

/-- The first reason for which one of several values is refused. -/
def keyRefusals? : List Value → Option String
  | [] => none
  | v :: vs => (keyRefusal? v).orElse fun _ => keyRefusals? vs

end

/-- The canonical form of a number: its exact value, or its marks if it is undefined. -/
def numberKey (marks : List Nat) (x : Number) : Key :=
  if x.isDefined then .number x.re x.im else .undefined marks

mutual

/-- The canonical form of a value as a key; none for a value that is refused. -/
def key? : Value → Option Key
  | null => some .null
  | bool b => some (numberKey [] (.ofInt (if b then 1 else 0)))
  | int n => some (numberKey [] (.ofInt n))
  | float x => some (numberKey x.marks (.ofExact (.ofBinary64 x)))
  | complex re im =>
    some (numberKey (re.marks ++ im.marks) ⟨.ofBinary64 re, .ofBinary64 im, false⟩)
  | str s => some (.text s)
  | brokenStr codes => some (.codes codes)
  | bytes octets => some (.octets octets)
  | tuple items => keys? items
  | frozenSet items => (keys? items).map fun ks => .frozen ks.sorted
  | range stop => some (.range stop.toNat)
  | spec check name =>
    match key? check, key? name with
    | some c, some n => some (.spec c n)
    | _, _ => none
  | object id o =>
    match o with
    | .decimal (.undefined _ true _) => none
    | .decimal d => some (numberKey [id] (.ofDecimal d))
    | .fraction q => some (numberKey [] (.ofExact (.ofRat q)))
    | .subText s => some (.text s)
    | .byteView octets => some (.octets octets)
    | .native f => some (.native f)
    | .deque _ | .userList _ | .mapping _ | .readOnly _ | .keys _ | .record _ => none
    | _ => some (.object id)
  | evaluator n .. => some (.evaluator n)
  | byteArray _ | list _ | set _ | dict _ => none

/-- The canonical form of a run of keys. -/
def keys? : List Value → Option Key
  | [] => some .empty
  | v :: vs =>
    match key? v, keys? vs with
    | some k, some ks => some (.pair k ks)
    | _, _ => none

end

/-- Whether two values are the same key. -/
def sameKey (a b : Value) : Bool := a.key?.isSome && a.key? = b.key?

@[simp] theorem key?_str (s : String) : (str s).key? = some (.text s) := by
  simp [key?]

theorem sameKey_comm (a b : Value) : a.sameKey b = b.sameKey a := by
  unfold sameKey
  by_cases h : a.key? = b.key?
  · simp [h]
  · simp [h, Ne.symm h]

theorem sameKey_trans {a b c : Value} (hab : a.sameKey b = true) (hbc : b.sameKey c = true) :
    a.sameKey c = true := by
  simp only [sameKey, Bool.and_eq_true, decide_eq_true_eq] at *
  exact ⟨hab.1, hab.2.trans hbc.2⟩

/-- Equal keys are equal to the same keys. -/
theorem sameKey_congr {a b : Value} (h : a.sameKey b = true) (c : Value) :
    c.sameKey a = c.sameKey b := by
  have hba : b.sameKey a = true := by rw [sameKey_comm]; exact h
  cases ha : c.sameKey a with
  | true => exact (sameKey_trans ha h).symm
  | false =>
    cases hb : c.sameKey b with
    | true => rw [sameKey_trans hb hba] at ha; cases ha
    | false => rfl

theorem sameKey_self_iff (a : Value) : a.sameKey a = true ↔ a.key?.isSome = true := by
  simp [sameKey]

end Value

end NamedConditions
