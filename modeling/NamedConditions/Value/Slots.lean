import NamedConditions.Number.Residue
import NamedConditions.Value.Layer
/-!
The order in which a set gives its members. The members stand in a table of slots, each in the first
slot that is free where its number says; a table that is three fifths full makes room for four times
as many members. The numbers of equal members are equal. Members whose numbers are not known stay in
the order in which they came.

Main statement: putting members into slots keeps all of them and adds none.
-/
namespace NamedConditions

/-! ## Numbers of members -/

namespace SlotNumber

/-- A number as a word of 64 bits; minus one is left out. -/
def ofInt (n : Int) : UInt64 := UInt64.ofNat ((if n = -1 then -2 else n) % UInt64.size).toNat

/-- A word, unless it is the one that is left out. -/
def avoiding (instead word : UInt64) : UInt64 := if word = 0 - 1 then instead else word

/-- The number of a number. -/
def ofNumber? (x : Number) : Option UInt64 := do
  let re ← Residue.ofExact? x.re
  let im ← Residue.ofExact? x.im
  return avoiding (0 - 2) (ofInt re + 1000003 * ofInt im)

/-- Turns a word by 31 bits. -/
def turned (word : UInt64) : UInt64 := (word <<< 31) ||| (word >>> 33)

/-- The number of a run of items from their numbers. -/
def ofItems (numbers : List UInt64) : UInt64 :=
  let start : UInt64 := 2870177450012600261
  let mixed := numbers.foldl
    (fun sum n => turned (sum + n * 14029467366897019727) * 11400714785074694791) start
  avoiding 1546275796 (mixed + (UInt64.ofNat numbers.length ^^^ (start ^^^ (3527539 : UInt64))))

/-- A member's number with its bits spread. -/
def spread (n : UInt64) : UInt64 := ((n ^^^ (89869747 : UInt64)) ^^^ (n <<< 16)) * 3644798167

/-- The number of a set from the numbers of its members, whose order does not matter. -/
def ofMembers (numbers : List UInt64) : UInt64 :=
  let together : UInt64 := numbers.foldl (fun sum n => sum ^^^ spread n) 0
  let mixed := together ^^^ ((UInt64.ofNat numbers.length + 1) * 1927868237)
  let mixed := mixed ^^^ ((mixed >>> 11) ^^^ (mixed >>> 25))
  avoiding 590923713 (mixed * 69069 + 907133923)

end SlotNumber

namespace Value

mutual

/-- The number of a member, if it is known. -/
def slotNumber? : Value → Option UInt64
  | str s => if s.isEmpty then some 0 else none
  | bytes octets => if octets.isEmpty then some 0 else none
  | tuple items => (slotNumbers? items).map SlotNumber.ofItems
  | frozenSet items => (slotNumbers? items).map SlotNumber.ofMembers
  | spec check name => do return SlotNumber.ofItems [← slotNumber? check, ← slotNumber? name]
  | range stop =>
    if stop < 2 then none
    else some (SlotNumber.ofItems
      [SlotNumber.ofInt (Residue.ofScaled (.ofInt stop)), 0, 1])
  | v => v.number?.bind SlotNumber.ofNumber?

/-- The numbers of several members, if all are known. -/
def slotNumbers? : List Value → Option (List UInt64)
  | [] => some []
  | v :: vs => do return (← slotNumber? v) :: (← slotNumbers? vs)

end

end Value

/-! ## Tables -/

/-- A table: how many slots it has, and which members stand in which. -/
structure Slots (α : Type) where
  size : Nat
  taken : List (Nat × UInt64 × α)

namespace Slots

variable {α : Type}

/-- A table with eight free slots. -/
def empty : Slots α := ⟨8, []⟩

/-- The slots that are tried together, from one on: ten, where so many follow. -/
def together (size slot : Nat) : List Nat :=
  if slot + 9 < size then (List.range 10).map (slot + ·) else [slot]

/-- The slot for a member: the first free one of those that are tried together, and otherwise of
those at the slot that follows from this one and from the rest of the member's number. -/
def freeSlot (t : Slots α) : Nat → Nat → Nat → Nat
  | 0, slot, _ => slot
  | rounds + 1, slot, rest =>
    match (together t.size slot).find? fun s => !t.taken.any fun e => e.1 = s with
    | some free => free
    | none => freeSlot t rounds ((slot * 5 + 1 + rest / 32) % t.size) (rest / 32)

/-- Puts a member into a table. After thirteen rounds nothing is left of its number, and the slots
come one after another. -/
def place (t : Slots α) (e : UInt64 × α) : Slots α :=
  let n := e.1.toNat
  { t with taken := (t.freeSlot (t.size + 13) (n % t.size) n, e) :: t.taken }

/-- The members in the order of their slots. -/
def inOrder (t : Slots α) : List (UInt64 × α) :=
  (t.taken.mergeSort fun a b => decide (a.1 ≤ b.1)).map Prod.snd

/-- The size of a table for more than some members. -/
def sizeAbove (members : Nat) : Nat := 8 <<< (Nat.log2 (members / 8) + 1)

/-- A table with more slots for the same members. -/
def grown (t : Slots α) : Slots α :=
  t.inOrder.foldl place ⟨sizeAbove (4 * t.taken.length), []⟩

/-- Adds a member, and makes room if the table has become too full. -/
def add (t : Slots α) (e : UInt64 × α) : Slots α :=
  let next := t.place e
  if 5 * next.taken.length < 3 * (next.size - 1) then next else next.grown

/-- Members with their numbers in the order in which a set gives them. -/
def ordered (es : List (UInt64 × α)) : List (UInt64 × α) := (es.foldl add empty).inOrder

theorem inOrder_perm (t : Slots α) : t.inOrder.Perm (t.taken.map Prod.snd) :=
  (List.mergeSort_perm _ _).map _

@[simp] theorem map_taken_place (t : Slots α) (e : UInt64 × α) :
    (t.place e).taken.map Prod.snd = e :: t.taken.map Prod.snd := rfl

theorem foldl_place_perm (es : List (UInt64 × α)) (t : Slots α) :
    ((es.foldl place t).taken.map Prod.snd).Perm (es ++ t.taken.map Prod.snd) := by
  induction es generalizing t with
  | nil => exact List.Perm.refl _
  | cons e es ih =>
    refine (ih (t.place e)).trans ?_
    rw [map_taken_place]
    exact List.perm_middle

theorem add_perm (t : Slots α) (e : UInt64 × α) :
    ((t.add e).taken.map Prod.snd).Perm (e :: t.taken.map Prod.snd) := by
  unfold add
  simp only
  split
  · rw [map_taken_place]
  · refine (foldl_place_perm _ _).trans ?_
    rw [List.map_nil, List.append_nil]
    exact inOrder_perm _

theorem foldl_add_perm (es : List (UInt64 × α)) (t : Slots α) :
    ((es.foldl add t).taken.map Prod.snd).Perm (es ++ t.taken.map Prod.snd) := by
  induction es generalizing t with
  | nil => exact List.Perm.refl _
  | cons e es ih =>
    exact (ih (t.add e)).trans (((add_perm t e).append_left es).trans List.perm_middle)

/-- Members in slots are the members that were put there. -/
theorem ordered_perm (es : List (UInt64 × α)) : (ordered es).Perm es := by
  refine (inOrder_perm _).trans ((foldl_add_perm es empty).trans ?_)
  rw [empty, List.map_nil, List.append_nil]

end Slots

namespace Value

/-- Members that differ as keys, in the order in which a set gives them. -/
def inSlots (members : List Value) : List Value :=
  match slotNumbers? members with
  | some numbers =>
    if numbers.length = members.length then (Slots.ordered (numbers.zip members)).map Prod.snd
    else members
  | none => members

/-- A set's members from values of which some may be equal. -/
def membersOf (vs : List Value) : List Value :=
  inSlots (Layer.keys (Layer.ofEntries (vs.map fun v => (v, ()))))

/-- The order of slots keeps all members. -/
theorem inSlots_perm (members : List Value) : (inSlots members).Perm members := by
  unfold inSlots
  split
  · split
    · rename_i numbers _ hl
      have h := (Slots.ordered_perm (numbers.zip members)).map Prod.snd
      rwa [List.map_snd_zip (Nat.le_of_eq hl.symm)] at h
    · exact List.Perm.refl _
  · exact List.Perm.refl _

end Value

end NamedConditions
