import NamedConditions.Value.Item
/-!
The store of shared values, and contexts, which may hold such values in common. A context is a layer
of slots: a slot is a value, or a cell of the store by its number, so that what is written into a
dictionary or a list through one context is seen through all.

Main statements: what a cell holds after one is allocated or written, and that neither disturbs
another.
-/
namespace NamedConditions

/-- The values that contexts share, by number. -/
structure Store where
  cells : List Value

/-- What a context holds under a key. -/
inductive Slot
  | plain (v : Value)
  | shared (number : Nat)

namespace Value

/-- Whether two values that were made apart are one and the same. That are objects with the same
identity, functions of the host, and values of which only one is kept: absence, the truth values,
whole numbers from -5 to 256, the empty tuple, and texts and octet strings of at most one element,
a character standing before U+0100. -/
def isOne (a b : Value) : Bool :=
  match a, b with
  | null, null => true
  | bool x, bool y => x = y
  | int m, int n => m = n && -5 ≤ m && m ≤ 256
  | str s, str t => s = t && s.length ≤ 1 && s.toList.all fun c => c.toNat < 0x100
  | bytes os, bytes os' => os = os' && os.length ≤ 1
  | tuple [], tuple [] => true
  | object _ (.native f), object _ (.native g) => f = g
  | object i _, object j _ => i = j
  | _, _ => false

end Value

/-- Whether two slots that were filled apart hold the very same thing. -/
def Slot.isSame : Slot → Slot → Bool
  | shared a, shared b => a = b
  | plain a, plain b => a.isOne b
  | _, _ => false

/-- A context: slots under keys. -/
abbrev Context := Layer Slot

namespace Store

/-- The store with no cell. -/
def empty : Store := ⟨[]⟩

/-- What a cell holds. -/
def content (s : Store) (number : Nat) : Value := s.cells.getD number .null

/-- Adds a cell and gives its number. -/
def allocate (s : Store) (v : Value) : Nat × Store := (s.cells.length, ⟨s.cells ++ [v]⟩)

/-- Changes what a cell holds. -/
def replace (s : Store) (number : Nat) (v : Value) : Store := ⟨s.cells.set number v⟩

/-- Writes an item of what a cell holds. -/
def write (s : Store) (number : Nat) (key v : Value) : Except Raised Store :=
  (Value.withItem key v (s.content number)).map (s.replace number)

/-- What a slot stands for at the moment. -/
def value (s : Store) : Slot → Value
  | .plain v => v
  | .shared number => s.content number

/-- A context's values at the moment. -/
def values (s : Store) (c : Context) : Entries := Layer.mapStored s.value c

/-- A slot for a value: what can change gets a cell. -/
def slot (s : Store) (v : Value) : Slot × Store :=
  if v.isChangeable then
    let (number, s) := s.allocate v
    (.shared number, s)
  else (.plain v, s)

/-- A context with a new slot for every entry. -/
def context (s : Store) : Entries → Context × Store
  | [] => ([], s)
  | (key, v) :: es =>
    let (slot, s) := s.slot v
    let (c, s) := s.context es
    ((key, slot) :: c, s)

/-! ## What cells hold -/

theorem content_allocate_self (s : Store) (v : Value) :
    (s.allocate v).2.content (s.allocate v).1 = v := by
  simp [allocate, content, List.getD]

theorem content_allocate_of_lt {s : Store} {number : Nat} (h : number < s.cells.length)
    (v : Value) : (s.allocate v).2.content number = s.content number := by
  simp [allocate, content, List.getD, List.getElem?_append_left h]

/-- A new slot stands for the value that it was made for. -/
theorem value_slot_self (s : Store) (v : Value) : (s.slot v).2.value (s.slot v).1 = v := by
  unfold slot
  split
  · exact content_allocate_self s v
  · rfl

theorem content_replace_self {s : Store} {number : Nat} (h : number < s.cells.length)
    (v : Value) : (s.replace number v).content number = v := by
  simp [replace, content, List.getD, h]

theorem content_replace_of_ne {s : Store} {number other : Nat} (h : other ≠ number) (v : Value) :
    (s.replace number v).content other = s.content other := by
  simp [replace, content, List.getD, h.symm]

/-- A write changes no other cell. -/
theorem content_of_write_of_ne {s t : Store} {number other : Nat} {key v : Value}
    (hw : s.write number key v = .ok t) (h : other ≠ number) :
    t.content other = s.content other := by
  unfold write at hw
  cases hi : Value.withItem key v (s.content number) with
  | error e =>
    rw [hi] at hw
    cases hw
  | ok w =>
    rw [hi] at hw
    cases hw
    exact content_replace_of_ne h w

end Store

end NamedConditions
