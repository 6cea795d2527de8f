import NamedConditions.Value.Layer
/-!
Texts as keys. A key goes by a text exactly if it is a text, of whatever class, and only an equal
text finds it again; so a layer of texts under texts is looked up like a list of pairs of texts.

Main statements: which keys go by a text (`key?_eq_text_iff`), and what entries of texts hold under
a key (`find?_ofTexts`).
-/
namespace NamedConditions

namespace Value

theorem numberKey_ne_text (marks : List Nat) (x : Number) (s : String) :
    numberKey marks x ≠ .text s := by
  unfold numberKey
  split <;> simp

theorem keys?_ne_text (vs : List Value) (s : String) : keys? vs ≠ some (.text s) := by
  cases vs with
  | nil => simp [keys?]
  | cons v vs =>
    rw [keys?]
    split <;> simp

/-- The keys that go by a text are the texts. -/
theorem key?_eq_text_iff (v : Value) (s : String) :
    v.key? = some (.text s) ↔ v.text? = some s := by
  cases v with
  | object id o =>
    cases o with
    | decimal d =>
      unfold key?
      split <;> simp_all [text?, numberKey_ne_text]
    | _ => simp [key?, text?, numberKey_ne_text]
  | tuple items => simp [key?, text?, keys?_ne_text]
  | spec check name =>
    unfold key?
    split <;> simp [text?]
  | _ => simp [key?, text?, numberKey_ne_text]

theorem sameKey_str_iff (s : String) (v : Value) :
    (str s).sameKey v = true ↔ v.text? = some s := by
  rw [← key?_eq_text_iff, sameKey, key?_str]
  simp [eq_comm]

end Value

namespace Layer

/-- The entries of texts under texts. -/
def ofTexts (xs : List (String × String)) : Entries := xs.map fun x => (.str x.1, .str x.2)

/-- Entries of texts hold under a text what is first under it, and under other keys nothing. -/
theorem find?_ofTexts (xs : List (String × String)) (key : Value) :
    find? (ofTexts xs) key = (key.text?.bind fun k => xs.lookup k).map .str := by
  induction xs with
  | nil => cases key.text? <;> rfl
  | cons x xs ih =>
    obtain ⟨name, text⟩ := x
    have hname : (Value.str name).sameKey key = true ↔ key.text? = some name :=
      Value.sameKey_str_iff name key
    rw [ofTexts, List.map_cons, find?_cons, ← ofTexts, ih]
    cases hk : key.text? with
    | none => exact if_neg fun h => absurd (hname.1 h) (by rw [hk]; exact nofun)
    | some k =>
      rw [hk, Option.some.injEq] at hname
      rw [Option.bind_some, Option.bind_some, List.lookup_cons]
      by_cases he : k = name
      · rw [if_pos (hname.2 he), beq_iff_eq.2 he]
        rfl
      · rw [if_neg fun h => he (hname.1 h), beq_false_of_ne he]

end Layer

end NamedConditions
