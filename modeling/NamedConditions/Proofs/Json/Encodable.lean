import NamedConditions.Proofs.Json.Written
/-!
Which values have documents. A value with no form of its own in a document is shown there by its
text; but no text helps a key that cannot be the name of a member, nor a whole number that has too
many digits to be written. So it depends on what stands in a value, at any depth, whether it has a
document, and whether every number in the document is finite.

Main statement (`encodes_ofValue`): a value has a document exactly if everything that stands in it
can be written, and then the numbers that stand in the one are those that stand in the other; where
there is no document, that is for an error of a key, of a whole number or of a text.
-/
namespace NamedConditions

namespace Value

/-- A value stands in another one, or is it, where a document shows the one in the other. -/
inductive Holds : Value → Value → Prop
  | self (v : Value) : Holds v v
  | item {vs : List Value} {v w : Value} (hv : v ∈ vs) (h : Holds v w) : Holds (list vs) w
  | place {vs : List Value} {v w : Value} (hv : v ∈ vs) (h : Holds v w) : Holds (tuple vs) w
  | entry {es : List (Value × Value)} {e : Value × Value} {w : Value} (he : e ∈ es)
    (h : Holds e.2 w) : Holds (dict es) w

/-- Whether documents have a form for a value; any other is shown by its text. -/
def hasForm : Value → Bool
  | null | bool _ | int _ | float _ | str _ | brokenStr _ => true
  | object _ (.subText _) => true
  | list _ | tuple _ | dict _ => true
  | _ => false

/-- Whether a key can be the name of a member: a text, a number, a truth value or nothing. -/
def isName (key : Value) : Bool :=
  match key with
  | null | bool _ | float _ | brokenStr _ => true
  | int n => (Whole.text? n).isSome
  | key => key.text?.isSome

/-- A value can be written, as far as it does not depend on what stands in it. -/
def IsWritable : Value → Prop
  | int n => (Whole.text? n).isSome = true
  | dict es => ∀ e ∈ es, e.1.isName = true
  | v => v.hasForm = true ∨ ∃ text, v.asText = .ok text

/-- Everything that stands in a value can be written. -/
def IsEncodable (v : Value) : Prop := ∀ w, v.Holds w → w.IsWritable

/-- What stands in a value and is shown by its text has one. -/
def HasTexts (v : Value) : Prop :=
  ∀ w, v.Holds w → w.hasForm = false → ∃ text, w.asText = .ok text

/-- Every number that stands in a value is finite. -/
def IsFinite (v : Value) : Prop := ∀ x, v.Holds (float x) → x.isFinite = true

/-- Whether a value is an array or an object in documents. -/
def isContainer : Value → Bool
  | list _ | tuple _ | dict _ => true
  | _ => false

/-- What a value has if all that stands in it has it. -/
structure IsInherited (P : Value → Prop) : Prop where
  other (v : Value) : v.isContainer = false → P v
  list (vs : List Value) : (∀ v ∈ vs, P v) → P (.list vs)
  tuple (vs : List Value) : (∀ v ∈ vs, P v) → P (.tuple vs)
  dict (es : List (Value × Value)) : (∀ e ∈ es, P e.2) → P (.dict es)

namespace IsInherited

variable {P : Value → Prop}

mutual

theorem all (h : IsInherited P) : (v : Value) → P v
  | .list vs => h.list vs (h.items vs)
  | .tuple vs => h.tuple vs (h.items vs)
  | .dict es => h.dict es (h.entries es)
  | .null | .bool _ | .int _ | .float _ | .complex .. | .str _ | .brokenStr _ | .bytes _
  | .byteArray _ | .set _ | .frozenSet _ | .range _ | .spec .. | .object .. | .evaluator .. =>
    h.other _ rfl

theorem items (h : IsInherited P) : (vs : List Value) → ∀ v ∈ vs, P v
  | [] => nofun
  | v :: vs => List.forall_mem_cons.2 ⟨h.all v, h.items vs⟩

theorem entries (h : IsInherited P) : (es : List (Value × Value)) → ∀ e ∈ es, P e.2
  | [] => nofun
  | (_, v) :: es => List.forall_mem_cons.2 ⟨h.all v, h.entries es⟩

end

end IsInherited

/-- Values by what stands in them. -/
theorem induct_held {P : Value → Prop} (other : ∀ v, v.isContainer = false → P v)
    (list : ∀ vs, (∀ v ∈ vs, P v) → P (.list vs)) (tuple : ∀ vs, (∀ v ∈ vs, P v) → P (.tuple vs))
    (dict : ∀ es, (∀ e ∈ es, P e.2) → P (.dict es)) (v : Value) : P v :=
  IsInherited.all ⟨other, list, tuple, dict⟩ v

variable {v : Value} {vs : List Value} {es : List (Value × Value)}

/-! ## What can be written -/

theorem holds_iff_eq (h : v.isContainer = false) {w : Value} : v.Holds w ↔ w = v := by
  refine ⟨fun hw => ?_, fun hw => hw ▸ .self v⟩
  cases hw with
  | self => rfl
  | item | place | entry => cases h

theorem isEncodable_iff_of_isContainer (h : v.isContainer = false) :
    v.IsEncodable ↔ v.IsWritable := by
  refine ⟨fun hv => hv v (.self v), fun hv w hw => ?_⟩
  rw [(holds_iff_eq h).1 hw]
  exact hv

theorem isEncodable_list_iff : (list vs).IsEncodable ↔ ∀ v ∈ vs, v.IsEncodable := by
  refine ⟨fun h v hv w hw => h w (.item hv hw), fun h w hw => ?_⟩
  cases hw with
  | self => exact .inl rfl
  | item hv hw => exact h _ hv w hw

theorem isEncodable_tuple_iff : (tuple vs).IsEncodable ↔ ∀ v ∈ vs, v.IsEncodable := by
  refine ⟨fun h v hv w hw => h w (.place hv hw), fun h w hw => ?_⟩
  cases hw with
  | self => exact .inl rfl
  | place hv hw => exact h _ hv w hw

theorem isEncodable_dict_iff : (dict es).IsEncodable ↔
    ∀ e ∈ es, e.1.isName = true ∧ e.2.IsEncodable := by
  refine ⟨fun h e he => ⟨h _ (.self _) e he, fun w hw => h w (.entry he hw)⟩, fun h w hw => ?_⟩
  cases hw with
  | self => exact fun e he => (h e he).1
  | entry he hw => exact (h _ he).2 w hw

/-- If nothing lacks a text, it depends on the keys and the whole numbers alone. -/
theorem isEncodable_iff_of_hasTexts (h : v.HasTexts) : v.IsEncodable ↔
    (∀ n, v.Holds (int n) → (Whole.text? n).isSome = true) ∧
      ∀ es, v.Holds (dict es) → ∀ e ∈ es, e.1.isName = true := by
  refine ⟨fun hv => ⟨fun n hn => hv _ hn, fun es hes => hv _ hes⟩, fun ⟨hn, hes⟩ w hw => ?_⟩
  have hother (hs : w.IsWritable = (w.hasForm = true ∨ ∃ text, w.asText = .ok text)) :
      w.IsWritable := by
    rw [hs]
    cases hform : w.hasForm with
    | true => exact .inl rfl
    | false => exact .inr (h w hw hform)
  cases w with
  | int n => exact hn n hw
  | dict es => exact hes es hw
  | _ => exact hother rfl

theorem holds_list_iff {u : Value} (hu : u.isContainer = false) :
    (list vs).Holds u ↔ ∃ v ∈ vs, v.Holds u := by
  refine ⟨fun h => ?_, fun ⟨v, hv, h⟩ => .item hv h⟩
  cases h with
  | self => cases hu
  | item hv h => exact ⟨_, hv, h⟩

theorem holds_tuple_iff {u : Value} (hu : u.isContainer = false) :
    (tuple vs).Holds u ↔ ∃ v ∈ vs, v.Holds u := by
  refine ⟨fun h => ?_, fun ⟨v, hv, h⟩ => .place hv h⟩
  cases h with
  | self => cases hu
  | place hv h => exact ⟨_, hv, h⟩

theorem holds_dict_iff {u : Value} (hu : u.isContainer = false) :
    (dict es).Holds u ↔ ∃ e ∈ es, e.2.Holds u := by
  refine ⟨fun h => ?_, fun ⟨e, he, h⟩ => .entry he h⟩
  cases h with
  | self => cases hu
  | entry he h => exact ⟨_, he, h⟩

theorem isContainer_of_hasForm (h : v.hasForm = false) : v.isContainer = false := by
  cases v with
  | list | tuple | dict => cases h
  | _ => rfl

end Value

namespace Json.Document

open Value

variable {v : Value} {vs : List Value} {es : List (Value × Value)} {error : Raised} {d : Document}

/-! ## Documents of values -/

/-- An error for a key or a number that cannot be written, or for a text that a value in another
one has not. -/
def IsEncodingError (v : Value) (error : Raised) : Prop :=
  error.kind = .badType ∨ error.kind = .badValue ∨ ∃ w, v.Holds w ∧ w.hasForm = false ∧
    w.asText = .error error

/-- How making a document for a value ends. -/
inductive Encodes (v : Value) : Except Raised Document → Prop
  | ok {d : Document} (h : v.IsEncodable)
    (hd : ∀ x, d.Holds (.float x) ↔ v.Holds (.float x)) : Encodes v (.ok d)
  | error {error : Raised} (h : ¬ v.IsEncodable) (he : IsEncodingError v error) :
    Encodes v (.error error)

/-- No binary number stands in what has no items and no members. -/
theorem not_holds_leaf (x : Binary64) : ¬ Document.null.Holds (.float x) ∧
    (∀ b, ¬ (Document.bool b).Holds (.float x)) ∧ (∀ n, ¬ (Document.int n).Holds (.float x)) ∧
      ∀ codes, ¬ (Document.str codes).Holds (.float x) := by
  refine ⟨fun h => ?_, fun b h => ?_, fun n h => ?_, fun codes h => ?_⟩ <;> cases h

theorem wholeText_cases (n : Int) :
    (∃ s, wholeText n = .ok s ∧ (Whole.text? n).isSome = true) ∨
      ∃ error, wholeText n = .error error ∧ (Whole.text? n).isSome = false ∧
        error.kind = .badValue := by
  rw [wholeText]
  cases Whole.text? n with
  | none => exact .inr ⟨_, rfl, rfl, rfl⟩
  | some s => exact .inl ⟨s, rfl, rfl⟩

/-- Keys that can be names are the ones that have one; others are refused. -/
theorem memberName_cases (key : Value) :
    (∃ name, memberName key = .ok name ∧ key.isName = true) ∨
      ∃ error, memberName key = .error error ∧ key.isName = false ∧
        (error.kind = .badType ∨ error.kind = .badValue) := by
  have hother (h : memberName key = key.text?.elim (.error (.ofText .badType
        ("keys must be str, int, float, bool or None, not " ++ key.typeName)))
        fun s => .ok (.ofString s))
      (hn : key.isName = key.text?.isSome) :
      (∃ name, memberName key = .ok name ∧ key.isName = true) ∨
        ∃ error, memberName key = .error error ∧ key.isName = false ∧
          (error.kind = .badType ∨ error.kind = .badValue) := by
    rw [h, hn]
    cases key.text? with
    | some s => exact .inl ⟨_, rfl, rfl⟩
    | none => exact .inr ⟨_, rfl, rfl, .inl rfl⟩
  cases key with
  | null | bool _ | float _ | brokenStr _ => exact .inl ⟨_, rfl, rfl⟩
  | int n =>
    rcases wholeText_cases n with ⟨s, hs, hsome⟩ | ⟨error, he, hnone, hkind⟩
    · exact .inl ⟨.ofString s, by rw [memberName, hs]; rfl, hsome⟩
    · exact .inr ⟨error, by rw [memberName, he]; rfl, hnone, .inr hkind⟩
  | _ =>
    refine hother ?_ rfl
    unfold memberName
    dsimp only
    generalize Value.text? _ = text
    cases text <;> rfl

/-- What is shown by its text has a document if it has a text. -/
theorem encodes_of_asText (h : v.isContainer = false) (hform : v.hasForm = false)
    (hw : v.IsWritable ↔ v.hasForm = true ∨ ∃ text, v.asText = .ok text)
    (hv : ofValue v = v.asText.map text) : Encodes v (ofValue v) := by
  rw [← isEncodable_iff_of_isContainer h, hform] at hw
  rw [hv]
  cases ht : v.asText with
  | ok s =>
    refine .ok (hw.2 (.inr ⟨s, ht⟩)) fun x => iff_of_false ((not_holds_leaf x).2.2.2 _) fun hx => ?_
    rw [← (holds_iff_eq h).1 hx] at hform
    cases hform
  | error error =>
    refine .error (fun he => ?_) (.inr (.inr ⟨v, .self v, hform, ht⟩))
    rcases hw.1 he with hf | ⟨s, hs⟩
    · cases hf
    · rw [ht] at hs
      cases hs

/-- A value in which no others stand has a document if it has a form or a text. -/
theorem encodes_of_not_isContainer (h : v.isContainer = false) : Encodes v (ofValue v) := by
  have hok (d : Document) (hv : ofValue v = .ok d) (hw : v.IsWritable)
      (hd : ∀ x, d.Holds (.float x) ↔ Value.float x = v) : Encodes v (ofValue v) := by
    rw [hv]
    exact .ok ((isEncodable_iff_of_isContainer h).2 hw) fun x => by rw [hd, holds_iff_eq h]
  cases v with
  | list | tuple | dict => cases h
  | null => exact hok .null rfl (.inl rfl) (by simp [not_holds_leaf])
  | bool b => exact hok (.bool b) rfl (.inl rfl) (by simp [not_holds_leaf])
  | str s => exact hok (.str (.ofString s)) rfl (.inl rfl) (by simp [not_holds_leaf])
  | brokenStr codes => exact hok (.str codes) rfl (.inl rfl) (by simp [not_holds_leaf])
  | float y =>
    refine hok (.float y) rfl (.inl rfl) fun x => ⟨fun hx => ?_, fun hx => ?_⟩
    · cases hx
      rfl
    · cases hx
      exact .self _
  | int n =>
    rcases wholeText_cases n with ⟨s, hs, hsome⟩ | ⟨error, he, hnone, hkind⟩
    · exact hok (.int n) (ofValue_int hs) hsome (by simp [not_holds_leaf])
    · rw [ofValue, he]
      refine .error (fun hn => ?_) (.inr (.inl hkind))
      have hwrite := (isEncodable_iff_of_isContainer h).1 hn
      rw [IsWritable, hnone] at hwrite
      cases hwrite
  | object id o =>
    cases o with
    | subText s => exact hok (.str (.ofString s)) rfl (.inl rfl) (by simp [not_holds_leaf])
    | _ => exact encodes_of_asText h rfl Iff.rfl rfl
  | _ => exact encodes_of_asText h rfl Iff.rfl rfl

/-! ## Arrays and objects -/

theorem holds_array_float_iff (items : List Document) (x : Binary64) :
    (array items).Holds (.float x) ↔ ∃ d ∈ items, d.Holds (.float x) := by
  refine ⟨fun h => ?_, fun ⟨d, hd, h⟩ => .item hd h⟩
  cases h with
  | item hd h => exact ⟨_, hd, h⟩

theorem holds_object_float_iff (members : List (CodePoints × Document)) (x : Binary64) :
    (object members).Holds (.float x) ↔ ∃ m ∈ members, m.2.Holds (.float x) := by
  refine ⟨fun h => ?_, fun ⟨m, hm, h⟩ => .member hm h⟩
  cases h with
  | member hm h => exact ⟨_, hm, h⟩

theorem IsEncodingError.mono (h : IsEncodingError v error) {w : Value}
    (hw : ∀ u, u.isContainer = false → v.Holds u → w.Holds u) : IsEncodingError w error := by
  rcases h with h | h | ⟨u, hu, hform, htext⟩
  · exact .inl h
  · exact .inr (.inl h)
  · exact .inr (.inr ⟨u, hw u (isContainer_of_hasForm hform) hu, hform, htext⟩)

/-- Documents in which the same numbers stand are made for the same values. -/
theorem Encodes.congr_ok (h : Encodes v (.ok d)) {d' : Document}
    (hd : ∀ x, d'.Holds (.float x) ↔ d.Holds (.float x)) : Encodes v (.ok d') := by
  cases h with
  | ok hv hx => exact .ok hv fun x => (hd x).trans (hx x)

theorem encodes_nil : Encodes (list []) (.ok (array [])) := by
  refine .ok (isEncodable_list_iff.2 nofun) fun x => ?_
  rw [holds_array_float_iff, holds_list_iff rfl]
  exact iff_of_false nofun nofun

/-- The document for a first value, and those for more of them. -/
theorem Encodes.cons {first : Except Raised Document} {others : Except Raised (List Document)}
    (h : Encodes v first) (hs : Encodes (list vs) (others.map array)) :
    Encodes (list (v :: vs)) ((first.bind fun d => others.map (d :: ·)).map array) := by
  have hall : (list (v :: vs)).IsEncodable ↔ v.IsEncodable ∧ (list vs).IsEncodable := by
    rw [isEncodable_list_iff, isEncodable_list_iff, List.forall_mem_cons]
  have hheld {u : Value} (hu : u.isContainer = false) :
      (list (v :: vs)).Holds u ↔ v.Holds u ∨ (list vs).Holds u := by
    rw [holds_list_iff hu, holds_list_iff hu, List.exists_mem_cons_iff]
  cases h with
  | error hv he =>
    exact .error (fun h => hv (hall.1 h).1) (he.mono fun u hu h => (hheld hu).2 (.inl h))
  | @ok d hv hd =>
    cases others with
    | error error =>
      cases hs with
      | error hvs he =>
        exact .error (fun h => hvs (hall.1 h).2) (he.mono fun u hu h => (hheld hu).2 (.inr h))
    | ok ds =>
      cases hs with
      | ok hvs hds =>
        refine .ok (hall.2 ⟨hv, hvs⟩) fun x => ?_
        rw [hheld rfl, ← hd, ← hds, holds_array_float_iff, holds_array_float_iff,
          List.exists_mem_cons_iff]

/-- The member for a first entry, and those for more of them. -/
theorem Encodes.consEntry (key : Value) {first : Except Raised Document}
    {others : Except Raised (List (CodePoints × Document))} (h : Encodes v first)
    (hs : Encodes (dict es) (others.map object)) :
    Encodes (dict ((key, v) :: es)) (((memberName key).bind fun name =>
      first.bind fun d => others.map ((name, d) :: ·)).map object) := by
  have hall : (dict ((key, v) :: es)).IsEncodable ↔
      (key.isName = true ∧ v.IsEncodable) ∧ (dict es).IsEncodable := by
    rw [isEncodable_dict_iff, isEncodable_dict_iff, List.forall_mem_cons]
  have hheld {u : Value} (hu : u.isContainer = false) :
      (dict ((key, v) :: es)).Holds u ↔ v.Holds u ∨ (dict es).Holds u := by
    rw [holds_dict_iff hu, holds_dict_iff hu, List.exists_mem_cons_iff]
  rcases memberName_cases key with ⟨name, hname, hkey⟩ | ⟨error, hname, hkey, hkind⟩
  · rw [hname]
    cases h with
    | error hv he =>
      exact .error (fun h => hv (hall.1 h).1.2) (he.mono fun u hu h => (hheld hu).2 (.inl h))
    | @ok d hv hd =>
      cases others with
      | error error =>
        cases hs with
        | error hes he =>
          exact .error (fun h => hes (hall.1 h).2) (he.mono fun u hu h => (hheld hu).2 (.inr h))
      | ok ms =>
        cases hs with
        | ok hes hms =>
          refine .ok (hall.2 ⟨⟨hkey, hv⟩, hes⟩) fun x => ?_
          rw [hheld rfl, ← hd, ← hms, holds_object_float_iff, holds_object_float_iff,
            List.exists_mem_cons_iff]
  · rw [hname]
    refine .error (fun h => ?_) (hkind.elim .inl fun h => .inr (.inl h))
    rw [(hall.1 h).1.1] at hkey
    cases hkey

theorem encodes_ofValues (h : ∀ v ∈ vs, Encodes v (ofValue v)) :
    Encodes (list vs) ((ofValues vs).map array) := by
  induction vs with
  | nil =>
    rw [ofValues]
    exact encodes_nil
  | cons v vs ih =>
    obtain ⟨hv, hvs⟩ := List.forall_mem_cons.1 h
    have hcons := hv.cons (ih hvs)
    rw [ofValues]
    cases he : ofValue v <;> rw [he] at hcons <;> exact hcons

theorem encodes_ofEntries (h : ∀ e ∈ es, Encodes e.2 (ofValue e.2)) :
    Encodes (dict es) ((ofEntries es).map object) := by
  induction es with
  | nil =>
    rw [ofEntries]
    refine .ok (isEncodable_dict_iff.2 nofun) fun x => ?_
    rw [holds_object_float_iff, holds_dict_iff rfl]
    exact iff_of_false nofun nofun
  | cons e es ih =>
    obtain ⟨hv, hes⟩ := List.forall_mem_cons.1 h
    have hcons := hv.consEntry e.1 (ih hes)
    rw [ofEntries]
    cases hn : memberName e.1 <;> cases he : ofValue e.2 <;> rw [hn, he] at hcons <;> exact hcons

/-- How making a document for a value ends. -/
theorem encodes_ofValue (v : Value) : Encodes v (ofValue v) := by
  induction v using induct_held with
  | other v h => exact encodes_of_not_isContainer h
  | list vs ih =>
    rw [ofValue]
    exact encodes_ofValues ih
  | dict es ih =>
    rw [ofValue]
    exact encodes_ofEntries ih
  | tuple vs ih =>
    have hheld {u : Value} (hu : u.isContainer = false) :
        (tuple vs).Holds u ↔ (list vs).Holds u := by
      rw [holds_tuple_iff hu, holds_list_iff hu]
    have hall : (tuple vs).IsEncodable ↔ (list vs).IsEncodable := by
      rw [isEncodable_tuple_iff, isEncodable_list_iff]
    have hlist := encodes_ofValues ih
    rw [ofValue]
    generalize (ofValues vs).map array = ended at hlist ⊢
    cases hlist with
    | ok h hd => exact .ok (hall.2 h) fun x => (hd x).trans (hheld rfl).symm
    | error h he => exact .error (fun hv => h (hall.1 hv)) (he.mono fun u hu => (hheld hu).2)

theorem isEncodable_of_ofValue (h : ofValue v = .ok d) : v.IsEncodable := by
  have he := encodes_ofValue v
  rw [h] at he
  cases he with
  | ok hv _ => exact hv

end Json.Document

end NamedConditions
