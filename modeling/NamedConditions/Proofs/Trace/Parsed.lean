import NamedConditions.Proofs.Context.Overlay
import NamedConditions.Proofs.Text.Stripped
import NamedConditions.Proofs.Value.TextKey
import NamedConditions.Trace.Resource
/-!
What a text of resource attributes says. A text is read piece by piece, so that texts with commas
between them say what they say one after another; a piece says a pair of a name and a value, around
its first equals sign, or nothing. The names and values that come out are plain: they hold none of
the signs that set them apart, and no blanks at their ends. And every list of plain pairs can be
written, with blanks around names and values, and among other pieces.

Main statement (`parse_of_pieces`): reading takes joined texts to merged dictionaries, gives plain
names and values only, and takes what is written for plain pairs to the dictionary of these.
-/
namespace NamedConditions.Resource

open Text

/-- The pairs that a text gives, one after another, as texts. -/
def pairs (raw : String) : List (String × String) :=
  (attributes raw.toList).map fun a => (String.ofList a.1, String.ofList a.2)

/-- A pair of a name and a value that can be written as an attribute as it is. -/
structure IsPlain (x : String × String) : Prop where
  name : IsStripped x.1.toList
  value : IsStripped x.2.toList
  comma_name : ',' ∉ x.1.toList
  comma_value : ',' ∉ x.2.toList
  equals_name : '=' ∉ x.1.toList

/-- Pieces that are written for pairs: for each pair, in order, its name and its value with an
equals sign between them and blanks around both, and anywhere pieces without an equals sign. -/
inductive Writes : List String → List (String × String) → Prop
  | nil : Writes [] []
  | pair {name value : String} {x : String × String} {pieces : List String}
    {xs : List (String × String)} (hn : Pads name.toList x.1.toList)
    (hv : Pads value.toList x.2.toList) (h : Writes pieces xs) :
    Writes ((name ++ "=" ++ value) :: pieces) (x :: xs)
  | idle {piece : String} {pieces : List String} {xs : List (String × String)}
    (hc : ',' ∉ piece.toList) (he : '=' ∉ piece.toList) (h : Writes pieces xs) :
    Writes (piece :: pieces) xs

variable {raw piece : String} {x : String × String} {xs : List (String × String)}

theorem isPlain_iff (x : String × String) :
    IsPlain x ↔ Text.strip x.1.toList = x.1.toList ∧ Text.strip x.2.toList = x.2.toList ∧
      ',' ∉ x.1.toList ∧ ',' ∉ x.2.toList ∧ '=' ∉ x.1.toList := by
  rw [strip_eq_self_iff, strip_eq_self_iff]
  exact ⟨fun h => ⟨h.1, h.2, h.3, h.4, h.5⟩, fun ⟨hn, hv, hc, hd, he⟩ => ⟨hn, hv, hc, hd, he⟩⟩

/-! ## Pairs of a text -/

/-- The dictionary of a text is that of its pairs, the last of a name counting. -/
theorem parse_eq_overlay (raw : String) :
    parse raw = Layer.overlay (Layer.ofTexts (pairs raw)) := by
  rw [parse, Layer.ofEntries_eq_overlay, Layer.ofTexts, pairs, List.map_map]
  rfl

theorem pairs_append_comma (a b : String) : pairs (a ++ "," ++ b) = pairs a ++ pairs b := by
  have hjoined : (a ++ "," ++ b).toList = a.toList ++ ',' :: b.toList := by simp
  rw [pairs, hjoined, attributes_append_comma, List.map_append]
  rfl

/-- Texts joined by commas give what they give one after another. -/
theorem pairs_intercalate (pieces : List String) :
    pairs (",".intercalate pieces) = pieces.flatMap pairs := by
  induction pieces with
  | nil => rfl
  | cons piece pieces ih =>
    cases pieces with
    | nil => rw [String.intercalate_singleton, List.flatMap_singleton]
    | cons next pieces =>
      rw [String.intercalate_cons_cons, pairs_append_comma, ih]
      rfl

theorem ofTexts_append (xs ys : List (String × String)) :
    Layer.ofTexts (xs ++ ys) = Layer.ofTexts xs ++ Layer.ofTexts ys := List.map_append

/-- Reading two texts with a comma between them is reading one and then the other. -/
theorem parse_append_comma (a b : String) :
    parse (a ++ "," ++ b) = Layer.merge (parse a) (parse b) := by
  rw [parse_eq_overlay, parse_eq_overlay, parse_eq_overlay, Layer.merge_overlay_right,
    Layer.merge_overlay, pairs_append_comma, ofTexts_append]

/-! ## What comes out -/

/-- Where a name and a value come from that a text gives: a piece between commas, cut at its first
equals sign. -/
theorem isPlain_of_mem_pairs (h : x ∈ pairs raw) : IsPlain x := by
  obtain ⟨a, ha, rfl⟩ := List.mem_map.1 h
  obtain ⟨piece, hpiece, hgiven⟩ := List.mem_filterMap.1 ha
  obtain ⟨⟨name, value⟩, hcut, rfl⟩ := Option.map_eq_some_iff.1 hgiven
  obtain ⟨rfl, hequals⟩ := eq_append_of_cut? hcut
  have hcomma := not_mem_of_mem_pieces hpiece
  rw [List.mem_append, List.mem_cons, not_or, not_or] at hcomma
  obtain ⟨hname, -, hvalue⟩ := hcomma
  constructor <;> dsimp only <;> rw [String.toList_ofList]
  · exact isStripped_strip name
  · exact isStripped_strip value
  · exact fun hm => hname (mem_of_mem_strip hm)
  · exact fun hm => hvalue (mem_of_mem_strip hm)
  · exact fun hm => hequals (mem_of_mem_strip hm)

/-! ## What is written -/

/-- A piece without a comma gives what its one attribute is. -/
theorem pairs_of_not_mem (h : ',' ∉ piece.toList) :
    pairs piece = (attribute? piece.toList).toList.map
      fun a => (String.ofList a.1, String.ofList a.2) := by
  rw [pairs, attributes, pieces_of_not_mem h]
  cases hp : attribute? piece.toList <;> simp [hp]

theorem not_mem_of_pads {padded s : List Char} {c : Char} (h : Pads padded s)
    (hb : isBlank c = false) (hs : c ∉ s) : c ∉ padded := by
  obtain ⟨before, after, hbefore, hafter, rfl⟩ := h
  have hnot {t : List Char} (ht : AreBlank t) : c ∉ t := fun hm => by
    rw [ht c hm] at hb
    cases hb
  simp [hnot hbefore, hnot hafter, hs]

/-- What is written for a plain pair gives the pair. -/
theorem pairs_of_pads {name value : String} (hx : IsPlain x) (hn : Pads name.toList x.1.toList)
    (hv : Pads value.toList x.2.toList) : pairs (name ++ "=" ++ value) = [x] := by
  have hpiece : (name ++ "=" ++ value).toList = name.toList ++ '=' :: value.toList := by simp
  have hcomma : ',' ∉ (name ++ "=" ++ value).toList := by
    rw [hpiece]
    simp [not_mem_of_pads hn rfl hx.comma_name, not_mem_of_pads hv rfl hx.comma_value]
  rw [pairs_of_not_mem hcomma, hpiece, attribute?_append (not_mem_of_pads hn rfl hx.equals_name),
    strip_of_pads hn hx.name, strip_of_pads hv hx.value]
  simp

/-- The pieces that are written for plain pairs give these. -/
theorem pairs_of_writes {pieces : List String} (h : Writes pieces xs) (hx : ∀ x ∈ xs, IsPlain x) :
    pieces.flatMap pairs = xs := by
  induction h with
  | nil => rfl
  | pair hn hv _ ih =>
    rw [List.flatMap_cons, ih fun y hy => hx y (List.mem_cons_of_mem _ hy),
      pairs_of_pads (hx _ List.mem_cons_self) hn hv]
    rfl
  | idle hc he _ ih =>
    rw [List.flatMap_cons, ih hx, pairs_of_not_mem hc, attribute?_of_not_mem he]
    rfl

/-- Reading takes two texts with a comma between them to the dictionary of the first, into which
that of the second is merged. All names and values that come out are plain. What is written for
plain pairs comes out as their dictionary: every name where it first stood, with its last value. -/
theorem parse_of_pieces :
    (∀ a b : String, parse (a ++ "," ++ b) = Layer.merge (parse a) (parse b)) ∧
    (∀ (raw : String), ∀ e ∈ parse raw, ∃ x, IsPlain x ∧ e = (.str x.1, .str x.2)) ∧
    ∀ pieces xs, Writes pieces xs → (∀ x ∈ xs, IsPlain x) →
      parse (",".intercalate pieces) = Layer.overlay (Layer.ofTexts xs) := by
  refine ⟨parse_append_comma, fun raw e he => ?_, fun pieces xs hw hx => ?_⟩
  · rw [parse_eq_overlay] at he
    obtain ⟨⟨a, ha, hname⟩, b, hb, hvalue⟩ := Layer.exists_of_mem_overlay he
    obtain ⟨x, hx, rfl⟩ := List.mem_map.1 ha
    obtain ⟨y, hy, rfl⟩ := List.mem_map.1 hb
    have hplain := isPlain_of_mem_pairs hx
    have hother := isPlain_of_mem_pairs hy
    exact ⟨(x.1, y.2), ⟨hplain.name, hother.value, hplain.comma_name, hother.comma_value,
      hplain.equals_name⟩, Prod.ext hname.symm hvalue.symm⟩
  · rw [parse_eq_overlay, pairs_intercalate, pairs_of_writes hw hx]

/-- A name that comes twice keeps its place and has its last value, and a value may hold equals
signs. -/
theorem parse_of_pieces_repeated :
    Writes [" a =1", "idle", "b=x=y", "a=\t2"] [("a", "1"), ("b", "x=y"), ("a", "2")] ∧
    parse (",".intercalate [" a =1", "idle", "b=x=y", "a=\t2"]) =
      [(.str "a", .str "2"), (.str "b", .str "x=y")] := by
  have hblank : AreBlank [' '] := List.forall_mem_singleton.2 rfl
  have htab : AreBlank ['\t'] := List.forall_mem_singleton.2 rfl
  have hself (s : List Char) : Pads s s := ⟨[], [], nofun, nofun, (List.append_nil s).symm⟩
  have hlast : Writes ["a=\t2"] [("a", "2")] :=
    @Writes.pair "a" "\t2" ("a", "2") [] [] (hself _) ⟨['\t'], [], htab, nofun, rfl⟩ .nil
  have hbehind : Writes ["b=x=y", "a=\t2"] [("b", "x=y"), ("a", "2")] :=
    @Writes.pair "b" "x=y" ("b", "x=y") _ _ (hself _) (hself _) hlast
  have hw : Writes [" a =1", "idle", "b=x=y", "a=\t2"] [("a", "1"), ("b", "x=y"), ("a", "2")] :=
    @Writes.pair " a " "1" ("a", "1") _ _ ⟨[' '], [' '], hblank, hblank, rfl⟩ (hself _)
      (.idle (by decide) (by decide) hbehind)
  have hplain : ∀ x ∈ [("a", "1"), ("b", "x=y"), ("a", "2")], IsPlain x := by
    simp only [isPlain_iff]
    decide
  obtain ⟨-, -, hwritten⟩ := parse_of_pieces
  exact ⟨hw, (hwritten _ _ hw hplain).trans rfl⟩

end NamedConditions.Resource
