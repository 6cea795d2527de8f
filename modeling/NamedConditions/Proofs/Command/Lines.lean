import NamedConditions.Proofs.Command.Modes
import NamedConditions.Proofs.Trace.Reported
/-!
The lines that are written about conditions. Names and errors are escaped and spliced into markup of
three shapes: a match, an entry of a condition that failed or holds, and an entry of one that does
not hold, which is dim as a whole. In all of them a blank or the end of the line follows what is
escaped, so the same is shown of a name in each.

Main statement (`lines_show_names`): what a run writes that evaluates or explains without a
document, line by line; and a name is shown as it is exactly if no backslash of it stands directly
before a bracket that starts no tag and it does not end in a single one.
-/
namespace NamedConditions

/-- The mark of an outcome: failing, matching or neither. -/
def Outcome.mark (o : Outcome) : String :=
  if o.error?.isSome then "!" else if o.matched then "✓" else "✗"

/-- The mark for what a check came to. -/
def Verdict.mark (r : Except Stop Value) : String :=
  if (ending? r).isSome then "!" else if holds r then "✓" else "✗"

/-- What collecting gives are names of the conditions, in their order. -/
theorem Pass.collect_sublist {σ : Type} {decide : Condition → σ → σ × Verdict}
    {cs : List Condition} {s t : σ} {names : List Value}
    (h : collect decide cs s = .ok names t) : names.Sublist (cs.map Condition.name) := by
  induction cs generalizing s names with
  | nil =>
    cases h
    exact .slnil
  | cons c cs ih =>
    obtain ⟨holds, rest, -, hrest, rfl⟩ := collect_cons_ok h
    cases holds with
    | true => exact (ih hrest).cons_cons c.name
    | false => exact (ih hrest).cons c.name

namespace Command

open Markup Session

/-! ## Shapes of lines -/

/-- What is shown of a text that was escaped. -/
def shownText (s : String) : String := String.ofList (asShown s.toList)

/-- The text of a name that is one. -/
def nameText (name : Value) : String := name.text?.getD ""

/-- The line for the name of a match. -/
def matchLine (name : Value) : String := "  ✓ " ++ shownText (nameText name) ++ "\n"

/-- The line for an entry of a report. -/
def entryLine (o : Outcome) : String :=
  "  " ++ o.mark ++ " " ++ shownText (nameText o.name) ++ " (" ++ o.kind ++ ")" ++
    o.error?.elim "" (fun error => " — " ++ shownText error) ++ "\n"

/-- The line with the number of conditions. -/
def countLine (n : Nat) : String := "  Conditions evaluated: " ++ toString n ++ "\n"

/-- A name is a text on one line. -/
def IsTextName (name : Value) : Prop := ∃ n, name.text? = some n ∧ IsInLine n.toList

/-- A line of markup, if there is one, is shown as a text. -/
def ShownAs (line : Except Raised String) (text : String) : Prop :=
  ∃ markup, line = .ok markup ∧ display markup = .ok text

/-- The tag of what is less important. -/
theorem isStyleTag_dim : IsStyleTag ['d', 'i', 'm'] "dim" where
  opening := ⟨"[dim]".toList, rfl⟩
  closing := ⟨"[/dim]".toList, rfl⟩
  opens _ _ := rfl
  closes _ _ := rfl
  style := ⟨"", rfl⟩
  closingStyle := rfl

theorem nameMarkup_of_text {name : Value} {n : String} (h : name.text? = some n) :
    nameMarkup name = .ok (escaped n) := by
  rw [nameMarkup, h]
  rfl

theorem shownAs_match {name : Value} (h : IsTextName name) :
    ShownAs ((nameMarkup name).map ("  [green]✓[/green] " ++ ·)) (matchLine name) := by
  obtain ⟨n, hn, hl⟩ := h
  refine ⟨"  [green]✓[/green] " ++ escaped n, by rw [nameMarkup_of_text hn]; rfl, ?_⟩
  have hname : Displays [] (escape n.toList ++ []) (asShown n.toList ++ []) :=
    displays_escape follows_nil n.toList
  have hmark := isStyleTag_green.displays_plain (hname.append_plain (a := [' ']) (by decide))
    (a := ['✓']) (by decide)
  have hline := hmark.append_plain (a := [' ', ' ']) (by decide)
  have hm : ("  [green]✓[/green] " ++ escaped n).toList = [' ', ' '] ++
      ('[' :: ['g', 'r', 'e', 'e', 'n'] ++ ']' :: (['✓'] ++ ('[' :: '/' ::
        ['g', 'r', 'e', 'e', 'n'] ++ ']' :: ([' '] ++ (escape n.toList ++ []))))) := by
    simp [escaped]
  rw [← hm] at hline
  have hin : IsInLine ([' ', ' '] ++ (['✓'] ++ ([' '] ++ (asShown n.toList ++ [])))) := by
    have hshown := isInLine_asShown hl
    rw [List.append_nil]
    exact IsInLine.append (by decide) (.append (by decide) (.append (by decide) hshown))
  refine (hline.line hin).trans (congrArg Except.ok (String.toList_inj.1 ?_))
  simp [matchLine, nameText, hn, shownText]

/-- The kind of a condition in brackets. -/
def kindPart (o : Outcome) : List Char := '(' :: (o.kind.toList ++ [')'])

theorem isPlain_kindPart (o : Outcome) : IsPlain (kindPart o) := by
  unfold kindPart Outcome.kind
  split <;> decide

/-- A name between a mark in a tag of its own and a dim kind. -/
theorem displays_marked {tag m t x : List Char} {normal : String}
    (hn : IsStyleTag tag normal) (hm : IsPlain m) (o : Outcome) (h : Displays [] t x)
    (n : List Char) :
    Displays [] ([' ', ' '] ++ ('[' :: tag ++ ']' :: (m ++ ('[' :: '/' :: tag ++ ']' ::
        ([' '] ++ (escape n ++ ' ' :: ('[' :: ['d', 'i', 'm'] ++ ']' :: (kindPart o ++
          ('[' :: '/' :: ['d', 'i', 'm'] ++ ']' :: t)))))))))
      ([' ', ' '] ++ (m ++ ([' '] ++ (asShown n ++ ' ' :: (kindPart o ++ x))))) := by
  have hkind := isStyleTag_dim.displays_plain h (isPlain_kindPart o)
  have hblank := hkind.follows_cons (c := ' ') rfl rfl (by decide) (by decide) (by decide)
  have hname := (displays_escape hblank n).append_plain (a := [' ']) (by decide)
  exact (hn.displays_plain hname hm).append_plain (by decide)

/-- A name in a line that is dim as a whole. -/
theorem displays_dim (o : Outcome) (n : List Char) :
    Displays [] ([' ', ' '] ++ ('[' :: ['d', 'i', 'm'] ++ ']' :: (['✗', ' '] ++ (escape n ++
        ' ' :: (kindPart o ++ ('[' :: '/' :: ['d', 'i', 'm'] ++ ']' :: []))))))
      ([' ', ' '] ++ (['✗', ' '] ++ (asShown n ++ ' ' :: (kindPart o ++ [])))) := by
  have hend : Displays ["dim"] ('[' :: '/' :: ['d', 'i', 'm'] ++ ']' :: []) [] :=
    isStyleTag_dim.displays_closing displays_nil
  have hkind := hend.append_plain (isPlain_kindPart o)
  have hblank := hkind.follows_cons (c := ' ')
    (untilClosing?_append_eq_none (isPlain_kindPart o).unclosed rfl) rfl (by decide) (by decide)
    (by decide)
  have hname := (displays_escape hblank n).append_plain (a := ['✗', ' ']) (by decide)
  exact (isStyleTag_dim.displays_opening hname).append_plain (by decide)

theorem shownAs_entry {o : Outcome} (h : IsTextName o.name)
    (he : ∀ error, o.error? = some error → IsInLine error.toList) :
    ShownAs (outcomeLine o) (entryLine o) := by
  obtain ⟨n, hn, hl⟩ := h
  have hname : IsInLine (asShown n.toList) := isInLine_asShown hl
  have hkind : IsInLine (kindPart o) := (isPlain_kindPart o).inLine
  have hin {a x : List Char} (ha : IsInLine a) (hx : IsInLine x) :
      IsInLine (a ++ (asShown n.toList ++ ([' '] ++ (kindPart o ++ x)))) :=
    ha.append (hname.append (.append (by decide) (hkind.append hx)))
  unfold ShownAs outcomeLine
  rw [nameMarkup_of_text hn]
  cases herr : o.error? with
  | some error =>
    refine ⟨_, rfl, ?_⟩
    have herror : Displays [] (escape error.toList ++ []) (asShown error.toList ++ []) :=
      displays_escape follows_nil error.toList
    have hline := displays_marked isStyleTag_red (m := ['!']) (by decide) o
      (herror.append_plain (a := [' ', '—', ' ']) (by decide)) n.toList
    have hx := hin (a := "  ! ".toList) (by decide)
      (.append (a := " — ".toList) (by decide) (isInLine_asShown (he error herr)))
    refine (Displays.line (x := "  ! ".toList ++ (asShown n.toList ++ ([' '] ++ (kindPart o ++
      (" — ".toList ++ asShown error.toList))))) ?_ hx).trans
      (congrArg Except.ok (String.toList_inj.1 ?_))
    · simpa [escaped, kindPart] using hline
    · simp [entryLine, Outcome.mark, herr, nameText, hn, shownText, kindPart]
  | none =>
    dsimp only [Except.map]
    split
    · rename_i hmatched
      refine ⟨_, rfl, ?_⟩
      have hline := displays_marked isStyleTag_green (m := ['✓']) (by decide) o displays_nil
        n.toList
      have hx := hin (a := "  ✓ ".toList) (x := []) (by decide) (by decide)
      refine (Displays.line (x := "  ✓ ".toList ++ (asShown n.toList ++ ([' '] ++ (kindPart o ++
        [])))) ?_ hx).trans (congrArg Except.ok (String.toList_inj.1 ?_))
      · simpa [escaped, kindPart] using hline
      · simp [entryLine, Outcome.mark, herr, hmatched, nameText, hn, shownText, kindPart]
    · rename_i hmatched
      refine ⟨_, rfl, ?_⟩
      have hx := hin (a := "  ✗ ".toList) (x := []) (by decide) (by decide)
      refine (Displays.line (x := "  ✗ ".toList ++ (asShown n.toList ++ ([' '] ++ (kindPart o ++
        [])))) ?_ hx).trans (congrArg Except.ok (String.toList_inj.1 ?_))
      · simpa [escaped, kindPart] using displays_dim o n.toList
      · simp [entryLine, Outcome.mark, herr, hmatched, nameText, hn, shownText, kindPart]

theorem shownAs_count (n : Nat) :
    ShownAs (.ok ("  Conditions evaluated: " ++ toString n)) (countLine n) := by
  have hp : IsPlain ("  Conditions evaluated: " ++ toString n).toList := by
    rw [String.toList_append]
    exact IsPlain.append (by simp [IsPlain]) (isPlain_toString n)
  have hline : Displays [] ("  Conditions evaluated: " ++ toString n).toList
      ("  Conditions evaluated: " ++ toString n).toList := by
    simpa using displays_nil.append_plain hp
  have hshown := hline.line hp.inLine
  rw [String.ofList_toList] at hshown
  exact ⟨"  Conditions evaluated: " ++ toString n, rfl, hshown⟩

/-! ## Lines of a run -/

/-- Lines that are shown are written one after another. -/
theorem lines_of_shown {lines : List (Except Raised String)} {texts : List String}
    (h : List.Forall₂ ShownAs lines texts) (rest : Transcript) :
    Transcript.lines lines rest = ⟨String.join texts ++ rest.out, rest.err, rest.ending⟩ := by
  induction h with
  | nil =>
    rw [String.join_nil, String.empty_append]
    rfl
  | @cons line text lines texts hline _ ih =>
    obtain ⟨markup, rfl, hd⟩ := hline
    have hcons : Transcript.lines (.ok markup :: lines) rest =
        Transcript.line markup (Transcript.lines lines rest) := rfl
    rw [hcons, ih, Transcript.line, hd, String.join_cons, String.append_assoc]
    simp only [Transcript.after, String.empty_append]

/-- Lines that are shown have no carriage returns. -/
theorem not_mem_join {lines : List (Except Raised String)} {texts : List String}
    (h : List.Forall₂ ShownAs lines texts) : '\r' ∉ (String.join texts).toList := by
  induction h with
  | nil => exact List.not_mem_nil
  | cons hline _ ih =>
    obtain ⟨markup, -, hd⟩ := hline
    rw [String.join_cons, String.toList_append, List.mem_append, not_or]
    exact ⟨not_mem_display hd, ih⟩

/-- A run writes lines and ends with an exit code. -/
def WritesLines (x : Transcript) (texts : List String) (code : Int) : Prop :=
  x.out = String.join texts ∧ x.ending = .exit code

theorem writesLines_of_shown {lines : List (Except Raised String)} {texts : List String}
    (h : List.Forall₂ ShownAs lines texts) (code : Int) (notes : String) :
    WritesLines ((Transcript.lines lines (.exit code)).after "" notes).withPlainEnds texts
      code := by
  rw [lines_of_shown h]
  refine ⟨?_, rfl⟩
  simp only [Transcript.after, Transcript.exit, Transcript.withPlainEnds, String.empty_append,
    String.append_empty, Text.withPlainEnds_of_not_mem (not_mem_join h), String.ofList_toList]

theorem forall₂_shownAs {α : Type} {line : α → Except Raised String} {text : α → String}
    {xs : List α} (h : ∀ x ∈ xs, ShownAs (line x) (text x)) :
    List.Forall₂ ShownAs (xs.map line) (xs.map text) := by
  rw [List.forall₂_map_left_iff, List.forall₂_map_right_iff, List.forall₂_same]
  exact h

/-! ## Runs -/

variable {s : Setting} {arguments : List String} {verbose : Bool} {r : EvaluateRequest}
  {context : Entries} {fallback : Value} {number depth : Nat} {session t : Session} {e : Evaluator}

/-- The names that evaluating answers with are names of the conditions, in their order. -/
theorem sublist_of_evaluate {p : Passes} {argument : PassArgument} {names : List Value}
    (he : session.evaluators[number]? = some e)
    (h : evaluate p number argument session = .ok (.names names) t) :
    names.Sublist (e.conditions.map Condition.name) := by
  obtain ⟨e', c, u, found, f, he', -, hcollect, hanswer, -⟩ := exists_of_evaluate_eq_ok h
  cases he.symm.trans he'
  cases found with
  | nil => cases hanswer
  | cons name found =>
    cases hanswer
    exact Pass.collect_sublist hcollect

theorem isTextName_of_report {report : Report} (hr : report.Consistent e)
    (hnames : ∀ c ∈ e.conditions, IsTextName c.name) {o : Outcome} (ho : o ∈ report.outcomes) :
    IsTextName o.name := by
  obtain ⟨i, hi⟩ := List.mem_iff_getElem?.1 ho
  obtain ⟨c, hc, -, -, hname, -⟩ := hr.entry i o hi
  rw [hname]
  exact hnames c (List.mem_of_getElem? hc)

theorem mark_eq_exclamation_iff (o : Outcome) : o.mark = "!" ↔ o.error?.isSome = true := by
  unfold Outcome.mark
  cases o.error?.isSome <;> cases o.matched <;> decide

/-- A run that evaluates without a document writes a line for every match, in order, and one that
explains writes an entry for every condition, in order, with the mark of what its check came to, and
then their number; it ends with exit code 1 exactly if an entry has the mark of a failure. In all of
these lines a name or an error is shown as it is exactly if no backslash of it stands directly
before a bracket that starts no tag and it does not end in a single one. -/
theorem lines_show_names (hs : shellRequest? s.process = none) (hdepth : s.depth = depth + 1)
    (h : parse arguments = .ok (verbose, .evaluate r)) (hj : r.json = false)
    (hc : runtimeContext r = .ok context) (hf : fallbackValue r = .ok fallback)
    (hn : evaluatorAt s r.target fallback r.strict = (.ok number, session))
    (he : session.evaluators[number]? = some e)
    (hnames : ∀ c ∈ e.conditions, IsTextName c.name) :
    (r.explain = false → ∀ names t,
      evaluate (passes depth) number (.given (some (.dict context))) session =
        .ok (.names names) t →
      names.Sublist (e.conditions.map Condition.name) ∧
        WritesLines (run s arguments) (names.map matchLine) 0) ∧
    (r.explain = true → ∀ report t,
      explain (passes depth) number (.given (some (.dict context))) session = .ok report t →
      (∀ o ∈ report.outcomes, ∀ error, o.error? = some error → IsInLine error.toList) →
      report.Consistent e ∧
      WritesLines (run s arguments)
        (report.outcomes.map entryLine ++ [countLine report.outcomes.length])
        (if report.hasError then 1 else 0) ∧
      (report.hasError = true ↔ ∃ o ∈ report.outcomes, o.mark = "!") ∧
      ∀ c u, effectiveContext e (.given (some (.dict context))) session = .ok c u →
        ∀ (i : Nat) (o : Outcome) (x : Condition × Frame),
          report.outcomes[i]? = some o → (explained (passes depth) e c u)[i]? = some x →
          o.mark = Verdict.mark (tried (passes depth) x)) ∧
    ∀ text : String, shownText text = text ↔ IsVerbatim text.toList := by
  refine ⟨fun hexplain names t hnamed => ?_, fun hexplain report t hreport herrors => ?_,
    fun text => ?_⟩
  · have hsub := sublist_of_evaluate he hnamed
    have hshown : ∀ name ∈ names,
        ShownAs ((nameMarkup name).map ("  [green]✓[/green] " ++ ·)) (matchLine name) := by
      intro name hname
      obtain ⟨c, hc, rfl⟩ := List.mem_map.1 (hsub.subset hname)
      exact shownAs_match (hnames c hc)
    have hpass : (passes s.depth).evaluate number (.given (some (.dict context))) session =
        .ok (.names names) t := by
      rw [hdepth]
      exact hnamed
    rw [run_of_found hs h hc hf hn, evaluateOn, hexplain, hpass, hj]
    exact ⟨hsub, writesLines_of_shown (forall₂_shownAs hshown) 0 _⟩
  · obtain ⟨e', c, u, -, he', hcontext, -⟩ := exists_of_explain_eq_ok hreport
    cases he.symm.trans he'
    have hconsistent := consistent_of_explain he hcontext hreport
    have hshown : ∀ o ∈ report.outcomes, ShownAs (outcomeLine o) (entryLine o) := fun o ho =>
      shownAs_entry (isTextName_of_report hconsistent hnames ho) (herrors o ho)
    have hpass : (passes s.depth).explain number (.given (some (.dict context))) session =
        .ok report t := by
      rw [hdepth]
      exact hreport
    refine ⟨hconsistent, ?_, ?_, fun c' u' hcontext' i o x ho hx => ?_⟩
    · rw [run_of_found hs h hc hf hn, evaluateOn, hexplain, hpass, hj]
      exact writesLines_of_shown (List.rel_append (forall₂_shownAs hshown)
        (.cons (shownAs_count _) .nil)) _ _
    · rw [Report.hasError, List.any_eq_true]
      exact exists_congr fun o => and_congr_right fun _ => (mark_eq_exclamation_iff o).symm
    · obtain ⟨-, hmatched, herror⟩ := outcome_tried he hcontext' hreport ho hx
      have hsome : o.error?.isSome = (Verdict.ending? (tried (passes depth) x)).isSome := by
        rw [Bool.eq_iff_iff, Option.isSome_iff_ne_none, Option.isSome_iff_ne_none]
        exact not_congr herror
      rw [Outcome.mark, hmatched, hsome, Verdict.mark]
  · rw [shownText, ← asShown_eq_self_iff, ← String.toList_inj, String.toList_ofList]

/-- Conditions with brackets and backslashes in their names. -/
def bracketed : List Spec :=
  [⟨.bool true, .str "[red]"⟩, ⟨.bool true, .str "a\\"⟩, ⟨.bool false, .str "b\\[1]"⟩]

/-- A module with these conditions. -/
def bracketedAlone : Setting := listAlone (bracketed.map Spec.toValue)

theorem evaluatorAt_bracketedAlone :
    evaluatorAt bracketedAlone "envs:conditions" (.list []) false = (.ok 0,
      Session.withMade .process bracketed (some (.list [])) false (.start [])) :=
  evaluatorAt_of_list (standsAt_listAlone _) rfl _ _

theorem isTextName_bracketed : ∀ c ∈ Condition.ofSpecs bracketed, IsTextName c.name := by
  intro c hc
  simp only [Condition.ofSpecs, Condition.ofSpecsFrom, Condition.ofSpec, bracketed, List.mem_cons,
    List.not_mem_nil, or_false] at hc
  rcases hc with rfl | rfl | rfl <;> exact ⟨_, rfl, by decide⟩

/-- A name that looks like a tag is shown as it is; one with a single backslash at the end gets
another one, and one with a backslash before a bracket that starts no tag loses it. -/
theorem lines_show_names_bracketed :
    WritesLines (run bracketedAlone ["evaluate", "envs:conditions"])
      ["  ✓ [red]\n", "  ✓ a\\\\\n"] 0 ∧
    WritesLines (run bracketedAlone ["evaluate", "envs:conditions", "--explain"])
      ["  ✓ [red] (static)\n", "  ✓ a\\\\ (static)\n", "  ✗ b[1] (static)\n",
        "  Conditions evaluated: 3\n"] 0 := by
  constructor
  · have hparse : parse ["evaluate", "envs:conditions"] =
        .ok (false, .evaluate ⟨"envs:conditions", [], none, none, false, false, false⟩) := rfl
    obtain ⟨hplain, -, -⟩ := lines_show_names (s := bracketedAlone) rfl rfl hparse rfl rfl rfl
      evaluatorAt_bracketedAlone rfl isTextName_bracketed
    obtain ⟨-, hlines⟩ := hplain rfl [.str "[red]", .str "a\\"] _ rfl
    exact hlines
  · have hparse : parse ["evaluate", "envs:conditions", "--explain"] =
        .ok (false, .evaluate ⟨"envs:conditions", [], none, none, false, true, false⟩) := rfl
    obtain ⟨-, hexplain, -⟩ := lines_show_names (s := bracketedAlone) rfl rfl hparse rfl rfl rfl
      evaluatorAt_bracketedAlone rfl isTextName_bracketed
    obtain ⟨-, hlines, -⟩ := hexplain rfl _ _ rfl (by decide)
    exact hlines

end Command

end NamedConditions
