import NamedConditions.Proofs.Command.Exit
import NamedConditions.Proofs.Pass.Alongside
/-!
The two modes of evaluating a target. In the one mode a run evaluates, in the other it explains; in
both it writes one document, from which the answer or the failure can be read.

Main statement: where nothing that explaining runs behind a failing condition stops it, both modes
end with the same exit code, and their documents tell the same answer or the same failure
(`evaluate_modes_agree`). Where it is stopped there, the exit codes may differ
(`exit_codes_differ_leavingBehind`).
-/
namespace NamedConditions

namespace Json.Document

/-- A member of an object. -/
def member? (name : String) : Document → Option Document
  | object members => members.lookup (.ofString name)
  | _ => none

theorem ofString_injective : Function.Injective CodePoints.ofString := by
  intro a b h
  have hs := congrArg CodePoints.toString? h
  rw [CodePoints.toString?_ofString, CodePoints.toString?_ofString] at hs
  exact Option.some.inj hs

@[simp] theorem member?_ofMembers (name : String) (members : List (String × Document)) :
    (ofMembers members).member? name = members.lookup name := by
  rw [ofMembers, member?]
  induction members with
  | nil => rfl
  | cons m members ih =>
    rw [List.map_cons, List.lookup_cons, List.lookup_cons, ih]
    have hn : (CodePoints.ofString name == CodePoints.ofString m.1) = (name == m.1) := by
      rw [Bool.eq_iff_iff, beq_iff_eq, beq_iff_eq, ofString_injective.eq_iff]
    rw [hn]

theorem exists_ofValues {vs : List Value} (h : ∀ v ∈ vs, ∃ d, ofValue v = .ok d) :
    ∃ ds, ofValues vs = .ok ds := by
  induction vs with
  | nil => exact ⟨[], rfl⟩
  | cons v vs ih =>
    obtain ⟨d, hd⟩ := h v List.mem_cons_self
    obtain ⟨ds, hds⟩ := ih fun w hw => h w (List.mem_cons_of_mem v hw)
    rw [ofValues, hd]
    dsimp only
    rw [hds]
    exact ⟨d :: ds, rfl⟩

end Json.Document

namespace Command

open Json Session

/-! ## Documents -/

/-- There is a document for an answer if there are documents for the fallback and the names. -/
theorem exists_answer_document {fallback : Value} {names : List Value}
    (hf : ∃ d, Document.ofValue fallback = .ok d)
    (hn : ∀ n ∈ names, ∃ d, Document.ofValue n = .ok d) :
    ∃ d, Document.ofValue (Answer.ofNames fallback names).value = .ok d := by
  cases names with
  | nil => exact hf
  | cons n names =>
    have hentries : ∀ v ∈ (n :: names).map Answer.entry, ∃ d, Document.ofValue v = .ok d := by
      intro v hv
      obtain ⟨m, hm, rfl⟩ := List.mem_map.1 hv
      obtain ⟨d, hd⟩ := hn m hm
      rw [Answer.entry, Document.ofValue, Document.ofValues, Document.ofValue_bool]
      dsimp only
      rw [Document.ofValues, hd]
      dsimp only
      rw [Document.ofValues]
      exact ⟨_, rfl⟩
    obtain ⟨ds, hds⟩ := Document.exists_ofValues hentries
    have hvalue : (Answer.ofNames fallback (n :: names)).value =
        .list ((n :: names).map Answer.entry) := rfl
    rw [hvalue, Document.ofValue, hds]
    exact ⟨_, rfl⟩

/-- The document for a value that has one. -/
def documentOf (v : Value) : Document := (Document.ofValue v).toOption.getD .null

theorem ofValue_eq_documentOf {v : Value} (h : ∃ d, Document.ofValue v = .ok d) :
    Document.ofValue v = .ok (documentOf v) := by
  obtain ⟨d, hd⟩ := h
  rw [documentOf, hd]
  rfl

/-- The document for an outcome whose name has one. -/
def outcomeObject (o : Outcome) : Document :=
  .ofMembers [("index", .int (Int.ofNat o.index)), ("name", documentOf o.name),
    ("kind", .text o.kind), ("matched", .bool o.matched), ("error", o.error?.elim .null .text)]

theorem outcomeDocuments_eq {os : List Outcome}
    (h : ∀ o ∈ os, ∃ d, Document.ofValue o.name = .ok d) :
    outcomeDocuments os = .ok (os.map outcomeObject) := by
  induction os with
  | nil => rfl
  | cons o os ih =>
    have ih := ih fun x hx => h x (List.mem_cons_of_mem o hx)
    rw [outcomeDocuments, outcomeDocument, ofValue_eq_documentOf (h o List.mem_cons_self)]
    dsimp only [Except.map]
    rw [ih]
    rfl

/-- The members of the document for an answer. -/
def answerObject (a : Answer) : List (String × Document) :=
  [("matched", .bool !a.isFallback), ("result", documentOf a.value)]

theorem answerMembers_eq {a : Answer} (h : ∃ d, Document.ofValue a.value = .ok d) :
    answerMembers a = .ok (answerObject a) := by
  rw [answerMembers, ofValue_eq_documentOf h]
  rfl

/-- The members of the document for a report. -/
def reportObject (r : Report) : List (String × Document) :=
  answerObject r.answer ++
    [("conditions", .array (r.outcomes.map outcomeObject)), ("error", .bool r.hasError)]

theorem reportMembers_eq {r : Report} (ha : ∃ d, Document.ofValue r.answer.value = .ok d)
    (ho : ∀ o ∈ r.outcomes, ∃ d, Document.ofValue o.name = .ok d) :
    reportMembers r = .ok (reportObject r) := by
  rw [reportMembers, answerMembers_eq ha, outcomeDocuments_eq ho]
  rfl

theorem conditions_reportObject (r : Report) :
    (Document.ofMembers (reportObject r)).member? "conditions" =
      some (.array (r.outcomes.map outcomeObject)) := by
  rw [Document.member?_ofMembers]
  rfl

/-- The members of the document for the failure of a condition. -/
def failureObject (name : Value) (text : String) : List (String × Document) :=
  [("error", .text text), ("condition", documentOf name)]

theorem error_outcomeObject (o : Outcome) :
    (outcomeObject o).member? "error" = some (o.error?.elim .null .text) := by
  rw [outcomeObject, Document.member?_ofMembers]
  rfl

theorem name_outcomeObject (o : Outcome) :
    (outcomeObject o).member? "name" = some (documentOf o.name) := by
  rw [outcomeObject, Document.member?_ofMembers]
  rfl

/-! ## What a run writes -/

/-- A run writes a document and ends with an exit code. -/
def Writes (x : Transcript) (d : Document) (code : Int) : Prop :=
  ∃ err, x = Transcript.withPlainEnds ⟨d.write ++ "\n", err, .exit code⟩

theorem writes_document (members : List (String × Document)) (code : Int) (notes : String) :
    Writes ((document (.ok members) code).after "" notes).withPlainEnds (.ofMembers members)
      code := by
  refine ⟨notes ++ "", ?_⟩
  simp only [document, Transcript.after, Transcript.ofText, String.empty_append]

/-- Two runs stop for the same reason, and write what it brings. -/
def StopAlike (x y : Transcript) : Prop :=
  ∃ stop notes notes', x = ((Transcript.ofStop stop).after "" notes).withPlainEnds ∧
    y = ((Transcript.ofStop stop).after "" notes').withPlainEnds

/-- How the two modes end beside each other, on a trail of conditions. -/
inductive ModesAgree (p : Passes) (e : Evaluator) (xs : List (Condition × Frame))
    (plain explained : Transcript) : Prop
  /-- Every condition comes to a truth, and both documents tell the same answer. -/
  | answered (hxs : xs.map Prod.fst = e.conditions)
    (h : ∀ x ∈ xs, Verdict.ending? (tried p x) = none) {d d' result : Document}
    (hp : Writes plain d 0) (hx : Writes explained d' 0)
    (hm : d.member? "matched" = some (.bool (xs.any fun x => Verdict.holds (tried p x))))
    (hm' : d'.member? "matched" = d.member? "matched")
    (hr : Document.ofValue (Answer.ofNames e.fallback (holdingOn p xs)).value = .ok result)
    (hd : d.member? "result" = some result) (hd' : d'.member? "result" = some result)
  /-- The first condition that comes to no truth fails, and the one document tells the failure of
  the first entry with an error in the other. -/
  | failed {before after : List (Condition × Frame)} {x : Condition × Frame}
    (hxs : xs = before ++ x :: after) (hb : ∀ y ∈ before, Verdict.ending? (tried p y) = none)
    (hx : Verdict.ending? (tried p x) ≠ none) {d d' entry name : Document}
    {entries entries' : List Document} {text : String} (hp : Writes plain d 1)
    (hx' : Writes explained d' 1)
    (hc : d'.member? "conditions" = some (.array (entries ++ entry :: entries')))
    (hn : ∀ d ∈ entries, d.member? "error" = some .null)
    (he : entry.member? "error" = some (.text text)) (hd : d.member? "error" = some (.text text))
    (hv : Document.ofValue x.1.name = .ok name) (he' : entry.member? "name" = some name)
    (hd' : d.member? "condition" = some name)
  /-- The first condition that comes to no truth stops both. -/
  | stopped {before : List (Condition × Frame)} {x : Condition × Frame}
    (hxs : xs = before ++ [x]) (hb : ∀ y ∈ before, Verdict.ending? (tried p y) = none)
    (hx : ¬ Settles p x) (h : StopAlike plain explained)

theorem code_of_stopAlike {x y : Transcript} (h : StopAlike x y) : x.ending = y.ending := by
  obtain ⟨stop, notes, notes', rfl, rfl⟩ := h
  rfl

/-- The two modes end with the same exit code. -/
theorem ModesAgree.code {p : Passes} {e : Evaluator} {xs : List (Condition × Frame)}
    {plain explained : Transcript} (h : ModesAgree p e xs plain explained) :
    plain.ending.code = explained.ending.code := by
  cases h with
  | answered _ _ hp hx =>
    obtain ⟨err, rfl⟩ := hp
    obtain ⟨err', rfl⟩ := hx
    rfl
  | failed _ _ _ hp hx =>
    obtain ⟨err, rfl⟩ := hp
    obtain ⟨err', rfl⟩ := hx
    rfl
  | stopped _ _ _ h => rw [code_of_stopAlike h]

theorem reportStop_of_isBare {stop : Stop} (h : stop.IsBare) (json : Bool) :
    reportStop json stop = .ofStop stop := by
  unfold reportStop
  split
  · exact absurd rfl (h _ _ _)
  · rfl

/-! ## The two modes -/

/-- What is written after evaluating. -/
def plainTranscript (verbose : Bool) : EStateM.Result Stop Session Answer → Transcript
  | .ok answer t => (reportAnswer true answer).after "" (noteLines verbose t)
  | .error stop t => (reportStop true stop).after "" (noteLines verbose t)

/-- What is written after explaining. -/
def explainedTranscript (verbose : Bool) : EStateM.Result Stop Session Report → Transcript
  | .ok report t => (reportExplained true report).after "" (noteLines verbose t)
  | .error stop t => (Transcript.ofStop stop).after "" (noteLines verbose t)

variable {p : Passes} {e : Evaluator} {xs : List (Condition × Frame)}
  {evaluation : EStateM.Result Stop Session Answer}
  {explanation : EStateM.Result Stop Session Report}

/-- The report on a trail. -/
def reportOn (p : Passes) (e : Evaluator) (xs : List (Condition × Frame)) : Report :=
  ⟨e.fallback, outcomesOn p xs⟩

theorem writes_plain {answer : Answer} (h : ∃ d, Document.ofValue answer.value = .ok d)
    (verbose : Bool) (t : Session) :
    Writes (plainTranscript verbose (.ok answer t)).withPlainEnds (.ofMembers (answerObject answer))
      0 := by
  simp only [plainTranscript, reportAnswer, if_true, answerMembers_eq h]
  exact writes_document _ _ _

theorem writes_explained {r : Report} (ha : ∃ d, Document.ofValue r.answer.value = .ok d)
    (ho : ∀ o ∈ r.outcomes, ∃ d, Document.ofValue o.name = .ok d) (verbose : Bool) (t : Session) :
    Writes (explainedTranscript verbose (.ok r t)).withPlainEnds (.ofMembers (reportObject r))
      (if r.hasError then 1 else 0) := by
  rw [explainedTranscript, reportExplained, if_pos rfl, reportMembers_eq ha ho]
  exact writes_document _ _ _

theorem writes_failure {name : Value} (h : ∃ d, Document.ofValue name = .ok d) (cause : Failure)
    (text : String) (verbose : Bool) (t : Session) :
    Writes (plainTranscript verbose
      (.error (.failure (.condition name cause text)) t)).withPlainEnds
      (.ofMembers (failureObject name text)) 1 := by
  rw [plainTranscript, reportStop, if_pos rfl, ofValue_eq_documentOf h]
  exact writes_document _ _ _

/-- The two modes agree where the two passes end beside each other. -/
theorem modesAgree_of_endAlongside (h : EndAlongside p e xs evaluation explanation)
    (hnames : ∀ x ∈ xs, ∃ d, Document.ofValue x.1.name = .ok d)
    (hfallback : ∃ d, Document.ofValue e.fallback = .ok d) (verbose verbose' : Bool) :
    ModesAgree p e xs (plainTranscript verbose evaluation).withPlainEnds
      (explainedTranscript verbose' explanation).withPlainEnds := by
  have hdocs : ∀ o ∈ outcomesOn p xs, ∃ d, Document.ofValue o.name = .ok d := by
    intro o ho
    obtain ⟨x, hx, hname⟩ := name_of_mem_outcomesOn ho
    rw [hname]
    exact hnames x hx
  have hanswer : ∃ d, Document.ofValue (reportOn p e xs).answer.value = .ok d := by
    refine exists_answer_document hfallback fun name hname => ?_
    obtain ⟨o, ho, rfl⟩ := List.mem_map.1 hname
    exact hdocs o (List.mem_filter.1 ho).1
  cases h with
  | answered hxs hall u t =>
    have hsame : (reportOn p e xs).answer = .ofNames e.fallback (holdingOn p xs) :=
      congrArg (Answer.ofNames e.fallback) (holding_outcomesOn hall)
    have herr : (reportOn p e xs).hasError = false := by
      refine (hasError_eq_false_iff _).2 fun o ho => ?_
      obtain ⟨x, hx, rfl⟩ := List.mem_map.1 ho
      exact error?_outcome_of_no_ending (hall x hx)
    have hx := writes_explained hanswer hdocs verbose' t
    rw [herr] at hx
    rw [hsame] at hanswer
    refine .answered hxs hall (writes_plain hanswer verbose u) hx ?_ ?_
      (ofValue_eq_documentOf hanswer) ?_ ?_
    · rw [Document.member?_ofMembers, answerObject, Answer.isFallback_ofNames, isEmpty_holdingOn]
      rfl
    · rw [Document.member?_ofMembers, Document.member?_ofMembers, reportObject, hsame]
      rfl
    · rw [Document.member?_ofMembers]
      rfl
    · rw [Document.member?_ofMembers, reportObject, hsame]
      rfl
  | @failed before after x text hxs hb hx cause u t =>
    have hmem : x ∈ xs := by
      rw [hxs]
      exact List.mem_append_right _ List.mem_cons_self
    have herr : (reportOn p e xs).hasError = true := by
      refine (hasError_eq_true_iff _).2 ⟨_, List.mem_map_of_mem hmem, ?_⟩
      rw [hx]
      exact Option.some_ne_none text
    have hx' := writes_explained hanswer hdocs verbose' t
    rw [herr] at hx'
    have hc : (Document.ofMembers (reportObject (reportOn p e xs))).member? "conditions" =
        some (.array ((outcomesOn p before).map outcomeObject ++
          outcomeObject ((decide p x.1 x.2).2.outcome x.1) ::
            (outcomesOn p after).map outcomeObject)) := by
      rw [conditions_reportObject, reportOn, hxs, outcomesOn, List.map_append, List.map_append]
      rfl
    have hnull : ∀ d ∈ (outcomesOn p before).map outcomeObject, d.member? "error" = some .null := by
      intro d hd
      obtain ⟨o, ho, rfl⟩ := List.mem_map.1 hd
      obtain ⟨y, hy, rfl⟩ := List.mem_map.1 ho
      rw [error_outcomeObject, error?_outcome_of_no_ending (hb y hy)]
      rfl
    have hname : ((decide p x.1 x.2).2.outcome x.1).name = x.1.name :=
      (Prod.mk.inj (Verdict.place_outcome x.1 _)).2
    have herror : (outcomeObject ((decide p x.1 x.2).2.outcome x.1)).member? "error" =
        some (.text text) := by
      rw [error_outcomeObject, hx]
      rfl
    refine .failed hxs hb (error?_outcome_eq_some hx)
      (writes_failure (hnames x hmem) cause text verbose u) hx' hc hnull herror ?_
      (ofValue_eq_documentOf (hnames x hmem)) ?_ ?_
    · rw [Document.member?_ofMembers]
      rfl
    · rw [name_outcomeObject, hname]
    · rw [Document.member?_ofMembers]
      rfl
  | stopped hxs hb hx hs u t =>
    refine .stopped hxs hb hx ⟨_, noteLines verbose u, noteLines verbose' t, ?_, rfl⟩
    rw [plainTranscript, reportStop_of_isBare hs]

/-! ## Runs -/

variable {s : Setting} {arguments arguments' : List String} {verbose verbose' : Bool}
  {r : EvaluateRequest} {context : Entries} {fallback : Value} {number : Nat} {session : Session}

theorem run_of_found (hs : shellRequest? s.process = none)
    (h : parse arguments = .ok (verbose, .evaluate r)) (hc : runtimeContext r = .ok context)
    (hf : fallbackValue r = .ok fallback)
    (hn : evaluatorAt s r.target fallback r.strict = (.ok number, session)) :
    run s arguments = (evaluateOn s verbose r number context session).withPlainEnds := by
  have hcall : IsCall s arguments (.ofEvaluate s verbose r context fallback) := .evaluate h hc hf
  have hfound : (Call.ofEvaluate s verbose r context fallback).answer s =
      evaluateOn s verbose r number context session := answer_of_found hn
  rw [run, answer_of_isCall hs hcall, hfound]

/-- A request to evaluate, in one of the modes that write a document. -/
def EvaluateRequest.inMode (r : EvaluateRequest) (explain : Bool) : EvaluateRequest :=
  { r with explain := explain, json := true }

theorem runtimeContext_inMode (r : EvaluateRequest) (explain : Bool) :
    runtimeContext (r.inMode explain) = runtimeContext r := by
  have hj : (r.inMode explain).contextJson? = r.contextJson? := rfl
  have hp : (r.inMode explain).pairs = r.pairs := rfl
  rw [runtimeContext, runtimeContext, hj, hp]

theorem fallbackValue_inMode (r : EvaluateRequest) (explain : Bool) :
    fallbackValue (r.inMode explain) = fallbackValue r := by
  have h : (r.inMode explain).fallbackJson? = r.fallbackJson? := rfl
  rw [fallbackValue, fallbackValue, h]

/-- The two modes of evaluating end with the same exit code and tell the same, where nothing that
explaining runs behind a failing condition stops it. -/
theorem evaluate_modes_agree {depth : Nat} (hs : shellRequest? s.process = none)
    (hdepth : s.depth = depth + 1)
    (hplain : parse arguments = .ok (verbose, .evaluate (r.inMode false)))
    (hexplain : parse arguments' = .ok (verbose', .evaluate (r.inMode true)))
    (hc : runtimeContext r = .ok context) (hf : fallbackValue r = .ok fallback)
    (hn : evaluatorAt s r.target fallback r.strict = (.ok number, session))
    (he : session.evaluators[number]? = some e)
    (hnames : ∀ c ∈ e.conditions, ∃ d, Document.ofValue c.name = .ok d)
    (hfallback : ∃ d, Document.ofValue e.fallback = .ok d)
    (hp : ∀ c t, effectiveContext e (.given (some (.dict context))) session = .ok c t →
      (explained (passes depth) e c t).Pairwise fun x y =>
        Verdict.ending? (tried (passes depth) x) ≠ none → Settles (passes depth) y) :
    (run s arguments).ending.code = (run s arguments').ending.code ∧
    (∀ stop t, effectiveContext e (.given (some (.dict context))) session = .error stop t →
      StopAlike (run s arguments) (run s arguments')) ∧
    ∀ c t, effectiveContext e (.given (some (.dict context))) session = .ok c t →
      ModesAgree (passes depth) e (explained (passes depth) e c t) (run s arguments)
        (run s arguments') := by
  have hrun : run s arguments = (plainTranscript verbose
      (evaluate (passes depth) number (.given (some (.dict context))) session)).withPlainEnds := by
    rw [run_of_found hs hplain ((runtimeContext_inMode r false).trans hc)
      ((fallbackValue_inMode r false).trans hf) hn, evaluateOn, hdepth]
    rfl
  have hrun' : run s arguments' = (explainedTranscript verbose'
      (explain (passes depth) number (.given (some (.dict context))) session)).withPlainEnds := by
    rw [run_of_found hs hexplain ((runtimeContext_inMode r true).trans hc)
      ((fallbackValue_inMode r true).trans hf) hn, evaluateOn, hdepth]
    rfl
  have hstop : ∀ stop t, effectiveContext e (.given (some (.dict context))) session =
      .error stop t → StopAlike (run s arguments) (run s arguments') := by
    intro stop t h
    rw [hrun, hrun', evaluate_of_no_context he h, explain_of_no_context he h]
    refine ⟨stop, noteLines verbose t, noteLines verbose' t, ?_, rfl⟩
    rw [plainTranscript, reportStop_of_isBare (isBare_of_no_context h)]
  have hagree : ∀ c t, effectiveContext e (.given (some (.dict context))) session = .ok c t →
      ModesAgree (passes depth) e (explained (passes depth) e c t) (run s arguments)
        (run s arguments') := by
    intro c t h
    rw [hrun, hrun']
    refine modesAgree_of_endAlongside (ends_alongside (agree_decide depth) he h (hp c t h))
      (fun x hx => ?_) hfallback verbose verbose'
    exact hnames x.1 (Pass.mem_of_mem_trail hx)
  refine ⟨?_, hstop, hagree⟩
  cases h : effectiveContext e (.given (some (.dict context))) session with
  | ok c t => exact (hagree c t h).code
  | error stop t => rw [code_of_stopAlike (hstop stop t h)]

/-- A module with one list of conditions. -/
def listAlone (conditions : List Value) : Setting :=
  moduleAlone [("conditions", .list conditions)]

theorem standsAt_listAlone (conditions : List Value) :
    StandsAt (listAlone conditions) "envs:conditions" (.value (.list conditions)) (.start []) :=
  ⟨imports_moduleAlone _ "conditions" (by decide), rfl⟩

/-- A condition that raises. -/
def broken : Spec :=
  ⟨.object 0 (.predicate none (.raise (.ofText .badValue "bad"))), .str "broken"⟩

/-- A condition that holds. -/
def held : Spec := ⟨.bool true, .str "held"⟩

/-- A condition that asks to exit with code 0. -/
def leaving : Spec :=
  ⟨.object 1 (.predicate none (.raise (.mk .exit [.int 0]))), .str "leaving"⟩

/-- A list with a condition that raises and another one behind it. -/
def behindBroken (behind : Spec) : Setting := listAlone [broken.toValue, behind.toValue]

theorem evaluatorAt_behindBroken (behind : Spec) :
    evaluatorAt (behindBroken behind) "envs:conditions" (.list []) false = (.ok 0,
      Session.withMade .process [broken, behind] (some (.list [])) false (.start [])) :=
  evaluatorAt_of_list (standsAt_listAlone _) rfl _ _

theorem exists_name_behindBroken {behind : Spec}
    (h : ∃ d, Document.ofValue behind.name = .ok d) :
    ∀ c ∈ Condition.ofSpecs [broken, behind], ∃ d, Document.ofValue c.name = .ok d := by
  intro c hc
  rcases List.mem_cons.1 hc with rfl | hc
  · exact ⟨_, Document.ofValue_str _⟩
  · rcases List.mem_singleton.1 hc with rfl
    exact h

theorem evaluate_modes_agree_heldBehind :
    (run (behindBroken held) ["evaluate", "envs:conditions", "--json"]).ending.code =
      (run (behindBroken held)
        ["evaluate", "envs:conditions", "--explain", "--json"]).ending.code := by
  have hplain : parse ["evaluate", "envs:conditions", "--json"] =
      .ok (false, .evaluate ((EvaluateRequest.mk "envs:conditions" [] none none false false
        true).inMode false)) := rfl
  refine (evaluate_modes_agree rfl rfl hplain rfl rfl rfl (evaluatorAt_behindBroken held) rfl
    (exists_name_behindBroken ⟨_, Document.ofValue_str _⟩) ⟨_, rfl⟩ ?_).1
  intro c t h
  refine .cons (fun y hy _ stop hstop => ?_) (List.pairwise_singleton _ _)
  cases List.mem_singleton.1 hy
  cases hstop

/-- Behind a failing condition, one that asks to exit is reached in the one mode only: the exit
codes differ. -/
theorem exit_codes_differ_leavingBehind :
    (∃ t e, evaluatorAt (behindBroken leaving) "envs:conditions" (.list []) false = (.ok 0, t) ∧
      t.evaluators[0]? = some e ∧
      (∀ c ∈ e.conditions, ∃ d, Document.ofValue c.name = .ok d) ∧
      ∃ d, Document.ofValue e.fallback = .ok d) ∧
    (run (behindBroken leaving) ["evaluate", "envs:conditions", "--json"]).ending.code = 1 ∧
    (run (behindBroken leaving)
      ["evaluate", "envs:conditions", "--explain", "--json"]).ending.code = 0 := by
  refine ⟨⟨_, _, evaluatorAt_behindBroken leaving, rfl,
    exists_name_behindBroken ⟨_, Document.ofValue_str _⟩, _, rfl⟩, ?_⟩
  decide +kernel

end Command

end NamedConditions
