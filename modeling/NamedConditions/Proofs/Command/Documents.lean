import NamedConditions.Proofs.Command.Modes
import NamedConditions.Proofs.Json.Encodable
/-!
The documents that are written about conditions: an answer, a report, or the failure of a condition.
Each of them tells one value, which holds names of conditions and the fallback, beside texts and
numbers of its own.

Main statement (`document_of_told`): a run that tells a value writes one document and ends with the
exit code of what it tells, if all that stands in the value can be written and every number in it is
finite. With a number that is not finite it writes a text that is no document; and with a key that
cannot be a name, or a whole number with too many digits, nothing is written and an error escapes.
-/
namespace NamedConditions

namespace Json.Document

variable {v : Value} {error : Raised}

/-- The error for a value in which nothing lacks a text is one of a key or of a whole number. -/
theorem IsEncodingError.kind (h : IsEncodingError v error) (ht : v.HasTexts) :
    error.kind = .badType ∨ error.kind = .badValue := by
  rcases h with h | h | ⟨w, hw, hform, htext⟩
  · exact .inl h
  · exact .inr h
  · obtain ⟨text, hok⟩ := ht w hw hform
    rw [hok] at htext
    cases htext

/-- The numbers in an object are those in its members. -/
theorem holds_ofMembers_iff (members : List (String × Document)) (x : Binary64) :
    (ofMembers members).Holds (.float x) ↔ ∃ m ∈ members, m.2.Holds (.float x) := by
  rw [ofMembers, holds_object_float_iff]
  simp only [List.mem_map, exists_exists_and_eq_and]

end Json.Document

/-- What a report tells: its answer, and the names of all conditions. -/
def Report.told (r : Report) : Value := .list (r.answer.value :: r.outcomes.map Outcome.name)

namespace Command

open Json Document Session Value

/-! ## What documents tell -/

/-- Members in which the same numbers stand as in a document are made for the same value. -/
theorem encodes_members {v : Value} {made : Except Raised Document} (h : Encodes v made)
    {members : Document → List (String × Document)}
    (hm : ∀ d x, (∃ m ∈ members d, m.2.Holds (.float x)) ↔ d.Holds (.float x)) :
    Encodes v ((made.map members).map ofMembers) := by
  cases made with
  | error => exact h
  | ok d => exact h.congr_ok fun x => (holds_ofMembers_iff _ x).trans (hm d x)

theorem encodes_answerMembers (a : Answer) :
    Encodes a.value ((answerMembers a).map ofMembers) :=
  encodes_members (encodes_ofValue a.value) fun d x => by simp [not_holds_leaf]

theorem encodes_failure (name : Value) (text : String) :
    Encodes name (((ofValue name).map fun d =>
      [("error", Document.text text), ("condition", d)]).map ofMembers) :=
  encodes_members (encodes_ofValue name) fun d x => by simp [Document.text, not_holds_leaf]

theorem encodes_outcomeDocument (o : Outcome) : Encodes o.name (outcomeDocument o) := by
  have hname := encodes_ofValue o.name
  rw [outcomeDocument]
  cases he : ofValue o.name with
  | error error =>
    rw [he] at hname
    exact hname
  | ok d =>
    rw [he] at hname
    refine hname.congr_ok fun x => ?_
    rw [holds_ofMembers_iff]
    cases o.error? <;> simp [Document.text, not_holds_leaf]

theorem encodes_outcomeDocuments (os : List Outcome) :
    Encodes (.list (os.map Outcome.name)) ((outcomeDocuments os).map array) := by
  induction os with
  | nil => exact encodes_nil
  | cons o os ih =>
    have hcons := (encodes_outcomeDocument o).cons ih
    rw [outcomeDocuments]
    cases he : outcomeDocument o <;> rw [he] at hcons <;> exact hcons

theorem encodes_reportMembers (r : Report) :
    Encodes r.told ((reportMembers r).map ofMembers) := by
  have hcons := (encodes_ofValue r.answer.value).cons (encodes_outcomeDocuments r.outcomes)
  rw [reportMembers, answerMembers]
  cases ha : ofValue r.answer.value with
  | error error =>
    rw [ha] at hcons
    exact hcons
  | ok d =>
    cases ho : outcomeDocuments r.outcomes with
    | error error =>
      rw [ha, ho] at hcons
      exact hcons
    | ok ds =>
      rw [ha, ho] at hcons
      refine Encodes.congr_ok (d := array (d :: ds)) hcons fun x => ?_
      simp [holds_ofMembers_iff, holds_array_float_iff, not_holds_leaf]

/-! ## Runs -/

/-- What a run that writes a document tells, and the exit code that goes with it. -/
inductive Tells (p : Passes) (number : Nat) (argument : PassArgument) (session : Session) :
    Bool → Value → Int → Prop
  | answer {a : Answer} {t : Session} (h : p.evaluate number argument session = .ok a t) :
    Tells p number argument session false a.value 0
  | failure {name : Value} {cause : Failure} {text : String} {t : Session}
    (h : p.evaluate number argument session = .error (.failure (.condition name cause text)) t) :
    Tells p number argument session false name 1
  | report {r : Report} {t : Session} (h : p.explain number argument session = .ok r t) :
    Tells p number argument session true r.told (if r.hasError then 1 else 0)

theorem Tells.code {p : Passes} {number : Nat} {argument : PassArgument} {session : Session}
    {explain : Bool} {told : Value} {code : Int}
    (h : Tells p number argument session explain told code) : code = 0 ∨ code = 1 := by
  cases h with
  | answer => exact .inl rfl
  | failure => exact .inr rfl
  | @report r =>
    cases r.hasError with
    | false => exact .inl rfl
    | true => exact .inr rfl

/-- How a run ends that tells a value in a document. -/
structure Presents (x : Transcript) (told : Value) (code : Int) : Prop where
  written (h : told.IsEncodable) : x.ending = .exit code ∧
    (IsDocument x.out.toList ↔ told.IsFinite)
  refused (h : ¬ told.IsEncodable) (ht : told.HasTexts) : x.out = "" ∧
    ∃ error : Raised, (error.kind = .badType ∨ error.kind = .badValue) ∧
      x.ending = .escaped (.raised error)

theorem ofRaised_of_kind {error : Raised} (h : error.kind = .badType ∨ error.kind = .badValue) :
    Transcript.ofRaised error = ⟨"", "", .escaped (.raised error)⟩ := by
  obtain ⟨kind, arguments⟩ := error
  have hpipe : Transcript.isClosedPipe (.mk kind arguments) = false := by
    rcases h with rfl | rfl <;> rfl
  rw [Transcript.ofRaised, hpipe]
  rcases h with h | h <;> rw [h] <;> rfl

/-- How a run ends that writes a document of members made for a value. -/
theorem presents_document {told : Value} {members : Except Raised (List (String × Document))}
    (h : Encodes told (members.map ofMembers)) (code : Int) (notes : String) :
    Presents ((document members code).after "" notes).withPlainEnds told code := by
  cases members with
  | ok members =>
    cases h with
    | ok he hd =>
      have hplain : '\r' ∉ ((ofMembers members).write ++ "\n").toList := by
        rw [String.toList_append, List.mem_append, not_or]
        exact ⟨not_mem_writeAt _ 0, by decide⟩
      refine ⟨fun _ => ⟨rfl, ?_⟩, fun hn => absurd he hn⟩
      simp only [document, Transcript.after, Transcript.ofText, Transcript.withPlainEnds,
        String.empty_append, Text.withPlainEnds_of_not_mem hplain, String.ofList_toList]
      rw [isDocument_write_iff]
      exact forall_congr' fun x => by rw [hd x]
  | error error =>
    cases h with
    | error hn he =>
      refine ⟨fun h => absurd h hn, fun _ ht => ?_⟩
      rw [document, ofRaised_of_kind (he.kind ht)]
      exact ⟨rfl, error, he.kind ht, rfl⟩

/-- A pass that explains fails with no failure of a condition. -/
theorem isBare_of_passes_explain {depth number : Nat} {argument : PassArgument} {s t : Session}
    {stop : Stop} (h : (passes depth).explain number argument s = .error stop t) :
    stop.IsBare := by
  cases depth with
  | zero =>
    cases h
    exact nofun
  | succ depth => exact isBare_of_explain h

variable {s : Setting} {arguments : List String} {verbose : Bool} {r : EvaluateRequest}
  {context : Entries} {fallback : Value} {number : Nat} {session : Session}

/-- A run that is to write a document and whose evaluation returns, or fails with the failure of a
condition, tells a value; explaining does not fail so. If all that stands in the value can be
written, the run ends with the exit code that goes with it, and what it writes is a document exactly
if every number there is finite. Where nothing lacks a text, the keys and the whole numbers alone
decide whether it can be written; if it cannot, nothing is written, and the error of a type or of a
value escapes. -/
theorem document_of_told (hs : shellRequest? s.process = none)
    (h : parse arguments = .ok (verbose, .evaluate r)) (hj : r.json = true)
    (hc : runtimeContext r = .ok context) (hf : fallbackValue r = .ok fallback)
    (hn : evaluatorAt s r.target fallback r.strict = (.ok number, session)) :
    (∀ stop t, (passes s.depth).explain number (.given (some (.dict context))) session =
      .error stop t → stop.IsBare) ∧
    ∀ told code, Tells (passes s.depth) number (.given (some (.dict context))) session r.explain
        told code →
      (code = 0 ∨ code = 1) ∧ Presents (run s arguments) told code ∧
      (told.HasTexts → (told.IsEncodable ↔
        (∀ n, told.Holds (.int n) → (Whole.text? n).isSome = true) ∧
          ∀ es, told.Holds (.dict es) → ∀ e ∈ es, e.1.isName = true)) := by
  refine ⟨fun stop t => isBare_of_passes_explain, fun told code ht =>
    ⟨ht.code, ?_, Value.isEncodable_iff_of_hasTexts⟩⟩
  have hrun : run s arguments = (evaluateOn s verbose r number context session).withPlainEnds :=
    run_of_found hs h hc hf hn
  rw [hrun, evaluateOn, hj]
  generalize r.explain = mode at ht ⊢
  cases ht with
  | answer ha =>
    rw [ha]
    exact presents_document (encodes_answerMembers _) 0 _
  | failure hfail =>
    rw [hfail]
    exact presents_document (encodes_failure _ _) 1 _
  | report hr =>
    rw [hr]
    exact presents_document (encodes_reportMembers _) _ _

/-- A condition with a name in which a key is no name of a member. -/
def keyed : Spec := ⟨.bool true, .dict [(.tuple [.int 1], .null)]⟩

/-- A condition that does not hold. -/
def unmet : Spec := ⟨.bool false, .str "unmet"⟩

theorem evaluatorAt_listAlone (spec : Spec) (fallback : Value)
    (h : validate (.list [spec.toValue]) false = .ok [spec]) :
    evaluatorAt (listAlone [spec.toValue]) "envs:conditions" fallback false = (.ok 0,
      Session.withMade .process [spec] (some fallback) false (.start [])) := by
  rw [evaluatorAt_of_list (standsAt_listAlone _) rfl, h]
  rfl

/-- A text that holds is told in a document; no document has the key that is no name; and the report
on a fallback that is no number is not a document. -/
theorem document_of_told_keyed :
    IsDocument (run (listAlone [held.toValue])
      ["evaluate", "envs:conditions", "--json"]).out.toList ∧
    (∃ error, (run (listAlone [keyed.toValue]) ["evaluate", "envs:conditions", "--json"]).ending =
      .escaped (.raised error)) ∧
    ¬ IsDocument (run (listAlone [unmet.toValue])
      ["evaluate", "envs:conditions", "--explain", "--json", "--default", "NaN"]).out.toList := by
  have hparse : parse ["evaluate", "envs:conditions", "--json"] =
      .ok (false, .evaluate ⟨"envs:conditions", [], none, none, false, false, true⟩) := rfl
  refine ⟨?_, ?_, ?_⟩
  · have hends : Presents _ (.list [.tuple [.bool true, .str "held"]]) 0 :=
      ((document_of_told rfl hparse rfl rfl rfl (evaluatorAt_listAlone held (.list []) rfl)).2
        _ _ (.answer rfl)).2.1
    refine (hends.written (isEncodable_of_ofValue rfl)).2.2 fun x hx => ?_
    have hc : (Value.float x).isContainer = false := rfl
    simp [holds_list_iff hc, holds_tuple_iff hc] at hx
    rcases hx with hx | hx <;> cases (holds_iff_eq rfl).1 hx
  · have hends : Presents _ (.list [.tuple [.bool true, keyed.name]]) 0 :=
      ((document_of_told rfl hparse rfl rfl rfl (evaluatorAt_listAlone keyed (.list []) rfl)).2
        _ _ (.answer rfl)).2.1
    have hnot : ¬ (Value.list [.tuple [.bool true, keyed.name]]).IsEncodable := fun h => by
      have hkeys : ∀ e ∈ [(Value.tuple [.int 1], Value.null)], e.1.isName = true :=
        h (.dict _) (.item (.head _) (.place (.tail _ (.head _)) (.self _)))
      exact absurd (hkeys _ (.head _)) (by decide)
    have htexts : (Value.list [.tuple [.bool true, keyed.name]]).HasTexts := by
      intro w hw hform
      have hc := isContainer_of_hasForm hform
      simp [keyed, holds_list_iff hc, holds_tuple_iff hc, holds_dict_iff hc] at hw
      rcases hw with hw | hw <;> cases (holds_iff_eq rfl).1 hw <;> cases hform
    obtain ⟨-, error, -, hending⟩ := hends.refused hnot htexts
    exact ⟨error, hending⟩
  · have hparse' : parse ["evaluate", "envs:conditions", "--explain", "--json", "--default",
        "NaN"] = .ok (false, .evaluate ⟨"envs:conditions", [], none, some "NaN", false, true,
          true⟩) := rfl
    have hread : Json.read "NaN" = .ok (.float (.nan 0)) :=
      read_word (List.mem_of_getElem? (i := 3) rfl)
    have hfallback : fallbackValue ⟨"envs:conditions", [], none, some "NaN", false, true, true⟩ =
        .ok (.float (.nan 0)) := by
      simp only [fallbackValue, jsonOption, hread, toValue]
    have hends : Presents _ (.list [.float (.nan 0), .str "unmet"]) 0 :=
      ((document_of_told rfl hparse' rfl rfl hfallback (evaluatorAt_listAlone unmet _ rfl)).2
        _ _ (.report rfl)).2.1
    intro h
    have hfinite := (hends.written (isEncodable_of_ofValue rfl)).2.1 h
    have hnan : (Binary64.nan 0).isFinite = true := hfinite _ (.item (.head _) (.self _))
    cases hnan

end Command

end NamedConditions
