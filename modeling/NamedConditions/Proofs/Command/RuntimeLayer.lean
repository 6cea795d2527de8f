import NamedConditions.Proofs.Command.Modes
import NamedConditions.Proofs.Command.Search
import NamedConditions.Proofs.Context.History
import NamedConditions.Proofs.Value.TextKey
/-!
The runtime layer of a run: a JSON object, and over it the pairs of a key and a value that are given
one by one. A request is accepted if its JSON text is absent or stands for an object and all its
pairs are in order; or it is refused, and nothing of the catalogue is looked at. A JSON text that
goes beyond what is read is neither.

Main statement (`runtime_layer_of_request`): an accepted request evaluates on the object overlaid by
the pairs, and under every key these come before the accumulated context and the environment of the
evaluator; a refused one ends with exit code 2, whatever the catalogue holds; and one that is
neither ends with an error that nobody handles.
-/
namespace NamedConditions

namespace Json

/-! ## Numbers that are too long to be read -/

theorem digits_of_all {ds : List Char} (h : ∀ c ∈ ds, c.isDigit = true) (acc count : Nat) :
    ∃ n, Scientific.digits acc count ds = (n, count + ds.length, []) := by
  induction ds generalizing acc count with
  | nil => exact ⟨acc, rfl⟩
  | cons c ds ih =>
    have hc : Scientific.digit? c = some (c.toNat - '0'.toNat) :=
      if_pos (h c List.mem_cons_self)
    obtain ⟨n, hn⟩ := ih (fun d hd => h d (List.mem_cons_of_mem c hd))
      (10 * acc + (c.toNat - '0'.toNat)) (count + 1)
    refine ⟨n, ?_⟩
    rw [Scientific.digits, hc]
    dsimp only
    rw [hn, List.length_cons, Nat.add_assoc, Nat.add_comm 1]

/-- A whole number with too many digits goes beyond what is read. -/
theorem read_ones {n : Nat} (h : Whole.digitLimit < n) :
    read (String.ofList (List.replicate n '1')) =
      .error (.beyond (.ofText .badValue (Whole.tooManyDigitsText n))) := by
  obtain ⟨m, rfl⟩ := Nat.exists_eq_add_one_of_ne_zero (Nat.ne_zero_of_lt h)
  have hall : ∀ c ∈ List.replicate (m + 1) '1', c.isDigit = true := by
    intro c hc
    rw [List.eq_of_mem_replicate hc]
    rfl
  obtain ⟨n, hn⟩ := digits_of_all hall 0 0
  rw [List.length_replicate, Nat.zero_add, List.replicate_succ] at hn
  have hnumber : ∃ left, number? ('1' :: List.replicate m '1') =
      some (.error ⟨.tooManyDigits (m + 1), left⟩) := by
    have hwhole : wholePart? ('1' :: List.replicate m '1') =
        some ⟨(n, m + 1), [], Nat.succ_pos _⟩ := by
      simp [wholePart?, hn]
    refine ⟨('1' :: List.replicate m '1').length, ?_⟩
    change (wholePart? ('1' :: List.replicate m '1')).bind _ = _
    rw [hwhole, Option.bind_some]
    exact if_pos (Bool.and_eq_true_iff.2 ⟨rfl, decide_eq_true h⟩)
  obtain ⟨left, hnumber⟩ := hnumber
  have hread : readCharacters ('1' :: List.replicate m '1') =
      .error ⟨.tooManyDigits (m + 1), left⟩ :=
    readCharacters_of_fault (by simp) (readValue_number (by decide) rfl hnumber)
  rw [read, String.toList_ofList, List.replicate_succ, hread]
  rfl

end Json

namespace Command

open Json Session

/-! ## Pairs -/

/-- A pair is a key and a value with an equals sign between them, the first that there is. -/
def IsPairOf (pair : String) (x : String × String) : Prop :=
  pair = x.1 ++ "=" ++ x.2 ∧ '=' ∉ x.1.toList ∧ x.1 ≠ ""

/-- The entry of a context for a key and a value. -/
def textEntry (x : String × String) : Value × Value := (.str x.1, .str x.2)

/-- What is given last under a key. -/
def lastText? (xs : List (String × String)) (key : Value) : Option String :=
  key.text?.bind fun k => xs.reverse.lookup k

variable {pair : String} {pairs : List String} {x : String × String} {xs : List (String × String)}

/-- The entries of pairs hold under a key what is given last under it. -/
theorem find?_reverse_textEntries (xs : List (String × String)) (key : Value) :
    Layer.find? (xs.map textEntry).reverse key = (lastText? xs key).map .str := by
  rw [← List.map_reverse, lastText?]
  exact Layer.find?_ofTexts xs.reverse key

theorem entry_of_isPairOf (h : IsPairOf pair x) :
    pairEntry? pair = some (textEntry x) := by
  obtain ⟨hpair, hn, hkey⟩ := h
  have hcut : Text.cutOf? '=' pair = some x := Text.cutOf?_eq_some_iff.2 ⟨hpair, hn⟩
  have hempty : x.1.isEmpty = false := by simpa using hkey
  unfold pairEntry?
  rw [hcut]
  dsimp only
  rw [hempty]
  rfl

/-- A pair gives no entry exactly if it is not in order. -/
theorem no_entry_iff (pair : String) :
    pairEntry? pair = none ↔ ∀ x, ¬ IsPairOf pair x := by
  constructor
  · intro h x hx
    rw [entry_of_isPairOf hx] at h
    cases h
  · intro h
    unfold pairEntry?
    cases hcut : Text.cutOf? '=' pair with
    | none => rfl
    | some x =>
      obtain ⟨hpair, hn⟩ := Text.cutOf?_eq_some_iff.1 hcut
      have hkey : x.1 = "" := by
        by_contra hkey
        exact h x ⟨hpair, hn, hkey⟩
      dsimp only
      rw [hkey]
      rfl

/-- Why a pair is refused, in words. -/
def pairProblem (pair : String) : UsageProblem :=
  .badValue "--context" ("'" ++ pair ++ "' is not KEY=VALUE")

theorem pairEntries_eq_ok (h : List.Forall₂ IsPairOf pairs xs) :
    pairEntries pairs = .ok (xs.map textEntry) := by
  induction h with
  | nil => rfl
  | cons hx _ ih =>
    rw [pairEntries, entry_of_isPairOf hx, ih]
    rfl

/-- Pairs are refused for the first that is not in order. -/
theorem pairEntries_eq_refuse {before after : List String} (h : List.Forall₂ IsPairOf before xs)
    (hp : ∀ x, ¬ IsPairOf pair x) :
    pairEntries (before ++ pair :: after) = refuse (some .evaluate) (pairProblem pair) := by
  induction h with
  | nil =>
    rw [List.nil_append, pairEntries, (no_entry_iff pair).2 hp]
    rfl
  | cons hx _ ih =>
    rw [List.cons_append, pairEntries, entry_of_isPairOf hx, ih]
    rfl

/-- All pairs are in order, or there is a first that is not. -/
theorem pairs_cases (pairs : List String) :
    (∃ xs, List.Forall₂ IsPairOf pairs xs) ∨ ∃ before xs pair after,
      pairs = before ++ pair :: after ∧ List.Forall₂ IsPairOf before xs ∧
        ∀ x, ¬ IsPairOf pair x := by
  induction pairs with
  | nil => exact .inl ⟨[], .nil⟩
  | cons pair pairs ih =>
    by_cases h : ∃ x, IsPairOf pair x
    · obtain ⟨x, hx⟩ := h
      rcases ih with ⟨xs, hxs⟩ | ⟨before, xs, bad, after, rfl, hxs, hbad⟩
      · exact .inl ⟨x :: xs, .cons hx hxs⟩
      · exact .inr ⟨pair :: before, x :: xs, bad, after, rfl, .cons hx hxs, hbad⟩
    · exact .inr ⟨[], [], pair, pairs, rfl, .nil, not_exists.1 h⟩

/-! ## Requests -/

/-- The entries of the object that a JSON text stands for; none if there is no text. -/
inductive JsonObject : Option String → Entries → Prop
  | absent : JsonObject none []
  | read {text : String} {d : Document} {es : Entries} (h : Json.read text = .ok d)
    (hd : d.toValue = .dict es) : JsonObject (some text) es

/-- The JSON text of a request stands for an object, and its pairs are in order. -/
structure Accepts (r : EvaluateRequest) (object : Entries) (xs : List (String × String)) : Prop
    where
  json : JsonObject r.contextJson? object
  pairs : List.Forall₂ IsPairOf r.pairs xs

/-- A request is refused, and the user is told why: its JSON text cannot be read, it stands for
something else than an object, or there is a first pair that is not in order. -/
inductive Refuses (r : EvaluateRequest) : String → Prop
  | malformed {text reason : String} (hj : r.contextJson? = some text)
    (h : Json.read text = .error (.malformed reason)) :
    Refuses r (UsageError.mk (some .evaluate)
      (.badValue "--context-json" ("Invalid JSON: " ++ reason))).text
  | noObject {text : String} {d : Document} (hj : r.contextJson? = some text)
    (h : Json.read text = .ok d) (hd : ∀ es, d.toValue ≠ .dict es) :
    Refuses r "--context-json must be a JSON object.\n"
  | badPair {object : Entries} {before after : List String} {xs : List (String × String)}
    {pair : String} (hj : JsonObject r.contextJson? object)
    (hp : r.pairs = before ++ pair :: after) (hb : List.Forall₂ IsPairOf before xs)
    (hn : ∀ x, ¬ IsPairOf pair x) :
    Refuses r (UsageError.mk (some .evaluate) (pairProblem pair)).text

/-- The JSON text of a request goes beyond what is read. -/
def Overflows (r : EvaluateRequest) (error : Raised) : Prop :=
  ∃ text, r.contextJson? = some text ∧ Json.read text = .error (.beyond error)

variable {r : EvaluateRequest} {object context : Entries}

theorem request_cases (r : EvaluateRequest) :
    (∃ object xs, Accepts r object xs) ∨ (∃ text, Refuses r text) ∨
      ∃ error, Overflows r error := by
  have hpairs {object : Entries} (hj : JsonObject r.contextJson? object) :
      (∃ object xs, Accepts r object xs) ∨ ∃ text, Refuses r text := by
    rcases pairs_cases r.pairs with ⟨xs, hxs⟩ | ⟨before, xs, pair, after, hp, hb, hn⟩
    · exact .inl ⟨object, xs, hj, hxs⟩
    · exact .inr ⟨_, .badPair hj hp hb hn⟩
  cases hj : r.contextJson? with
  | none =>
    rw [hj] at hpairs
    exact (hpairs .absent).imp_right .inl
  | some text =>
    cases hread : Json.read text with
    | error refusal =>
      cases refusal with
      | malformed reason => exact .inr (.inl ⟨_, .malformed hj hread⟩)
      | beyond error => exact .inr (.inr ⟨error, text, hj, hread⟩)
    | ok d =>
      by_cases hd : ∃ es, d.toValue = .dict es
      · obtain ⟨es, hd⟩ := hd
        rw [hj] at hpairs
        exact (hpairs (.read hread hd)).imp_right .inl
      · exact .inr (.inl ⟨_, .noObject hj hread (not_exists.1 hd)⟩)

/-- No key stands twice in an object. -/
theorem distinct_of_jsonObject {text? : Option String} (h : JsonObject text? object) :
    Layer.Distinct object := by
  cases h with
  | absent => exact .nil
  | @read text d es _ hd =>
    cases d with
    | object members =>
      rw [Document.toValue] at hd
      cases hd
      rw [Layer.ofEntries_eq_overlay]
      exact Layer.distinct_overlay _
    | str codes =>
      rw [Document.toValue, Value.ofCodePoints] at hd
      cases hc : codes.toString? <;> rw [hc] at hd <;> cases hd
    | _ =>
      rw [Document.toValue] at hd
      cases hd

/-! ## Its runtime context -/

/-- The runtime layer: the pairs, of which the last of a key counts, over an object. -/
def runtimeLayer (object : Entries) (xs : List (String × String)) : Entries :=
  Layer.overlay (object ++ Layer.overlay (xs.map textEntry))

theorem jsonEntries_of_jsonObject {text? : Option String} (h : JsonObject text? object) :
    jsonEntries text? = .ok object := by
  cases h with
  | absent => rfl
  | read h hd =>
    rw [jsonEntries, jsonOption, h]
    dsimp only
    rw [hd]

theorem runtimeContext_of_accepts (h : Accepts r object xs) :
    runtimeContext r = .ok (runtimeLayer object xs) := by
  rw [runtimeContext, jsonEntries_of_jsonObject h.json, pairEntries_eq_ok h.pairs, runtimeLayer,
    ← Layer.merge_overlay, Layer.overlay_of_distinct (distinct_of_jsonObject h.json),
    ← Layer.ofEntries_eq_overlay]
  rfl

/-- Under a key the layer holds the value of the last pair with it, or else what the object
holds. -/
theorem find?_runtimeLayer (h : Layer.Distinct object) (xs : List (String × String))
    (key : Value) :
    Layer.find? (runtimeLayer object xs) key =
      ((lastText? xs key).map .str).or (Layer.find? object key) := by
  rw [runtimeLayer, Layer.find?_overlay, List.reverse_append, Layer.find?_append,
    Layer.find?_reverse_of_distinct (Layer.distinct_overlay _), Layer.find?_overlay,
    find?_reverse_textEntries, Layer.find?_reverse_of_distinct h]

theorem display_noObject :
    Markup.display "[red]--context-json must be a JSON object.[/red]" =
      .ok "--context-json must be a JSON object.\n" := by
  have hp : Markup.IsPlain "--context-json must be a JSON object.".toList := by decide
  have hline : Markup.Displays [] _ _ :=
    Markup.isStyleTag_red.displays_plain Markup.displays_nil hp
  rw [List.append_nil] at hline
  change Markup.Displays [] "[red]--context-json must be a JSON object.[/red]".toList _ at hline
  exact hline.line hp.inLine

/-- A refused request has no runtime context. -/
theorem runtimeContext_of_refuses {text : String} (h : Refuses r text) :
    runtimeContext r = .error ⟨"", text, .exit 2⟩ := by
  cases h with
  | malformed hj h =>
    rw [runtimeContext, hj, jsonEntries, jsonOption, h]
    rfl
  | @noObject text d hj h hd =>
    have hobject : jsonEntries (some text) =
        .error ⟨"", "--context-json must be a JSON object.\n", .exit 2⟩ := by
      rw [jsonEntries, jsonOption, h]
      dsimp only
      split
      · rename_i heq
        cases heq
      · rename_i es heq
        exact absurd (Except.ok.inj heq) (hd es)
      · rw [Transcript.complaint, display_noObject]
    rw [runtimeContext, hj, hobject]
    rfl
  | badPair hj hp hb hn =>
    rw [runtimeContext, jsonEntries_of_jsonObject hj, hp, pairEntries_eq_refuse hb hn]
    rfl

theorem runtimeContext_of_overflows {error : Raised} (h : Overflows r error) :
    runtimeContext r = .error (.ofRaised error) := by
  obtain ⟨text, hj, h⟩ := h
  rw [runtimeContext, hj, jsonEntries, jsonOption, h]
  rfl

/-! ## Runs -/

variable {s : Setting} {arguments : List String} {verbose : Bool} {t : Session} {e : Evaluator}
  {env : Value}

/-- Without a runtime context a run ends before it looks at the catalogue. -/
theorem run_of_no_context {ended : Transcript} (hs : shellRequest? s.process = none)
    (h : parse arguments = .ok (verbose, .evaluate r)) (hc : runtimeContext r = .error ended)
    (catalogue : Catalogue) (depth : Nat) :
    run ⟨catalogue, s.process, depth⟩ arguments = ended.withPlainEnds := by
  rw [run, answer, hs, Option.elim_none, answerArguments, h]
  simp only [evaluateTarget, hc]
  rfl

/-- A text that goes beyond what is read is refused with an error that nobody handles. -/
theorem ofRaised_of_beyond {text : String} {error : Raised}
    (h : Json.read text = .error (.beyond error)) :
    Transcript.ofRaised error = ⟨"", "", .escaped (.raised error)⟩ := by
  have hrefusal : ∀ f : Json.Fault, f.refusal text.toList = .beyond error →
      Transcript.ofRaised error = ⟨"", "", .escaped (.raised error)⟩ := by
    intro f hf
    obtain ⟨problem, left⟩ := f
    cases problem <;> cases hf <;> rfl
  unfold Json.read at h
  split at h
  · cases h
  · exact hrefusal _ (Except.error.inj h)

/-- The first condition receives, under every key, what the runtime context holds, or else what the
accumulated context does, or else, for `env` alone, the environment. -/
theorem find?_received (ht : Reachable t) {number : Nat} (he : t.evaluators[number]? = some e)
    (henv : environment e t = .ok env) (hc : Layer.Distinct context) :
    ∃ seen, received e (some (.dict context)) t = .ok seen ∧ ∀ key, Layer.find? seen key =
      (Layer.find? context key).or ((Layer.find? (t.accumulatedEntries e) key).or
        (if Context.envKey.sameKey key then some env else none)) := by
  have hacc : Layer.Distinct (t.accumulatedEntries e) := by
    refine Layer.distinct_mapStored ?_ _
    rw [accounted_of_reachable ht number e he]
    exact Layer.distinct_overlay _
  refine ⟨Layer.overlay ((Context.envKey, env) :: t.accumulatedEntries e ++ context), ?_,
    fun key => ?_⟩
  · rw [received_eq (bounded_of_reachable ht number e he), henv]
    rfl
  · rw [Layer.find?_overlay, List.cons_append, List.reverse_cons, List.reverse_append,
      Layer.find?_append, Layer.find?_append, Layer.find?_reverse_of_distinct hc,
      Layer.find?_reverse_of_distinct hacc, Layer.find?_cons, Layer.find?_nil, Option.or_assoc]

/-! ## Arguments -/

/-- A key and a value as a pair. -/
def pairText (x : String × String) : String := x.1 ++ "=" ++ x.2

/-- The arguments that ask to evaluate a target with pairs. -/
def evaluateWith (target : String) (pairs : List String) : List String :=
  "evaluate" :: target :: pairs.flatMap fun pair => ["-c", pair]

/-- The request to evaluate a target with pairs. -/
def requestWith (target : String) (pairs : List String) : EvaluateRequest :=
  ⟨target, pairs, none, none, false, false, false⟩

theorem read_pairs (pairs : List String) :
    read Subcommand.evaluate.options true (pairs.flatMap fun pair => ["-c", pair]) =
      { given := pairs.map (Meaning.pair, ·), positional := [] } := by
  induction pairs with
  | nil => rfl
  | cons pair pairs ih =>
    have hspell : spell Subcommand.evaluate.options "-c".toList =
        { given := [], waiting? := some ("-c", .pair) } := rfl
    rw [List.flatMap_cons, List.cons_append, List.singleton_append, read,
      if_neg (by decide), if_pos (by decide), hspell]
    dsimp only
    rw [ih]
    rfl

theorem values_pairs (pairs : List String) (m : Meaning) :
    values (pairs.map (Meaning.pair, ·)) m = if m = .pair then pairs else [] := by
  induction pairs with
  | nil => exact (ite_self _).symm
  | cons pair pairs ih =>
    simp only [values, List.map_cons, List.filter_cons] at ih ⊢
    by_cases hm : m = .pair
    · simp_all
    · simp_all [Ne.symm hm]

theorem isGiven_pairs (pairs : List String) {m : Meaning} (h : m ≠ .pair) :
    isGiven (pairs.map (Meaning.pair, ·)) m = false := by
  simp [isGiven, Ne.symm h]

theorem parse_evaluateWith (target : String) (h : isOption target = false) (pairs : List String) :
    parse (evaluateWith target pairs) = .ok (false, .evaluate (requestWith target pairs)) := by
  have hdashes : target ≠ "--" := by
    rintro rfl
    cases h
  have hscan : scan Subcommand.evaluate.options true
      (target :: pairs.flatMap fun pair => ["-c", pair]) =
        .ok (pairs.map (Meaning.pair, ·), [target]) := by
    rw [scan, read, if_neg hdashes, h, if_neg Bool.false_ne_true, if_pos rfl, read_pairs]
    rfl
  have hcommand : Subcommand.evaluate.parse (target :: pairs.flatMap fun pair => ["-c", pair]) =
      .ok (.evaluate (requestWith target pairs)) := by
    rw [Subcommand.parse, hscan]
    dsimp only
    rw [isGiven_pairs pairs (by decide), if_neg Bool.false_ne_true]
    simp only [Subcommand.takesTarget, Subcommand.request, requestWith, values_pairs,
      isGiven_pairs pairs (show Meaning.strict ≠ .pair by decide),
      isGiven_pairs pairs (show Meaning.explain ≠ .pair by decide),
      isGiven_pairs pairs (show Meaning.json ≠ .pair by decide)]
    rfl
  have hprogram : scan programOptions false (evaluateWith target pairs) =
      .ok ([], evaluateWith target pairs) := by
    rw [scan, evaluateWith, read, if_neg (by decide), if_neg (by decide), if_neg (by decide)]
    rfl
  rw [parse, hprogram]
  dsimp only
  rw [if_neg (by decide), evaluateWith]
  dsimp only
  rw [show Subcommand.ofName? "evaluate" = some .evaluate from Subcommand.ofName?_name .evaluate]
  dsimp only
  rw [hcommand]
  rfl

/-- Formatting keys and values gives pairs that are in order. -/
theorem accepts_requestWith (target : String) (h : ∀ x ∈ xs, x.1 ≠ "" ∧ '=' ∉ x.1.toList) :
    Accepts (requestWith target (xs.map pairText)) [] xs := by
  refine ⟨.absent, ?_⟩
  rw [requestWith, List.forall₂_map_left_iff]
  exact List.forall₂_same.2 fun x hx => ⟨rfl, (h x hx).2, (h x hx).1⟩

/-! ## The runtime layer of a run -/

/-- A request that is accepted evaluates on the object overlaid by the pairs. Under every key the
first condition receives what the last pair with the key gives, or else what the object holds, the
accumulated context or the environment. A request that is refused ends with exit code 2, and what
the user is told does not depend on the catalogue; a JSON text that goes beyond what is read ends
the run with an error that nobody handles. Keys and values that are formatted as pairs are read
back, the last of a key counting. -/
theorem runtime_layer_of_request (hs : shellRequest? s.process = none)
    (h : parse arguments = .ok (verbose, .evaluate r)) :
    ((∃ object xs, Accepts r object xs) ∨ (∃ text, Refuses r text) ∨
      ∃ error, Overflows r error) ∧
    (∀ object xs, Accepts r object xs → ∀ fallback number t e env,
      fallbackValue r = .ok fallback →
      evaluatorAt s r.target fallback r.strict = (.ok number, t) →
      t.evaluators[number]? = some e → environment e t = .ok env →
      run s arguments =
        (evaluateOn s verbose r number (runtimeLayer object xs) t).withPlainEnds ∧
      ∃ seen, received e (some (.dict (runtimeLayer object xs))) t = .ok seen ∧
        ∀ key, Layer.find? seen key = ((lastText? xs key).map .str).or
          ((Layer.find? object key).or ((Layer.find? (t.accumulatedEntries e) key).or
            (if Context.envKey.sameKey key then some env else none)))) ∧
    (∀ text, Refuses r text → ∀ catalogue depth,
      run ⟨catalogue, s.process, depth⟩ arguments =
        Transcript.withPlainEnds ⟨"", text, .exit 2⟩) ∧
    (∀ error, Overflows r error → ∀ catalogue depth,
      run ⟨catalogue, s.process, depth⟩ arguments = ⟨"", "", .escaped (.raised error)⟩) ∧
    ∀ (target : String) (xs : List (String × String)), isOption target = false →
      (∀ x ∈ xs, x.1 ≠ "" ∧ '=' ∉ x.1.toList) →
      parse (evaluateWith target (xs.map pairText)) =
        .ok (false, .evaluate (requestWith target (xs.map pairText))) ∧
      runtimeContext (requestWith target (xs.map pairText)) =
        .ok (Layer.overlay (xs.map textEntry)) := by
  refine ⟨request_cases r, fun object xs ha fallback number t e env hf hn he henv => ?_,
    fun text hr catalogue depth =>
      run_of_no_context hs h (runtimeContext_of_refuses hr) catalogue depth,
    fun error hr catalogue depth => ?_, fun target xs ht hxs => ?_⟩
  · have ht : Reachable t := by
      have hreach := reachable_evaluatorAt s r.target fallback r.strict
      rwa [hn] at hreach
    refine ⟨run_of_found hs h (runtimeContext_of_accepts ha) hf hn, ?_⟩
    obtain ⟨seen, hseen, hfind⟩ := find?_received ht he henv
      (Layer.distinct_overlay (object ++ Layer.overlay (xs.map textEntry)))
    refine ⟨seen, hseen, fun key => ?_⟩
    rw [hfind, ← runtimeLayer, find?_runtimeLayer (distinct_of_jsonObject ha.json),
      Option.or_assoc]
  · obtain ⟨text, hj, hread⟩ := hr
    rw [run_of_no_context hs h (runtimeContext_of_overflows ⟨text, hj, hread⟩),
      ofRaised_of_beyond hread]
    rfl
  · refine ⟨parse_evaluateWith target ht _, ?_⟩
    rw [runtimeContext_of_accepts (accepts_requestWith target hxs), runtimeLayer, List.nil_append,
      Layer.overlay_of_distinct (Layer.distinct_overlay _)]

/-- A list with a condition that is not looked at if a request is refused. -/
def neverReached : Setting := listAlone [broken.toValue]

/-- The value of the last pair counts, with all that stands behind the first equals sign. A pair
without a key is refused, and so is a JSON text that stands for nothing; a number that is too long
ends the run in another way. -/
theorem runtime_layer_of_request_repeated :
    (∃ e t seen, evaluatorAt neverReached "envs:conditions" (.list []) false = (.ok 0, t) ∧
      t.evaluators[0]? = some e ∧
      received e (some (.dict (runtimeLayer [] [("k", "1"), ("k", "=2")]))) t = .ok seen ∧
      Layer.find? seen (.str "k") = some (.str "=2")) ∧
    (run neverReached ["evaluate", "envs:conditions", "-c", "=k"]).ending = .exit 2 ∧
    (run neverReached ["evaluate", "envs:conditions", "--context-json", "null"]).ending = .exit 2 ∧
    (run neverReached ["evaluate", "envs:conditions", "--context-json",
      String.ofList (List.replicate 4301 '1')]).ending ≠ .exit 2 := by
  have hparse (text : String) :
      parse ["evaluate", "envs:conditions", "--context-json", text] = .ok (false, .evaluate
        ⟨"envs:conditions", [], some text, none, false, false, false⟩) := rfl
  refine ⟨?_, ?_, ?_, ?_⟩
  · have h := parse_evaluateWith "envs:conditions" rfl
      ([("k", "1"), ("k", "=2")].map pairText)
    obtain ⟨-, haccepted, -⟩ := runtime_layer_of_request (s := neverReached) rfl h
    obtain ⟨-, seen, hseen, hfind⟩ := haccepted [] _ (accepts_requestWith _ (by decide)) _ _ _ _ _
      rfl (evaluatorAt_of_list (standsAt_listAlone _) rfl _ _) rfl rfl
    exact ⟨_, _, seen, evaluatorAt_of_list (standsAt_listAlone _) rfl _ _, rfl, hseen,
      (hfind _).trans rfl⟩
  · obtain ⟨-, -, hrefused, -⟩ := runtime_layer_of_request (s := neverReached) rfl
      (parse_evaluateWith "envs:conditions" rfl ["=k"])
    have hbad : ∀ x, ¬ IsPairOf "=k" x := (no_entry_iff _).1 rfl
    have hpairs : ["=k"] = [] ++ "=k" :: [] := rfl
    exact congrArg Transcript.ending (hrefused _ (.badPair .absent hpairs .nil hbad)
      neverReached.catalogue neverReached.depth)
  · obtain ⟨-, -, hrefused, -⟩ := runtime_layer_of_request (s := neverReached) rfl (hparse "null")
    have hread : Json.read "null" = .ok .null := read_word (List.mem_of_getElem? (i := 0) rfl)
    have hnull : ∀ es, Document.null.toValue ≠ .dict es := fun es h => by
      rw [Document.toValue] at h
      cases h
    exact congrArg Transcript.ending (hrefused _ (.noObject rfl hread hnull)
      neverReached.catalogue neverReached.depth)
  · obtain ⟨-, -, -, hbeyond, -⟩ := runtime_layer_of_request (s := neverReached) rfl
      (hparse (String.ofList (List.replicate 4301 '1')))
    have hread := read_ones (n := 4301) (by decide)
    have hrun := hbeyond _ ⟨_, rfl, hread⟩ neverReached.catalogue neverReached.depth
    intro hexit
    have hending := (congrArg Transcript.ending hrun).symm.trans hexit
    cases hending

end Command

end NamedConditions
