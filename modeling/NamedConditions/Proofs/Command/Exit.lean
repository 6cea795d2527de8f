import NamedConditions.Proofs.Command.Target
import NamedConditions.Proofs.Markup.Shown
import NamedConditions.Proofs.Session.Change
/-!
How a run on a target ends. An unusable target ends it with exit code 2 and a line that says what is
wrong with the target. A condition list that is refused ends it with exit code 1, and so does a byte
array, which is taken for a list and always refused. The name of a module that starts with a dot
ends it with an error that nobody handles.

Both commands find the evaluator at their target first, so what they share is stated once, for calls
that differ in what a refused list is told and in what is done with an evaluator. The line for a
target is shown whatever the target holds, since its text is escaped.

Main statement: the exit code is 2, with something on the second stream, exactly if the target is
unusable (`exit_two_iff_unusable`).
-/
namespace NamedConditions.Command

open Markup

/-! ## Calls -/

/-- What a command works with: its target, the fallback of a list that stands there and whether the
list is strict; what is written if the list is refused, and what is done with the evaluator. -/
structure Call where
  verbose : Bool
  target : String
  fallback : Value
  strict : Bool
  refusal : String → String
  work : Nat → Session → Transcript

/-- The line for a condition list that is in order. -/
def validLine (target : String) (conditions : List Condition) : String :=
  "[green]  " ++ escaped target ++ "[/green] — " ++ toString conditions.length ++ " conditions" ++
    breakdown conditions

/-- The line that complains about a target. -/
def complaintLine (f : TargetFault) : String := "[red]" ++ escaped f.message ++ "[/red]"

/-- The call of the command that validates a target. -/
def Call.ofValidate (verbose : Bool) (target : String) (strict : Bool) : Call where
  verbose := verbose
  target := target
  fallback := .list []
  strict := strict
  refusal reason := "[red]  " ++ escaped target ++ " — " ++ escaped reason ++ "[/red]"
  work number t :=
    (Transcript.line (validLine target ((t.evaluators[number]?.map Evaluator.conditions).getD []))
      (.exit 0)).after "" (noteLines verbose t)

/-- The call of the command that evaluates a target. -/
def Call.ofEvaluate (s : Setting) (verbose : Bool) (r : EvaluateRequest) (context : Entries)
    (fallback : Value) : Call where
  verbose := verbose
  target := r.target
  fallback := fallback
  strict := r.strict
  refusal reason := "[red]Invalid conditions: " ++ escaped reason ++ "[/red]"
  work number t := evaluateOn s verbose r number context t

/-- The arguments call a command on a target, and its other options can be read. -/
inductive IsCall (s : Setting) (arguments : List String) : Call → Prop
  | validate {verbose : Bool} {target : String} {strict : Bool}
    (h : parse arguments = .ok (verbose, .validate target strict)) :
    IsCall s arguments (.ofValidate verbose target strict)
  | evaluate {verbose : Bool} {r : EvaluateRequest} {context : Entries} {fallback : Value}
    (h : parse arguments = .ok (verbose, .evaluate r)) (hc : runtimeContext r = .ok context)
    (hf : fallbackValue r = .ok fallback) :
    IsCall s arguments (.ofEvaluate s verbose r context fallback)

/-- What a call writes, and how it ends. -/
def Call.answer (s : Setting) (call : Call) : Transcript :=
  match evaluatorAt s call.target call.fallback call.strict with
  | (.error (.target f), t) =>
    (Transcript.complaint (complaintLine f) 2).after "" (noteLines call.verbose t)
  | (.error (.list reason), t) =>
    (Transcript.complaint (call.refusal reason) 1).after "" (noteLines call.verbose t)
  | (.error (.stopped stop), t) =>
    (Transcript.ofStop stop).after "" (noteLines call.verbose t)
  | (.ok number, t) => call.work number t

variable {s : Setting} {arguments : List String} {call : Call} {target name path : String}
  {fallback : Value} {strict : Bool} {t u : Session} {f : TargetFault}

theorem answer_of_isCall (hs : shellRequest? s.process = none) (h : IsCall s arguments call) :
    answer s arguments = call.answer s := by
  rw [answer, hs, Option.elim_none, answerArguments]
  cases h with
  | validate h =>
    rw [h]
    simp only [validateTarget, Call.answer, Call.ofValidate]
    rcases evaluatorAt s _ (.list []) _ with ⟨available, t⟩
    cases available with
    | ok number => rfl
    | error e => cases e <;> rfl
  | evaluate h hc hf =>
    rw [h]
    simp only [evaluateTarget, hc, hf, Call.answer, Call.ofEvaluate]
    simp only [Bind.bind, Except.bind]
    rcases evaluatorAt s _ _ _ with ⟨available, t⟩
    cases available with
    | ok number => rfl
    | error e => cases e <;> rfl

/-! ## The evaluator at a target -/

theorem evaluatorNumber_eq (s : Setting) (target : String) (fallback : Value) (strict : Bool) :
    evaluatorNumber s target fallback strict (.start s.process) =
      match resolved s target with
      | .error stop t => .error stop t
      | .ok (.error fault) t => .ok (.error fault) t
      | .ok (.ok (.conditions v)) t =>
        match Session.make (.mk (some v) (some fallback) strict .process) t with
        | .error stop t => .error stop t
        | .ok number t => .ok (.ok number) t
      | .ok (.ok (.evaluator setup)) t =>
        match Session.make setup t with
        | .error stop t => .error stop t
        | .ok number t => .ok (.ok number) t
      | .ok (.ok (.made number)) t => .ok (.ok number) t := by
  simp only [evaluatorNumber, resolved, Bind.bind, EStateM.bind]
  cases Target.resolve s.catalogue (Session.passes s.depth) target (.start s.process) with
  | error stop t => rfl
  | ok x t =>
    cases x with
    | error fault => rfl
    | ok found =>
      cases found with
      | conditions v =>
        dsimp only [EStateM.bind]
        cases Session.make (.mk (some v) (some fallback) strict .process) t <;> rfl
      | evaluator setup =>
        dsimp only [EStateM.bind]
        cases Session.make setup t <;> rfl
      | made number => rfl

theorem Unavailable.ofStop_ne_target (stop : Stop) (f : TargetFault) :
    Unavailable.ofStop stop ≠ .target f := by
  unfold Unavailable.ofStop
  split
  · split <;> simp
  · simp

/-- There is a fault of the target exactly if the target is unusable. -/
theorem evaluatorAt_eq_fault_iff (s : Setting) (target : String) (fallback : Value) (strict : Bool)
    (f : TargetFault) (u : Session) :
    evaluatorAt s target fallback strict = (.error (.target f), u) ↔ Unusable s target f u := by
  have hnumber : evaluatorNumber s target fallback strict (.start s.process) = .ok (.error f) u ↔
      resolved s target = .ok (.error f) u := by
    rw [evaluatorNumber_eq]
    cases resolved s target with
    | error stop t => simp
    | ok x t =>
      cases x with
      | error fault => simp
      | ok found =>
        cases found with
        | conditions v =>
          dsimp only
          cases Session.make (.mk (some v) (some fallback) strict .process) t <;> simp
        | evaluator setup =>
          dsimp only
          cases Session.make setup t <;> simp
        | made number => simp
  rw [← resolve_eq_fault_iff, ← hnumber, evaluatorAt]
  cases evaluatorNumber s target fallback strict (.start s.process) with
  | error stop t => simp [Unavailable.ofStop_ne_target]
  | ok x t => cases x <;> simp

theorem ofThing_of_isListLike {v : Value} (h : v.isListLike = true) (target : String) :
    Target.ofThing target (.value v) = .ok (.conditions v) := by
  unfold Target.ofThing
  split
  · rename_i heq
    cases heq
    cases h
  · rename_i heq
    cases heq
    cases h
  · rename_i heq
    cases heq
    rw [if_pos h]
  · rename_i hv
    exact absurd rfl (hv v)

/-- A list, or what is taken for one, is validated. -/
theorem evaluatorAt_of_list {v : Value} (h : StandsAt s target (.value v) u)
    (hl : v.isListLike = true) (fallback : Value) (strict : Bool) :
    evaluatorAt s target fallback strict =
      match validate v strict with
      | .error fault => (.error (.list fault.message), u)
      | .ok specs =>
        (.ok u.evaluators.length, Session.withMade .process specs (some fallback) strict u) := by
  have hr : resolved s target = .ok (.ok (.conditions v)) u := by
    rw [resolve_of_standsAt h, ofThing_of_isListLike hl]
  rw [evaluatorAt, evaluatorNumber_eq, hr]
  dsimp only
  rw [Session.make_run, Session.provider, Option.getD_some]
  cases validate v strict with
  | error fault => rfl
  | ok specs => rfl

/-- An evaluator that could be made is the one that is found, whatever is asked of lists. -/
theorem evaluatorAt_of_setup {id number : Nat} {setup : Setup} {t : Session}
    (h : StandsAt s target (.value (.object id (.evaluatorOf setup))) u)
    (hmake : Session.make setup u = .ok number t) (fallback : Value) (strict : Bool) :
    evaluatorAt s target fallback strict = (.ok number, t) := by
  rw [evaluatorAt, evaluatorNumber_eq, resolve_of_standsAt h, Target.ofThing]
  dsimp only
  rw [hmake]

/-- So is an evaluator of the session in which the search ends. -/
theorem evaluatorAt_of_number {number count : Nat} {keys : List Value}
    (h : StandsAt s target (.value (.evaluator number count keys)) u) (fallback : Value)
    (strict : Bool) :
    evaluatorAt s target fallback strict = (.ok number, u) := by
  rw [evaluatorAt, evaluatorNumber_eq, resolve_of_standsAt h]
  rfl

/-- What stands at a target and is an evaluator is found, if it could be made. -/
theorem evaluatorAt_of_evaluator (hm : IsMade s target) {thing : Thing}
    (h : StandsAt s target thing u) (he : thing.isEvaluator = true) :
    ∃ number t, ∀ fallback strict, evaluatorAt s target fallback strict = (.ok number, t) := by
  unfold Thing.isEvaluator at he
  split at he
  · obtain ⟨number, t, hmake⟩ := hm _ _ _ h
    exact ⟨number, t, evaluatorAt_of_setup h hmake⟩
  · exact ⟨_, u, evaluatorAt_of_number h⟩
  · cases he

theorem evaluatorAt_of_dotted (hp : IsParts target name path) (hd : name.startsWith "." = true)
    (hpath : path ≠ "") (fallback : Value) (strict : Bool) :
    evaluatorAt s target fallback strict =
      (.error (.stopped (.failure (.raised (dottedError name)))), .start s.process) := by
  rw [evaluatorAt, evaluatorNumber_eq, resolved_of_dotted hp hd hpath]
  rfl

/-! ## Exit code 2 without a line -/

/-- A run that ends with exit code 2 writes nothing to the second stream. -/
def Silent (x : Transcript) : Prop := x.ending = .exit 2 → x.err = ""

theorem silent_of_err {x : Transcript} (h : x.err = "") : Silent x := fun _ => h

theorem silent_of_ending {x : Transcript} (h : x.ending ≠ .exit 2) : Silent x :=
  fun he => absurd he h

theorem Silent.after {x : Transcript} (h : Silent x) (out : String) : Silent (x.after out "") :=
  fun he => by rw [Transcript.after, h he, String.append_empty]

theorem silent_ofExit (values : List Value) : Silent (Transcript.ofExit values) := by
  unfold Transcript.ofExit
  dsimp only
  split
  · exact silent_of_err rfl
  · exact silent_of_err rfl
  · exact silent_of_err rfl
  · split <;> exact silent_of_err rfl

theorem silent_ofRaised (error : Raised) : Silent (Transcript.ofRaised error) := by
  unfold Transcript.ofRaised
  split
  · exact silent_of_ending (by simp)
  · exact silent_of_ending (by simp)
  · exact silent_ofExit _
  · split <;> exact silent_of_err rfl

theorem silent_ofStop (stop : Stop) : Silent (Transcript.ofStop stop) := by
  cases stop with
  | exhausted => exact silent_of_err rfl
  | failure f =>
    cases f with
    | raised error => exact silent_ofRaised error
    | condition => exact silent_of_err rfl

theorem silent_line (markup : String) {rest : Transcript} (h : Silent rest) :
    Silent (Transcript.line markup rest) := by
  unfold Transcript.line
  split
  · exact h.after _
  · exact silent_of_err rfl

theorem silent_lineOf (markup : Except Raised String) {rest : Transcript} (h : Silent rest) :
    Silent (Transcript.lineOf markup rest) := by
  cases markup with
  | ok markup => exact silent_line markup h
  | error error => exact silent_ofRaised error

theorem silent_lines (markups : List (Except Raised String)) {rest : Transcript}
    (h : Silent rest) : Silent (Transcript.lines markups rest) := by
  induction markups with
  | nil => exact h
  | cons markup markups ih => exact silent_lineOf markup ih

theorem silent_complaint (markup : String) {code : Int} (h : code ≠ 2) :
    Silent (Transcript.complaint markup code) := by
  unfold Transcript.complaint
  split
  · exact silent_of_ending fun he => h (Ending.exit.inj he)
  · exact silent_of_err rfl

theorem silent_document (members : Except Raised (List (String × Json.Document))) (code : Int) :
    Silent (document members code) := by
  cases members with
  | ok members => exact silent_of_err rfl
  | error error => exact silent_ofRaised error

theorem silent_reportExplained (json : Bool) (r : Report) : Silent (reportExplained json r) := by
  unfold reportExplained
  dsimp only
  split
  · exact silent_document _ _
  · exact silent_lines _ (silent_of_err rfl)

theorem silent_reportAnswer (json : Bool) (a : Answer) : Silent (reportAnswer json a) := by
  unfold reportAnswer
  split
  · exact silent_document _ _
  · split
    · exact silent_lines _ (silent_of_err rfl)
    · exact silent_lineOf _ (silent_of_err rfl)

theorem silent_reportStop (json : Bool) (stop : Stop) : Silent (reportStop json stop) := by
  unfold reportStop
  split
  · split
    · exact silent_document _ _
    · exact silent_complaint _ (by decide)
  · exact silent_ofStop _

/-- What comes behind notes is nothing, if a run ends with exit code 2 that is silent then. -/
theorem Silent.notes {x : Transcript} (h : Silent x) {verbose : Bool} {t : Session}
    (he : (x.after "" (noteLines verbose t)).ending = .exit 2) :
    x.after "" (noteLines verbose t) = ⟨x.out, noteLines verbose t, .exit 2⟩ := by
  have hx : x.ending = .exit 2 := he
  rw [Transcript.after, h hx, hx, String.append_empty, String.empty_append]

/-- What is done with an evaluator is silent behind the notes. -/
theorem exists_silent_work (h : IsCall s arguments call) (number : Nat) (t : Session) :
    ∃ x u, Silent x ∧ call.work number t = x.after "" (noteLines call.verbose u) := by
  cases h with
  | validate => exact ⟨_, t, silent_line _ (silent_of_err rfl), rfl⟩
  | evaluate =>
    simp only [Call.ofEvaluate, evaluateOn]
    split
    · split
      · exact ⟨_, _, silent_reportExplained _ _, rfl⟩
      · exact ⟨_, _, silent_ofStop _, rfl⟩
    · split
      · exact ⟨_, _, silent_reportAnswer _ _, rfl⟩
      · exact ⟨_, _, silent_reportStop _ _, rfl⟩

/-- A call that ends with exit code 2 has an unusable target, or writes nothing but notes to the
second stream. -/
theorem unusable_or_notes (h : IsCall s arguments call) (he : (call.answer s).ending = .exit 2) :
    (∃ f u, Unusable s call.target f u) ∨
      ∃ out u, call.answer s = ⟨out, noteLines call.verbose u, .exit 2⟩ := by
  unfold Call.answer at he ⊢
  split at he
  · rename_i f t heq
    exact .inl ⟨f, t, (evaluatorAt_eq_fault_iff ..).1 heq⟩
  · exact .inr ⟨_, _, (silent_complaint _ (by decide)).notes he⟩
  · exact .inr ⟨_, _, (silent_ofStop _).notes he⟩
  · rename_i number t _
    obtain ⟨x, u, hx, hw⟩ := exists_silent_work h number t
    rw [hw] at he ⊢
    exact .inr ⟨_, u, hx.notes he⟩

/-! ## Lines for targets and lists -/

/-- The end of a complaint. -/
def redEnd : List Char := ['[', '/', 'r', 'e', 'd', ']']

theorem displays_redEnd : Displays ["red"] redEnd [] :=
  isStyleTag_red.displays_closing displays_nil

/-- The complaint about a target is shown as one line, but for the ends of line in its text. -/
theorem exists_complaint (f : TargetFault) :
    ∃ text, display (complaintLine f) = .ok text ∧
      text.toList.count '\n' = f.message.toList.count '\n' + 1 := by
  obtain ⟨b, k, j, hb, hd⟩ := exists_displays_escape (isApart_bracket _)
    (isStyleTag_red.displays_slashes_closing displays_nil displays_nil) f.message.toList
  have hm : (complaintLine f).toList = '[' :: ['r', 'e', 'd'] ++ ']' ::
      (escape f.message.toList ++ redEnd) := by
    simp [complaintLine, escaped, redEnd]
  have hline := isStyleTag_red.displays_opening hd
  change Displays []
    ('[' :: ['r', 'e', 'd'] ++ ']' :: (escape f.message.toList ++ redEnd)) _ at hline
  rw [← hm] at hline
  obtain ⟨text, htext, hcount⟩ := hline.count_line
  refine ⟨text, htext, ?_⟩
  have hslashes (n : Nat) : (List.replicate n '\\').count '\n' = 0 :=
    List.count_eq_zero.2 fun h => absurd (List.eq_of_mem_replicate h) (by decide)
  have hend : (if j % 2 = 0 then [] else redEnd).count '\n' = 0 := by
    split <;> rfl
  rw [hcount, hb, List.count_append, List.count_append, List.count_append, hslashes, hslashes,
    count_withoutLost (by decide)]
  exact congrArg (b.count '\n' + · + 1) ((Nat.zero_add _).trans hend)

theorem isPlain_message (fault : Fault) : IsPlain fault.message.toList := by
  have hlist : IsPlain "Conditions must be an array".toList := by simp [IsPlain]
  have hfront : IsPlain "Condition at index ".toList := by simp [IsPlain]
  cases fault with
  | noSequence => exact hlist
  | noObject i => exact isPlain_around hfront (by simp [IsPlain]) i
  | noCheck i => exact isPlain_around hfront (by simp [IsPlain]) i
  | noName i => exact isPlain_around hfront (by simp [IsPlain]) i
  | badCheck i => exact isPlain_around hfront (by simp [IsPlain]) i

/-- What is shown of a complaint about a plain reason. -/
theorem displays_complaint {f x reason : List Char} (hp : IsPlain reason)
    (hf : ∀ {s y : List Char}, Displays ["red"] s y → untilClosing? s = none →
      Displays ["red"] (f ++ s) (x ++ y)) :
    Displays [] ('[' :: ['r', 'e', 'd'] ++ ']' :: (f ++ (reason ++ redEnd))) (x ++ reason) := by
  have hreason := displays_redEnd.append_plain hp
  rw [List.append_nil] at hreason
  exact isStyleTag_red.displays_opening
    (hf hreason (untilClosing?_append_eq_none hp.unclosed (isApart_bracket _).unclosed))

/-- Who validates a list is told why it is refused. -/
theorem exists_refusal_ofValidate (verbose : Bool) (target : String) (strict : Bool)
    (fault : Fault) : ∃ front,
      display ((Call.ofValidate verbose target strict).refusal fault.message) =
        .ok (front ++ " — " ++ fault.message ++ "\n") := by
  have hp := isPlain_message fault
  have hdash : IsPlain ['—', ' '] := by decide
  have hline := displays_complaint (f := [' ', ' '] ++ (escape target.toList ++ [' ', '—', ' ']))
    (x := [' ', ' '] ++ asShown target.toList ++ [' ', '—', ' ']) hp fun {s y} hs hu => by
      -- behind the target there is a blank, which starts no tag
      have hblank : Follows ["red"] (' ' :: (['—', ' '] ++ s)) (' ' :: (['—', ' '] ++ y)) :=
        (hs.append_plain hdash).follows_cons (untilClosing?_append_eq_none hdash.unclosed hu) rfl
          (by decide) (by decide) (by decide)
      have htarget := (displays_escape hblank target.toList).append_plain (a := [' ', ' '])
        (by decide)
      simpa using htarget
  have hm : ((Call.ofValidate verbose target strict).refusal fault.message).toList =
      '[' :: ['r', 'e', 'd'] ++ ']' :: ([' ', ' '] ++ (escape target.toList ++ [' ', '—', ' ']) ++
        (fault.message.toList ++ redEnd)) := by
    simp [Call.ofValidate, escaped, escape_of_isPlain hp, redEnd]
  rw [← hm, List.append_assoc ([' ', ' '] ++ asShown target.toList)] at hline
  have hdashed : IsPlain ([' ', '—', ' '] ++ fault.message.toList) :=
    IsPlain.append (by decide) hp
  obtain ⟨front, hfront⟩ := hline.exists_line hdashed.inLine
  refine ⟨front, hfront.trans ?_⟩
  rw [String.ofList_append, String.ofList_toList, ← String.append_assoc]

/-- Who evaluates a list is told why the list is refused. -/
theorem exists_refusal (h : IsCall s arguments call) (fault : Fault) :
    ∃ text, display (call.refusal fault.message) = .ok text := by
  cases h with
  | validate =>
    obtain ⟨front, hfront⟩ := exists_refusal_ofValidate _ _ _ fault
    exact ⟨_, hfront⟩
  | evaluate =>
    have hp := isPlain_message fault
    have hline := displays_complaint hp (fun {_ _} hs _ =>
      hs.append_plain (a := "Invalid conditions: ".toList) (by decide))
    exact ⟨_, Displays.display_eq
      (by simpa [Call.ofEvaluate, escaped, escape_of_isPlain hp, redEnd] using hline)⟩

/-- How many conditions are of a kind. -/
def kindCount (kind : String) (conditions : List Condition) : Nat :=
  (conditions.filter fun c => c.check.kind = kind).length

/-- So many predicates and so many static conditions, in words. -/
def kindsText : Nat → Nat → String
  | 0, 0 => ""
  | p + 1, 0 => " (" ++ toString (p + 1) ++ " predicate)"
  | 0, q + 1 => " (" ++ toString (q + 1) ++ " static)"
  | p + 1, q + 1 => " (" ++ toString (p + 1) ++ " predicate, " ++ toString (q + 1) ++ " static)"

/-- What is said of so many conditions behind the target. -/
def totalText (n p q : Nat) : String := " — " ++ toString n ++ " conditions" ++ kindsText p q

theorem breakdown_eq (conditions : List Condition) :
    breakdown conditions =
      kindsText (kindCount "predicate" conditions) (kindCount "static" conditions) := by
  unfold breakdown
  extract_lets count parts
  have hcount (kind : String) : kindCount kind conditions = count kind := rfl
  rw [hcount, hcount]
  cases hp : count "predicate" <;> cases hs : count "static" <;>
    simp [parts, hp, hs, kindsText, commaSeparated, String.append_assoc]

theorem isPlain_totalText (n p q : Nat) : IsPlain (totalText n p q).toList := by
  have hkinds : IsPlain (kindsText p q).toList := by
    cases p <;> cases q
    · decide
    · exact isPlain_around (a := " (") (b := " static)") (by decide) (by decide) _
    · exact isPlain_around (a := " (") (b := " predicate)") (by decide) (by decide) _
    · rw [kindsText, String.toList_append, String.toList_append]
      exact ((isPlain_around (by decide) (by decide) _).append (isPlain_toString _)).append
        (by decide)
  rw [totalText, String.toList_append]
  exact (isPlain_around (by decide) (by decide) n).append hkinds

/-- Who validates a list in order is told how many conditions it has. -/
theorem exists_validLine (target : String) (conditions : List Condition) :
    ∃ front, display (validLine target conditions) =
      .ok (front ++ totalText conditions.length (kindCount "predicate" conditions)
        (kindCount "static" conditions) ++ "\n") := by
  generalize htotal : totalText conditions.length (kindCount "predicate" conditions)
    (kindCount "static" conditions) = total
  have hp : IsPlain total.toList := htotal ▸ isPlain_totalText _ _ _
  have htext (opened : List String) : Displays opened total.toList total.toList := by
    simpa using displays_nil.append_plain hp
  obtain ⟨front, hd⟩ := isStyleTag_green.exists_displays [] htext target.toList
  have hline := isStyleTag_green.displays_opening (hd.append_plain (a := [' ', ' ']) (by decide))
  have hm : (validLine target conditions).toList = '[' :: ['g', 'r', 'e', 'e', 'n'] ++ ']' ::
      ([' ', ' '] ++ (escape target.toList ++
        ('[' :: '/' :: ['g', 'r', 'e', 'e', 'n'] ++ ']' :: total.toList))) := by
    rw [← htotal, totalText, ← breakdown_eq]
    simp [validLine, escaped]
  rw [← hm, ← List.append_assoc] at hline
  obtain ⟨front, hfront⟩ := hline.exists_line hp.inLine
  exact ⟨front, by rw [hfront, String.ofList_toList]⟩

/-! ## The end of a run -/

theorem answer_of_unusable (h : Unusable s call.target f u) :
    ∃ text, display (complaintLine f) = .ok text ∧
      text.toList.count '\n' = f.message.toList.count '\n' + 1 ∧
      call.answer s = ⟨"", noteLines call.verbose u ++ text, .exit 2⟩ := by
  obtain ⟨text, hd, hc⟩ := exists_complaint f
  refine ⟨text, hd, hc, ?_⟩
  rw [Call.answer, (evaluatorAt_eq_fault_iff ..).2 h]
  dsimp only
  rw [Transcript.complaint, hd]
  rfl

theorem answer_of_refused (hc : IsCall s arguments call) {v : Value} {fault : Fault}
    (h : StandsAt s call.target (.value v) u) (hl : v.isListLike = true)
    (hf : validate v call.strict = .error fault) :
    ∃ text, display (call.refusal fault.message) = .ok text ∧
      call.answer s = ⟨"", noteLines call.verbose u ++ text, .exit 1⟩ := by
  obtain ⟨text, hd⟩ := exists_refusal hc fault
  refine ⟨text, hd, ?_⟩
  rw [Call.answer, evaluatorAt_of_list h hl, hf]
  dsimp only
  rw [Transcript.complaint, hd]
  rfl

theorem noteLines_start (verbose : Bool) (process : Variables) :
    noteLines verbose (.start process) = "" := by
  cases verbose <;> rfl

theorem answer_of_dotted (hp : IsParts call.target name path) (hd : name.startsWith "." = true)
    (hpath : path ≠ "") :
    call.answer s = ⟨"", "", .escaped (.raised (dottedError name))⟩ := by
  rw [Call.answer, evaluatorAt_of_dotted hp hd hpath]
  dsimp only
  rw [noteLines_start]
  rfl

theorem answer_of_found {number : Nat}
    (h : evaluatorAt s call.target call.fallback call.strict = (.ok number, u)) :
    call.answer s = call.work number u := by
  rw [Call.answer, h]

/-- Who validates an evaluator or a list in order is told how many conditions it has. -/
theorem work_ofValidate (verbose : Bool) (target : String) (strict : Bool) {number : Nat}
    {conditions : List Condition}
    (h : (u.evaluators[number]?.map Evaluator.conditions).getD [] = conditions) :
    ∃ front, (Call.ofValidate verbose target strict).work number u =
      ⟨front ++ totalText conditions.length (kindCount "predicate" conditions)
        (kindCount "static" conditions) ++ "\n", noteLines verbose u, .exit 0⟩ := by
  obtain ⟨front, hd⟩ := exists_validLine target conditions
  refine ⟨front, ?_⟩
  simp only [Call.ofValidate, h, Transcript.line, hd, Transcript.after, Transcript.exit,
    String.append_empty, String.empty_append]

/-- Where modules behave well, a target is unusable, or an evaluator is found, or what is taken for
a list is refused, or the name of the module starts with a dot. -/
theorem found_cases (ht : s.IsTame) (hm : IsMade s target) (fallback : Value) (strict : Bool) :
    (∃ f u, Unusable s target f u) ∨
      (∃ number u, evaluatorAt s target fallback strict = (.ok number, u)) ∨
      (∃ v u fault, StandsAt s target (.value v) u ∧ v.isListLike = true ∧
        validate v strict = .error fault) ∨
      ∃ name path, IsParts target name path ∧ name.startsWith "." = true ∧ path ≠ "" := by
  rcases target_cases ht target with hu | ⟨thing, u, hs, hgood⟩ | hdot
  · exact .inl hu
  · refine .inr ?_
    rcases Bool.or_eq_true_iff.1 hgood with he | hl
    · obtain ⟨number, t, hfound⟩ := evaluatorAt_of_evaluator hm hs he
      exact .inl ⟨number, t, hfound fallback strict⟩
    · cases thing with
      | value v =>
        have hfound := evaluatorAt_of_list hs hl fallback strict
        cases hv : validate v strict with
        | ok specs =>
          rw [hv] at hfound
          exact .inl ⟨_, _, hfound⟩
        | error fault => exact .inr (.inl ⟨v, u, fault, hs, hl, hv⟩)
      | _ => cases hl
  · exact .inr (.inr (.inr hdot))

/-- Only what is taken for a list is refused as one. -/
theorem isListLike_of_refused (ht : s.IsTame) (hm : IsMade s target) {reason : String}
    (h : evaluatorAt s target fallback strict = (.error (.list reason), u)) :
    ∃ v fault, StandsAt s target (.value v) u ∧ v.isListLike = true ∧
      validate v strict = .error fault ∧ reason = fault.message := by
  rcases found_cases ht hm fallback strict with
    ⟨f, t, hu⟩ | ⟨number, t, hf⟩ | ⟨v, t, fault, hs, hl, hv⟩ | ⟨name, path, hp, hd, hpath⟩
  · rw [(evaluatorAt_eq_fault_iff ..).2 hu] at h
    cases h
  · rw [hf] at h
    cases h
  · rw [evaluatorAt_of_list hs hl, hv] at h
    cases h
    exact ⟨v, fault, hs, hl, hv, rfl⟩
  · rw [evaluatorAt_of_dotted hp hd hpath] at h
    cases h

theorem withPlainEnds_err_eq_empty_iff (x : Transcript) :
    x.withPlainEnds.err = "" ↔ x.err = "" := by
  have hnil (cs : List Char) : Text.withPlainEnds cs = [] ↔ cs = [] := by
    fun_cases Text.withPlainEnds cs <;> simp
  have herr : x.withPlainEnds.err = String.ofList (Text.withPlainEnds x.err.toList) := rfl
  rw [herr, ← String.toList_inj, String.toList_ofList, String.toList_empty, hnil,
    String.toList_eq_nil_iff]

/-- A run on a target ends with exit code 2 exactly if the target is unusable, and then a line on
the second stream says why; only a request to exit with that code gives it too, without a line.
What is taken for a list, a sequence or a byte array, ends a run with exit code 1 and a line if it
is refused, and a byte array always is; a name with a dot in front ends it with an error. Where
modules behave well there is no other way: an evaluator is found, and who validates it is told so.
Only what is taken for a list is refused as one there. -/
theorem exit_two_iff_unusable (hs : shellRequest? s.process = none)
    (hc : IsCall s arguments call) :
    (∀ f u, Unusable s call.target f u → ∃ text, display (complaintLine f) = .ok text ∧
      text.toList.count '\n' = f.message.toList.count '\n' + 1 ∧
      run s arguments = Transcript.withPlainEnds ⟨"", noteLines call.verbose u ++ text, .exit 2⟩) ∧
    ((run s arguments).ending = .exit 2 → (∃ f u, Unusable s call.target f u) ∨
      ∃ out u, run s arguments =
        Transcript.withPlainEnds ⟨out, noteLines call.verbose u, .exit 2⟩) ∧
    (call.verbose = false → ((run s arguments).ending = .exit 2 ∧ (run s arguments).err ≠ "" ↔
      ∃ f u, Unusable s call.target f u)) ∧
    (∀ v u fault, StandsAt s call.target (.value v) u → v.isListLike = true →
      validate v call.strict = .error fault →
      ∃ text, display (call.refusal fault.message) = .ok text ∧
        run s arguments =
          Transcript.withPlainEnds ⟨"", noteLines call.verbose u ++ text, .exit 1⟩) ∧
    (∀ v : Value, v.isListLike = true ↔ v.items?.isSome = true ∨ ∃ os, v = .byteArray os) ∧
    (∀ os u, StandsAt s call.target (.value (.byteArray os)) u →
      ∃ text, display (call.refusal "Conditions must be an array") = .ok text ∧
        run s arguments =
          Transcript.withPlainEnds ⟨"", noteLines call.verbose u ++ text, .exit 1⟩) ∧
    (∀ name path, IsParts call.target name path → name.startsWith "." = true → path ≠ "" →
      run s arguments = ⟨"", "", .escaped (.raised (dottedError name))⟩) ∧
    (s.IsTame → IsMade s call.target → (∃ f u, Unusable s call.target f u) ∨
      (∃ number u, evaluatorAt s call.target call.fallback call.strict = (.ok number, u) ∧
        run s arguments = (call.work number u).withPlainEnds) ∨
      (∃ v u fault, StandsAt s call.target (.value v) u ∧ v.isListLike = true ∧
        validate v call.strict = .error fault) ∨
      ∃ name path, IsParts call.target name path ∧ name.startsWith "." = true ∧ path ≠ "") ∧
    (s.IsTame → IsMade s call.target → ∀ reason u,
      evaluatorAt s call.target call.fallback call.strict = (.error (.list reason), u) →
      ∃ v fault, StandsAt s call.target (.value v) u ∧ v.isListLike = true ∧
        validate v call.strict = .error fault ∧ reason = fault.message) ∧
    ∀ verbose target strict, call = .ofValidate verbose target strict → ∀ number u,
      ∃ text, call.work number u = ⟨text, noteLines verbose u, .exit 0⟩ := by
  have hrun : run s arguments = (call.answer s).withPlainEnds := by
    rw [run, answer_of_isCall hs hc]
  have hending : (run s arguments).ending = (call.answer s).ending := by
    rw [hrun]
    rfl
  refine ⟨fun f u hu => ?_, fun he => ?_, fun hv => ⟨?_, ?_⟩, fun v u fault h hl hf => ?_,
    Value.isListLike_iff, fun os u h => ?_, fun name path hp hd hpath => ?_, fun ht hm => ?_,
    fun ht hm reason u h => isListLike_of_refused ht hm h, ?_⟩
  · obtain ⟨text, hd, hcount, ha⟩ := answer_of_unusable hu
    exact ⟨text, hd, hcount, by rw [hrun, ha]⟩
  · rcases unusable_or_notes hc (hending ▸ he) with hu | ⟨out, u, ha⟩
    · exact .inl hu
    · exact .inr ⟨out, u, by rw [hrun, ha]⟩
  · rintro ⟨he, herr⟩
    rcases unusable_or_notes hc (hending ▸ he) with hu | ⟨out, u, ha⟩
    · exact hu
    · rw [hrun, Ne, withPlainEnds_err_eq_empty_iff, ha, hv] at herr
      exact absurd rfl herr
  · rintro ⟨f, u, hu⟩
    obtain ⟨text, -, hcount, ha⟩ := answer_of_unusable hu
    refine ⟨by rw [hending, ha], ?_⟩
    rw [hrun, Ne, withPlainEnds_err_eq_empty_iff, ha, hv]
    intro hempty
    have htext : text = "" := by simpa [noteLines] using hempty
    rw [htext] at hcount
    exact absurd hcount (by simp)
  · obtain ⟨text, hd, ha⟩ := answer_of_refused hc h hl hf
    exact ⟨text, hd, by rw [hrun, ha]⟩
  · obtain ⟨text, hd, ha⟩ := answer_of_refused hc h rfl (validate_of_no_sequence rfl _)
    exact ⟨text, hd, by rw [hrun, ha]⟩
  · rw [hrun, answer_of_dotted hp hd hpath]
    rfl
  · rcases found_cases ht hm call.fallback call.strict with
      hu | ⟨number, u, h⟩ | hrefused | hdot
    · exact .inl hu
    · exact .inr (.inl ⟨number, u, h, by rw [hrun, answer_of_found h]⟩)
    · exact .inr (.inr (.inl hrefused))
    · exact .inr (.inr (.inr hdot))
  · rintro verbose target strict rfl number u
    obtain ⟨front, hwork⟩ := work_ofValidate (u := u) verbose target strict rfl
    exact ⟨_, hwork⟩

/-- One module, and nothing else. -/
def moduleAlone (attributes : ModuleAttributes) : Setting := ⟨[("envs", .loaded attributes)], [], 8⟩

theorem imports_moduleAlone (attributes : ModuleAttributes) (path : String) (h : path ≠ "") :
    Imports (moduleAlone attributes) ("envs:" ++ path) "envs" path attributes (.start []) where
  parts := ⟨rfl, by decide⟩
  named := by decide
  goesOn := h
  load := by
    rw [Catalogue.load, if_neg (by simp)]
    rfl

/-- A module with a byte array. -/
def octetsAlone : Setting := moduleAlone [("octets", .byteArray [1])]

theorem lookup_octetsAlone {m : Module} (h : octetsAlone.catalogue.lookup name = some m) :
    m = .loaded [("octets", .byteArray [1])] := by
  rw [octetsAlone, moduleAlone, List.lookup_cons] at h
  split at h <;> cases h
  rfl

theorem isTame_octetsAlone : octetsAlone.IsTame where
  failing h := by cases lookup_octetsAlone h
  gives h a t := by
    cases lookup_octetsAlone h
    cases hm : (Thing.loaded [("octets", .byteArray [1])]).member? a with
    | none => exact ⟨_, t, ModuleAttributes.give_of_absent hm rfl _ t⟩
    | some thing => exact ⟨_, t, ModuleAttributes.give_of_member hm _ t⟩
  places h hp := by
    cases lookup_octetsAlone h
    cases hp
  spec h := by
    cases lookup_octetsAlone h
    rfl

theorem standsAt_octetsAlone :
    StandsAt octetsAlone "envs:octets" (.value (.byteArray [1])) (.start []) :=
  ⟨imports_moduleAlone _ "octets" (by decide), rfl⟩

theorem isMade_octetsAlone : IsMade octetsAlone "envs:octets" := by
  intro id setup t h
  have hoctets := resolve_of_standsAt standsAt_octetsAlone
  rw [resolve_of_standsAt h] at hoctets
  cases hoctets

/-- Of four targets that are good for nothing, two end a run with exit code 2. -/
theorem exit_two_iff_unusable_octetsAlone :
    (run octetsAlone ["validate", "envs"]).ending = .exit 2 ∧
    (run octetsAlone ["evaluate", "envs:other"]).ending = .exit 2 ∧
    ((run octetsAlone ["evaluate", "envs:octets"]).ending = .exit 1 ∧
      ∃ v fault, StandsAt octetsAlone "envs:octets" (.value v) (.start []) ∧
        v.isListLike = true ∧ validate v false = .error fault) ∧
    run octetsAlone ["validate", ".envs:octets"] =
      ⟨"", "", .escaped (.raised (dottedError ".envs"))⟩ := by
  refine ⟨?_, ?_, ?_, ?_⟩
  · have hcall : IsCall octetsAlone ["validate", "envs"] _ := .validate rfl
    obtain ⟨htwo, -⟩ := exit_two_iff_unusable rfl hcall
    obtain ⟨text, -, -, hrun⟩ := htwo _ _ (.malformed fun name path hp => by
      cases cutOf?_eq_some_iff_parts.2 hp)
    rw [hrun]
    rfl
  · have hcall : IsCall octetsAlone ["evaluate", "envs:other"] _ := .evaluate rfl rfl rfl
    obtain ⟨htwo, -⟩ := exit_two_iff_unusable rfl hcall
    obtain ⟨text, -, -, hrun⟩ := htwo _ _
      (.noAttribute (imports_moduleAlone _ "other" (by decide)) rfl)
    rw [hrun]
    rfl
  · have hcall : IsCall octetsAlone ["evaluate", "envs:octets"] _ := .evaluate rfl rfl rfl
    obtain ⟨-, -, -, -, -, hone, -, -, hrefused, -⟩ := exit_two_iff_unusable rfl hcall
    obtain ⟨text, -, hrun⟩ := hone _ _ standsAt_octetsAlone
    obtain ⟨v, fault, hv, hl, hf, -⟩ := hrefused isTame_octetsAlone isMade_octetsAlone _ _
      (evaluatorAt_of_list standsAt_octetsAlone rfl _ _)
    rw [hrun]
    exact ⟨rfl, v, fault, hv, hl, hf⟩
  · have hcall : IsCall octetsAlone ["validate", ".envs:octets"] _ := .validate rfl
    obtain ⟨-, -, -, -, -, -, hdot, -⟩ := exit_two_iff_unusable rfl hcall
    exact hdot ".envs" "octets" ⟨rfl, by decide⟩ (by simp) (by decide)

end NamedConditions.Command
