import NamedConditions.Proofs.Command.Exit
import NamedConditions.Proofs.Condition.Faults
/-!
What validating a target tells. A sequence is validated entry by entry, under the strict rule if
that is asked for; an evaluator that stands at the target was validated when it was made, and is not
validated again. Who validates either is told how many conditions there are and how many of each
kind; who validates a list with an entry at fault is told the first fault.

Main statement (`validate_tells_target`): the exit code and the line for a sequence are those of its
entries under the rule that was asked for, and those for an evaluator are the same under both rules.
-/
namespace NamedConditions

/-- An entry is sound if a specification stands for it, which has to be strict under the strict
rule. -/
theorem Value.isSound_iff (strict : Bool) (entry : Value) :
    entry.IsSound strict ↔
      ∃ x : Spec, x.StandsFor entry ∧ (strict = true → x.isStrict = true) := by
  constructor
  · intro h
    rcases Spec.ofEntryIn_cases strict 0 entry with ⟨x, -, hx, -⟩ | ⟨k, hk, -⟩
    · refine ⟨x, hx, fun hs => ?_⟩
      cases hstrict : x.isStrict with
      | true => rfl
      | false => exact absurd ((hx.in_iff .badCheck).2 ⟨rfl, by simp [hs, hstrict]⟩) (h _)
    · exact absurd hk (h.not_isFirst k)
  · rintro ⟨x, hx, hs⟩ k hk
    obtain ⟨-, hbad⟩ := (hx.in_iff k).1 hk
    rw [Bool.and_eq_true, Bool.not_eq_true'] at hbad
    rw [hs hbad.1] at hbad
    cases hbad.2

namespace Spec

/-- How many specifications have a check that is called. -/
def predicateCount (specs : List Spec) : Nat := specs.countP fun x => x.check.isCallable

/-- How many specifications have a check that is a value. -/
def staticCount (specs : List Spec) : Nat := specs.countP fun x => !x.check.isCallable

theorem predicateCount_add_staticCount (specs : List Spec) :
    predicateCount specs + staticCount specs = specs.length := by
  rw [List.length_eq_countP_add_countP fun x : Spec => x.check.isCallable]
  simp only [predicateCount, staticCount, Bool.not_eq_true, Bool.decide_eq_false]

end Spec

namespace Command

open Markup

variable {s : Setting} {arguments : List String} {verbose : Bool} {target : String}
  {strict : Bool} {u : Session}

/-! ## Counting -/

theorem kind_ofValue (v : Value) :
    (Check.ofValue v).kind = if v.isCallable then "predicate" else "static" := by
  rw [← Value.isSome_callable?, Check.ofValue]
  cases v.callable? <;> rfl

/-- The conditions of specifications are of the kinds of their checks. -/
theorem kindCount_ofSpecs (specs : List Spec) :
    kindCount "predicate" (Condition.ofSpecs specs) = Spec.predicateCount specs ∧
      kindCount "static" (Condition.ofSpecs specs) = Spec.staticCount specs := by
  have hfrom : ∀ (index : Nat),
      kindCount "predicate" (Condition.ofSpecsFrom index specs) = Spec.predicateCount specs ∧
        kindCount "static" (Condition.ofSpecsFrom index specs) = Spec.staticCount specs := by
    unfold kindCount Spec.predicateCount Spec.staticCount
    induction specs with
    | nil => exact fun _ => ⟨rfl, rfl⟩
    | cons x specs ih =>
      intro index
      obtain ⟨hp, hq⟩ := ih (index + 1)
      have hkind : (Condition.ofSpec index x).check.kind =
          if x.check.isCallable then "predicate" else "static" := kind_ofValue x.check
      rw [Condition.ofSpecsFrom, List.filter_cons, List.filter_cons, List.countP_cons,
        List.countP_cons, hkind]
      cases x.check.isCallable <;> simp [hp, hq]
  exact hfrom 0

/-! ## Ends of streams -/

/-- Making the ends of lines plain keeps what a text ends with, if there is no carriage return in it
and it does not start with an end of line. -/
theorem exists_withPlainEnds {b : List Char} (hb : '\r' ∉ b) (hn : b.head? ≠ some '\n')
    (a : List Char) : ∃ front, Text.withPlainEnds (a ++ b) = front ++ b := by
  fun_induction Text.withPlainEnds a with
  | case1 a ih =>
    obtain ⟨front, hf⟩ := ih
    exact ⟨'\n' :: front, congrArg ('\n' :: ·) hf⟩
  | case2 c a hc ih =>
    obtain ⟨front, hf⟩ := ih
    refine ⟨c :: front, ?_⟩
    rw [List.cons_append, Text.withPlainEnds, hf, List.cons_append]
    -- a return at the end of the first text is not followed by an end of line
    rintro rest rfl hrest
    cases a with
    | nil => exact hn (by rw [← List.nil_append b, hrest]; rfl)
    | cons d a => exact hc a rfl (by rw [(List.cons.inj hrest).1])
  | case3 => exact ⟨[], Text.withPlainEnds_of_not_mem hb⟩

/-- What a stream ends with that is a plain line behind a blank. -/
theorem exists_plainEnds {line : String} (hp : IsPlain line.toList)
    (hblank : line.toList.head? = some ' ') (front : String) :
    ∃ front', String.ofList (Text.withPlainEnds (front ++ line ++ "\n").toList) =
      front' ++ line ++ "\n" := by
  have hr : '\r' ∉ line.toList ++ ['\n'] := by
    rw [List.mem_append, not_or]
    exact ⟨hp.inLine.not_mem (by decide), by decide⟩
  have hn : (line.toList ++ ['\n']).head? ≠ some '\n' := by
    rw [List.head?_append, hblank]
    decide
  obtain ⟨front', hf⟩ := exists_withPlainEnds hr hn front.toList
  refine ⟨String.ofList front', ?_⟩
  rw [String.toList_append, String.toList_append, List.append_assoc]
  have hend : "\n".toList = ['\n'] := rfl
  rw [hend, hf, String.ofList_append, String.ofList_append, String.ofList_toList,
    ← String.append_assoc]

/-! ## Runs -/

/-- A run that validates and ends with a line about so many conditions. -/
def TellsTotal (x : Transcript) (specs : List Spec) : Prop :=
  x.ending = .exit 0 ∧ ∃ front, x.out = front ++
    totalText specs.length (Spec.predicateCount specs) (Spec.staticCount specs) ++ "\n"

/-- A run that refuses a list and ends with what is wrong with it. -/
def TellsFault (x : Transcript) (i : Nat) (k : EntryFault) : Prop :=
  x.ending = .exit 1 ∧ x.out = "" ∧ ∃ front, x.err =
    front ++ (" — Condition at index " ++ toString i ++ " " ++ k.text) ++ "\n"

theorem head?_totalText (n p q : Nat) : (totalText n p q).toList.head? = some ' ' := by
  rw [totalText, String.append_assoc, String.append_assoc, String.toList_append]
  rfl

theorem tellsTotal_work (verbose : Bool) (target : String) (strict : Bool) {number : Nat}
    {e : Evaluator} (he : u.evaluators[number]? = some e) :
    TellsTotal ((Call.ofValidate verbose target strict).work number u).withPlainEnds e.specs := by
  have hconditions : (u.evaluators[number]?.map Evaluator.conditions).getD [] =
      Condition.ofSpecs e.specs := by
    rw [he]
    rfl
  obtain ⟨front, hwork⟩ := work_ofValidate verbose target strict hconditions
  obtain ⟨hp, hq⟩ := kindCount_ofSpecs e.specs
  rw [hwork, hp, hq, Condition.length_ofSpecs]
  exact ⟨rfl, exists_plainEnds (isPlain_totalText _ _ _) (head?_totalText _ _ _) front⟩

theorem run_of_validate (hs : shellRequest? s.process = none)
    (h : parse arguments = .ok (verbose, .validate target strict)) :
    run s arguments = ((Call.ofValidate verbose target strict).answer s).withPlainEnds := by
  rw [run, answer_of_isCall hs (.validate h)]

theorem answer_ofValidate {number : Nat}
    (h : evaluatorAt s target (.list []) strict = (.ok number, u)) :
    (Call.ofValidate verbose target strict).answer s =
      (Call.ofValidate verbose target strict).work number u := answer_of_found h

/-- A sequence without an entry at fault is told to be in order. -/
theorem tellsTotal_of_readInto (hs : shellRequest? s.process = none)
    (h : parse arguments = .ok (verbose, .validate target strict)) {v : Value}
    {entries : List Value} (hv : StandsAt s target (.value v) u) (hi : v.items? = some entries)
    {specs : List Spec} (hr : ReadInto strict entries specs) :
    TellsTotal (run s arguments) specs := by
  have hvalid : validate v strict = .ok specs := by
    have hok := (validated_eq_ok_iff v strict specs).2 ⟨entries, hi, hr⟩
    rw [validated] at hok
    cases hf : validate v strict with
    | ok specs' =>
      rw [hf] at hok
      cases hok
      rfl
    | error fault =>
      rw [hf] at hok
      cases hok
  have hlist : v.isListLike = true := (Value.isListLike_iff v).2 (.inl (by rw [hi]; rfl))
  have hfound := evaluatorAt_of_list hv hlist (.list []) strict
  rw [hvalid] at hfound
  rw [run_of_validate hs h, answer_ofValidate hfound]
  have htells := tellsTotal_work verbose target strict
    (Session.getElem?_withMade .process specs (some (.list [])) strict u)
  exact htells

/-- A sequence with an entry at fault is refused for the first fault. -/
theorem tellsFault_of_firstFault (hs : shellRequest? s.process = none)
    (h : parse arguments = .ok (verbose, .validate target strict)) {v : Value}
    {entries : List Value} (hv : StandsAt s target (.value v) u) (hi : v.items? = some entries)
    {i : Nat} {k : EntryFault} (hk : FirstFault strict entries i k) :
    TellsFault (run s arguments) i k := by
  have hrefused : validate v strict = .error (k.toFault i) := by
    rw [validate_of_items? hi]
    rcases Spec.ofEntriesFrom_cases strict 0 entries with ⟨specs, hread, -⟩ | ⟨i', k', hk', hr⟩
    · exact absurd hk hread.not_firstFault
    · obtain ⟨rfl, rfl⟩ := hk.unique hk'
      rw [hr, Nat.zero_add]
  have hlist : v.isListLike = true := (Value.isListLike_iff v).2 (.inl (by rw [hi]; rfl))
  have hfound := evaluatorAt_of_list hv hlist (.list []) strict
  rw [hrefused] at hfound
  obtain ⟨front, hd⟩ := exists_refusal_ofValidate verbose target strict (k.toFault i)
  have hanswer : (Call.ofValidate verbose target strict).answer s =
      ⟨"", noteLines verbose u ++ (front ++ " — " ++ (k.toFault i).message ++ "\n"), .exit 1⟩ := by
    simp only [Call.answer, Call.ofValidate] at hd ⊢
    rw [hfound]
    dsimp only
    rw [Transcript.complaint, hd]
    rfl
  rw [run_of_validate hs h, hanswer]
  refine ⟨rfl, rfl, ?_⟩
  have hline : noteLines verbose u ++ (front ++ " — " ++ (k.toFault i).message ++ "\n") =
      noteLines verbose u ++ front ++ (" — Condition at index " ++ toString i ++ " " ++ k.text) ++
        "\n" := by
    have hdash : " — Condition at index " = " — " ++ "Condition at index " := rfl
    rw [EntryFault.message_toFault, hdash]
    simp only [String.append_assoc]
  have hp : IsPlain (" — Condition at index " ++ toString i ++ " " ++ k.text).toList := by
    rw [String.toList_append]
    exact (isPlain_around (by decide) (by decide) i).append (by cases k <;> decide)
  obtain ⟨front', hf⟩ := exists_plainEnds hp (by simp) (noteLines verbose u ++ front)
  refine ⟨front', ?_⟩
  rw [← hf, ← hline]
  rfl

/-- What is told of an evaluator: it has one specification an entry of the list that it was made
from, under the rule that held then, and these are counted. -/
theorem exists_evaluator_of_setup (hs : shellRequest? s.process = none)
    (h : parse arguments = .ok (verbose, .validate target strict)) {id number : Nat}
    {conditions fallback : Option Value} {strict₀ : Bool} {source : Source} {t : Session}
    (hv : StandsAt s target
      (.value (.object id (.evaluatorOf (.mk conditions fallback strict₀ source)))) u)
    (hmake : Session.make (.mk conditions fallback strict₀ source) u = .ok number t) :
    ∃ e entries, t.evaluators[number]? = some e ∧
      (conditions.getD (.tuple [])).items? = some entries ∧ ReadInto strict₀ entries e.specs ∧
      TellsTotal (run s arguments) e.specs := by
  obtain ⟨specs, hvalid, hspecs⟩ := Session.specs?_of_make hmake
  obtain ⟨e, he, rfl⟩ := Option.map_eq_some_iff.1 hspecs
  obtain ⟨entries, hi, hread⟩ := (validated_eq_ok_iff _ _ _).1 hvalid
  refine ⟨e, entries, he, hi, hread, ?_⟩
  rw [run_of_validate hs h, answer_ofValidate (evaluatorAt_of_setup hv hmake _ _)]
  exact tellsTotal_work verbose target strict he

/-- A sequence ends a run with exit code 0 exactly if it has no entry at fault, under the strict
rule if that is asked for. The line then says how many conditions there are and how many of each
kind, or else what is wrong with the first entry at fault. An evaluator, which was validated when it
was made, ends the run with exit code 0 and such a line whether or not the strict rule is asked
for; the line counts what the list of the evaluator was read into. -/
theorem validate_tells_target (hs : shellRequest? s.process = none)
    (h : parse arguments = .ok (verbose, .validate target strict)) :
    (∀ (v : Value) (entries : List Value) (u : Session), StandsAt s target (.value v) u →
      v.items? = some entries →
      ((run s arguments).ending = .exit 0 ↔ ∀ entry ∈ entries, entry.IsSound strict) ∧
      ((∃ specs, ReadInto strict entries specs ∧ TellsTotal (run s arguments) specs) ∨
        ∃ i k, FirstFault strict entries i k ∧ TellsFault (run s arguments) i k)) ∧
    (∀ (thing : Thing) (u : Session), StandsAt s target thing u → thing.isEvaluator = true →
      IsMade s target →
      ∃ number t, (∀ strict', evaluatorAt s target (.list []) strict' = (.ok number, t)) ∧
        (run s arguments).ending = .exit 0 ∧
        (∀ e, t.evaluators[number]? = some e → TellsTotal (run s arguments) e.specs) ∧
        (∀ id conditions fallback strict₀ source, thing =
            .value (.object id (.evaluatorOf (.mk conditions fallback strict₀ source))) →
          ∃ e entries, t.evaluators[number]? = some e ∧
            (conditions.getD (.tuple [])).items? = some entries ∧
            ReadInto strict₀ entries e.specs ∧ TellsTotal (run s arguments) e.specs) ∧
        ∀ n count keys, thing = .value (.evaluator n count keys) → n = number ∧ t = u) ∧
    (∀ entry : Value, entry.IsSound strict ↔
      ∃ x : Spec, x.StandsFor entry ∧ (strict = true → x.isStrict = true)) ∧
    ∀ specs : List Spec, Spec.predicateCount specs + Spec.staticCount specs = specs.length := by
  refine ⟨fun v entries u hv hi => ?_, fun thing u hthing he hm => ?_, Value.isSound_iff strict,
    Spec.predicateCount_add_staticCount⟩
  · rcases Spec.ofEntriesFrom_cases strict 0 entries with ⟨specs, hr, -⟩ | ⟨i, k, hk, -⟩
    · have htells := tellsTotal_of_readInto hs h hv hi hr
      refine ⟨iff_of_true htells.1 fun entry hentry => ?_, .inl ⟨specs, hr, htells⟩⟩
      obtain ⟨j, hj⟩ := List.mem_iff_getElem?.1 hentry
      exact hr.sound j entry hj
    · have htells := tellsFault_of_firstFault hs h hv hi hk
      refine ⟨iff_of_false (fun hzero => ?_) fun hsound => ?_, .inr ⟨i, k, hk, htells⟩⟩
      · rw [htells.1] at hzero
        cases hzero
      · obtain ⟨entry, hentry, hfirst⟩ := hk.fault
        exact (hsound entry (List.mem_of_getElem? hentry)).not_isFirst k hfirst
  · obtain ⟨number, t, hfound⟩ := evaluatorAt_of_evaluator hm hthing he
    refine ⟨number, t, fun strict' => hfound (.list []) strict', ?_, fun e hnumber => ?_, ?_, ?_⟩
    · obtain ⟨front, hwork⟩ := work_ofValidate (u := t) verbose target strict rfl
      rw [run_of_validate hs h, answer_ofValidate (hfound _ _), hwork]
      rfl
    · rw [run_of_validate hs h, answer_ofValidate (hfound _ _)]
      exact tellsTotal_work verbose target strict hnumber
    · rintro id conditions fallback strict₀ source rfl
      obtain ⟨n, t', hmake⟩ := hm _ _ _ hthing
      cases (hfound (.list []) strict).symm.trans (evaluatorAt_of_setup hthing hmake _ _)
      exact exists_evaluator_of_setup hs h hthing hmake
    · rintro n count keys rfl
      cases (hfound (.list []) strict).symm.trans (evaluatorAt_of_number hthing _ _)
      exact ⟨rfl, rfl⟩

/-- A condition whose check is a number. -/
def loose : Spec := ⟨.int 0, .str "loose"⟩

/-- A module with a list that holds a loose condition, and an evaluator made from the same list. -/
def looseTwice : Setting :=
  moduleAlone [("conditions", .list [loose.toValue]),
    ("ready", .object 0 (.evaluatorOf (.mk (some (.list [loose.toValue])) none false .process)))]

theorem standsAt_looseList :
    StandsAt looseTwice "envs:conditions" (.value (.list [loose.toValue])) (.start []) :=
  ⟨imports_moduleAlone _ "conditions" (by decide), rfl⟩

theorem standsAt_looseReady :
    StandsAt looseTwice "envs:ready" (.value (.object 0 (.evaluatorOf
      (.mk (some (.list [loose.toValue])) none false .process)))) (.start []) :=
  ⟨imports_moduleAlone _ "ready" (by decide), rfl⟩

theorem isMade_looseReady : IsMade looseTwice "envs:ready" := by
  intro id setup t h
  have hready := resolve_of_standsAt standsAt_looseReady
  rw [resolve_of_standsAt h] at hready
  cases hready
  exact ⟨_, _, rfl⟩

/-- The strict rule refuses the list with the loose condition, and not the evaluator with it. -/
theorem validate_tells_target_loose :
    (run looseTwice ["validate", "envs:conditions", "--strict"]).ending ≠ .exit 0 ∧
    (run looseTwice ["validate", "envs:conditions"]).ending = .exit 0 ∧
    (run looseTwice ["validate", "envs:ready", "--strict"]).ending = .exit 0 := by
  have hsound (strict : Bool) : loose.toValue.IsSound strict ↔ strict = false := by
    rw [Value.isSound_iff]
    constructor
    · rintro ⟨x, hx, hstrict⟩
      cases hx.unique (.itself rfl)
      cases strict with
      | false => rfl
      | true => exact absurd (hstrict rfl) (by decide)
    · rintro rfl
      exact ⟨loose, .itself rfl, nofun⟩
  refine ⟨?_, ?_, ?_⟩
  · obtain ⟨hlist, -⟩ := validate_tells_target (s := looseTwice) rfl
      (show parse ["validate", "envs:conditions", "--strict"] =
        .ok (false, .validate "envs:conditions" true) from rfl)
    rw [Ne, (hlist _ _ _ standsAt_looseList rfl).1]
    exact fun h => Bool.noConfusion ((hsound true).1 (h _ List.mem_cons_self))
  · obtain ⟨hlist, -⟩ := validate_tells_target (s := looseTwice) rfl
      (show parse ["validate", "envs:conditions"] =
        .ok (false, .validate "envs:conditions" false) from rfl)
    refine (hlist _ _ _ standsAt_looseList rfl).1.2 fun entry h => ?_
    cases List.mem_singleton.1 h
    exact (hsound false).2 rfl
  · obtain ⟨-, hready, -⟩ := validate_tells_target (s := looseTwice) rfl
      (show parse ["validate", "envs:ready", "--strict"] =
        .ok (false, .validate "envs:ready" true) from rfl)
    obtain ⟨number, t, -, hzero, -⟩ := hready _ _ standsAt_looseReady rfl isMade_looseReady
    exact hzero

end Command

end NamedConditions
