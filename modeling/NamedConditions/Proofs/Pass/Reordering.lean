import NamedConditions.Proofs.Pass.Alongside
import NamedConditions.Proofs.Pass.Concatenation
import NamedConditions.Proofs.Session.Confined
/-!
Conditions in another order. Where what every predicate comes to depends on the context alone, and
none of them writes it, no condition sees the ones before it. A list in another order then has the
same conditions that hold, in that order.

Main statement (`passes_compose`): what passes over concatenated lists come to, that nothing depends
on the conditions behind, and what evaluating answers after a permutation.
-/
namespace NamedConditions

/-! ## Checks by themselves -/

theorem Check.ofValue_of_not_callable {v : Value} (h : v.isCallable = false) :
    ofValue v = static v := by
  have hnone : v.callable? = none := by
    rw [← Option.not_isSome_iff_eq_none, Value.isSome_callable?, h]
    exact Bool.false_ne_true
  rw [ofValue, hnone]

namespace Spec

/-- On every frame in which a value is received the check comes to a truth, which is the same
whatever else there is, and the value is received still. -/
def DecidesOn (p : Passes) (v : Value) (sp : Spec) : Prop :=
  ∃ holds, ∀ f : Frame, f.received = v → ∃ w g,
    Session.runCheck p (.ofValue sp.check) f = .ok w g ∧ w.truth = .ok holds ∧ g.received = v

/-- Whether the check comes to something true on a frame. -/
def holdsOn (p : Passes) (f : Frame) (sp : Spec) : Bool :=
  Verdict.holds (endResult (Session.runCheck p (.ofValue sp.check) f))

/-- The names of the specifications whose checks come to something true on a frame. -/
def namesOn (p : Passes) (f : Frame) (specs : List Spec) : List Value :=
  (specs.filter (holdsOn p f)).map (·.name)

variable {p : Passes} {v : Value} {sp : Spec}

/-- A condition that is decided by what is received is decided alike wherever that is received. -/
theorem DecidesOn.decide (h : sp.DecidesOn p v) {f₀ f : Frame} (h₀ : f₀.received = v)
    (hf : f.received = v) (i : Nat) :
    (Session.decide p (.ofSpec i sp) f).2 = .decided (sp.holdsOn p f₀) ∧
      (Session.decide p (.ofSpec i sp) f).1.received = v := by
  obtain ⟨holds, hall⟩ := h
  obtain ⟨w₀, g₀, hrun₀, hw₀, -⟩ := hall f₀ h₀
  obtain ⟨w, g, hrun, hw, hg⟩ := hall f hf
  have hholds : sp.holdsOn p f₀ = holds := by
    rw [holdsOn, hrun₀, endResult, Verdict.holds, hw₀]
    rfl
  rw [Session.decide_eq, Condition.ofSpec, hrun, hholds]
  exact ⟨Verdict.judge_of_truth sp.name hw, hg⟩

/-- A static check is decided by its own truth. -/
theorem decidesOn_of_truth (hs : sp.check.isCallable = false) {b : Bool}
    (ht : sp.check.truth = .ok b) : sp.DecidesOn p v := by
  refine ⟨b, fun f hf => ⟨sp.check, f, ?_, ht, hf⟩⟩
  rw [Check.ofValue_of_not_callable hs]
  rfl

/-- Looking a key up is decided by what is received. -/
theorem decidesOn_lookUp {es : Entries} {key fallback : Value} (hk : key.keyRefusal? = none)
    {b : Bool} (hb : ((Layer.find? es key).getD fallback).truth = .ok b) (p : Passes) (id : Nat)
    (truth : Option Value) (name : Value) :
    DecidesOn p (.dict es) ⟨.object id (.predicate truth (.lookUp key fallback)), name⟩ := by
  refine ⟨b, fun f hf => ?_⟩
  rcases f with ⟨s, c | text, ws⟩
  · have hes : s.store.values c = es := Value.dict.inj hf
    refine ⟨_, ⟨s, .context c, ws⟩, ?_, hb, hf⟩
    change Expr.value p (.lookUp key fallback) _ = _
    simp only [Expr.value, Expr.run, Bind.bind, EStateM.bind, Frame.lookUp?_run hk, pure,
      EStateM.pure, Run.get_run]
    rw [← hes, Store.values, Layer.find?_mapStored]
    cases Layer.find? c key <;> rfl
  · cases hf

end Spec

/-! ## Loops -/

namespace Pass

variable {σ : Type} {decide : Condition → σ → σ × Verdict}

/-- Where all conditions are decided alike in the states that the loop goes through, it gives the
names of those that hold, in their order. -/
theorem collect_of_invariant {P : σ → Prop} {hold : Spec → Bool} {specs : List Spec}
    (h : ∀ sp ∈ specs, ∀ i s, P s →
      (decide (.ofSpec i sp) s).2 = .decided (hold sp) ∧ P (decide (.ofSpec i sp) s).1)
    (i : Nat) {s : σ} (hs : P s) :
    ∃ t, collect decide (Condition.ofSpecsFrom i specs) s =
      .ok ((specs.filter hold).map (·.name)) t := by
  induction specs generalizing i s with
  | nil => exact ⟨s, rfl⟩
  | cons sp specs ih =>
    obtain ⟨hv, hp⟩ := h sp List.mem_cons_self i s hs
    obtain ⟨t, ht⟩ := ih (fun x hx => h x (List.mem_cons_of_mem sp hx)) (i + 1) hp
    refine ⟨t, ?_⟩
    rw [Condition.ofSpecsFrom, collect_cons, hv]
    dsimp only
    rw [ht, List.filter_cons]
    cases hold sp <;> rfl

/-- Where `collect` gives names, every condition was decided in some state. -/
theorem decided_of_collect {specs : List Spec} {i : Nat} {s t : σ} {names : List Value}
    (h : collect decide (Condition.ofSpecsFrom i specs) s = .ok names t) :
    ∀ sp ∈ specs, ∃ j u b, (decide (.ofSpec j sp) u).2 = .decided b := by
  induction specs generalizing i s names with
  | nil => exact nofun
  | cons sp specs ih =>
    obtain ⟨b, rest, hv, hrest, -⟩ := collect_cons_ok h
    exact List.forall_mem_cons.2 ⟨⟨i, s, b, hv⟩, ih hrest⟩

end Pass

/-! ## Passes -/

namespace Session

variable {p : Passes} {argument : PassArgument} {s s₁ t : Session} {c : Context} {e : Evaluator}
  {number : Nat} {answer : Answer}

/-- Where evaluating answers, static checks have truths, so they are decided by these. -/
theorem decidesOn_of_evaluate (he : s.evaluators[number]? = some e)
    (h : evaluate p number argument s = .ok answer t) {v : Value}
    (hp : ∀ sp ∈ e.specs, sp.check.isCallable = true → sp.DecidesOn p v) :
    ∀ sp ∈ e.specs, sp.DecidesOn p v := by
  obtain ⟨e', c', s', names, g, he', -, hcol, -⟩ := exists_of_evaluate_eq_ok h
  cases he.symm.trans he'
  intro sp hsp
  cases hs : sp.check.isCallable with
  | true => exact hp sp hsp hs
  | false =>
    obtain ⟨j, u, b, hb⟩ := Pass.decided_of_collect hcol sp hsp
    rw [Condition.ofSpec, Check.ofValue_of_not_callable hs, decide_static] at hb
    dsimp only at hb
    cases ht : sp.check.truth with
    | ok b' => exact Spec.decidesOn_of_truth hs ht
    | error error =>
      have hend : Verdict.ending? (.ok sp.check) = some (.failure (.raised error)) := by
        rw [Verdict.ending?, ht]
      obtain ⟨stop, hstop⟩ := Verdict.exists_stop?_judge hend sp.name
      rw [hb] at hstop
      cases hstop

/-- Where all checks are decided by what is received, evaluating answers with those that hold. -/
theorem evaluate_of_decidesOn (he : s.evaluators[number]? = some e)
    (hc : effectiveContext e argument s = .ok c s₁) {f : Frame}
    (hf : f.received = .dict (s₁.store.values c))
    (hd : ∀ sp ∈ e.specs, sp.DecidesOn p (.dict (s₁.store.values c))) :
    ∃ t, evaluate p number argument s =
      .ok (.ofNames e.fallback (Spec.namesOn p f e.specs)) t := by
  have hstep : ∀ sp ∈ e.specs, ∀ i (g : Frame), g.received = .dict (s₁.store.values c) →
      (decide p (.ofSpec i sp) g).2 = .decided (sp.holdsOn p f) ∧
        (decide p (.ofSpec i sp) g).1.received = .dict (s₁.store.values c) :=
    fun sp hsp i g hg => (hd sp hsp).decide hf hg i
  obtain ⟨g, hcol⟩ := Pass.collect_of_invariant hstep 0
    (s := passFrame "envname.evaluate" e.conditions.length c s₁) rfl
  rw [← Condition.ofSpecs, ← Evaluator.conditions] at hcol
  rw [evaluate_run he hc, hcol]
  exact ⟨_, rfl⟩

/-- Explaining gives a report if all conditions settle. -/
theorem exists_report_of_settles (he : s.evaluators[number]? = some e)
    (hc : effectiveContext e argument s = .ok c s₁) (h : ∀ x ∈ explained p e c s₁, Settles p x) :
    ∃ report t, explain p number argument s = .ok report t := by
  rcases explain_trail (p := p) he hc with ⟨t, hs, -, -⟩ | ⟨x, hx, stop, hv, -⟩
  · exact ⟨_, t, hs⟩
  · refine absurd ?_ (h x hx).surveyNext
    rw [Pass.surveyNext, hv]

/-- Lists behind one another are valid together if they are valid by themselves. Explaining the
conditions of both gives a report if every check comes to a truth or to a failure that is
attributed; the report is that of the first conditions, and behind it what the others come to in the
state that the first ones left, in places that are so many later. What a condition comes to, in
either pass, does not depend on the conditions behind it. And if predicates are decided by the
context that the pass receives, evaluating them answers, unless a static check has no truth, and in
another order it answers with the same ones, in that order. -/
theorem passes_compose (depth : Nat) (argument : PassArgument) (s : Session) :
    (∀ (first next both : Value) (xs ys : List Value) (strict : Bool) (a b : List Spec),
      first.items? = some xs → next.items? = some ys → both.items? = some (xs ++ ys) →
      validate first strict = .ok a → validate next strict = .ok b →
      validate both strict = .ok (a ++ b)) ∧
    (∀ number number₁ e e₁ more c s₁, s.evaluators[number]? = some e →
      s.evaluators[number₁]? = some e₁ → e.specs = e₁.specs ++ more → e.source = e₁.source →
      e.accumulated = e₁.accumulated → effectiveContext e argument s = .ok c s₁ →
      ((∀ x ∈ explained (passes depth) e c s₁, Settles (passes depth) x) →
        ∃ report t, explain (passes depth) number argument s = .ok report t) ∧
      ∀ report t, explain (passes depth) number argument s = .ok report t →
        ∃ report₁ t₁ f found g, explain (passes depth) number₁ argument s = .ok report₁ t₁ ∧
          Pass.survey (decide (passes depth)) markFailure e₁.conditions
            (passFrame "envname.explain" e₁.conditions.length c s₁) = .ok report₁.outcomes f ∧
          Pass.survey (decide (passes depth)) markFailure (Condition.ofSpecs more) f =
            .ok found g ∧
          report₁.outcomes.length = e₁.specs.length ∧
          report.outcomes = report₁.outcomes ++ found.map (Outcome.later e₁.specs.length) ∧
          report.matchedNames = report₁.matchedNames ++ Pass.holding found ∧
          (report.defaultUsed = true ↔ report₁.matchedNames = [] ∧ Pass.holding found = []) ∧
          SameButTrace (g.session.closeSpan report.matchedNames.length) t) ∧
    (∀ (e e' : Evaluator) (n : Nat) (c : Context) (s₁ : Session),
      e.specs.take n = e'.specs.take n →
      verdicts (passes depth) ((explained (passes depth) e c s₁).take n) =
          verdicts (passes depth) ((explained (passes depth) e' c s₁).take n) ∧
        verdicts (passes depth) ((evaluated (passes depth) e c s₁).take n) =
          verdicts (passes depth) ((evaluated (passes depth) e' c s₁).take n)) ∧
    ∀ number number' e e' c s₁, s.evaluators[number]? = some e →
      s.evaluators[number']? = some e' → e'.specs.Perm e.specs → e'.source = e.source →
      e'.accumulated = e.accumulated → effectiveContext e argument s = .ok c s₁ →
      (∀ sp ∈ e.specs, sp.check.isCallable = true →
        sp.DecidesOn (passes depth) (.dict (s₁.store.values c))) →
      ((∀ sp ∈ e.specs, sp.check.isCallable = false → ∃ b, sp.check.truth = .ok b) →
        ∃ answer t, evaluate (passes depth) number argument s = .ok answer t) ∧
      ∀ answer t, evaluate (passes depth) number argument s = .ok answer t →
        ∀ f : Frame, f.received = .dict (s₁.store.values c) →
          answer = .ofNames e.fallback (Spec.namesOn (passes depth) f e.specs) ∧
          ∃ t', evaluate (passes depth) number' argument s =
            .ok (.ofNames e'.fallback (Spec.namesOn (passes depth) f e'.specs)) t' := by
  refine ⟨fun _ _ _ _ _ _ _ _ hx hy hxy => validate_append hx hy hxy,
    fun number number₁ e e₁ more c s₁ he he₁ hspecs hsrc hacc hc =>
      ⟨exists_report_of_settles he hc, fun report t h => ?_⟩,
    fun e e' n c s₁ h => ⟨verdicts_explained depth c s₁ h, verdicts_evaluated depth c s₁ h⟩,
    fun number number' e e' c s₁ he he' hperm hsrc hacc hc hp =>
      ⟨fun hstatic => ?_, fun answer t h f hf => ?_⟩⟩
  · obtain ⟨report₁, t₁, f, found, g, h₁, hfirst, hnext, houtcomes, hsame⟩ :=
      explain_append he he₁ hspecs hsrc hacc hc h
    have hnames : report.matchedNames = report₁.matchedNames ++ Pass.holding found := by
      change Pass.holding report.outcomes = Pass.holding report₁.outcomes ++ Pass.holding found
      rw [houtcomes, Pass.holding_append, Pass.holding_later]
    refine ⟨report₁, t₁, f, found, g, h₁, hfirst, hnext, ?_, houtcomes, hnames, ?_, hsame⟩
    · rw [Pass.length_of_survey hfirst, Evaluator.conditions, Condition.length_ofSpecs]
    · rw [Report.defaultUsed, hnames, List.isEmpty_iff, List.append_eq_nil_iff]
  · have hall : ∀ sp ∈ e.specs, sp.DecidesOn (passes depth) (.dict (s₁.store.values c)) := by
      intro sp hsp
      cases hs : sp.check.isCallable with
      | true => exact hp sp hsp hs
      | false =>
        obtain ⟨b, hb⟩ := hstatic sp hsp hs
        exact Spec.decidesOn_of_truth hs hb
    obtain ⟨t, h⟩ := evaluate_of_decidesOn he hc (f := ⟨s₁, .context c, []⟩) rfl hall
    exact ⟨_, t, h⟩
  · have hall := decidesOn_of_evaluate he h hp
    have hc' : effectiveContext e' argument s = .ok c s₁ := by
      rw [effectiveContext_congr hsrc hacc, hc]
    obtain ⟨u, hu⟩ := evaluate_of_decidesOn he hc hf hall
    cases h.symm.trans hu
    exact ⟨rfl, evaluate_of_decidesOn he' hc' hf fun sp hsp => hall sp (hperm.mem_iff.1 hsp)⟩

/-- Three specifications, of which the first two look keys up. -/
def lookingUp : List Spec :=
  [⟨.object 1 (.predicate none (.lookUp (.str "k") (.int 1))), .str "k"⟩,
    ⟨.object 2 (.predicate none (.lookUp (.str "none") .null)), .str "none"⟩,
    ⟨.bool true, .str "k"⟩]

/-- A session with an evaluator of a condition that writes a key and fails, one that has these three
behind it, and two of the three alone, in one order and in the other. -/
def halves : Session :=
  let writes : Spec := ⟨.object 0 (.predicate none (.seq [.assign (.str "none") (.bool true),
    .raise (.ofText .badValue "no number")])), .str "writes"⟩
  { start [] with
    sources := [.process]
    evaluators := [⟨[writes], .null, false, 0, []⟩, ⟨writes :: lookingUp, .null, false, 0, []⟩,
      ⟨lookingUp, .null, false, 0, []⟩, ⟨lookingUp.reverse, .null, false, 0, []⟩] }

/-- Behind the first condition, the key that it wrote is found; without it, only the other two hold,
in both orders. -/
theorem passes_compose_halves :
    ∃ report t u, explain (passes 1) 1 (.given none) halves = .ok report t ∧
      report.matchedNames = [.str "k", .str "none", .str "k"] ∧
      evaluate (passes 1) 3 (.given none) halves = .ok (.names [.str "k", .str "k"]) u := by
  obtain ⟨-, hbehind, -, hperm⟩ := passes_compose 1 (.given none) halves
  obtain ⟨hreport, hall⟩ := hbehind 1 0 _ _ lookingUp _ _ rfl rfl rfl rfl rfl rfl
  obtain ⟨report, t, h⟩ := hreport (by
    intro x hx stop hstop
    rcases List.mem_cons.1 hx with rfl | hx
    · cases hstop
      exact ⟨_, rfl, rfl, ⟨_, rfl⟩, _, rfl⟩
    · rcases List.mem_cons.1 hx with rfl | hx
      · cases hstop
      · rcases List.mem_cons.1 hx with rfl | hx
        · cases hstop
        · rcases List.mem_singleton.1 hx with rfl
          cases hstop)
  obtain ⟨report₁, t₁, f, found, g, h₁, hfirst, hnext, -, -, hnames, -, -⟩ := hall report t h
  obtain ⟨-, hanswers⟩ := hperm 2 3 _ _ _ _ rfl rfl (List.reverse_perm lookingUp) rfl rfl rfl (by
    intro sp hsp hcall
    rcases List.mem_cons.1 hsp with rfl | hsp
    · exact Spec.decidesOn_lookUp rfl rfl _ _ _ _
    · rcases List.mem_cons.1 hsp with rfl | hsp
      · exact Spec.decidesOn_lookUp rfl rfl _ _ _ _
      · rcases List.mem_singleton.1 hsp with rfl
        cases hcall)
  obtain ⟨-, u, hu⟩ := hanswers _ _ rfl ⟨_, .context _, []⟩ rfl
  cases h₁
  cases hfirst
  cases hnext
  exact ⟨report, t, u, h, hnames, hu⟩

end Session

end NamedConditions
