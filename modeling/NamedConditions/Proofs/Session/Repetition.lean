import NamedConditions.Proofs.Session.Quiet
import NamedConditions.Proofs.Session.Renaming
import NamedConditions.Proofs.Session.View
/-!
Evaluation is repeatable. A pass over confined conditions leaves what its evaluator shows, and so
what it answers next; with a source of fixed entries nothing else can change the answer.

Main statement (`passes_repeatable`): however often an evaluator is asked for passes and for its
context, it gives every time what it gives at first, provided that its conditions write keys of
their contexts only, or items under `env` too, where what stands there is of the pass alone. The
layers of a context are merged shallowly, so that what an accumulated context has under `env` is the
very object that conditions write into; then a pass can leave other answers behind
(`not_repeatable_remembering`).
-/
namespace NamedConditions

/-- Whether an action asks for a pass or for the accumulated context. -/
def Action.isReading : Action → Bool
  | .getContext | .evaluate _ | .explain _ => true
  | _ => false

namespace Session

variable {depth : Nat} {right : Nat → Subject → Prop} {s t : Session} {a : String} {n : Nat}
  {v : View}

theorem isAsked_of_isReading {x : Action} (h : x.isReading = true) : x.isAsked = true := by
  cases x <;> first | rfl | cases h

theorem after_of_isReading {x : Action} (h : x.isReading = true) (v : View) : v.after x = v := by
  cases x <;> first | rfl | cases h

/-- Asked for passes and for its context alone, an evaluator answers every time what one answers
that shows the same. -/
theorem answers_reading (hn : s.number? a = some n) (hm : t.number? a = some n)
    (hs : s.Shows n v) (ht : t.Shows n v) (hv : v.Confined (passes depth) right)
    {actions : List Action} (hx : ∀ x ∈ actions, x.isReading = true ∧ v.Permits right x) :
    answers (depth + 1) (actions.map (Step.mk a)) t =
      actions.map fun x => (a, seen (depth + 1) (.mk a x) s) := by
  induction actions generalizing t with
  | nil => rfl
  | cons x actions ih =>
    obtain ⟨⟨hreading, hpermits⟩, hrest⟩ := List.forall_mem_cons.1 hx
    obtain ⟨hseen, hafter⟩ :=
      userStep_shown hm hn ht hs hv (isAsked_of_isReading hreading) hpermits
    have hshown := hafter.1
    rw [after_of_isReading hreading] at hshown
    rw [List.map_cons, List.map_cons, answers, hseen]
    exact congrArg _ (ih ((hafter.number? a).trans hm) hshown hrest)

/-- What an evaluator gives when it is asked for its context. -/
theorem seen_getContext {e : Evaluator} (hn : s.number? a = some n)
    (he : s.evaluators[n]? = some e) (depth : Nat) :
    seen depth (.mk a .getContext) s = .ok (.entries (s.accumulatedEntries e)) := by
  rw [seen, userStep_eq]
  simp only [step, actOnNamed_of_some (s := { s with journal := .empty }) hn he, actOn]
  rfl

/-- Passes that nothing comes between give the same every time, and leave the accumulated context
as it was. -/
theorem passes_repeatable (depth : Nat) {s : Session} (hs : Reachable s) {a : String} {n : Nat}
    (hn : s.number? a = some n) {e : Evaluator} (he : s.evaluators[n]? = some e) {es : Entries}
    (hsource : s.sources[e.source]? = some (.fixed es))
    (hd : ∀ c ∈ e.conditions, c.DependsOnReceived (passes depth))
    {actions : List Action} (hactions : ∀ x ∈ actions, x.isReading = true)
    (hw : (∀ c ∈ e.conditions, c.WritesKeys (passes depth)) ∨
      (∀ c ∈ e.conditions, c.WritesEnv (passes depth)) ∧
        ∀ x ∈ actions, ∀ argument, x = .evaluate argument ∨ x = .explain argument →
          EnvApart (s.accumulatedEntries e) ((argumentEntries? argument).getD [])) :
    seen (depth + 1) (.mk a .getContext) s = .ok (.entries (s.accumulatedEntries e)) ∧
      answers (depth + 1) (actions.map (Step.mk a)) s =
        actions.map fun x => (a, seen (depth + 1) (.mk a x) s) := by
  have hshown := shows_of_reachable hs he hsource
  refine ⟨seen_getContext hn he _, ?_⟩
  rcases hw with hkeys | ⟨henv, hapart⟩
  · exact answers_reading hn hn hshown hshown (fun c hc => ⟨hd c hc, hkeys c hc⟩)
      fun x hx => ⟨hactions x hx, fun _ _ => .keys⟩
  · exact answers_reading hn hn hshown hshown (fun c hc => ⟨hd c hc, henv c hc⟩)
      fun x hx => ⟨hactions x hx, fun argument h => .env (hapart x hx argument h)⟩

/-- A session with an evaluator that has a name, one condition of which writes an item under `env`
at which another looks. -/
def marking : Session :=
  (Change.bind "e" 0).perform ((Change.make (.mk (some (.list
    [.spec (.object 0 (.predicate none (.eq (.item [.str "env", .str "seen"])
        (.lit (.str "no"))))) (.str "first"),
      .spec (.object 1 (.predicate none (.assignEnv (.str "seen") (.str "yes")))) (.str "mark")]))
    none false (.fixed (.dict [(.str "seen", .str "no")])))).perform (start []))

/-- The conditions of this evaluator. -/
theorem marking_quiet : ∃ e, marking.evaluators[0]? = some e ∧
    (∀ c ∈ e.conditions, c.isQuiet = true) ∧ marking.accumulatedEntries e = [] ∧
    marking.sources[e.source]? = some (.fixed [(.str "seen", .str "no")]) :=
  ⟨_, rfl, List.forall_mem_cons.2 ⟨rfl, List.forall_mem_cons.2 ⟨rfl, nofun⟩⟩, rfl, rfl⟩

theorem passes_repeatable_marking :
    answers 2 [.mk "e" (.evaluate none), .mk "e" (.evaluate none), .mk "e" .getContext] marking =
      [("e", .ok (.answered (.names [.str "first"]))),
        ("e", .ok (.answered (.names [.str "first"]))), ("e", .ok (.entries []))] := by
  obtain ⟨e, he, hquiet, hacc, hsource⟩ := marking_quiet
  have hreachable : Reachable marking := .change _ (.change _ (.start []))
  have hplain : ∀ x ∈ marking.accumulatedEntries e,
      x.1.sameKey Context.envKey = true → x.2.isChangeable = false := by
    rw [hacc]
    exact nofun
  have hreading : ∀ x ∈ [.evaluate none, .evaluate none, .getContext],
      Action.isReading x = true := by
    simp [Action.isReading]
  obtain ⟨-, hanswers⟩ := passes_repeatable 1 hreachable (a := "e") (n := 0) rfl he hsource
    (fun c hc => Condition.dependsOnReceived_of_quiet (hquiet c hc) _) hreading
    (.inr ⟨fun c hc => Condition.writesEnv_of_quiet (hquiet c hc) _, fun _ _ _ _ => .inl hplain⟩)
  exact hanswers.trans rfl

/-- A session in which the accumulated context has under `env` what one condition writes into and
another looks at. -/
def remembering : Session :=
  (Change.give 0 (some (.dict [(.str "env", .dict [(.str "seen", .str "no")])]))).perform marking

/-- There, a pass does not leave what the evaluator answers: what stands under `env` is an object of
the accumulated context. -/
theorem not_repeatable_remembering :
    Reachable remembering ∧ remembering.number? "e" = some 0 ∧
    ∃ e, remembering.evaluators[0]? = some e ∧
      remembering.sources[e.source]? = some (.fixed [(.str "seen", .str "no")]) ∧
      (∀ c ∈ e.conditions, c.DependsOnReceived (passes 1) ∧ c.WritesEnv (passes 1)) ∧
      ∃ t, (userStep 2 (.mk "e" (.evaluate none)) remembering).2 = t ∧
        seen 2 (.mk "e" (.evaluate none)) remembering =
          .ok (.answered (.names [.str "first"])) ∧
        seen 2 (.mk "e" (.evaluate none)) t = .ok (.answered (.fallback (.list []))) ∧
        seen 2 (.mk "e" .getContext) t ≠ seen 2 (.mk "e" .getContext) remembering := by
  have hquiet : ∃ e, remembering.evaluators[0]? = some e ∧
      remembering.sources[e.source]? = some (.fixed [(.str "seen", .str "no")]) ∧
      ∀ c ∈ e.conditions, c.isQuiet = true :=
    ⟨_, rfl, rfl, List.forall_mem_cons.2 ⟨rfl, List.forall_mem_cons.2 ⟨rfl, nofun⟩⟩⟩
  obtain ⟨e, he, hsource, hquiet⟩ := hquiet
  refine ⟨.change _ (.change _ (.change _ (.start []))), rfl, e, he, hsource, fun c hc => ?_,
    _, rfl, rfl, rfl, ?_⟩
  · exact ⟨Condition.dependsOnReceived_of_quiet (hquiet c hc) _,
      Condition.writesEnv_of_quiet (hquiet c hc) _⟩
  · have hbefore : seen 2 (.mk "e" .getContext) remembering =
        .ok (.entries [(.str "env", .dict [(.str "seen", .str "no")])]) := rfl
    have hafter : seen 2 (.mk "e" .getContext)
          (userStep 2 (.mk "e" (.evaluate none)) remembering).2 =
        .ok (.entries [(.str "env", .dict [(.str "seen", .str "yes")])]) := rfl
    rw [hbefore, hafter]
    simp

end Session

end NamedConditions
