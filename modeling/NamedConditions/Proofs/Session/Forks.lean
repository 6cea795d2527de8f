import NamedConditions.Proofs.Session.Quiet
import NamedConditions.Proofs.Session.Renaming
import NamedConditions.Proofs.Session.Valid
import NamedConditions.Proofs.Session.View
/-!
Forks do not interfere. A fork shows what its parent shows, and from then on each of the two answers
as if the other were not asked anything.

Main statement (`forks_do_not_interfere`): whatever the two are asked, in whatever order, what one
answers is what it answers when all that the other is asked is left out; and asked the same, they
answer the same.
-/
namespace NamedConditions.Session

/-! ## Forking -/

/-- A fork is a new evaluator that shows what its parent shows. -/
theorem fork_shown {s : Session} {a b : String} {n : Nat} {e : Evaluator} {v : View}
    (hn : s.number? a = some n) (he : s.evaluators[n]? = some e) (hvalid : e.Valid)
    (hv : s.Shows n v) (hab : a ≠ b) (depth : Nat) :
    (userStep depth (.mk a (.fork b)) s).2.number? a = some n ∧
      (userStep depth (.mk a (.fork b)) s).2.number? b = some s.evaluators.length ∧
      (userStep depth (.mk a (.fork b)) s).2.Shows n v ∧
      (userStep depth (.mk a (.fork b)) s).2.Shows s.evaluators.length v := by
  have hend : (userStep depth (.mk a (.fork b)) s).2 =
      (withFork n e e.specs { s with journal := .empty }).bind b s.evaluators.length := by
    rw [userStep_eq]
    simp only [step, actOnNamed_of_some (s := { s with journal := .empty }) hn he, actOn,
      Bind.bind, EStateM.bind, fork_run]
    rw [hvalid]
    cases e.shown <;> rfl
  rw [hend]
  have hlookup : ∀ name, ((withFork n e e.specs { s with journal := .empty }).bind b
      s.evaluators.length).number? name =
        if name = b then some s.evaluators.length else s.number? name := by
    intro name
    simp only [number?, bind, withFork, addEvaluator, record, List.lookup_cons]
    by_cases hname : name = b
    · rw [beq_iff_eq.2 hname, if_pos hname]
    · rw [beq_eq_false_iff_ne.2 hname, if_neg hname]
  obtain ⟨e', he', hspecs, hfallback, hsource, hsound, hacc⟩ := hv
  rw [he] at he'
  cases he'
  have hlt : n < s.evaluators.length := (List.getElem?_eq_some_iff.1 he).1
  refine ⟨?_, ?_, ⟨e, ?_, hspecs, hfallback, hsource, hsound, hacc⟩,
    ⟨e, ?_, hspecs, hfallback, hsource, hsound, hacc⟩⟩
  · rw [hlookup, if_neg hab, hn]
  · rw [hlookup, if_pos rfl]
  · exact (List.getElem?_append_left hlt).trans he
  · exact List.getElem?_concat_length

/-! ## Runs -/

variable {depth : Nat} {right : Nat → Subject → Prop} {s t : Session} {a b : String} {n m k : Nat}
  {v w : View}

/-- What one of two evaluators answers is what it answers in a run in which the other is not
asked. -/
theorem answers_filter (hab : a ≠ b) (hn : s.number? a = some n) (hm : s.number? b = some m)
    (hnm : n ≠ m) (hk : t.number? a = some k) (hs : s.Shows n v) (hother : s.Shows m w)
    (ht : t.Shows k v) (hv : v.Confined (passes depth) fun _ _ => True)
    (hw : w.Confined (passes depth) fun _ _ => True) {steps : List Step}
    (hsteps : ∀ st ∈ steps, (st.target = a ∨ st.target = b) ∧ st.action.isAsked = true) :
    (answers (depth + 1) steps s).filter (fun x => x.1 = a) =
      answers (depth + 1) (steps.filter fun st => st.target = a) t := by
  induction steps generalizing s t v w with
  | nil => rfl
  | cons st steps ih =>
    obtain ⟨⟨htarget, hasked⟩, hrest⟩ := List.forall_mem_cons.1 hsteps
    rcases st with ⟨on, action⟩
    simp only [Step.target, Step.action] at htarget hasked
    rw [answers]
    rcases htarget with rfl | rfl
    · obtain ⟨hseen, hafter⟩ := userStep_shown hn hk hs ht hv hasked fun _ _ => .keys
      obtain ⟨-, hafter'⟩ := userStep_shown hk hk ht ht hv hasked fun _ _ => .keys
      have hown : (Step.mk on action).target = on := rfl
      simp only [List.filter_cons, hown, decide_true, if_true, answers, hseen]
      congr 1
      exact ih ((hafter.number? _).trans hn) ((hafter.number? _).trans hm)
        ((hafter'.number? _).trans hk) hafter.1 (hafter.2.1 m w (Ne.symm hnm) hother) hafter'.1
        (hv.after action) hw hrest
    · obtain ⟨-, hafter⟩ := userStep_shown hm hm hother hother hw hasked fun _ _ => .keys
      have hother : (Step.mk on action).target ≠ a := Ne.symm hab
      simp only [List.filter_cons, hother, decide_false, Bool.false_eq_true, if_false]
      exact ih ((hafter.number? _).trans hn) ((hafter.number? _).trans hm) hk
        (hafter.2.1 n v hnm hs) hafter.1 ht hv (hw.after action) hrest

/-- Asked the same, evaluators that show the same answer the same. -/
theorem answers_eq (hn : s.number? a = some n) (hm : t.number? b = some m) (hs : s.Shows n v)
    (ht : t.Shows m v) (hv : v.Confined (passes depth) fun _ _ => True) {actions : List Action}
    (hasked : ∀ x ∈ actions, x.isAsked = true) :
    (answers (depth + 1) (actions.map (Step.mk a)) s).map Prod.snd =
      (answers (depth + 1) (actions.map (Step.mk b)) t).map Prod.snd := by
  induction actions generalizing s t v with
  | nil => rfl
  | cons x actions ih =>
    obtain ⟨hx, hrest⟩ := List.forall_mem_cons.1 hasked
    obtain ⟨hseen, hafter⟩ := userStep_shown hn hm hs ht hv hx fun _ _ => .keys
    obtain ⟨-, hafter'⟩ := userStep_shown hm hm ht ht hv hx fun _ _ => .keys
    rw [List.map_cons, List.map_cons, answers, answers, List.map_cons, List.map_cons, hseen]
    congr 1
    exact ih ((hafter.number? a).trans hn) ((hafter'.number? b).trans hm) hafter.1 hafter'.1
      (hv.after x) hrest

/-! ## Forks -/

/-- An evaluator and its fork do not interfere, and answer alike. -/
theorem forks_do_not_interfere (depth : Nat) {s : Session} (hs : Reachable s) {a b : String}
    (hab : a ≠ b) {n : Nat} (hn : s.number? a = some n) {e : Evaluator}
    (he : s.evaluators[n]? = some e) {es : Entries}
    (hsource : s.sources[e.source]? = some (.fixed es))
    (hc : ∀ c ∈ e.conditions,
      c.DependsOnReceived (passes depth) ∧ c.WritesKeys (passes depth)) :
    ∃ t, (userStep (depth + 1) (.mk a (.fork b)) s).2 = t ∧
      (∃ m, t.number? a = some n ∧ t.number? b = some m ∧ m ≠ n) ∧
      (∀ steps : List Step,
        (∀ st ∈ steps, (st.target = a ∨ st.target = b) ∧ st.action.isAsked = true) →
        (answers (depth + 1) steps t).filter (fun x => x.1 = a) =
            answers (depth + 1) (steps.filter fun st => st.target = a) t ∧
          (answers (depth + 1) steps t).filter (fun x => x.1 = b) =
            answers (depth + 1) (steps.filter fun st => st.target = b) t) ∧
      ∀ actions : List Action, (∀ x ∈ actions, x.isAsked = true) →
        (answers (depth + 1) (actions.map (Step.mk a)) t).map Prod.snd =
          (answers (depth + 1) (actions.map (Step.mk b)) t).map Prod.snd := by
  obtain ⟨ha, hb, hown, hfork⟩ := fork_shown hn he (valid_of_reachable hs n e he)
    (shows_of_reachable hs he hsource) hab (depth + 1)
  have hne : n ≠ s.evaluators.length := Nat.ne_of_lt (List.getElem?_eq_some_iff.1 he).1
  refine ⟨_, rfl, ⟨_, ha, hb, Ne.symm hne⟩, fun steps hsteps => ⟨?_, ?_⟩, fun actions hx => ?_⟩
  · exact answers_filter hab ha hb hne ha hown hfork hown hc hc hsteps
  · exact answers_filter (Ne.symm hab) hb ha (Ne.symm hne) hb hfork hown hfork hc hc
      fun st hm => ⟨(hsteps st hm).1.symm, (hsteps st hm).2⟩
  · exact answers_eq ha hb hown hfork hc hx

/-- A session with an evaluator that has a name, one condition of which writes the key under which
another looks. -/
def writing : Session :=
  (Change.bind "e" 0).perform ((Change.make (.mk (some (.list
    [.spec (.object 0 (.predicate none (.lookUp (.str "k") .null))) (.str "reads"),
      .spec (.object 1 (.predicate none (.assign (.str "k") (.bool true)))) (.str "writes")]))
    none false (.fixed (.dict [(.str "HOME", .str "/")])))).perform (start []))

theorem forks_do_not_interfere_writing :
    ∃ t, (userStep 2 (.mk "e" (.fork "f")) writing).2 = t ∧
      (answers 2 [.mk "e" (.withContext (some (.dict [(.str "k", .int 1)]))),
          .mk "f" (.evaluate none), .mk "e" (.evaluate none)] t).filter (fun x => x.1 = "f") =
        answers 2 [.mk "f" (.evaluate none)] t := by
  have hreachable : Reachable writing := .change _ (.change _ (.start []))
  have he : ∃ e, writing.evaluators[0]? = some e ∧ (∀ c ∈ e.conditions, c.effects = []) ∧
      writing.sources[e.source]? = some (.fixed [(.str "HOME", .str "/")]) :=
    ⟨_, rfl, List.forall_mem_cons.2 ⟨rfl, List.forall_mem_cons.2 ⟨rfl, nofun⟩⟩, rfl⟩
  obtain ⟨e, he, hpure, hsource⟩ := he
  obtain ⟨t, ht, -, hfilter, -⟩ := forks_do_not_interfere 1 hreachable (a := "e") (b := "f")
    (by decide) (n := 0) rfl he hsource fun c hc =>
      ⟨Condition.dependsOnReceived_of_quiet (Condition.isQuiet_of_noEffects (hpure c hc)) _,
        Condition.writesKeys_of_noEffects (hpure c hc) _⟩
  refine ⟨t, ht, (hfilter _ ?_).2⟩
  intro st hm
  simp only [List.mem_cons, List.not_mem_nil, or_false] at hm
  rcases hm with rfl | rfl | rfl
  · exact ⟨.inl rfl, rfl⟩
  · exact ⟨.inr rfl, rfl⟩
  · exact ⟨.inl rfl, rfl⟩

end NamedConditions.Session
