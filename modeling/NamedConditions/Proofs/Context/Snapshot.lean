import NamedConditions.Proofs.Context.Layers
import NamedConditions.Proofs.Pass.Attribution
/-!
The context of a running pass. It is made once, when the pass begins, and after that only the writes
of the predicates of the pass change which slots it holds: steps that a predicate takes, on whatever
evaluator, leave it alone. In turn, writes of keys of it leave every accumulated context alone, and
with it what other passes are handed.

Main statement (`pass_context_isolated`): what the first condition of a pass is called with, how
each next condition gets what the one before left, and that neither steps of predicates nor writes
of keys are seen on the other side.
-/
namespace NamedConditions

namespace Frame

/-- What the predicate of the second frame is called with comes from that of the first by the writes
that were recorded in between. -/
def WrittenFrom (f g : Frame) : Prop :=
  ∃ ws, g.writes = f.writes ++ ws ∧ g.subject = ws.foldl (fun s w => s.write w) f.subject

theorem WrittenFrom.refl (f : Frame) : f.WrittenFrom f := ⟨[], (List.append_nil _).symm, rfl⟩

theorem WrittenFrom.write {f g : Frame} (h : f.WrittenFrom g) (w : Write) :
    f.WrittenFrom (g.write w) := by
  obtain ⟨ws, hw, hs⟩ := h
  refine ⟨ws ++ [w], ?_, ?_⟩
  · rw [Frame.write, hw, List.append_assoc]
  · rw [Frame.write, hs, List.foldl_append]
    rfl

theorem WrittenFrom.withSession {f g : Frame} (h : f.WrittenFrom g) (s : Session) :
    f.WrittenFrom { g with session := s } := h

/-! ## What predicates keep -/

theorem keeps_inSession {P : Frame → Prop}
    (hs : ∀ (s : Session) f, P f → P { f with session := s }) {α : Type} (r : Run Session α) :
    Run.Keeps P (inSession r) := by
  intro f hf
  simp only [inSession]
  cases r f.session <;> exact hs _ _ hf

/-- What writes of keys keep, whatever happens to the session, is kept by predicates. -/
theorem lawOfInvariant {P : Frame → Prop} (hw : ∀ w f, P f → P (f.write w))
    (hs : ∀ (s : Session) f, P f → P { f with session := s }) (p : Passes) :
    Law p p fun f g => f = g ∧ P f where
  toQuietLaw := .ofInvariant
    (.ofInvariant (fun _ _ => hs _ _) (fun _ _ _ h => hw _ _ (hs _ _ h)) fun _ _ => hw _ _)
    (fun h _ _ _ => hw _ _ h) fun h _ _ _ => hs _ _ h
  nested _ _ := (keeps_inSession hs _).simulates
  step _ := (keeps_inSession hs _).simulates.mono fun _ _ => congrArg StepResult.operand

theorem writtenLaw (p : Passes) (f₀ : Frame) : Law p p fun f g => f = g ∧ f₀.WrittenFrom f :=
  lawOfInvariant (fun w _ h => h.write w) (fun s _ h => h.withSession s) p

end Frame

namespace Session

/-- Whatever a predicate does, what it is called with changes by recorded writes alone. -/
theorem writtenFrom_run (p : Passes) (body : Expr) (f : Frame) :
    f.WrittenFrom (endState (Expr.run p body f)) := by
  have law := Frame.writtenLaw p f
  have he := Expr.run_simulates law.toQuietLaw body (fun _ => law) f f ⟨rfl, .refl f⟩
  exact he.states.2

theorem writtenFrom_decide {p : Passes} {f₀ f : Frame} (h : f₀.WrittenFrom f) (c : Condition) :
    f₀.WrittenFrom (decide p c f).1 := by
  have law := Frame.writtenLaw p f₀
  exact (decide_simulates law.toQuietLaw c (fun _ => law) f f ⟨rfl, h⟩).2.2

/-- A step of a predicate, whatever it does, leaves what the predicate is called with. -/
theorem subject_step (p : Passes) (st : Step) (f : Frame) :
    (endState (Expr.run p (.step st) f)).subject = f.subject ∧
      (endState (Expr.run p (.step st) f)).writes = f.writes := by
  simp only [Expr.run, Frame.inSession, Bind.bind, EStateM.bind]
  cases step p st f.session <;> exact ⟨rfl, rfl⟩

/-- So does a new evaluator that a predicate evaluates on what it is called with. -/
theorem subject_nested (p : Passes) (setup : Setup) (f : Frame) :
    (endState (Expr.run p (.nested setup) f)).subject = f.subject ∧
      (endState (Expr.run p (.nested setup) f)).writes = f.writes := by
  simp only [Expr.run, Frame.inSession, Bind.bind, EStateM.bind, Run.get_run]
  cases make setup f.session with
  | error stop s => exact ⟨rfl, rfl⟩
  | ok number s =>
    dsimp only
    cases p.evaluate number f.subject.argument s <;> exact ⟨rfl, rfl⟩

/-! ## Along a pass -/

theorem decide_of_collectNext {p : Passes} {c : Condition} {f g : Frame}
    (h : Pass.collectNext (decide p) c f = some g) : g = (decide p c f).1 := by
  unfold Pass.collectNext at h
  split at h
  · exact (Option.some.inj h).symm
  · cases h

theorem decide_of_surveyNext {p : Passes} {c : Condition} {f g : Frame}
    (h : Pass.surveyNext (decide p) markFailure c f = some g) :
    ∃ s, g = { (decide p c f).1 with session := s } := by
  unfold Pass.surveyNext at h
  split at h
  · exact ⟨_, (Option.some.inj h).symm⟩
  · exact ⟨_, (Option.some.inj h).symm⟩
  · cases h

/-- The frames along a pass: it begins with the context, every condition gets what the one before
left, and that is the context with the recorded writes. -/
def Shares (p : Passes) (c : Context) (xs : List (Condition × Frame)) : Prop :=
  (∀ x rest, xs = x :: rest → x.2.subject = .context c ∧ x.2.writes = []) ∧
  (∀ before x y after, xs = before ++ x :: y :: after →
    y.2.subject = (decide p x.1 x.2).1.subject ∧ y.2.writes = (decide p x.1 x.2).1.writes) ∧
  ∀ x ∈ xs, x.2.subject = .context (x.2.writes.foldl Write.apply c)

theorem foldl_write_context (ws : List Write) (c : Context) :
    ws.foldl (fun s w => s.write w) (Subject.context c) = .context (ws.foldl Write.apply c) := by
  induction ws generalizing c with
  | nil => rfl
  | cons w ws ih => exact ih (w.apply c)

/-- Going on from a frame to one with the same subject and writes, but perhaps another session. -/
theorem shares_trail {p : Passes} {next : Condition → Frame → Option Frame}
    (hn : ∀ c f g, next c f = some g → ∃ s, g = { (decide p c f).1 with session := s })
    (cs : List Condition) (name : String) (count : Nat) (c : Context) (s : Session) :
    Shares p c (Pass.trail next cs (passFrame name count c s)) := by
  refine ⟨?_, ?_, ?_⟩
  · intro x rest h
    rw [Pass.head_trail h]
    exact ⟨rfl, rfl⟩
  · intro before x y after h
    obtain ⟨t, ht⟩ := hn _ _ _ (Pass.next_of_trail h)
    rw [ht]
    exact ⟨rfl, rfl⟩
  · intro x hx
    have hw : (passFrame name count c s).WrittenFrom x.2 := by
      refine Pass.forall_trail (fun d f g hf hg => ?_) cs (.refl _) x hx
      obtain ⟨t, rfl⟩ := hn d f g hg
      exact (writtenFrom_decide hf d).withSession t
    obtain ⟨ws, hws, hsub⟩ := hw
    have hws' : x.2.writes = ws := hws
    rw [hws', hsub]
    exact foldl_write_context ws c

theorem shares_evaluated (p : Passes) (e : Evaluator) (c : Context) (s : Session) :
    Shares p c (evaluated p e c s) := by
  refine shares_trail (fun d f g h => ?_) e.conditions _ _ c s
  exact ⟨_, decide_of_collectNext h⟩

theorem shares_explained (p : Passes) (e : Evaluator) (c : Context) (s : Session) :
    Shares p c (explained p e c s) :=
  shares_trail (fun _ _ _ h => decide_of_surveyNext h) e.conditions _ _ c s

/-! ## What other passes are handed -/

/-- A write of a key of what a predicate is called with allocates a cell at most. -/
theorem session_assign (key v : Value) (f : Frame) :
    (endState (Frame.assign key v f)).session = f.session ∨
      (endState (Frame.assign key v f)).session =
        { f.session with store := (f.session.store.slot v).2 } := by
  simp only [Frame.assign, Bind.bind, EStateM.bind, Run.get_run]
  cases f.subject with
  | name s => exact .inl rfl
  | context c =>
    simp only [Run.needKey]
    cases key.keyRefusal? with
    | some reason => exact .inl rfl
    | none => exact .inr rfl

theorem session_remove (key : Value) (f : Frame) :
    (endState (Frame.remove key f)).session = f.session := by
  simp only [Frame.remove, Frame.contextFor, Bind.bind, EStateM.bind, Run.get_run]
  cases f.subject with
  | name s => rfl
  | context c =>
    cases c with
    | nil => rfl
    | cons x c =>
      simp only [Run.needKey]
      cases key.keyRefusal? <;> rfl

/-- A write of a key is recorded with the slot that the key then has. -/
theorem assign_run {key : Value} (hk : key.keyRefusal? = none) (v : Value) (s : Session)
    (c : Context) (ws : List Write) :
    ∃ slot t, Frame.assign key v ⟨s, .context c, ws⟩ =
        .ok () ⟨t, .context (Layer.insert key slot c), ws ++ [.put key slot]⟩ ∧
      t.store.value slot = v := by
  refine ⟨(s.store.slot v).1, { s with store := (s.store.slot v).2 }, ?_,
    Store.value_slot_self s.store v⟩
  simp only [Frame.assign, Run.needKey, hk]
  rfl

/-- So is a removal, unless there is nothing to remove. -/
theorem remove_run {key : Value} (hk : key.keyRefusal? = none) (s : Session) (c : Context)
    (ws : List Write) :
    ∃ o, Frame.remove key ⟨s, .context c, ws⟩ = .ok o ⟨s, .context (Layer.erase key c),
      if c.isEmpty then ws else ws ++ [.drop key]⟩ := by
  cases c with
  | nil => exact ⟨_, rfl⟩
  | cons x c =>
    refine ⟨(Layer.find? (x :: c) key).elim (.ofValue .null) .slot, ?_⟩
    simp only [Frame.remove, Run.needKey, hk]
    rfl

/-- New cells change nothing that a pass is handed. -/
theorem received_of_extends {e : Evaluator} {s : Session} (h : e.accumulated.Within s.store)
    {store : Store} (hx : s.store.Extends store) (argument : Option Value) :
    received e argument { s with store := store } = received e argument s := by
  have ht : e.accumulated.Within store := fun x hm => hx.within (h x hm)
  have hv : accumulatedEntries { s with store := store } e = s.accumulatedEntries e := hx.values h
  rw [received_eq (s := { s with store := store }) ht, received_eq h, hv]
  rfl

/-- Contexts of passes are layered as documented and isolated from one another. -/
theorem pass_context_isolated (p : Passes) {s : Session} (hs : Reachable s) {n : Nat}
    {e : Evaluator} (he : s.evaluators[n]? = some e) :
    (∀ argument c s₁, effectiveContext e argument s = .ok c s₁ → ∃ env,
      readSource e.source (afterTaking argument s) = .ok env s₁ ∧
      (∀ key, Layer.find? c key =
        (Layer.find? (Layer.overlay (taken argument s)) key).or
          ((Layer.find? e.accumulated key).or
            (if Context.envKey.sameKey key then some env else none))) ∧
      Layer.keys c =
        Context.envKey :: (Layer.keys e.accumulated).filter
            (fun k => !Context.envKey.sameKey k) ++
          (Layer.keys (Layer.overlay (taken argument s))).filter
            (fun k => !(Context.envKey.sameKey k || Layer.has e.accumulated k)) ∧
      Shares p c (evaluated p e c s₁) ∧ Shares p c (explained p e c s₁)) ∧
    (∀ argument, received e argument s =
      match environment e s with
      | .ok env => .ok (Layer.overlay ((Context.envKey, env) :: s.accumulatedEntries e ++
          (argumentEntries? argument).getD []))
      | .error error => .error (.failure (.raised error))) ∧
    (∀ body f, Frame.WrittenFrom f (endState (Expr.run p body f))) ∧
    (∀ key, key.keyRefusal? = none → ∀ t c ws,
      (∀ v, ∃ slot u, Frame.assign key v ⟨t, .context c, ws⟩ =
          .ok () ⟨u, .context (Layer.insert key slot c), ws ++ [.put key slot]⟩ ∧
        u.store.value slot = v) ∧
      ∃ o, Frame.remove key ⟨t, .context c, ws⟩ = .ok o ⟨t, .context (Layer.erase key c),
        if c.isEmpty then ws else ws ++ [.drop key]⟩) ∧
    (∀ st f, (endState (Expr.run p (.step st) f)).subject = f.subject ∧
      (endState (Expr.run p (.step st) f)).writes = f.writes) ∧
    (∀ setup f, (endState (Expr.run p (.nested setup) f)).subject = f.subject ∧
      (endState (Expr.run p (.nested setup) f)).writes = f.writes) ∧
    (∀ f, f.session = s → ∀ key v argument,
      received e argument (endState (Frame.assign key v f)).session = received e argument s ∧
      received e argument (endState (Frame.remove key f)).session = received e argument s) := by
  have hw := bounded_of_reachable hs n e he
  have hd : Layer.Distinct e.accumulated := by
    rw [accounted_of_reachable hs n e he]
    exact Layer.distinct_overlay _
  refine ⟨?_, received_eq hw, writtenFrom_run p, ?_, subject_step p, subject_nested p, ?_⟩
  · intro argument c s₁ hc
    rw [effectiveContext_run] at hc
    cases hr : readSource e.source (afterTaking argument s) with
    | error stop t =>
      rw [hr] at hc
      cases hc
    | ok env t =>
      rw [hr] at hc
      cases hc
      exact ⟨env, rfl, Context.find?_effective_of_distinct hd env _,
        Context.keys_effective_of_distinct hd env _, shares_evaluated p e _ _,
        shares_explained p e _ _⟩
  · intro key hk t c ws
    exact ⟨fun v => assign_run hk v t c ws, remove_run hk t c ws⟩
  · intro f hf key v argument
    constructor
    · rcases session_assign key v f with h | h
      · rw [h, hf]
      · rw [h, hf]
        exact received_of_extends hw (Store.extends_slot s.store v) argument
    · rw [session_remove, hf]

/-- A session with an evaluator that was given a key, and the environment under a key of its own. -/
def givenEnv : Session :=
  (Change.give 0 (some (.dict [(.str "env", .int 1), (.str "k", .int 2)]))).perform
    ((Change.make (.mk none none false (.fixed (.dict [])))).perform (start []))

theorem pass_context_isolated_givenEnv :
    ∃ e, givenEnv.evaluators[0]? = some e ∧
      received e (some (.dict [(.str "new", .null), (.str "k", .int 3)])) givenEnv =
        .ok [(.str "env", .int 1), (.str "k", .int 3), (.str "new", .null)] := by
  have hr : Reachable givenEnv := .change _ (.change _ (.start []))
  exact ⟨_, rfl, (pass_context_isolated (passes 1) hr (n := 0) rfl).2.1 _⟩

end Session

end NamedConditions
