import NamedConditions.Command.Run
/-!
What a target leads to. A target is made of a module name and a path of attributes, with the first
colon between them. It is unusable if one of the two is missing, if the module cannot be imported,
if the path leads nowhere, or if what stands there is neither an evaluator nor taken for a list.

Main statements: finding what a target is good for fails with a fault exactly if the target is
unusable for that reason (`resolve_eq_fault_iff`), and gives what stands at the target otherwise
(`resolve_of_standsAt`). Where modules are well behaved, only the name of a module that starts with
a dot ends the search in any other way (`target_cases`).
-/
namespace NamedConditions

namespace Thing

/-- Whether a thing is an evaluator. -/
def isEvaluator : Thing → Bool
  | value (.object _ (.evaluatorOf _)) | value (.evaluator ..) => true
  | _ => false

/-- Whether a thing is taken for a condition list: a sequence, or a byte array. -/
def isListLike : Thing → Bool
  | value v => v.isListLike
  | _ => false

end Thing

namespace Value

/-- What is taken for a list is a sequence, but for byte arrays, which are none. -/
theorem isListLike_iff (v : Value) :
    v.isListLike = true ↔ v.items?.isSome = true ∨ ∃ os, v = .byteArray os := by
  cases v with
  | byteArray os => exact ⟨fun _ => .inr ⟨os, rfl⟩, fun _ => rfl⟩
  | object id o => cases o <;> simp [isListLike, length?, items?]
  | _ => simp [isListLike, length?, items?]

end Value

namespace Command

/-! ## The parts of a target -/

/-- The module name and the path of attributes of a target. -/
def IsParts (target name path : String) : Prop :=
  target = name ++ ":" ++ path ∧ ':' ∉ name.toList

/-- A target with no colon, or with nothing on one side of the first one. -/
def IsMalformed (target : String) : Prop :=
  ∀ name path, IsParts target name path → name = "" ∨ path = ""

theorem cutOf?_eq_some_iff_parts {target name path : String} :
    Text.cutOf? ':' target = some (name, path) ↔ IsParts target name path :=
  Text.cutOf?_eq_some_iff

/-! ## What stands at a target -/

variable {s : Setting} {target name path : String} {attributes : ModuleAttributes}
  {thing : Thing} {t u : Session} {f : TargetFault}

/-- The module of a target is imported. -/
structure Imports (s : Setting) (target name path : String) (attributes : ModuleAttributes)
    (t : Session) : Prop where
  parts : IsParts target name path
  named : name ≠ ""
  goesOn : path ≠ ""
  load : s.catalogue.load (Session.passes s.depth) name (.start s.process) = .ok attributes t

/-- A thing stands at a target. -/
inductive StandsAt (s : Setting) (target : String) (thing : Thing) (u : Session) : Prop
  | intro {name path : String} {attributes : ModuleAttributes} {t : Session}
    (h : Imports s target name path attributes t)
    (hf : Target.follow? (Session.passes s.depth) attributes (Text.piecesOf '.' path) t =
      .ok (some thing) u)

/-- A target is unusable for a reason. -/
inductive Unusable (s : Setting) (target : String) : TargetFault → Session → Prop
  | malformed (h : IsMalformed target) : Unusable s target (.malformed target) (.start s.process)
  | notLoaded {name path reason : String} {error : Raised} {t : Session}
    (hp : IsParts target name path) (hn : name ≠ "") (hpath : path ≠ "")
    (hl : s.catalogue.load (Session.passes s.depth) name (.start s.process) =
      .error (.failure (.raised error)) t)
    (hk : error.kind.isLoading = true) (ht : error.text = .ok reason) :
    Unusable s target (.notLoaded name reason) t
  | noAttribute {name path : String} {attributes : ModuleAttributes} {t u : Session}
    (h : Imports s target name path attributes t)
    (hf : Target.follow? (Session.passes s.depth) attributes (Text.piecesOf '.' path) t =
      .ok none u) :
    Unusable s target (.noAttribute name path) u
  | unusable {thing : Thing} {u : Session} (h : StandsAt s target thing u)
    (he : thing.isEvaluator = false) (hl : thing.isListLike = false) :
    Unusable s target (.unusable target thing.typeName) u

/-- Finding what a target is good for. -/
def resolved (s : Setting) (target : String) :
    EStateM.Result Stop Session (Except TargetFault Target) :=
  Target.resolve s.catalogue (Session.passes s.depth) target (.start s.process)

/-! ## Finding it -/

theorem locate_of_malformed (h : IsMalformed target) :
    Target.locate s.catalogue (Session.passes s.depth) target t =
      .ok (.error (.malformed target)) t := by
  unfold Target.locate
  cases hcut : Text.cutOf? ':' target with
  | none => rfl
  | some p =>
    obtain ⟨name, path⟩ := p
    have hempty : (name.isEmpty || path.isEmpty) = true := by
      rcases h name path (cutOf?_eq_some_iff_parts.1 hcut) with rfl | rfl
      · rfl
      · exact Bool.or_true _
    dsimp only
    rw [hempty]
    rfl

theorem locate_of_parts (hp : IsParts target name path) (hn : name ≠ "") (hpath : path ≠ "")
    (s : Setting) (t : Session) :
    Target.locate s.catalogue (Session.passes s.depth) target t =
      match Target.loadModule s.catalogue (Session.passes s.depth) name t with
      | .error stop t => .error stop t
      | .ok (.error fault) t => .ok (.error fault) t
      | .ok (.ok attributes) t =>
        match Target.follow? (Session.passes s.depth) attributes (Text.piecesOf '.' path) t with
        | .error stop t => .error stop t
        | .ok none t => .ok (.error (.noAttribute name path)) t
        | .ok (some thing) t => .ok (.ok thing) t := by
  have hempty : (name.isEmpty || path.isEmpty) = false := by
    rw [Bool.or_eq_false_iff]
    exact ⟨by simpa using hn, by simpa using hpath⟩
  unfold Target.locate
  rw [cutOf?_eq_some_iff_parts.2 hp]
  dsimp only
  rw [hempty]
  simp only [Bool.false_eq_true, if_false, Bind.bind, EStateM.bind]
  cases Target.loadModule s.catalogue (Session.passes s.depth) name t with
  | error stop t => rfl
  | ok x t =>
    cases x with
    | error fault => rfl
    | ok attributes =>
      dsimp only [EStateM.bind]
      cases Target.follow? (Session.passes s.depth) attributes (Text.piecesOf '.' path) t with
      | error stop t => rfl
      | ok x t => cases x <;> rfl

theorem loadModule_ok (h : s.catalogue.load (Session.passes s.depth) name t = .ok attributes u) :
    Target.loadModule s.catalogue (Session.passes s.depth) name t = .ok (.ok attributes) u := by
  rw [Target.loadModule, h]

/-- Whether a target is malformed, or which parts it has. -/
theorem malformed_or_parts (target : String) :
    IsMalformed target ∨ ∃ name path, IsParts target name path ∧ name ≠ "" ∧ path ≠ "" := by
  by_cases h : ∃ name path, IsParts target name path ∧ name ≠ "" ∧ path ≠ ""
  · exact .inr h
  · refine .inl fun name path hp => ?_
    by_cases hn : name = ""
    · exact .inl hn
    · by_cases hpath : path = ""
      · exact .inr hpath
      · exact absurd ⟨name, path, hp, hn, hpath⟩ h

theorem locate_of_imports (h : Imports s target name path attributes t) :
    Target.locate s.catalogue (Session.passes s.depth) target (.start s.process) =
      match Target.follow? (Session.passes s.depth) attributes (Text.piecesOf '.' path) t with
      | .error stop t => .error stop t
      | .ok none t => .ok (.error (.noAttribute name path)) t
      | .ok (some thing) t => .ok (.ok thing) t := by
  rw [locate_of_parts h.parts h.named h.goesOn, loadModule_ok h.load]

theorem resolved_eq (s : Setting) (target : String) :
    resolved s target =
      match Target.locate s.catalogue (Session.passes s.depth) target (.start s.process) with
      | .error stop t => .error stop t
      | .ok (.error fault) t => .ok (.error fault) t
      | .ok (.ok thing) t => .ok (Target.ofThing target thing) t := by
  simp only [resolved, Target.resolve, Bind.bind, EStateM.bind]
  cases Target.locate s.catalogue (Session.passes s.depth) target (.start s.process) with
  | error stop t => rfl
  | ok x t => cases x <;> rfl

/-- What stands at a target is what is found there. -/
theorem resolve_of_standsAt (h : StandsAt s target thing u) :
    resolved s target = .ok (Target.ofThing target thing) u := by
  obtain ⟨himp, hf⟩ := h
  rw [resolved_eq, locate_of_imports himp, hf]

/-- What is neither an evaluator nor taken for a list is good for nothing. -/
theorem ofThing_eq_error_iff (target : String) (thing : Thing) (f : TargetFault) :
    Target.ofThing target thing = .error f ↔
      thing.isEvaluator = false ∧ thing.isListLike = false ∧
        f = .unusable target thing.typeName := by
  unfold Target.ofThing
  split
  · simp [Thing.isEvaluator]
  · simp [Thing.isEvaluator]
  · rename_i v he hn
    have hv : (Thing.value v).isEvaluator = false := by
      unfold Thing.isEvaluator
      split
      · rename_i id setup heq
        cases heq
        exact absurd rfl (he _ _)
      · rename_i number heq
        cases heq
        exact absurd rfl (hn _ _ _)
      · rfl
    cases hl : v.isListLike with
    | true => simp [Thing.isListLike, hl]
    | false =>
      simp only [hv, Thing.isListLike, hl, Thing.typeName_value, true_and]
      exact ⟨fun h => by cases h; rfl, fun h => by rw [h]; rfl⟩
  · rename_i he hn hv
    have hne : thing.isEvaluator = false ∧ thing.isListLike = false := by
      cases thing with
      | value v => exact absurd rfl (hv v)
      | _ => exact ⟨rfl, rfl⟩
    simp only [hne, true_and]
    exact ⟨fun h => by cases h; rfl, fun h => by rw [h]⟩

/-- What the search for an unusable target gives. -/
theorem resolved_of_unusable (h : Unusable s target f u) :
    resolved s target = .ok (.error f) u := by
  cases h with
  | malformed h => rw [resolved_eq, locate_of_malformed h]
  | notLoaded hp hn hpath hl hk ht =>
    rw [resolved_eq, locate_of_parts hp hn hpath, Target.loadModule, hl]
    dsimp only
    rw [hk, ht]
    rfl
  | noAttribute h hf => rw [resolved_eq, locate_of_imports h, hf]
  | unusable h he hl =>
    rw [resolve_of_standsAt h, (ofThing_eq_error_iff _ _ _).2 ⟨he, hl, rfl⟩]

/-- How the search for a target ends, if it comes to an end: the target is unusable, or something
stands there. -/
theorem cases_of_resolved {x : Except TargetFault Target} (h : resolved s target = .ok x u) :
    (∃ f, x = .error f ∧ Unusable s target f u) ∨
      ∃ thing, StandsAt s target thing u ∧ x = Target.ofThing target thing := by
  rw [resolved_eq] at h
  rcases malformed_or_parts target with hm | ⟨name, path, hp, hn, hpath⟩
  · rw [locate_of_malformed hm] at h
    cases h
    exact .inl ⟨_, rfl, .malformed hm⟩
  · rw [locate_of_parts hp hn hpath, Target.loadModule] at h
    cases hl : s.catalogue.load (Session.passes s.depth) name (.start s.process) with
    | ok attributes t =>
      rw [hl] at h
      dsimp only at h
      have himp : Imports s target name path attributes t := ⟨hp, hn, hpath, hl⟩
      cases hf : Target.follow? (Session.passes s.depth) attributes (Text.piecesOf '.' path) t with
      | error stop t =>
        rw [hf] at h
        cases h
      | ok found t =>
        rw [hf] at h
        cases found with
        | none =>
          cases h
          exact .inl ⟨_, rfl, .noAttribute himp hf⟩
        | some thing =>
          cases h
          exact .inr ⟨thing, ⟨himp, hf⟩, rfl⟩
    | error stop t =>
      rw [hl] at h
      cases stop with
      | exhausted => cases h
      | failure failure =>
        cases failure with
        | condition => cases h
        | raised error =>
          dsimp only at h
          cases hk : error.kind.isLoading with
          | false =>
            rw [hk] at h
            cases h
          | true =>
            rw [hk] at h
            cases ht : error.text with
            | error e =>
              rw [ht] at h
              cases h
            | ok reason =>
              rw [ht] at h
              cases h
              exact .inl ⟨_, rfl, .notLoaded hp hn hpath hl hk ht⟩

/-- Finding what a target is good for fails with a fault exactly if the target is unusable for
that reason. -/
theorem resolve_eq_fault_iff (s : Setting) (target : String) (f : TargetFault) (u : Session) :
    resolved s target = .ok (.error f) u ↔ Unusable s target f u := by
  refine ⟨fun h => ?_, resolved_of_unusable⟩
  rcases cases_of_resolved h with ⟨f', hf', hu⟩ | ⟨thing, hs, hx⟩
  · cases hf'
    exact hu
  · obtain ⟨he, hl, rfl⟩ := (ofThing_eq_error_iff target thing f).1 hx.symm
    exact .unusable hs he hl

/-! ## Well-behaved modules -/

/-- Modules behave well: one that fails when it is imported says that it cannot be imported, looking
up an attribute gives it or nothing, and packages are in order. -/
structure Setting.IsTame (s : Setting) : Prop where
  failing {name : String} {error : Raised} (h : s.catalogue.lookup name = some (.failing error)) :
    error.kind.isLoading = true ∧ ∃ reason, error.text = .ok reason
  gives {name : String} {attributes : ModuleAttributes}
    (h : s.catalogue.lookup name = some (.loaded attributes)) (a : String) (t : Session) :
    ∃ found u, attributes.give (Session.passes s.depth) a t = .ok found u
  places {name : String} {attributes : ModuleAttributes} {places : Thing} {t u : Session}
    (h : s.catalogue.lookup name = some (.loaded attributes))
    (hp : attributes.give (Session.passes s.depth) ModuleAttributes.placesName t =
      .ok (some places) u) : ModuleAttributes.checkPlaces places = .ok ()
  spec {name : String} {attributes : ModuleAttributes}
    (h : s.catalogue.lookup name = some (.loaded attributes)) : attributes.checkSpec = .ok ()

/-- An evaluator that stands at a target could be made. -/
def IsMade (s : Setting) (target : String) : Prop :=
  ∀ id setup t, StandsAt s target (.value (.object id (.evaluatorOf setup))) t →
    ∃ number u, Session.make setup t = .ok number u

/-- How the import of a module may end where modules behave well: it is imported, or it cannot be
imported and says why. -/
inductive LoadEnd (s : Setting) : EStateM.Result Stop Session ModuleAttributes → Prop
  | imported {name : String} {attributes : ModuleAttributes} (t : Session)
    (h : s.catalogue.lookup name = some (.loaded attributes)) : LoadEnd s (.ok attributes t)
  | refused {error : Raised} {reason : String} (t : Session) (hk : error.kind.isLoading = true)
    (ht : error.text = .ok reason) : LoadEnd s (.error (.failure (.raised error)) t)

theorem loadEnd_whole (h : s.IsTame) (name : String) (t : Session) :
    LoadEnd s (Run.ofExcept (s.catalogue.loadWhole name) t) := by
  unfold Catalogue.loadWhole
  cases hm : s.catalogue.lookup name with
  | none => exact .refused t rfl (Raised.text_ofText _ (by decide) _)
  | some m =>
    cases m with
    | loaded attributes => exact .imported t hm
    | failing error =>
      obtain ⟨hk, reason, ht⟩ := h.failing hm
      exact .refused t hk ht

/-- Along the components of a name: what is found inside a package, or that it is missing. -/
theorem loadEnd_inside (h : s.IsTame) (components : List String) (name : String) (t : Session) :
    LoadEnd s (s.catalogue.loadInside (Session.passes s.depth) name components t) := by
  induction components generalizing name t with
  | nil => exact loadEnd_whole h name t
  | cons component components ih =>
    simp only [Catalogue.loadInside, Bind.bind, EStateM.bind]
    have hwhole := loadEnd_whole h name t
    cases hw : s.catalogue.loadWhole name with
    | error e =>
      rw [hw] at hwhole
      exact hwhole
    | ok attributes =>
      have hm : s.catalogue.lookup name = some (.loaded attributes) := by
        unfold Catalogue.loadWhole at hw
        split at hw
        · cases hw
          assumption
        · cases hw
        · cases hw
      obtain ⟨found, u, hg⟩ := h.gives hm ModuleAttributes.placesName t
      simp only [Run.ofExcept, pure, EStateM.pure, hg]
      cases found with
      | none => exact .refused u rfl (Raised.text_ofText _ (by decide) _)
      | some places =>
        simp only [h.places hm hg, h.spec hm, ite_self, EStateM.bind]
        exact ih _ u

theorem loadEnd_load (h : s.IsTame) (hd : name.startsWith "." = false) (t : Session) :
    LoadEnd s (s.catalogue.load (Session.passes s.depth) name t) := by
  rw [Catalogue.load, hd]
  simp only [Bool.false_eq_true, if_false]
  cases hp : Text.piecesOf '.' name with
  | nil => exact .refused t rfl (Raised.text_ofText _ (by decide) _)
  | cons component components => exact loadEnd_inside h components component t

/-- Following a path of attributes comes to an end. -/
theorem exists_follow? (h : s.IsTame)
    (hm : s.catalogue.lookup name = some (.loaded attributes)) (names : List String)
    (t : Session) :
    ∃ found u, Target.follow? (Session.passes s.depth) attributes names t = .ok found u := by
  cases names with
  | nil => exact ⟨_, t, rfl⟩
  | cons a names =>
    obtain ⟨found, u, hg⟩ := h.gives hm a t
    simp only [Target.follow?, Bind.bind, EStateM.bind, hg]
    exact ⟨_, u, rfl⟩

/-- Where modules behave well, a target is unusable, or something stands there that is good for
something, or the name of its module starts with a dot. -/
theorem target_cases (h : s.IsTame) (target : String) :
    (∃ f u, Unusable s target f u) ∨
      (∃ thing u, StandsAt s target thing u ∧ (thing.isEvaluator || thing.isListLike) = true) ∨
      ∃ name path, IsParts target name path ∧ name.startsWith "." = true ∧ path ≠ "" := by
  rcases malformed_or_parts target with hmal | ⟨name, path, hp, hn, hpath⟩
  · exact .inl ⟨_, _, .malformed hmal⟩
  · cases hd : name.startsWith "." with
    | true => exact .inr (.inr ⟨name, path, hp, hd, hpath⟩)
    | false =>
      have hend := loadEnd_load h hd (.start s.process)
      cases hl : s.catalogue.load (Session.passes s.depth) name (.start s.process) with
      | error stop t =>
        rw [hl] at hend
        cases hend with
        | refused t hk ht => exact .inl ⟨_, _, .notLoaded hp hn hpath hl hk ht⟩
      | ok attributes t =>
        rw [hl] at hend
        cases hend with
        | imported t hm =>
          have himp : Imports s target name path attributes t := ⟨hp, hn, hpath, hl⟩
          obtain ⟨found, u, hf⟩ := exists_follow? h hm (Text.piecesOf '.' path) t
          cases found with
          | none => exact .inl ⟨_, _, .noAttribute himp hf⟩
          | some thing =>
            have hs : StandsAt s target thing u := ⟨himp, hf⟩
            cases he : thing.isEvaluator with
            | true => exact .inr (.inl ⟨thing, u, hs, by rw [he, Bool.true_or]⟩)
            | false =>
              cases hlist : thing.isListLike with
              | true => exact .inr (.inl ⟨thing, u, hs, by rw [hlist, Bool.or_true]⟩)
              | false => exact .inl ⟨_, _, .unusable hs he hlist⟩

/-- The error for a name with a dot in front. -/
def dottedError (name : String) : Raised :=
  .ofText .badType ("the 'package' argument is required to perform a relative import for " ++
    Value.quotedText name)

/-- A name with a dot in front is refused with an error that is no failure to import. -/
theorem resolved_of_dotted (hp : IsParts target name path) (hd : name.startsWith "." = true)
    (hpath : path ≠ "") :
    resolved s target = .error (.failure (.raised (dottedError name))) (.start s.process) := by
  have hn : name ≠ "" := by
    rintro rfl
    cases hd
  rw [resolved_eq, locate_of_parts hp hn hpath, Target.loadModule, Catalogue.load, hd]
  rfl

end Command

end NamedConditions
