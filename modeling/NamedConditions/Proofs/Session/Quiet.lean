import NamedConditions.Proofs.Session.Confined
/-!
Conditions that write nothing but their context. A write of a key puts a new slot into the context,
and what is written under `env` goes into the cell that stands there: so a context stays sound, and
cells that were there before stay as they are, unless what stands under `env` is one of them.

Main statements: a quiet condition writes nothing but keys of the context and items of what stands
under `env` (`writesEnv_of_quiet`), and a condition without effects nothing but keys
(`writesKeys_of_noEffects`).
-/
namespace NamedConditions

/-- What is right for cells stays so when keys of a context are written. -/
structure Subject.KeyLaw (right : Nat → Subject → Prop) : Prop where
  put {bound : Nat} {c : Context} (key : Value) {slot : Slot} : right bound (.context c) →
    (∀ number, slot.cell? = some number → bound ≤ number) →
    right bound (.context (Layer.insert key slot c))
  drop {bound : Nat} {c : Context} (key : Value) : right bound (.context c) →
    right bound (.context (Layer.erase key c))

theorem Subject.keyLaw_true : KeyLaw fun _ _ => True where
  put _ _ _ _ := trivial
  drop _ _ := trivial

/-- What stands under `env` stays new, whatever keys are written. -/
theorem Subject.keyLaw_ownsEnv : KeyLaw OwnsEnv where
  put {bound c} key {slot} h hslot := by
    rintro d number ⟨⟩ hfind
    rw [Layer.find?_insert] at hfind
    split at hfind
    · rw [Option.some.inj hfind] at hslot
      exact hslot number rfl
    · exact h c number rfl hfind
  drop {bound c} key h := by
    rintro d number ⟨⟩ hfind
    exact h c number rfl (Layer.find?_of_find?_erase hfind)

namespace Frame.Kept

variable {right : Nat → Subject → Prop} {s : Session} {f : Frame}

theorem put (law : Subject.KeyLaw right) (h : f.Kept right s) (key v : Value) :
    (f.put key v).Kept right s := by
  obtain ⟨c, hf, hc⟩ := h.sound
  have hsubject : (f.put key v).subject =
      .context (Layer.insert key (f.session.store.slot v).1 c) := Frame.subject_write hf _
  have hright := h.right
  rw [hf] at hright
  refine ⟨h.undisturbed.trans (Session.undisturbed_withStore (f.session.store.extends_slot v)),
    ⟨_, hsubject, Store.sound_insert_slot hc key v⟩, ?_⟩
  rw [hsubject]
  exact law.put key hright fun number hn =>
    Nat.le_trans h.undisturbed.length (Store.le_of_cell?_slot hn)

theorem drop (law : Subject.KeyLaw right) (h : f.Kept right s) (key : Value) :
    (f.write (.drop key)).Kept right s := by
  obtain ⟨c, hf, hc⟩ := h.sound
  have hsubject : (f.write (.drop key)).subject = .context (Layer.erase key c) :=
    Frame.subject_write hf _
  have hright := h.right
  rw [hf] at hright
  refine ⟨h.undisturbed, ⟨_, hsubject, hc.erase key⟩, ?_⟩
  rw [hsubject]
  exact law.drop key hright

/-- Looking up, logging and writes of keys keep a frame. -/
theorem keyLaw (law : Subject.KeyLaw right) (s : Session) :
    KeyLaw fun f g => f = g ∧ f.Kept right s :=
  .ofInvariant (fun _ _ h => ⟨h.undisturbed.withJournal _, h.sound, h.right⟩)
    (fun key v _ h => h.put law key v) fun key _ h => h.drop law key

/-- So do writes of items of what stands under `env`, if that is in a new cell. -/
theorem quietLaw (s : Session) : QuietLaw fun f g => f = g ∧ f.Kept Subject.OwnsEnv s := by
  refine .ofInvariant (keyLaw Subject.keyLaw_ownsEnv s) ?_ ?_
  · -- a value that no cell stands for cannot change, and takes no item
    intro f c key v w w' h hf hfind hw
    obtain ⟨d, hd, hsound⟩ := h.sound
    obtain rfl := Subject.context.inj (hf.symm.trans hd)
    obtain ⟨x, hx, -, hxs⟩ := Layer.exists_of_find? hfind
    have hset := hsound.settled x hx
    rw [Slot.Settled, hxs] at hset
    rw [show f.session.store.value (.plain w) = w from rfl,
      (Value.isChangeable_of_withItem hw).2] at hset
    cases hset
  · intro f c number key v store h hf hfind hw
    obtain ⟨d, hd, hsound⟩ := h.sound
    have hnew := h.right c number hf hfind
    refine ⟨⟨?_, ?_, h.undisturbed.evaluators, h.undisturbed.sources, h.undisturbed.names⟩,
      ⟨d, hd, hsound.evolve (Store.evolves_of_write hw)⟩, h.right⟩
    · exact Nat.le_trans h.undisturbed.length (Nat.le_of_eq (Store.length_of_write hw).symm)
    · intro other hother
      exact (Store.content_of_write_of_ne hw (by omega)).trans (h.undisturbed.content other hother)

end Frame.Kept

namespace Condition

variable {c : Condition}

/-- A quiet condition writes nothing but keys of the context and items of what stands under
`env`. -/
theorem writesEnv_of_quiet (hq : c.isQuiet = true) (p : Passes) : c.WritesEnv p := by
  intro s
  refine Run.keeps_of_simulates
    (Session.runCheck_simulates_of (Frame.Kept.quietLaw s).operands c ?_)
  intro x hx
  refine Expr.effect_simulates (Frame.Kept.quietLaw s) (isEffect_of_mem hx) fun h => ?_
  exact Bool.noConfusion (hq.symm.trans h)

/-- A condition without effects writes nothing but keys of the context. -/
theorem writesKeys_of_noEffects (he : c.effects = []) (p : Passes) : c.WritesKeys p := by
  intro s
  refine Run.keeps_of_simulates
    (Session.runCheck_simulates_of (Frame.Kept.keyLaw Subject.keyLaw_true s).operands c ?_)
  intro x hx
  rw [he] at hx
  cases hx

end Condition

end NamedConditions
