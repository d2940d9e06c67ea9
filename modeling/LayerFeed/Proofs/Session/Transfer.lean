/-
How a session passes textures on. A step of a session is steps of its world, and
the owners that it had before become those that it has after (`Step.transfer`).
Operations that leave all updaters alone bring the law of what they do with what is
named, and each operation on an updater brings the law of that updater; all other
owners are the frame.
-/
import LayerFeed.Proofs.Session.Aloof

namespace LayerFeed.Session

open Owners World

variable {P : Entry → Prop} {s s' : Session} {id : UpdaterId} {g : Owners}

-- ==================================================== one updater

/-- An updater that is entered holds what it holds, beside all the rest. -/
theorem owners_set_updater (s : Session) (i : UpdaterId) (h : Held Updater) :
    ({ s with updaters := s.updaters.set i h } : Session).owners
      = h.value.owners + s.besides i := by
  rw [owners_eq_named]
  change s.named + (s.updaters.set i h).owners (·.value.owners) = _
  rw [Table.owners_set, besides]
  abel

/-- An operation on one updater passes on what that updater has, and what is in
hand. -/
theorem updater_transfer {f : Updater → World → World × Updater} {h : Held Updater}
    (found : s.updaters.get? id = some h)
    (law : ∀ r, Transfer P s.world (g + (h.value.owners + r)) (f h.value s.world).1
      ((f h.value s.world).2.owners + r)) :
    Transfer P s.world (g + s.owners) (s.onUpdater id f).world (s.onUpdater id f).owners := by
  simp only [onUpdater, found]
  rw [owners_eq_besides found]
  exact (law (s.besides id)).of_eq rfl (owners_set_updater s id _)

/-- What an updater does with its own textures transfers those of the session. -/
theorem onUpdater_transfer {f : Updater → World → World × Updater}
    (law : ∀ u r, Transfer P s.world (u.owners + r) (f u s.world).1 ((f u s.world).2.owners + r)) :
    Transfer P s.world s.owners (s.onUpdater id f).world (s.onUpdater id f).owners := by
  cases found : s.updaters.get? id with
  | none =>
    simp only [onUpdater, found]
    exact .refl P _ _
  | some h =>
    refine (updater_transfer (g := 0) found fun r => ?_).of_eq (zero_add _).symm rfl
    rw [zero_add]
    exact law h.value r

theorem setter_owners {f : Updater → Updater} (setter : Updater.Setter f) (u : Updater) :
    (f u).owners = u.owners := by
  cases setter with
  | size width height =>
    unfold Updater.setSize
    dsimp only
    split <;> rfl
  | blend blend =>
    unfold Updater.setBlend
    dsimp only
    split <;> rfl
  | commitTransform => exact u.commitTransform_owners
  | transform | paint | sink => rfl

/-- Holding an updater is not to own its textures. -/
theorem hold_owners (s : Session) (id : UpdaterId) : (s.hold (.updater id)).owners = s.owners := by
  unfold owners hold
  dsimp only
  congr 1
  unfold Table.modify
  cases found : s.updaters.get? id with
  | none => rfl
  | some h => exact Table.owners_set_of_eq found rfl

/-- The last holder of an updater gives up all that the updater has. -/
theorem letGo_transfer (id : UpdaterId) :
    Transfer Entry.Any s.world s.owners (s.letGo (.updater id)).world
      (s.letGo (.updater id)).owners := by
  unfold letGo
  dsimp only
  cases found : s.updaters.get? id with
  | none => exact .refl _ _ _
  | some h =>
    dsimp only
    split
    · rw [owners_eq_besides found]
      exact (h.value.discard_passes (m := .loose) (fun _ _ _ => trivial) (fun _ _ => trivial)
        (by decide) (.inl rfl) fun _ _ _ => trivial).transfer
    · refine (Transfer.refl _ _ _).of_eq rfl ?_
      rw [owners_set_updater, owners_eq_besides found]

-- ==================================================== steps

/-- A calm step passes textures on by steps of the world in which no source is called. -/
theorem Calm.transfer (unnamed : s.updaters.get? s.fresh = none) (h : Calm s s') :
    Transfer Entry.Quiet s.world s.owners s'.world s'.owners := by
  have still : ∀ {id : UpdaterId} (e : Entry), e.Still id → e.Quiet := fun _ still => still.quiet
  cases h with
  | aside h =>
    obtain ⟨world, updaters, images, handles, slots, caches⟩ := h.parts
    rw [world]
    refine (Transfer.refl _ _ _).of_eq rfl ?_
    unfold owners
    rw [updaters, images, handles, slots, caches]
  | remark e remark quiet => exact .remark e remark quiet
  | traces traces => exact (Aloof.traces traces).transfer
  | adjustBackend c settings => exact (Aloof.adjustBackend c settings).transfer
  | loseContext n alive => exact (Aloof.loseContext n alive).transfer
  | createFence f useSync => exact f.createFence_transfer useSync
  | waitFence g fd => exact (Aloof.waitFence g fd).transfer
  | releaseQueue t => exact .releaseQueue
  | copyImage copy held => exact (Aloof.copyImage copy held).transfer
  | dropImage name => exact (Aloof.dropImage name).transfer
  | importTexture name context p b d => exact (Aloof.importTexture name context p b d).transfer
  | releaseHandle name mode => exact (Aloof.releaseHandle name mode).transfer
  | dropHandle name => exact (Aloof.dropHandle name).transfer
  | newSlot name p => exact (Aloof.newSlot name p).transfer
  | resolveSlot name context frame image =>
    exact (Aloof.resolveSlot name context frame image).transfer
  | clearSlot name mode => exact (Aloof.clearSlot name mode).transfer
  | dropSlot name => exact (Aloof.dropSlot name).transfer
  | newCache name p => exact (Aloof.newCache name p).transfer
  | resolveCached name context frame image =>
    exact (Aloof.resolveCached name context frame image).transfer
  | clearCached name slot mode => exact (Aloof.clearCached name slot mode).transfer
  | clearCache name mode => exact (Aloof.clearCache name mode).transfer
  | dropCache name => exact (Aloof.dropCache name).transfer
  | newUpdater c config sink =>
    refine (Transfer.refl _ _ _).of_eq rfl ?_
    have entered := owners_set_updater s s.fresh ⟨(Updater.new s.fresh c config).setSink sink, 1⟩
    exact entered.trans ((zero_add _).trans (owners_eq_besides_of_none unnamed).symm)
  | hold id =>
    rw [hold_owners]
    exact .refl _ _ _
  | setter id setter =>
    refine onUpdater_transfer fun u r => ?_
    rw [setter_owners setter]
    exact .refl _ _ _
  | post id => exact onUpdater_transfer fun u r => (u.post_passes (m := .gentle) still).transfer
  | latch id frame issued =>
    exact onUpdater_transfer fun u r =>
      (u.latch_passes (m := .gentle) still frame issued rfl
        fun _ _ _ _ => rfl).transfer
  | bind forceFilter transform crop held there =>
    obtain ⟨h, found⟩ := Option.isSome_iff_exists.1 there
    exact (Transfer.share_of_held held).trans (updater_transfer (s := s.onWorld (·.share _)) found
      fun r => (h.value.bind_passes (P := Entry.Quiet) (m := .gentle) forceFilter transform crop
        rfl).transfer)

/-- A step opens a context or passes textures on by steps of the world. -/
theorem Step.transfer (unnamed : s.updaters.get? s.fresh = none) (h : Step s s') :
    (∃ b, s' = (s.makeContext b).1)
      ∨ Transfer Entry.Any s.world s.owners s'.world s'.owners := by
  have begun : ∀ id,
      let after := s.onUpdater id fun u w => ((u.beginApply w).world, (u.beginApply w).object)
      Transfer Entry.Any s.world s.owners after.world after.owners := by
    intro id
    refine onUpdater_transfer ?_
    intro u r
    rw [u.beginApply_owners]
    exact (u.beginApply_passes (m := .gentle) fun _ _ _ => trivial).transfer
  cases h with
  | makeContext b => exact .inl ⟨b, rfl⟩
  | calm h => exact .inr ((h.transfer unnamed).mono fun _ _ => trivial)
  | idle found live idle => exact .inr (begun _)
  | ask found live asked => exact .inr ((begun _).trans (.remark _ rfl trivial))
  | attach id name =>
    exact .inr (onUpdater_transfer (s := { s with fresh := s.fresh + 1 }) fun u r =>
      (u.attach_passes (m := .gentle) (fun _ _ _ => trivial) (fun _ _ => trivial) _
        trivial).transfer)
  | detach id =>
    exact .inr (onUpdater_transfer fun u r =>
      (u.detach_passes (m := .gentle) (fun _ _ _ => trivial) fun _ _ => trivial).transfer)
  | teardown id mode =>
    exact .inr (onUpdater_transfer fun u r => (u.teardown_passes (m := .harsh)
      (fun _ _ _ => trivial) (fun _ _ => trivial) mode (.inr (by decide))
      fun _ _ => trivial).transfer)
  | letGo id => exact .inr (letGo_transfer id)

end LayerFeed.Session
