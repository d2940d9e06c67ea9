/-
Textures are conserved. In every reachable session each imported texture is either
held, by handles and images that are there, or has left its backend, once, by the
call that the state of its context and its release asked for.

The argument is short because two things are known of every sound session: the
counts of its world are the holders that it has (`World.Owned`), and the history
of its world agrees with these counts (`World.Ledger`).
-/
import LayerFeed.Proofs.Session.Run
import LayerFeed.Session.View
import Mathlib.Data.List.Basic

namespace LayerFeed.Session

open Owners World

variable {s : Session} {t : TextureId}

/-- The imported textures that somebody holds. -/
def heldTextures (s : Session) : List TextureId :=
  (importsIn s.world.history).filter fun t => 0 < s.owners.count t

/-- The conservation of textures. `freesIn` lists the textures of all deletes and
abandons, in order. -/
structure Conserved (s : Session) : Prop where
  /-- No number is imported twice, and none leaves its backend twice. -/
  once : (importsIn s.world.history).Nodup ∧ (freesIn s.world.history).Nodup
  /-- What has left is what was imported and has no holder. -/
  freed_iff : ∀ t, t ∈ freesIn s.world.history
    ↔ t ∈ importsIn s.world.history ∧ s.owners.count t = 0
  /-- Imports are deletes, abandons and held textures. -/
  balance : (importsIn s.world.history).length = (deletesIn s.world.history).length
    + (abandonsIn s.world.history).length + s.heldTextures.length
  /-- From here on a texture leaves exactly when its last holder goes, whatever
  happens and wherever one looks. -/
  leaves_with_last : ∀ w w', World.Steps Entry.Any s.world w → World.Steps Entry.Any w w' →
    ∀ t ∈ importsIn w.history,
      (t ∈ freesIn w'.history ∧ t ∉ freesIn w.history ↔ 0 < w.holders t ∧ w'.holders t = 0)
  /-- A holder that lets go makes no call unless it is the last; the last one deletes
  the texture if its context lives and no release under a lost context touched it. -/
  letGo : ∀ t, 0 < s.owners.count t → ∃ x, s.world.texture? t = some x
    ∧ (s.world.letGo t).history = s.world.history ++ if s.owners.count t = 1
      then [.backend x.context (if s.world.alive x.context ∧ x.released ≠ some .contextLost
        then .deleted t else .abandoned t)]
      else []
  /-- The same, read off the whole history: a texture leaves after its import, on the
  context that imported it, deleted exactly if that context was not lost before and
  no release under a lost context touched it. -/
  call : ∀ pre post c call t, s.world.history = pre ++ .backend c call :: post →
    call.freed? = some t → (∃ b d, .backend c (.imported t b d) ∈ pre)
      ∧ (call = .deleted t ↔ ¬ LostIn c pre
        ∧ ∃ x, s.world.texture? t = some x ∧ x.released ≠ some .contextLost)
  /-- An image that somebody has shows its texture, which has not left. -/
  image : ∀ t, 0 < s.owners .image t → t ∉ freesIn s.world.history
    ∧ (s.world.imageView? t).map ImageView.texture = some t
  /-- A handle tells of itself and of all images. -/
  handle : ∀ t, 0 < s.owners .handle t →
    (s.world.handleView? t).map HandleView.holders = some (1 + s.owners .image t)
  /-- A release answers that it freed the texture exactly if the call is made in it. -/
  release : ∀ t mode, 0 < s.owners .handle t → t ∉ freesIn s.world.history
    ∧ ((s.world.release t mode).2 = .freed ↔ t ∈ freesIn (s.world.release t mode).1.history)

-- ==================================================== the parts

/-- Whoever has a handle of a texture has a share of it. -/
theorem count_pos_of_handle {f : Owners} (pos : 0 < f .handle t) : 0 < f.count t := by
  unfold count
  omega

/-- And whoever has an image. -/
theorem count_pos_of_image {f : Owners} (pos : 0 < f .image t) : 0 < f.count t := by
  unfold count
  omega

/-- A texture with owners is in the world, with as many holders. -/
theorem Sound.held (sound : s.Sound) (pos : 0 < s.owners.count t) :
    ∃ x, s.world.texture? t = some x ∧ x.holders = s.owners.count t :=
  sound.owned.found pos

/-- A texture was freed exactly when it was imported and has no owner left. -/
theorem Sound.mem_freesIn (sound : s.Sound) : t ∈ freesIn s.world.history
    ↔ t ∈ importsIn s.world.history ∧ s.owners.count t = 0 := by
  rw [sound.ledger.mem_freesIn, sound.owned.held]

/-- A texture with an owner was not freed. -/
theorem Sound.not_freed (sound : s.Sound) (pos : 0 < s.owners.count t) :
    t ∉ freesIn s.world.history := by
  intro freed
  obtain ⟨-, none⟩ := sound.mem_freesIn.1 freed
  omega

/-- No texture was imported twice. -/
theorem Sound.imports_nodup (sound : s.Sound) : (importsIn s.world.history).Nodup := by
  rw [sound.ledger.imports]
  exact List.nodup_range'

/-- Imported is what was deleted, what was abandoned and what is held. -/
theorem Sound.balance (sound : s.Sound) : (importsIn s.world.history).length
    = (deletesIn s.world.history).length + (abandonsIn s.world.history).length
      + s.heldTextures.length := by
  -- neither list has repetitions, so they agree if their members do
  have left : (freesIn s.world.history).Perm
      ((importsIn s.world.history).filter fun t => !decide (0 < s.owners.count t)) := by
    refine (List.perm_ext_iff_of_nodup sound.ledger.nodup (sound.imports_nodup.filter _)).2 ?_
    intro t
    rw [sound.mem_freesIn, List.mem_filter]
    simp
  rw [← length_freesIn, left.length_eq,
    List.length_eq_length_filter_add fun t => decide (0 < s.owners.count t)]
  exact Nat.add_comm _ _

/-- Letting go frees a texture exactly with its last share, on its own context. -/
theorem Sound.letGo (sound : s.Sound) (pos : 0 < s.owners.count t) :
    ∃ x, s.world.texture? t = some x
      ∧ (s.world.letGo t).history = s.world.history ++ if s.owners.count t = 1
        then [.backend x.context (if s.world.alive x.context ∧ x.released ≠ some .contextLost
          then .deleted t else .abandoned t)]
        else [] := by
  obtain ⟨x, found, count⟩ := sound.held pos
  have call : s.world.farewell t x = if s.world.alive x.context ∧ x.released ≠ some .contextLost
      then .deleted t else .abandoned t := by
    unfold farewell Texture.condemned
    simp
  rw [letGo_history found, count, call]
  exact ⟨x, found, rfl⟩

/-- The imports are read off the calls. -/
theorem mem_importsIn_iff {h : List Entry} :
    t ∈ importsIn h ↔ ∃ c b d, .backend c (.imported t b d) ∈ h := by
  unfold importsIn
  rw [List.mem_filterMap]
  constructor
  · rintro ⟨e, mem, he⟩
    cases e with
    | backend c call =>
      cases call <;> cases he
      exact ⟨c, _, _, mem⟩
    | _ => cases he
  · rintro ⟨c, b, d, mem⟩
    exact ⟨_, mem, rfl⟩

/-- Every freeing call is for a texture imported before, on the same context. -/
theorem Sound.call (sound : s.Sound) {pre post : List Entry} {c : ContextId}
    {call : BackendCall} (split : s.world.history = pre ++ .backend c call :: post)
    (frees : call.freed? = some t) : (∃ b d, .backend c (.imported t b d) ∈ pre)
      ∧ (call = .deleted t ↔ ¬ LostIn c pre
        ∧ ∃ x, s.world.texture? t = some x ∧ x.released ≠ some .contextLost) := by
  obtain ⟨imported, x, found, home, -, why⟩ :=
    sound.ledger.leaves pre _ post split c call t rfl frees
  obtain ⟨d, b, a, mem⟩ := mem_importsIn_iff.1 imported
  have known : .backend d (.imported t b a) ∈ s.world.history := by
    rw [split]
    exact List.mem_append_left _ mem
  obtain ⟨y, found', home', -⟩ := sound.ledger.origin d t b a known
  rw [found] at found'
  cases found'
  refine ⟨⟨b, a, by rwa [← home, home']⟩, why.trans (and_congr_right fun _ => ?_)⟩
  rw [found]
  simp

/-- A release answers that the texture was freed exactly when its call is in the history. -/
theorem Sound.release (sound : s.Sound) (pos : 0 < s.owners .handle t) (mode : TeardownMode) :
    (s.world.release t mode).2 = .freed ↔ t ∈ freesIn (s.world.release t mode).1.history := by
  refine sound.ledger.release ?_ mode
  rw [sound.owned.held]
  exact count_pos_of_handle pos

/-- An image is of a texture that is not freed. -/
theorem Sound.image (sound : s.Sound) (pos : 0 < s.owners .image t) :
    t ∉ freesIn s.world.history ∧ (s.world.imageView? t).map ImageView.texture = some t := by
  have held := count_pos_of_image pos
  obtain ⟨x, found, -⟩ := sound.held held
  refine ⟨sound.not_freed held, ?_⟩
  rw [imageView?, found]
  rfl

/-- A handle counts itself and the images. -/
theorem Sound.handle (sound : s.Sound) (pos : 0 < s.owners .handle t) :
    (s.world.handleView? t).map HandleView.holders = some (1 + s.owners .image t) := by
  obtain ⟨x, found, count⟩ := sound.held (count_pos_of_handle pos)
  have single := sound.owned.single t
  have only : s.owners.count t = 1 + s.owners .image t := by
    unfold Owners.count
    omega
  rw [handleView?, found, Option.map_some, Option.map_some, count, only]

-- ==================================================== the whole

/-- Textures are conserved in every reachable session. -/
theorem Reachable.conserved (h : s.Reachable) : s.Conserved where
  once := ⟨h.sound.imports_nodup, h.sound.ledger.nodup⟩
  freed_iff _ := h.sound.mem_freesIn
  balance := h.sound.balance
  leaves_with_last _ _ before steps _ imported :=
    (h.sound.ledger.steps before).freed_between steps imported
  letGo _ pos := h.sound.letGo pos
  call _ _ _ _ _ split frees := h.sound.call split frees
  image _ pos := h.sound.image pos
  handle _ pos := h.sound.handle pos
  release _ mode pos :=
    ⟨h.sound.not_freed (count_pos_of_handle pos), h.sound.release pos mode⟩

/-- A run in which one texture is deleted, one is abandoned after its context was
lost, and one is still held by an image. -/
def threeFates : List Command :=
  let buffer : HardwareBuffer := ⟨⟨1⟩, ⟨64, 32, 1⟩, none⟩
  [.importTexture "a" "s" .gl buffer .srgb, .importTexture "b" "s" .gl buffer .srgb,
    .importTexture "c" "s" .vulkan buffer .srgb, .handleImage "c" "i", .dropHandle "a",
    .destroy "s", .dropHandle "b", .releaseHandle "c" .normal]

/-- The run in which one texture is deleted, one abandoned and one kept. -/
theorem threeFates_conserved :
    let s := (start false {}).run threeFates
    s.Conserved ∧ importsIn s.world.history = [1, 2, 3] ∧ deletesIn s.world.history = [1]
      ∧ abandonsIn s.world.history = [2] ∧ s.heldTextures = [3] :=
  ⟨Reachable.conserved (reachable_run false {} threeFates), by decide⟩

end LayerFeed.Session
