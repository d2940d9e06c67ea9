/-
Textures that are let go in order. A handle that is released in normal mode after its buffer was
handed back leaves a texture that keeps nothing from the producer's queue, and nobody can change
that, because only who has the handle finds the buffer again or releases it a second time. So
while `n` handles of a texture are there (none, or one), its record is `Tended`, and what
operations do to it can be composed (`World.Tends`): the record stays tended, and a release is
for good.

A caller who has a handle may release it with its buffer still kept. Of such a texture is only
said what is not `orderly` either: as long as it has a handle it was not released. Operations
that are not loose tend every texture (`Passes.tends`). So do slots and caches that stand alone,
which drop their handles or find a texture again without an updater's history telling of it.
-/
import LayerFeed.Proofs.Object.Drain
import LayerFeed.Proofs.Object.Updaters
import LayerFeed.Proofs.World.Queue

namespace LayerFeed

open Owners

variable {orderly : Prop}

namespace Texture

/-- The record of a texture that has `n` handles. While there is one it was not released; if
its handle was dealt with in order and was released in normal mode, its buffer is kept no
longer. -/
structure Tended (orderly : Prop) (x : Texture) (n : Nat) : Prop where
  withholds : World.WithholdsOnVulkan x
  unreleased : 0 < n → x.released = none
  returned : orderly → x.released = some .normal → ¬ x.queueHeld

variable {x : Texture} {n n' : Nat}

/-- With fewer handles a texture is tended as before. -/
theorem Tended.fewer (tended : x.Tended orderly n) (fewer : n' ≤ n) : x.Tended orderly n' :=
  ⟨tended.withholds, fun pos => tended.unreleased (by omega), tended.returned⟩

/-- A new texture is tended, whoever has it. -/
theorem tended_newTexture (c : ContextId) (p : Pipeline) (b : HardwareBuffer) (d : Dataspace)
    (n : Nat) : (World.newTexture c p b d).Tended orderly n :=
  ⟨of_decide_eq_true, fun _ => rfl, nofun⟩

/-- As long as there is a handle, it was dealt with in order. -/
theorem Tended.of_handle (tended : x.Tended orderly n) (has : 0 < n) : x.Tended True n := by
  refine ⟨tended.withholds, tended.unreleased, fun _ normal => ?_⟩
  rw [tended.unreleased has] at normal
  cases normal

/-- A texture that was handed back is tended. -/
theorem Tended.handedBack (tended : x.Tended orderly n) :
    x.handedBack.Tended orderly n ∧ x.handedBack.released = x.released
      ∧ ¬ x.handedBack.queueHeld := by
  unfold Texture.handedBack
  by_cases vulkan : x.pipeline = .vulkan
  · rw [if_pos vulkan]
    exact ⟨⟨fun _ => vulkan, tended.unreleased, fun _ _ => Bool.false_ne_true⟩, rfl,
      Bool.false_ne_true⟩
  · rw [if_neg vulkan]
    exact ⟨tended, rfl, fun held => vulkan (tended.withholds held)⟩

/-- A handle that is given up leaves none. -/
theorem Tended.givenUp (tended : x.Tended orderly n) (mode : TeardownMode) :
    (x.givenUp mode).Tended orderly 0 := by
  obtain ⟨back, -, free⟩ := tended.handedBack
  have none : ¬ 0 < 0 := Nat.lt_irrefl 0
  cases mode with
  | normal => exact ⟨back.withholds, fun pos => absurd pos none, fun _ _ => free⟩
  | contextLost => exact ⟨tended.withholds, fun pos => absurd pos none, nofun⟩

end Texture

namespace World

variable {P : Entry → Prop} {m : Manner} {w w' w'' : World} {f f' r : Owners} {t u : TextureId}
  {n n' n'' : Nat} {x y : World × Owners}

/-- The mode that the handle of a texture was released under, if it was released. -/
def released? (w : World) (t : TextureId) : Option TeardownMode :=
  (w.texture? t).bind Texture.released

/-- A texture of which `n` handles are there is tended, if it is known. -/
def Tended (orderly : Prop) (t : TextureId) (w : World) (n : Nat) : Prop :=
  ∀ x, w.texture? t = some x → x.Tended orderly n

/-- From a world with `n` handles of a texture to one with `n'`: if it was tended it is tended,
and if it was released it stays so, under the same mode. -/
def Tends (orderly : Prop) (t : TextureId) (w : World) (n : Nat) (w' : World) (n' : Nat) : Prop :=
  w.Tended orderly t n → w'.Tended orderly t n'
    ∧ ∀ mode, w.released? t = some mode → w'.released? t = some mode

-- ==================================================== single changes

/-- How the record of a texture changes whose handle is given up. -/
theorem giveUp_texture? (w : World) (t : TextureId) (mode : TeardownMode) (u : TextureId) :
    (w.giveUp t mode).texture? u
      = if u = t then (w.texture? t).map (Texture.givenUp mode) else w.texture? u := by
  have cleared := Slot.clear_world { pipeline := .gl, texture := some t } w mode
  rw [Option.toList_some, drained_singleton] at cleared
  rw [show w.giveUp t mode = _ from cleared]
  exact texture?_onTexture w t u _

namespace Tends

/-- One change after another. -/
theorem trans (first : Tends orderly t w n w' n') (second : Tends orderly t w' n' w'' n'') :
    Tends orderly t w n w'' n'' := by
  intro tended
  obtain ⟨tended', stays⟩ := first tended
  obtain ⟨tended'', stays'⟩ := second tended'
  exact ⟨tended'', fun mode released => stays' mode (stays mode released)⟩

/-- A change that leaves the texture and brings no handle. -/
theorem of_record (same : w'.texture? t = w.texture? t) (fewer : n' ≤ n) :
    Tends orderly t w n w' n' := by
  intro tended
  unfold Tended released?
  rw [same]
  exact ⟨fun x found => (tended x found).fewer fewer, fun _ released => released⟩

/-- A change that leaves all textures and brings no handle. -/
theorem of_textures (same : w'.textures = w.textures) (fewer : n' ≤ n) :
    Tends orderly t w n w' n' := by
  refine of_record ?_ fewer
  unfold texture?
  rw [same]

/-- No change, and no new handle. -/
theorem refl (w : World) (fewer : n' ≤ n) : Tends orderly t w n w n' := of_record rfl fewer

/-- A change to one record, which may be that of another texture. -/
theorem of_change {g : Texture → Texture}
    (textures : ∀ v, w'.texture? v = if v = u then (w.texture? u).map g else w.texture? v)
    (other : t ≠ u → n' ≤ n)
    (own : t = u → ∀ x : Texture, x.Tended orderly n →
      (g x).Tended orderly n' ∧ ∀ mode, x.released = some mode → (g x).released = some mode) :
    Tends orderly t w n w' n' := by
  by_cases same : t = u
  · have changed : w'.texture? t = (w.texture? t).map g := by rw [textures, if_pos same, same]
    intro tended
    refine ⟨fun y found => ?_, fun mode released => ?_⟩
    · rw [changed] at found
      obtain ⟨x, there, rfl⟩ := Option.map_eq_some_iff.1 found
      exact (own same x (tended x there)).1
    · obtain ⟨x, found, released⟩ := Option.bind_eq_some_iff.1 released
      rw [released?, changed, found]
      exact (own same x (tended x found)).2 mode released
  · exact of_record (by rw [textures, if_neg same]) (other same)

/-- A change to the count of holders alone. -/
theorem of_count {g : Nat → Nat}
    (textures : ∀ v, w'.texture? v
      = if v = u then (w.texture? u).map fun x => { x with holders := g x.holders }
        else w.texture? v)
    (fewer : n' ≤ n) : Tends orderly t w n w' n' := by
  refine of_change textures (fun _ => fewer) fun _ x tended => ⟨?_, fun _ released => released⟩
  have fewer := tended.fewer fewer
  exact ⟨fewer.withholds, fewer.unreleased, fewer.returned⟩

/-- A share more of any texture. -/
theorem share (u : TextureId) (w : World) (fewer : n' ≤ n) :
    Tends orderly t w n (w.share u) n' :=
  of_count (g := (· + 1)) (texture?_onTexture w u · _) fewer

/-- A share less of any texture. -/
theorem letGo (u : TextureId) (w : World) (fewer : n' ≤ n) :
    Tends orderly t w n (w.letGo u) n' :=
  of_count (g := (· - 1)) (letGo_texture? w u) fewer

theorem letGoOf (o : Option TextureId) (w : World) (fewer : n' ≤ n) :
    Tends orderly t w n (w.letGoOf o) n' := by
  cases o with
  | none => exact .refl w fewer
  | some u => exact .letGo u w fewer

/-- A hand-back of any texture. -/
theorem releaseQueue (u : TextureId) (w : World) : Tends orderly t w n (w.releaseQueue u).1 n := by
  refine of_change (g := Texture.handedBack) (releaseQueue_texture? w u) (fun _ => Nat.le_refl n)
    fun _ x tended => ?_
  obtain ⟨back, same, -⟩ := tended.handedBack
  exact ⟨back, fun _ released => same.trans released⟩

/-- Who finds a buffer again has the handle. -/
theorem reacquireQueue (handle : t = u → 0 < n) :
    Tends orderly t w n (w.reacquireQueue u) n := by
  refine of_change (texture?_onTexture w u · _) (fun _ => Nat.le_refl n) fun same x tended => ?_
  have unreleased := tended.unreleased (handle same)
  split
  · next vulkan =>
    refine ⟨⟨fun _ => vulkan, tended.unreleased, fun _ normal => ?_⟩, fun _ released => released⟩
    change x.released = some .normal at normal
    rw [unreleased] at normal
    cases normal
  · exact ⟨tended, fun _ released => released⟩

/-- Who gives a handle up has it, and then there is none. -/
theorem giveUp (mode : TeardownMode) (own : t = u → 0 < n ∧ n' = 0) (other : t ≠ u → n' ≤ n) :
    Tends orderly t w n (w.giveUp u mode) n' := by
  refine of_change (giveUp_texture? w u mode) other fun same x tended => ?_
  obtain ⟨has, rfl⟩ := own same
  refine ⟨tended.givenUp mode, fun _ released => ?_⟩
  rw [tended.unreleased has] at released
  cases released

/-- A caller who releases a handle has it. A texture that is dealt with in order is another. -/
theorem release (mode : TeardownMode) (own : t = u → ¬ orderly ∧ 0 < n ∧ n' = 0)
    (other : t ≠ u → n' ≤ n) : Tends orderly t w n (w.release u mode).1 n' := by
  refine Tends.trans (of_change
    (texture?_onTexture w u · fun x => { x with released := some mode }) other
    fun same x tended => ?_) (.letGo u _ (Nat.le_refl n'))
  obtain ⟨loose, has, rfl⟩ := own same
  refine ⟨⟨tended.withholds, fun pos => absurd pos (Nat.lt_irrefl 0),
    fun orderly => absurd orderly loose⟩, fun _ released => ?_⟩
  rw [tended.unreleased has] at released
  cases released

/-- A texture that is imported was not released. -/
theorem importTexture {c : ContextId} {p : Pipeline} {b : HardwareBuffer} {d : Dataspace}
    (owned : w.Owned f) (alive : w.alive c) (works : (w.backend c).importError = none)
    (other : t ≠ w.imported + 1 → n' ≤ n) : Tends orderly t w n (w.importTexture c p b d).1 n' := by
  have textures := importTexture_texture? p b d alive works t
  by_cases new : t = w.imported + 1
  · intro _
    rw [if_pos new] at textures
    refine ⟨fun y found => ?_, fun mode released => ?_⟩
    · rw [textures] at found
      cases found
      exact Texture.tended_newTexture c p b d n'
    · obtain ⟨x, found, -⟩ := Option.bind_eq_some_iff.1 released
      have counted := ((owned.numbered t).1 (by rw [found]; rfl)).2
      exact absurd new (Nat.ne_of_lt (Nat.lt_succ_of_le counted))
  · rw [if_neg new] at textures
    exact of_record textures (other new)

end Tends

-- ==================================================== operations that are not loose

/-- Who has a handle has at least one. -/
theorem handle_pos (t : TextureId) (f : Owners) : 0 < (one .handle t + f) .handle t := by
  rw [Pi.add_apply, Pi.add_apply, one_handle_apply, if_pos rfl]
  omega

/-- A texture that has a handle has no other. -/
theorem Owned.last (owned : w.Owned (one .handle t + f)) : f .handle t = 0 := by
  have single : (one .handle t + f) .handle t ≤ 1 := owned.single t
  rw [Pi.add_apply, Pi.add_apply, one_handle_apply, if_pos rfl] at single
  omega

/-- A pass that is not loose tends every texture. -/
theorem Pass.tends (pass : Pass P m x y) (firm : m ≠ .loose) (owned : x.1.Owned x.2)
    (t : TextureId) : Tends orderly t x.1 (x.2 .handle t) y.1 (y.2 .handle t) := by
  cases pass with
  | remark | aside | adjustBackend | loseContext | query => exact .of_textures rfl (Nat.le_refl _)
  | @importTexture w f c p b d alive works =>
    exact .importTexture owned alive works fun ne => Nat.le_of_eq (handle_add_handle_of_ne ne f)
  | @share w f u held => exact .share u w (Nat.le_of_eq (image_add_handle u t f))
  | @letGo w f u => exact .letGo u w (Nat.le_of_eq (image_add_handle u t f).symm)
  | @handBack w f u => exact .releaseQueue u w
  | @giveUp w f u mode allowed =>
    refine .giveUp mode ?_ fun ne => Nat.le_of_eq (handle_add_handle_of_ne ne f).symm
    rintro rfl
    exact ⟨handle_pos t f, owned.last⟩
  | @redeliver w f u id frame allowed =>
    refine (Tends.reacquireQueue (u := u) ?_).trans ?_
    · rintro rfl
      exact handle_pos t f
    · exact (Tends.share u _ (Nat.le_of_eq (image_add_handle u t _))).trans
        (.of_textures rfl (Nat.le_refl _))
  | reacquire loose | release _ loose | discard loose => exact absurd loose firm

/-- And so do passes. -/
theorem Passes.tends (passes : Passes P m w f w' f') (firm : m ≠ .loose) (owned : w.Owned f)
    (t : TextureId) : Tends orderly t w (f .handle t) w' (f' .handle t) := by
  have all := passes.keeps
    (I := fun v g => v.Owned g ∧ Tends orderly t w (f .handle t) v (g .handle t)) ?_
    ⟨owned, .refl w (Nat.le_refl _)⟩
  · exact all.2
  · rintro x y pass ⟨owned, before⟩
    exact ⟨(pass.transfer owned).2, before.trans (pass.tends firm owned t)⟩

end World

open World

variable {w : World} {r : Owners} {t : TextureId} {c : ContextId} {n n' : Nat}

-- ==================================================== slots and caches

namespace Slot

/-- A slot that finds its texture again has its handle, and one that does not gives it up. -/
theorem resolve_tends (s : Slot) (owned : w.Owned (s.owners + r)) (b : HardwareBuffer)
    (d : Dataspace) (force : Bool) (t : TextureId) :
    Tends orderly t w ((s.owners + r) .handle t) (s.resolve w c b d force).world
      (((s.resolve w c b d force).object.owners + r) .handle t) := by
  rcases s.resolve_cases w c b d force with ⟨u, texture, found⟩ | filled
  · rw [found]
    refine (Tends.reacquireQueue (u := u) ?_).trans (.share u _ (Nat.le_refl _))
    rintro rfl
    rw [owners, texture, oneOf_some]
    exact handle_pos t r
  · rw [filled]
    have refilled := s.refill_passes (P := Entry.Any) (m := .gentle) (w := w) (c := c) (r := r)
      (fun _ _ => trivial) b d
    exact (refilled.tends (by decide) owned t).trans (.refl _ (Nat.le_add_left _ _))

/-- Dropping a slot tends every texture. -/
theorem discard_tends (s : Slot) (w : World) (fewer : n' ≤ n) :
    Tends orderly t w n (s.discard w) n' := .letGoOf s.texture w fewer

end Slot

namespace SlotCache

/-- A resolution tends every texture: it imports a new one, or takes the one there is. -/
theorem resolve_tends (cache : SlotCache) (owned : w.Owned (cache.owners + r)) (slot : SlotId)
    (b : HardwareBuffer) (d : Dataspace) (force : Bool) (t : TextureId) :
    Tends orderly t w ((cache.owners + r) .handle t) (cache.resolve w c slot b d force).world
      (((cache.resolve w c slot b d force).object.owners + r) .handle t) := by
  rw [cache.owners_entry slot, add_assoc] at owned ⊢
  rw [resolve, owners, Table.owners_set, add_assoc]
  exact Slot.resolve_tends _ owned b d force t

theorem discard_tends (cache : SlotCache) (w : World) (fewer : n' ≤ n) :
    Tends orderly t w n (cache.discard w) n' := by
  unfold discard
  generalize cache.slots.values = slots
  induction slots generalizing w with
  | nil => exact .refl w fewer
  | cons slot slots ih => exact (slot.discard_tends w (Nat.le_refl n)).trans (ih _)

end SlotCache

/-- An updater that goes away is torn down, and drops what was entered since. -/
theorem Updater.discard_tends (u : Updater) (owned : w.Owned (u.owners + r)) (t : TextureId) :
    Tends orderly t w ((u.owners + r) .handle t) (u.discard w) (r .handle t) := by
  unfold discard
  have down := u.teardown_passes (P := Entry.Any) (m := .harsh) (w := w) (r := r)
    (fun _ _ _ => trivial) (fun _ _ => trivial)
    (if w.alive u.context then .normal else .contextLost) (.inr (by decide)) fun _ _ => trivial
  generalize u.teardown w (if w.alive u.context then .normal else .contextLost) = after at down ⊢
  have dropped : Tends orderly t after.1 ((after.2.owners + r) .handle t)
      (after.2.dropSource after.1) ((after.2.owners + r) .handle t) := by
    unfold dropSource
    split <;> exact .of_textures rfl (Nat.le_refl _)
  refine (down.tends (by decide) owned t).trans (dropped.trans ?_)
  exact (Tends.letGoOf _ _ (Nat.le_refl _)).trans
    (after.2.cache.discard_tends _ (Nat.le_add_left _ _))

end LayerFeed
