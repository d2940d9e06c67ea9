/-
While a source is asked for a frame. The updater that asked it is locked, and it is held,
so it stays what it was (`Asking`). The buffer of the slot that it shows goes back to the
producer's queue with the first fence that the source makes, and nothing that happens
before the source has answered takes it out again (`Moves.handedBack`): only the updater
itself deals with the handles in its cache.
-/
import LayerFeed.Proofs.Session.Backing
import LayerFeed.Proofs.World.Guard

namespace LayerFeed

open Owners World

namespace World

variable {P : Entry → Prop} {m : Manner} {w w' : World} {f f' r : Owners} {t : TextureId}

/-- What is spared is withheld as it was. -/
theorem Spares.queueHeld (spares : Spares t w w') (known : (w.texture? t).isSome) :
    w'.queueHeld t = w.queueHeld t := by
  obtain ⟨a, found⟩ := Option.isSome_iff_exists.1 known
  obtain ⟨n, found'⟩ := spares a found
  unfold World.queueHeld
  rw [found, found']
  rfl

/-- A buffer that was handed back is not withheld, on Vulkan or elsewhere. -/
theorem HandBacks.not_queueHeld (h : w.HandBacks) (t : TextureId) :
    ¬ (w.releaseQueue t).1.queueHeld t := by
  unfold World.queueHeld
  rw [releaseQueue_texture?, if_pos rfl]
  cases found : w.texture? t with
  | none => nofun
  | some a =>
    intro held
    change (if a.pipeline = .vulkan then { a with queueHeld := false } else a).queueHeld = true
      at held
    split at held
    · cases held
    · next gl => exact gl (h.withholds t a found held)

end World

/-- What an updater has handed back stays so where its configuration, its fences and the flag of
the previous texture do. -/
theorem Updater.HandedBack.congr {u v : Updater} {w w' : World} (back : u.HandedBack w)
    (config : v.config = u.config) (fences : v.fences = u.fences)
    (held : ∀ slot t, u.fences.previous = some slot → slot.texture = some t →
      w'.queueHeld t = w.queueHeld t) : v.HandedBack w' := by
  intro vulkan slot t shown texture
  rw [config] at vulkan
  rw [fences] at shown
  rw [held slot t shown texture]
  exact back vulkan slot t shown texture

namespace Session

variable {s s' : Session} {i : UpdaterId} {h h' : Held Updater} {t : TextureId}
  {locked : Option UpdaterId}

-- ==================================================== sessions in order

/-- The world of a session that steps lead to keeps what the history says of hand-backs. -/
theorem Step.handBacks (sound : s.Sound) (handBacks : s.world.HandBacks) (step : Step s s') :
    s'.world.HandBacks := by
  rcases step.transfer sound.numbered.unnamed with ⟨b, rfl⟩ | transfer
  · exact ⟨handBacks.calls, handBacks.withholds⟩
  · exact handBacks.steps sound.ledger (transfer sound.owned).1

/-- Steps keep what the history says of the producer's queue. -/
theorem Steps.handBacks (sound : s.Sound) (handBacks : s.world.HandBacks) (steps : Steps s s') :
    s'.world.HandBacks := by
  induction steps with
  | refl => exact handBacks
  | tail before step ih => exact step.handBacks (Steps.sound sound before) ih

/-- A texture that is known stays known, with its buffer and its dataspace. -/
theorem Step.stays {a : Texture} (sound : s.Sound) (step : Step s s')
    (found : s.world.texture? t = some a) : ∃ b, s'.world.texture? t = some b ∧ Stays a b := by
  rcases step.transfer sound.numbered.unnamed with ⟨b, rfl⟩ | transfer
  · exact ⟨a, found, .refl a⟩
  · exact World.Steps.stays (transfer sound.owned).1 sound.ledger found

/-- The record of a texture stays over all steps of a sound session. -/
theorem Steps.stays {a : Texture} (sound : s.Sound) (steps : Steps s s')
    (found : s.world.texture? t = some a) : ∃ b, s'.world.texture? t = some b ∧ Stays a b := by
  induction steps with
  | refl => exact ⟨a, found, .refl a⟩
  | tail before step ih =>
    obtain ⟨b, found', same⟩ := ih
    obtain ⟨d, found'', same'⟩ := step.stays (Steps.sound sound before) found'
    exact ⟨d, found'', same.trans same'⟩

/-- The image of a texture that is known is seen the same from then on. -/
theorem Steps.imageView? (sound : s.Sound) (steps : Steps s s')
    (known : (s.world.texture? t).isSome) : s'.world.imageView? t = s.world.imageView? t := by
  obtain ⟨a, found⟩ := Option.isSome_iff_exists.1 known
  obtain ⟨b, found', same⟩ := Steps.stays sound steps found
  unfold World.imageView?
  rw [found, found', Option.map_some, Option.map_some, same.buffer, same.dataspace]

/-- What is known of sessions before anything is said of one updater. -/
structure InOrder (s : Session) : Prop where
  sound : s.Sound
  sourced : s.Sourced
  handBacks : s.world.HandBacks

/-- Steps keep the numbers in order. -/
theorem InOrder.steps (order : s.InOrder) (steps : Steps s s') : s'.InOrder where
  sound := steps.sound order.sound
  sourced := steps.sourced order.sound order.sourced
  handBacks := Steps.handBacks order.sound order.handBacks steps

theorem inOrder_new (minimal : Bool) : ({ minimal } : Session).InOrder :=
  ⟨sound_new minimal, sourced_new minimal, handBacks_default⟩

-- ==================================================== handles of one updater

/-- A texture whose handle an updater has is known, and nobody else has that handle. -/
theorem Sound.own_handle (sound : s.Sound) (entered : s.updaters.get? i = some h)
    (has : 0 < h.value.owners .handle t) :
    (s.world.texture? t).isSome ∧ s.besides i .handle t = 0 := by
  have split := owners_eq_besides entered
  have single := sound.owned.single t
  rw [split, Pi.add_apply, Pi.add_apply] at single
  refine ⟨?_, by omega⟩
  have counted : 0 < s.owners.count t := by
    rw [split, count_add]
    unfold Owners.count
    omega
  obtain ⟨a, found, -⟩ := sound.owned.found counted
  rw [found]
  rfl

/-- What happens elsewhere spares the textures whose handle is not dealt with there. -/
theorem Elsewhere.spares (elsewhere : Elsewhere i s s') (sound : s.Sound)
    (known : (s.world.texture? t).isSome) (none : s.besides i .handle t = 0) :
    Spares t s.world s'.world ∧ s'.besides i .handle t = 0 := by
  have owned := sound.owned
  rw [owners_eq_holdings s i, add_comm] at owned
  exact elsewhere.passes.spares owned none known

/-- The handle of the slot shown before is one that the updater has. -/
theorem previous_handle {u : Updater} {slot : Slot} (previous : u.fences.previous = some slot)
    (texture : slot.texture = some t) : 0 < u.owners .handle t := by
  obtain ⟨r, owners⟩ := previous_owners u
  rw [owners, previous, Pi.add_apply, Pi.add_apply]
  dsimp only [Option.elim]
  rw [Slot.owners, texture, oneOf_some, one_handle_apply, if_pos rfl]
  omega

-- ==================================================== a buffer that was handed back

/-- Making a fence changes no texture. -/
theorem createFence_textures (g : FenceGate) (w : World) (useSync : Bool) :
    (g.createFence w useSync).1.textures = w.textures := by
  have native : ∀ (v : World) display, (g.makeNative v display).1.textures = v.textures := by
    intro v display
    unfold FenceGate.makeNative
    split <;> rfl
  have sync : ∀ (v : World) display, (g.makeSync v display).1.textures = v.textures := by
    intro v display
    unfold FenceGate.makeSync
    split <;> rfl
  unfold FenceGate.createFence
  split
  · split
    · exact native _ _
    · dsimp only
      split
      · exact native _ _
      · split
        · exact sync _ _
        · rfl
  · rfl

/-- A fence hands the buffer of the slot shown before back. -/
theorem fence_handsBack {u : Updater} {w : World} (handBacks : w.HandBacks) (f : DequeueFences)
    (useSync : Bool) (gate : f.gate = u.fences.gate) (previous : f.previous = u.fences.previous) :
    u.HandedBack (f.createFence w useSync).world := by
  intro vulkan slot t shown texture
  have pipeline : f.gate.pipeline = .vulkan := by
    rw [gate]
    exact vulkan
  unfold DequeueFences.createFence World.queueHeld World.texture?
  dsimp only
  rw [createFence_textures, pipeline, previous, shown]
  dsimp only
  rw [Slot.releaseQueue, texture]
  exact handBacks.not_queueHeld t

theorem Untouched.config (same : Untouched h h') : h'.value.config = h.value.config := by
  rw [same]

/-- What was handed back stays so while its updater is locked. -/
theorem Move.handedBack (order : s.InOrder) (move : Move (some i) s s') (given : i < s.fresh)
    (entered : s.updaters.get? i = some h) (entered' : s'.updaters.get? i = some h')
    (back : h.value.HandedBack s.world) : h'.value.HandedBack s'.world := by
  have same : Untouched h h' := by
    rcases move.untouched given entered with absent | ⟨v, there, same⟩
    · rw [absent] at entered'
      cases entered'
    · rw [there] at entered'
      cases entered'
      exact same
  cases move.deal order.sound order.sourced i with
  | elsewhere elsewhere =>
    refine back.congr same.config same.fences fun slot t shown texture => ?_
    obtain ⟨known, none⟩ := order.sound.own_handle entered (previous_handle shown texture)
    exact (elsewhere.spares order.sound known none).1.queueHeld known
  | opens b => exact back.congr same.config same.fences fun _ _ _ _ => rfl
  | comes new => exact absurd new (Nat.ne_of_lt given)
  | goes entered world fresh besides gone =>
    rw [gone] at entered'
    cases entered'
  | deed found deed free world fresh besides there =>
    rw [entered] at found
    cases found
    rw [world]
    cases free rfl with
    | post => exact back.congr same.config same.fences fun _ _ _ _ => rfl
    | fence f useSync gate previous =>
      exact (fence_handsBack order.handBacks f useSync gate previous).congr same.config
        same.fences fun _ _ _ _ => rfl

/-- Moves with `i` locked keep what `i` has handed back. -/
theorem Moves.handedBack (order : s.InOrder) (moves : Moves (some i) s s') (given : i < s.fresh)
    (entered : s.updaters.get? i = some h) (entered' : s'.updaters.get? i = some h')
    (back : h.value.HandedBack s.world) : h'.value.HandedBack s'.world := by
  have all : s'.updaters.get? i = none
      ∨ ∃ v, s'.updaters.get? i = some v ∧ v.value.HandedBack s'.world := by
    clear entered'
    induction moves with
    | refl => exact .inr ⟨h, entered, back⟩
    | @tail a b before move ih =>
      have given' := Nat.lt_of_lt_of_le given (Moves.fresh before)
      rcases ih with absent | ⟨v, there, back⟩
      · exact .inl (move.absent given' absent)
      · cases there' : b.updaters.get? i with
        | none => exact .inl rfl
        | some v' =>
          have order' := order.steps (Moves.steps before)
          exact .inr ⟨v', rfl, move.handedBack order' given' there there' back⟩
  rcases all with absent | ⟨v, there, back⟩
  · rw [absent] at entered'
    cases entered'
  · rw [there] at entered'
    cases entered'
    exact back

end Session

end LayerFeed
