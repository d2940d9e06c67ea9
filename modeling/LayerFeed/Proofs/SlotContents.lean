/-
What is in a slot, wherever the slot is: on its own, in a cache, or in the cache of an updater.
Its buffer, its dataspace and its texture are set in different places, and the record of the
texture in yet another; that they fit together is what everything that is known of reuse,
hand-backs and releases stands on.

Three reasons have nothing to do with each other. What a slot says of its texture is filed with
it (`Session.Filed`). A texture has one handle, so it is in no other slot, and it was not freed.
And the handle in a slot has no name, so that nobody but the slot can release the texture
(`Session.Tidy.steps`).
-/
import LayerFeed.Proofs.Conservation
import LayerFeed.Proofs.Session.Filing
import LayerFeed.Proofs.Session.Run
import LayerFeed.Proofs.Session.Tending

namespace LayerFeed

open Owners World

variable {w : World} {r : Owners} {t : TextureId} {c : ContextId}

-- ==================================================== how a slot lets go

namespace Slot

/-- A slot that is cleared releases its texture, under the mode it is cleared with. -/
theorem clear_released? {s : Slot} (texture : s.texture = some t)
    (known : (w.texture? t).isSome) (mode : TeardownMode) :
    (s.clear w mode).world.released? t = some mode := by
  obtain ⟨x, found⟩ := Option.isSome_iff_exists.1 known
  have world : (s.clear w mode).world = w.giveUp t mode := by
    unfold clear
    rw [texture]
    rfl
  rw [World.released?, world, giveUp_texture?, if_pos rfl, found]
  rfl

/-- By a resolution a slot keeps its texture, or releases it in normal mode. -/
theorem resolve_released? {s : Slot} (owned : w.Owned (s.owners + r))
    (texture : s.texture = some t) (known : (w.texture? t).isSome) (b : HardwareBuffer)
    (d : Dataspace) (force : Bool) :
    (s.resolve w c b d force).object.texture = some t
      ∨ (s.resolve w c b d force).world.released? t = some .normal := by
  rcases s.resolve_cases w c b d force with ⟨u, -, found⟩ | filled
  · left
    rw [found]
    exact texture
  · right
    have released := s.clear_released? texture known .normal
    have cleared := ((s.clear_passes (P := Entry.Any) (m := .gentle) .normal (.inl rfl)).transfer
      owned).2
    have fills := fill_passes (P := Entry.Any) (m := .gentle) (c := c) (r := 0)
      (w := (s.clear w .normal).world) (fun _ _ => trivial) (s.clear w .normal).object b d
      (by rw [clear_object])
    obtain ⟨x, found, normal⟩ := Option.bind_eq_some_iff.1 released
    obtain ⟨n, found'⟩ := (fills.spares (r := r) (by rwa [zero_add]) rfl (by rw [found]; rfl)).1
      x found
    rw [filled, World.released?, found']
    exact normal

end Slot

namespace Session

-- ==================================================== places

/-- Where a slot can be. -/
inductive Place
  | alone (name : String)
  | cached (cache : String) (slot : SlotId)
  | updater (id : UpdaterId) (slot : SlotId)
deriving DecidableEq

/-- The slot at a place. -/
def slotAt (s : Session) : Place → Option Slot
  | .alone name => s.slots.get? name
  | .cached name slot => (s.caches.get? name).bind (·.get? slot)
  | .updater id slot => (s.updaterOf? id).bind (·.cache.get? slot)

/-- All that slots of one kind hold. -/
def Place.shelf (s : Session) : Place → Owners
  | .alone _ => s.slots.owners Slot.owners
  | .cached _ _ => s.caches.owners SlotCache.owners
  | .updater _ _ => s.updaters.owners (·.value.owners)

variable {s : Session} {place place' : Place} {slot slot' : Slot}

theorem slotAt_updater {id : UpdaterId} {n : SlotId}
    (found : s.slotAt (.updater id n) = some slot) :
    ∃ h, s.updaters.get? id = some h ∧ h.value.cache.get? n = some slot := by
  obtain ⟨u, there, entry⟩ := Option.bind_eq_some_iff.1 found
  obtain ⟨h, entered, rfl⟩ := Option.map_eq_some_iff.1 there
  exact ⟨h, entered, entry⟩

theorem Filed.slotAt (filed : s.Filed) (found : s.slotAt place = some slot) :
    slot.Filed s.world := by
  cases place with
  | alone name => exact filed.slots name slot found
  | cached name n =>
    obtain ⟨cache, there, entry⟩ := Option.bind_eq_some_iff.1 found
    exact filed.caches name cache there n slot entry
  | updater id n =>
    obtain ⟨u, there, entry⟩ := Option.bind_eq_some_iff.1 found
    exact filed.updaters id u there n slot entry

/-- A slot is an owner, beside all the rest. -/
theorem slotAt_owners (found : s.slotAt place = some slot) : ∃ r, s.owners = slot.owners + r := by
  cases place with
  | alone name => exact (owners_slots s).there found
  | cached name n =>
    obtain ⟨cache, there, entry⟩ := Option.bind_eq_some_iff.1 found
    obtain ⟨r, held⟩ := (owners_caches s).there there
    exact ⟨_, held.trans (by rw [SlotCache.owners_of_get? entry, add_assoc])⟩
  | updater id n =>
    obtain ⟨h, entered, entry⟩ := slotAt_updater found
    refine ⟨oneOf .image h.value.shownImage + (h.value.cache.slots.erase n).owners Slot.owners
      + s.besides id, ?_⟩
    rw [owners_eq_besides entered, Updater.owners, SlotCache.owners_of_get? entry]
    abel

/-- The handle that a slot has is among those of its kind. -/
theorem shelf_pos (found : s.slotAt place = some slot) (texture : slot.texture = some t) :
    0 < place.shelf s .handle t := by
  have own := Slot.has_handle texture
  cases place with
  | alone name => exact Nat.lt_of_lt_of_le own (Table.le_owners found .handle t)
  | cached name n =>
    obtain ⟨cache, there, entry⟩ := Option.bind_eq_some_iff.1 found
    have inner : slot.owners .handle t ≤ cache.owners .handle t := Table.le_owners entry .handle t
    exact Nat.lt_of_lt_of_le own (inner.trans (Table.le_owners there .handle t))
  | updater id n =>
    obtain ⟨h, entered, entry⟩ := slotAt_updater found
    exact Nat.lt_of_lt_of_le (slot_handle entry texture)
      (Table.le_owners (f := fun h : Held Updater => h.value.owners) entered .handle t)

/-- Of all handles of a texture in a session there is one at most. -/
theorem Sound.shelves_le (sound : s.Sound) (t : TextureId) :
    s.handles.owners (one .handle) .handle t + s.slots.owners Slot.owners .handle t
      + s.caches.owners SlotCache.owners .handle t
      + s.updaters.owners (·.value.owners) .handle t ≤ 1 := by
  have single := sound.owned.single t
  simp only [owners, Pi.add_apply] at single
  omega

/-- The handle that a slot has is not known by a name. -/
theorem Sound.unnamed (sound : s.Sound) (found : s.slotAt place = some slot)
    (texture : slot.texture = some t) : s.Unnamed t := by
  intro name named
  have own : one .handle t .handle t ≤ s.handles.owners (one .handle) .handle t :=
    Table.le_owners named .handle t
  rw [one_handle_apply, if_pos rfl] at own
  have held := shelf_pos found texture
  have single := sound.shelves_le t
  cases place <;> (simp only [Place.shelf] at held; omega)

/-- No two slots hold the same texture. -/
theorem Sound.place_unique (sound : s.Sound) (found : s.slotAt place = some slot)
    (texture : slot.texture = some t) (found' : s.slotAt place' = some slot')
    (texture' : slot'.texture = some t) : place' = place := by
  have single := sound.shelves_le t
  have here := shelf_pos found texture
  have there := shelf_pos found' texture'
  have own := Slot.has_handle texture
  have own' := Slot.has_handle texture'
  -- slots of two kinds would make two handles, and slots of one kind stand in one table
  cases place with
  | alone name =>
    cases place' with
    | alone name' =>
      have slots : s.slots.owners Slot.owners .handle t ≤ 1 := by omega
      rw [Table.key_unique slots found own found' own']
    | cached | updater => simp only [Place.shelf] at here there; omega
  | cached name n =>
    cases place' with
    | cached name' n' =>
      obtain ⟨cache, entered, entry⟩ := Option.bind_eq_some_iff.1 found
      obtain ⟨cache', entered', entry'⟩ := Option.bind_eq_some_iff.1 found'
      have inner : slot.owners .handle t ≤ cache.owners .handle t :=
        Table.le_owners entry .handle t
      have inner' : slot'.owners .handle t ≤ cache'.owners .handle t :=
        Table.le_owners entry' .handle t
      have outer : cache.owners .handle t ≤ _ := Table.le_owners entered .handle t
      have caches : s.caches.owners SlotCache.owners .handle t ≤ 1 := by omega
      obtain rfl := Table.key_unique caches entered (own.trans_le inner) entered'
        (own'.trans_le inner')
      rw [entered] at entered'
      cases entered'
      rw [SlotCache.slot_unique (outer.trans caches) entry' texture' entry texture]
    | alone | updater => simp only [Place.shelf] at here there; omega
  | updater id n =>
    cases place' with
    | updater id' n' =>
      obtain ⟨h, entered, entry⟩ := slotAt_updater found
      obtain ⟨h', entered', entry'⟩ := slotAt_updater found'
      have updaters : s.updaters.owners (·.value.owners) .handle t ≤ 1 := by omega
      obtain rfl := Table.key_unique updaters entered (slot_handle entry texture) entered'
        (slot_handle entry' texture')
      rw [entered] at entered'
      cases entered'
      rw [sound.slot_unique entered entry' texture' entry texture]
    | alone | cached => simp only [Place.shelf] at here there; omega

-- ==================================================== what is in a slot

/-- The slot at a place of a session fits together. -/
structure Intact (s : Session) (place : Place) (slot : Slot) : Prop where
  paired : slot.texture.isSome = slot.buffer.isSome
  bare : slot.texture = none → slot.dataspace = .unknown
  /-- The slot has the buffer and the dataspace that its texture was imported with. -/
  filled : ∀ t, slot.texture = some t → ∃ x, s.world.texture? t = some x
    ∧ slot.buffer = some x.buffer ∧ slot.dataspace = x.dataspace
    ∧ .backend x.context (.imported t x.buffer x.dataspace) ∈ s.world.history
  unfreed : ∀ t, slot.texture = some t → t ∉ freesIn s.world.history
  sole : ∀ t, slot.texture = some t → ∀ place' slot', s.slotAt place' = some slot' →
    slot'.texture = some t → place' = place

theorem Reachable.intact (reachable : s.Reachable) (found : s.slotAt place = some slot) :
    s.Intact place slot := by
  have sound := reachable.sound
  have filed := reachable.filed.slotAt found
  refine ⟨?_, fun bare => (filed.bare bare).2, fun t texture => ?_, fun t texture => ?_,
    fun t texture place' slot' found' texture' => sound.place_unique found texture found' texture'⟩
  · cases texture : slot.texture with
    | none =>
      rw [(filed.bare texture).1]
      rfl
    | some t =>
      obtain ⟨x, -, buffer, -⟩ := filed.texture t texture
      rw [buffer]
      rfl
  · obtain ⟨x, record, buffer, dataspace, -⟩ := filed.texture t texture
    refine ⟨x, record, buffer, dataspace.symm, ?_⟩
    -- the record is the one that the import began
    obtain ⟨c, b, d, mem⟩ := mem_importsIn_iff.1
      (sound.ledger.mem_importsIn.2 (by rw [record]; rfl))
    obtain ⟨y, record', rfl, rfl, rfl⟩ := sound.ledger.origin c t b d mem
    rw [record] at record'
    cases record'
    exact mem
  · obtain ⟨r, held⟩ := slotAt_owners found
    have owned := sound.owned
    rw [held, Slot.owners, texture, oneOf_some] at owned
    exact sound.ledger.unfreed owned

/-- A texture in a slot was dealt with in order, and nobody else can release it. -/
theorem Reachable.tidy_of_slot (reachable : s.Reachable) (found : s.slotAt place = some slot)
    (texture : slot.texture = some t) : s.Tidy t := by
  refine reachable.tidy ?_ (reachable.sound.unnamed found texture)
  obtain ⟨r, held⟩ := slotAt_owners found
  rw [held, Slot.owners, texture, oneOf_some]
  exact handle_pos t r

/-- In every run every slot is intact. A slot that is cleared releases its texture under the mode
it is cleared with, and one that is resolved keeps it or releases it in normal mode. A texture
that stood in a slot and was released in normal mode is never taken back, and never again keeps
its buffer from the producer's queue. -/
theorem run_intact (minimal : Bool) (b : Backend) (commands : List Command)
    (found : ((start minimal b).run commands).slotAt place = some slot) :
    let s := (start minimal b).run commands
    s.Intact place slot ∧ ∀ t, slot.texture = some t →
      (∀ mode, (slot.clear s.world mode).world.released? t = some mode)
      ∧ (∀ c buffer dataspace force,
          let resolved := slot.resolve s.world c buffer dataspace force
          resolved.object.texture = some t ∨ resolved.world.released? t = some .normal)
      ∧ ∀ after, (s.run after).world.released? t = some .normal → ∀ more,
          ((s.run after).run more).world.released? t = some .normal
            ∧ ¬ ((s.run after).run more).world.queueHeld t := by
  intro s
  have kept : s.Kept := kept_run minimal b commands
  have reachable : s.Reachable := reachable_run minimal b commands
  refine ⟨reachable.intact found, fun t texture => ?_⟩
  have tidy := reachable.tidy_of_slot found texture
  refine ⟨Slot.clear_released? texture tidy.known, fun c buffer dataspace force => ?_,
    fun after normal more => ?_⟩
  · obtain ⟨r, held⟩ := slotAt_owners found
    have owned := reachable.sound.owned
    rw [held] at owned
    exact Slot.resolve_released? owned texture tidy.known buffer dataspace force
  · have goes := run_goes kept after
    obtain ⟨tidy', -⟩ := tidy.steps reachable.sound goes.moves.steps
    obtain ⟨tidy'', stays⟩ := tidy'.steps (kept.goes goes).order.sound
      (run_goes (kept.goes goes) more).moves.steps
    exact ⟨stays .normal normal, tidy''.returned (stays .normal normal)⟩

/-- Three frames for two slots of a cache on Vulkan. The last brings the first buffer again, but
says that it has another size. -/
def resized : List Command :=
  let frame := fun (slot : Int32) (buffer : UInt64) (width : UInt32) =>
    Frame.ofBuffer ⟨slot⟩ ⟨⟨buffer⟩, ⟨width, 32, 1⟩, none⟩ .srgb
  [.newCache "c" .vulkan, .resolveCached "c" "s" (frame 0 1 64) none,
    .resolveCached "c" "s" (frame 1 2 64) none, .resolveCached "c" "s" (frame 0 1 8) none]

theorem resized_intact :
    let s := (start false {}).run resized
    ∃ slot, s.slotAt (.cached "c" ⟨0⟩) = some slot ∧ s.Intact (.cached "c" ⟨0⟩) slot
      ∧ slot.texture = some 1 ∧ slot.buffer.map (·.desc.width) = some 64 ∧ s.world.queueHeld 1
      ∧ ∀ more, ¬ ((s.run [.clearCached "c" ⟨0⟩ .normal]).run more).world.queueHeld 1 := by
  intro s
  have there : (s.slotAt (.cached "c" ⟨0⟩)).map (fun slot => (slot.texture, slot.buffer))
      = some (some 1, some ⟨⟨1⟩, ⟨64, 32, 1⟩, none⟩) := by decide
  obtain ⟨slot, found, contents⟩ := Option.map_eq_some_iff.1 there
  obtain ⟨texture, buffer⟩ := Prod.mk.inj contents
  obtain ⟨intact, held⟩ := run_intact false {} resized found
  obtain ⟨-, -, returned⟩ := held 1 texture
  refine ⟨slot, found, intact, texture, by rw [buffer]; rfl, by decide, fun more => ?_⟩
  exact (returned [.clearCached "c" ⟨0⟩ .normal] (by decide) more).2

end Session

end LayerFeed
