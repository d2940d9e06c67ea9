/-
What a slot says of its texture. Beside the texture a slot has the buffer that it was imported
from and its dataspace, and a frame only sees these, so they have to be what the record of the
texture says (`Slot.Filed`). A frame that brings the same buffer again changes none of them,
although it is only compared by the number of its buffer; any other frame clears all three
before it fills them. So slots are filed wherever they stand, and whatever becomes of imports
(`Step.filed`).
-/
import LayerFeed.Proofs.CacheAnswers
import LayerFeed.Proofs.Object.Resolution
import LayerFeed.Proofs.WithheldBuffers

namespace LayerFeed

open Owners World

variable {w w' : World} {t u : TextureId}

/-- The records of a world stay, as far as they are known. -/
def World.Remain (w w' : World) : Prop :=
  ∀ t a, w.texture? t = some a → ∃ b, w'.texture? t = some b ∧ Stays a b

/-- What spares every texture lets all remain. -/
theorem World.Remain.of_spares (spares : ∀ t, Spares t w w') : w.Remain w' := by
  intro t a found
  obtain ⟨n, found'⟩ := spares t a found
  exact ⟨_, found', rfl, rfl, rfl, rfl⟩

-- ==================================================== slots

namespace Slot

/-- What a slot says is what the record of its texture says; without a texture it says nothing. -/
structure Filed (s : Slot) (w : World) : Prop where
  texture : ∀ t, s.texture = some t → ∃ x, w.texture? t = some x
    ∧ s.buffer = some x.buffer ∧ x.dataspace = s.dataspace ∧ x.pipeline = s.pipeline
  bare : s.texture = none → s.buffer = none ∧ s.dataspace = .unknown

/-- An empty slot is filed anywhere. -/
theorem filed_empty (p : Pipeline) (w : World) : (empty p).Filed w :=
  ⟨nofun, fun _ => ⟨rfl, rfl⟩⟩

/-- A filed slot stays so as long as the textures remain. -/
theorem Filed.remain {s : Slot} (filed : s.Filed w) (remain : w.Remain w') : s.Filed w' := by
  refine ⟨fun t texture => ?_, filed.bare⟩
  obtain ⟨x, found, buffer, dataspace, pipeline⟩ := filed.texture t texture
  obtain ⟨y, found', stays⟩ := remain t x found
  refine ⟨y, found', ?_, ?_, ?_⟩
  · rw [stays.buffer, buffer]
  · rw [stays.dataspace, dataspace]
  · rw [stays.pipeline, pipeline]

/-- A resolution finds the slot as it was filed, or files the texture that it imports, or leaves
the slot empty. -/
theorem Filed.resolve {s : Slot} (filed : s.Filed w) (c : ContextId) (b : HardwareBuffer)
    (d : Dataspace) (force : Bool) :
    (s.resolve w c b d force).object.Filed (s.resolve w c b d force).world := by
  have resolves := s.resolve_resolves w c b d force
  generalize s.resolve w c b d force = after at resolves
  cases resolves with
  | @cached t x texture known buffer dataspace free =>
    refine filed.remain fun u a found => ?_
    obtain ⟨y, found', stays⟩ : ∃ y, (w.reacquireQueue t).texture? u = some y ∧ Stays a y :=
      stays_of_change (texture?_onTexture w t · _)
      (fun _ => by split <;> exact ⟨rfl, rfl, rfl, rfl⟩) found
    obtain ⟨n, found''⟩ := Spares.share u t _ y found'
    exact ⟨_, found'', stays.trans ⟨rfl, rfl, rfl, rfl⟩⟩
  | @created v cleared alive works =>
    refine ⟨fun t texture => ?_, nofun⟩
    cases texture
    refine ⟨{ newTexture c s.pipeline b d with holders := 2 }, ?_, rfl, rfl, rfl⟩
    show ((v.importTexture c s.pipeline b d).1.share (v.imported + 1)).texture? (v.imported + 1) = _
    rw [share, texture?_onTexture, if_pos rfl, importTexture_texture? s.pipeline b d alive works,
      if_pos rfl]
    rfl
  | unavailable => exact filed_empty s.pipeline _

end Slot

-- ==================================================== caches

namespace SlotCache

/-- All entries of a cache are filed. -/
def Filed (cache : SlotCache) (w : World) : Prop :=
  ∀ slot entry, cache.get? slot = some entry → entry.Filed w

variable {cache : SlotCache}

/-- A cache without slots is filed. -/
theorem filed_of_bare (bare : cache.slots = ∅) (w : World) : cache.Filed w := by
  intro slot entry found
  rw [get?, bare] at found
  cases found

theorem Filed.remain (filed : cache.Filed w) (remain : w.Remain w') : cache.Filed w' :=
  fun slot entry found => (filed slot entry found).remain remain

/-- A filed slot may be stored in a filed cache. -/
theorem Filed.set (filed : cache.Filed w) (slot : SlotId) {entry : Slot} (new : entry.Filed w) :
    ({ cache with slots := cache.slots.set slot entry } : SlotCache).Filed w := by
  intro slot' entry' found
  rw [get?, Table.get?_set] at found
  split at found
  · cases found
    exact new
  · exact filed slot' entry' found

/-- Clearing a slot keeps the others filed. -/
theorem Filed.clear (filed : cache.Filed w) (remain : w.Remain w') (v : World) (slot : SlotId)
    (mode : TeardownMode) : (cache.clear v slot mode).object.Filed w' := by
  have filed' := filed.remain remain
  unfold SlotCache.clear
  cases cache.get? slot with
  | none => exact filed'
  | some entry =>
    dsimp only
    rw [Slot.clear_empties]
    exact filed'.set slot (Slot.filed_empty _ _)

/-- A resolution files the texture that it imports. -/
theorem Filed.resolve (filed : cache.Filed w) (c : ContextId) (slot : SlotId)
    (b : HardwareBuffer) (d : Dataspace) (force : Bool)
    (remain : w.Remain (cache.resolve w c slot b d force).world) :
    (cache.resolve w c slot b d force).object.Filed (cache.resolve w c slot b d force).world := by
  have entry : (cache.entry slot).Filed w := by
    unfold SlotCache.entry
    cases found : cache.get? slot with
    | none => exact Slot.filed_empty _ _
    | some entry => exact filed slot entry found
  exact (filed.remain remain).set slot (entry.resolve c b d force)

/-- A resolution in a cache leaves all records that there are. -/
theorem resolve_remains {r : Owners} (cache : SlotCache) (ledger : w.Ledger)
    (owned : w.Owned (cache.owners + r)) (c : ContextId) (slot : SlotId) (b : HardwareBuffer)
    (d : Dataspace) (force : Bool) : w.Remain (cache.resolve w c slot b d force).world := by
  have passes := cache.resolve_passes (P := Entry.Any) (w := w) (c := c) (r := r)
    (fun _ _ => trivial) slot b d force
  exact fun t a found => (passes.transfer owned).1.stays ledger found

end SlotCache

-- ==================================================== sessions

namespace Session

variable {s s' : Session}

/-- All slots of a session are filed, in caches and alone. -/
structure Filed (s : Session) : Prop where
  slots : ∀ name slot, s.slots.get? name = some slot → slot.Filed s.world
  caches : ∀ name cache, s.caches.get? name = some cache → cache.Filed s.world
  updaters : ∀ i u, s.updaterOf? i = some u → u.cache.Filed s.world

/-- There is nothing to file in an empty session. -/
theorem filed_new (minimal : Bool) : ({ minimal } : Session).Filed where
  slots name slot found := by cases found
  caches name cache found := by cases found
  updaters i u found := by cases found

namespace Filed

/-- Every slot of a session was there before, or is filed. -/
theorem of_shelves (filed : s.Filed) (remain : s.world.Remain s'.world)
    (slots : ∀ name slot, s'.slots.get? name = some slot →
      s.slots.get? name = some slot ∨ slot.Filed s'.world)
    (caches : ∀ name cache, s'.caches.get? name = some cache →
      s.caches.get? name = some cache ∨ cache.Filed s'.world)
    (updaters : ∀ i u, s'.updaterOf? i = some u →
      (∃ v, s.updaterOf? i = some v ∧ u.cache = v.cache) ∨ u.cache.Filed s'.world) : s'.Filed where
  slots name slot found :=
    (slots name slot found).elim (fun old => (filed.slots name slot old).remain remain) id
  caches name cache found :=
    (caches name cache found).elim (fun old => (filed.caches name cache old).remain remain) id
  updaters i u found := by
    rcases updaters i u found with ⟨v, old, same⟩ | new
    · rw [same]
      exact (filed.updaters i v old).remain remain
    · exact new

section

variable (filed : s.Filed) (remain : s.world.Remain s'.world)

include filed remain

/-- Where slots may only change that stand alone. -/
theorem of_slots (slots : ∀ name slot, s'.slots.get? name = some slot →
      s.slots.get? name = some slot ∨ slot.Filed s'.world)
    (caches : s'.caches = s.caches) (updaters : s'.updaters = s.updaters) : s'.Filed := by
  refine filed.of_shelves remain slots (fun name cache found => ?_) fun i u found => ?_
  · rw [caches] at found
    exact .inl found
  · rw [updaterOf?, updaters] at found
    exact .inl ⟨u, found, rfl⟩

/-- Where caches may only change that stand alone. -/
theorem of_caches (caches : ∀ name cache, s'.caches.get? name = some cache →
      s.caches.get? name = some cache ∨ cache.Filed s'.world)
    (slots : s'.slots = s.slots) (updaters : s'.updaters = s.updaters) : s'.Filed := by
  refine filed.of_shelves remain (fun name slot found => ?_) caches fun i u found => ?_
  · rw [slots] at found
    exact .inl found
  · rw [updaterOf?, updaters] at found
    exact .inl ⟨u, found, rfl⟩

/-- Where only updaters may change. -/
theorem of_updaters (updaters : ∀ i u, s'.updaterOf? i = some u →
      (∃ v, s.updaterOf? i = some v ∧ u.cache = v.cache) ∨ u.cache.Filed s'.world)
    (slots : s'.slots = s.slots) (caches : s'.caches = s.caches) : s'.Filed := by
  refine filed.of_shelves remain (fun name slot found => ?_) (fun name cache found => ?_) updaters
  · rw [slots] at found
    exact .inl found
  · rw [caches] at found
    exact .inl found

/-- Where no slot changes. -/
theorem keep (slots : s'.slots = s.slots) (caches : s'.caches = s.caches)
    (updaters : s'.updaters = s.updaters) : s'.Filed := by
  refine filed.of_updaters remain (fun i u found => ?_) slots caches
  rw [updaterOf?, updaters] at found
  exact .inl ⟨u, found, rfl⟩

end

/-- Where one updater changes. -/
theorem onUpdater {id : UpdaterId} {f : Updater → World → World × Updater} (filed : s.Filed)
    (remain : s.world.Remain (s.onUpdater id f).world)
    (law : ∀ h, s.updaters.get? id = some h → h.value.cache.Filed s.world →
      s.world.Remain (f h.value s.world).1 →
      (f h.value s.world).2.cache.Filed (f h.value s.world).1) : (s.onUpdater id f).Filed := by
  cases entered : s.updaters.get? id with
  | none =>
    simp only [Session.onUpdater, entered]
    exact filed
  | some h =>
    rw [onUpdater_eq entered] at remain ⊢
    have before := filed.updaters id _ (updaterOf?_of_get? entered)
    refine filed.of_updaters remain (fun i u found => ?_) rfl rfl
    rw [updaterOf?, Table.get?_set] at found
    split at found
    · cases found
      exact .inr (law h entered before remain)
    · exact .inl ⟨u, found, rfl⟩

/-- Where one updater changes, but for its slots. -/
theorem onUpdater_aside {id : UpdaterId} {f : Updater → World → World × Updater}
    (filed : s.Filed) (remain : s.world.Remain (s.onUpdater id f).world)
    (same : ∀ u, (f u s.world).2.cache = u.cache) : (s.onUpdater id f).Filed := by
  refine filed.onUpdater remain fun h _ before remain' => ?_
  rw [same]
  exact before.remain remain'

end Filed

theorem keepOrDropImage_slots (s : Session) (image : Option String) (t : Option TextureId) :
    (s.keepOrDropImage image t).slots = s.slots := by
  cases image <;> cases t <;> rfl

theorem keepSlot_slots (s : Session) (name : String) (slot : Slot) :
    (s.keepSlot name slot).slots = s.slots.set name slot := by
  unfold keepSlot
  cases s.slots.get? name <;> rfl

theorem dropSlot_slots (s : Session) (name : String) :
    (s.dropSlot name).slots = s.slots.erase name := by
  unfold dropSlot
  cases s.slots.get? name <;> rfl

theorem keepSlot_rest (s : Session) (name : String) (slot : Slot) :
    (s.keepSlot name slot).caches = s.caches ∧ (s.keepSlot name slot).updaters = s.updaters := by
  unfold keepSlot
  cases s.slots.get? name <;> exact ⟨rfl, rfl⟩

theorem dropSlot_rest (s : Session) (name : String) :
    (s.dropSlot name).caches = s.caches ∧ (s.dropSlot name).updaters = s.updaters := by
  unfold dropSlot
  cases s.slots.get? name <;> exact ⟨rfl, rfl⟩

theorem keepCache_rest (s : Session) (name : String) (cache : SlotCache) :
    (s.keepCache name cache).slots = s.slots ∧ (s.keepCache name cache).updaters = s.updaters := by
  unfold keepCache
  cases s.caches.get? name <;> exact ⟨rfl, rfl⟩

theorem dropCache_rest (s : Session) (name : String) :
    (s.dropCache name).slots = s.slots ∧ (s.dropCache name).updaters = s.updaters := by
  unfold dropCache
  cases s.caches.get? name <;> exact ⟨rfl, rfl⟩

/-- Textures remain under a function on an updater if they do under each of its calls. -/
theorem onUpdater_remain {id : UpdaterId} {f : Updater → World → World × Updater}
    (law : ∀ u, s.world.Remain (f u s.world).1) : s.world.Remain (s.onUpdater id f).world := by
  unfold onUpdater
  cases s.updaters.get? id with
  | none => exact .of_spares fun t => .refl t _
  | some h => exact law h.value

/-- What is entered under one key is filed, and all else was there. -/
theorem of_set {α : Type} {T : Table String α} {P : α → Prop} {name : String} {a : α} (new : P a)
    (name' : String) (a' : α) (found : (T.set name a).get? name' = some a') :
    T.get? name' = some a' ∨ P a' := by
  rw [Table.get?_set] at found
  split at found
  · cases found
    exact .inr new
  · exact .inl found

theorem of_erase {α : Type} {T : Table String α} {P : α → Prop} {name : String} (name' : String)
    (a : α) (found : (T.erase name).get? name' = some a) : T.get? name' = some a ∨ P a := by
  rw [Table.get?_erase] at found
  split at found
  · cases found
  · exact .inl found

/-- What is calm and lets textures remain keeps all filed. -/
theorem Calm.filed (sound : s.Sound) (calm : Calm s s') (remain : s.world.Remain s'.world)
    (filed : s.Filed) : s'.Filed := by
  have kept : s'.slots = s.slots → s'.caches = s.caches → s'.updaters = s.updaters → s'.Filed :=
    filed.keep remain
  cases calm with
  | aside h =>
    obtain ⟨-, updaters, -, -, slots, caches⟩ := h.parts
    exact kept slots caches updaters
  | remark | traces | adjustBackend | loseContext | createFence | waitFence | releaseQueue
  | copyImage | dropImage | dropHandle => exact kept rfl rfl rfl
  | importTexture name context p b d =>
    have same : ∀ after : Session × Reply, after = s.importTexture name context p b d →
        after.1.slots = s.slots ∧ after.1.caches = s.caches ∧ after.1.updaters = s.updaters := by
      rintro _ rfl
      unfold Session.importTexture
      split
      · exact ⟨rfl, rfl, rfl⟩
      · dsimp only
        split <;> exact ⟨rfl, rfl, rfl⟩
    obtain ⟨slots, caches, updaters⟩ := same _ rfl
    exact kept slots caches updaters
  | releaseHandle name mode =>
    unfold Session.releaseHandle at kept ⊢
    split
    · exact filed
    · next t found =>
      rw [found] at kept
      exact kept rfl rfl rfl
  | newSlot name p =>
    refine filed.of_slots remain ?_ (keepSlot_rest s name _).1 (keepSlot_rest s name _).2
    rw [keepSlot_slots]
    exact of_set (Slot.filed_empty p _)
  | dropSlot name =>
    refine filed.of_slots remain ?_ (dropSlot_rest s name).1 (dropSlot_rest s name).2
    rw [dropSlot_slots]
    exact of_erase
  | resolveSlot name context frame image =>
    unfold Session.resolveSlot at remain ⊢
    split
    · next slot c found context =>
      rw [found, context] at remain
      dsimp only at remain ⊢
      refine filed.of_slots remain ?_ ?_ ?_
      · rw [keepOrDropImage_slots]
        exact of_set (((filed.slots name slot found).resolve c _ _ _).remain
          (keepOrDropImage_stays { s with world := _, slots := _ } image _))
      · rw [keepOrDropImage_caches]
      · exact congrArg (·.2.1) (keepOrDropImage_roster _ _ _)
    · exact filed
  | clearSlot name mode =>
    unfold Session.clearSlot at remain ⊢
    split
    · next slot found =>
      rw [found] at remain
      refine filed.of_slots remain (of_set ?_) rfl rfl
      dsimp only
      rw [Slot.clear_empties]
      exact Slot.filed_empty _ _
    · exact filed
  | newCache name p =>
    refine filed.of_caches remain ?_ (keepCache_rest s name _).1 (keepCache_rest s name _).2
    rw [keepCache_caches]
    exact of_set (SlotCache.filed_of_bare rfl _)
  | dropCache name =>
    refine filed.of_caches remain ?_ (dropCache_rest s name).1 (dropCache_rest s name).2
    rw [dropCache_caches]
    exact of_erase
  | resolveCached name context frame image =>
    unfold Session.resolveCached at remain ⊢
    split
    · next cache c found context =>
      rw [found, context] at remain
      dsimp only at remain ⊢
      obtain ⟨r, owned⟩ := sound.owned_cache found
      have resolves := cache.resolve_remains sound.ledger owned c frame.slot frame.buffer
        frame.dataspace frame.forceRecreate
      refine filed.of_caches remain ?_ ?_ ?_
      · rw [keepOrDropImage_caches]
        exact of_set (((filed.caches name cache found).resolve c _ _ _ _ resolves).remain
          (keepOrDropImage_stays { s with world := _, caches := _ } image _))
      · rw [keepOrDropImage_slots]
      · exact congrArg (·.2.1) (keepOrDropImage_roster _ _ _)
    · exact filed
  | clearCached name slot mode =>
    unfold Session.clearCached at remain ⊢
    split
    · next cache found =>
      rw [found] at remain
      exact filed.of_caches remain (of_set ((filed.caches name cache found).clear remain _ _ _))
        rfl rfl
    · exact filed
  | clearCache name mode =>
    unfold Session.clearCache at remain ⊢
    split
    · next cache found =>
      rw [found] at remain
      exact filed.of_caches remain (of_set (SlotCache.filed_of_bare rfl _)) rfl rfl
    · exact filed
  | newUpdater c config sink =>
    refine filed.of_updaters remain (fun i u found => ?_) rfl rfl
    rw [updaterOf?, Table.get?_set] at found
    split at found
    · cases found
      exact .inr (SlotCache.filed_of_bare rfl _)
    · exact .inl ⟨u, found, rfl⟩
  | hold id =>
    refine filed.of_updaters remain (fun i u found => ?_) rfl rfl
    rw [updaterOf?, hold_get?] at found
    split at found
    · next same =>
      rw [Option.map_map] at found
      exact .inl ⟨u, by rw [same]; exact found, rfl⟩
    · exact .inl ⟨u, found, rfl⟩
  | setter id f_setter =>
    exact filed.onUpdater_aside remain fun u => (Updater.setter_slots f_setter u).1
  | post id => exact filed.onUpdater_aside remain fun u => rfl
  | latch id frame issued =>
    refine filed.onUpdater remain fun h entered before _ => ?_
    obtain ⟨r, owned⟩ := sound.owned_updater entered
    rw [Updater.owners, add_comm (oneOf .image h.value.shownImage), add_assoc] at owned
    have resolves := h.value.cache.resolve_remains sound.ledger owned h.value.context frame.slot
      frame.buffer frame.dataspace frame.forceRecreate
    rw [(h.value.latch_slots s.world frame issued).2]
    exact (before.resolve _ _ _ _ _ resolves).remain
      (.of_spares (h.value.latch_spares s.world frame issued))
  | @bind id t forceFilter transform crop held there =>
    have shared : (s.onWorld (·.share t)).Filed :=
      filed.keep (.of_spares fun u => .share u t _) rfl rfl rfl
    refine shared.onUpdater_aside (onUpdater_remain fun u => ?_) fun u => rfl
    refine .of_spares fun v => ?_
    have told : Spares v (s.onWorld (·.share t)).world
        ((s.onWorld (·.share t)).world.record (.bound u.id forceFilter transform crop t)) :=
      .of_textures rfl
    exact told.trans (.letGoOf v _ _)

/-- Slots stay filed, whatever happens in a session. -/
theorem Step.filed (sound : s.Sound) (step : Step s s') (filed : s.Filed) : s'.Filed := by
  have remain : s.world.Remain s'.world := fun t a found => step.stays sound found
  cases step with
  | calm h => exact h.filed sound remain filed
  | makeContext b => exact filed.keep remain rfl rfl rfl
  | idle found live idle =>
    exact filed.onUpdater_aside remain fun u => (u.beginApply_slots s.world).2.1
  | ask found live asked =>
    have begun := filed.onUpdater_aside remain fun u => (u.beginApply_slots s.world).2.1
    exact begun.keep (.of_spares fun t => .of_textures rfl) rfl rfl rfl
  | attach id name =>
    refine Filed.onUpdater (s := { s with fresh := s.fresh + 1 })
      (filed.keep (.of_spares fun t => .of_textures rfl) rfl rfl rfl) remain fun h _ _ _ => ?_
    obtain ⟨cache, bare, same⟩ := h.value.attach_object s.world ⟨s.fresh, name, id⟩
    rw [same]
    exact SlotCache.filed_of_bare bare _
  | detach id =>
    refine filed.onUpdater remain fun h _ before remain' => ?_
    rw [Updater.detach_eq, Updater.releaseSource_object]
    unfold Updater.severActiveSlot
    dsimp only
    split
    · exact before.remain remain'
    · exact before.clear remain' _ _ _
  | teardown id mode =>
    refine filed.onUpdater remain fun h _ before remain' => ?_
    unfold Updater.teardown at remain' ⊢
    split
    · exact before
    · exact SlotCache.filed_of_bare rfl _
  | letGo id =>
    have rest : (s.letGo (.updater id)).slots = s.slots
        ∧ (s.letGo (.updater id)).caches = s.caches := by
      unfold Session.letGo
      dsimp only
      split
      · split <;> exact ⟨rfl, rfl⟩
      · exact ⟨rfl, rfl⟩
    refine filed.of_updaters remain (fun i u found => ?_) rest.1 rest.2
    rw [updaterOf?, letGo_get?] at found
    split at found
    · next same =>
      obtain ⟨h', left, rfl⟩ := Option.map_eq_some_iff.1 found
      obtain ⟨h, entered, stays⟩ := Option.bind_eq_some_iff.1 left
      split at stays
      · cases stays
      · cases stays
        rw [same]
        exact .inl ⟨h.value, updaterOf?_of_get? entered, rfl⟩
    · exact .inl ⟨u, found, rfl⟩

/-- Wherever steps lead to, all slots are filed. -/
theorem Reachable.filed (reachable : s.Reachable) : s.Filed := by
  obtain ⟨minimal, b, steps⟩ := reachable
  replace steps : Steps { minimal } s := (start_steps minimal b).trans steps
  induction steps with
  | refl => exact filed_new minimal
  | tail before step ih => exact step.filed (Steps.sound (sound_new minimal) before) ih

end Session

end LayerFeed
