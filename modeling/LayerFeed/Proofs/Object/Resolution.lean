/-
How a slot resolves a frame, and all that is written meanwhile. There are three ways
(`Slot.Resolves`): the slot holds a texture of the frame's buffer and dataspace, which is taken
again; or the slot is cleared, and the import works; or the slot is cleared, and the import
fails. What can be said of a resolution is said of these three.

A latch writes the resolution first, then that the frame was taken over and what its sink is
told, and then that the image is bound (`Updater.latch_history`). Besides the two entries in
the middle all is minor (`Entry.Minor`).
-/
import LayerFeed.Proofs.Object.Updaters
import LayerFeed.Proofs.World.Writes

namespace LayerFeed

open World

-- ==================================================== minor entries

/-- What a latch writes besides the two entries that tell of it. -/
def Entry.Minor : Entry → Prop
  | .backend _ _ | .bound _ _ _ _ _ | .note (.importFailed _ _) => True
  | _ => False

theorem minor_calls (c : ContextId) (call : BackendCall) (_ : call.ended?.isSome) :
    (Entry.backend c call).Minor := trivial

-- ==================================================== slots

namespace Slot

variable {s : Slot} {w : World} {c : ContextId} {b : HardwareBuffer} {d : Dataspace} {force : Bool}

/-- The three ways in which a slot resolves a frame. -/
inductive Resolves (s : Slot) (w : World) (c : ContextId) (b : HardwareBuffer) (d : Dataspace)
    (force : Bool) : After Slot Resolved → Prop
  /-- It holds a texture of the frame's buffer and dataspace. -/
  | cached {t : TextureId} {x : Texture} (texture : s.texture = some t)
      (known : w.texture? t = some x) (buffer : x.buffer.id = b.id) (dataspace : s.dataspace = d)
      (free : force = false) :
      Resolves s w c b d force ⟨(w.reacquireQueue t).share t, s, .cached t⟩
  /-- It is cleared, and a texture is imported into it. -/
  | created {v : World} (cleared : v = (s.clear w .normal).world) (alive : v.alive c)
      (works : (v.backend c).importError = none) :
      Resolves s w c b d force
        ⟨(v.importTexture c s.pipeline b d).1.share (v.imported + 1),
          { s with buffer := some b, dataspace := d, texture := some (v.imported + 1) },
          .created (v.imported + 1)⟩
  /-- It is cleared, and the import fails, with a call unless the context is lost. -/
  | unavailable {v v' : World} (cleared : v = (s.clear w .normal).world) (e : GpuError)
      (refused : v' = v ∨ v' = v.call c (.importFailed b.id)) :
      Resolves s w c b d force ⟨v'.note (.importFailed b.id e), .empty s.pipeline, .unavailable⟩

/-- A slot that was cleared is empty. -/
theorem clear_empties (s : Slot) (w : World) (mode : TeardownMode) :
    (s.clear w mode).object = .empty s.pipeline :=
  clear_object s w mode

/-- A resolution of a slot is one of the ways to resolve. -/
theorem resolve_resolves (s : Slot) (w : World) (c : ContextId) (b : HardwareBuffer)
    (d : Dataspace) (force : Bool) : s.Resolves w c b d force (s.resolve w c b d force) := by
  unfold resolve
  cases found : if force then none else s.match? w b d with
  | some t =>
    cases force with
    | true => cases found
    | false =>
      obtain ⟨texture, matching⟩ := Option.filter_eq_some_iff.1 found
      cases known : w.texture? t with
      | none => simp [known] at matching
      | some x =>
        obtain ⟨buffer, dataspace⟩ : x.buffer.id = b.id ∧ s.dataspace = d := by
          simpa [known, HardwareBuffer.same] using matching
        exact .cached texture known buffer dataspace rfl
  | none =>
    dsimp only
    rw [clear_empties]
    generalize cleared : (s.clear w .normal).world = v
    unfold fill
    dsimp only
    by_cases alive : v.alive c
    · cases works : (v.backend c).importError with
      | none =>
        rw [importTexture_answer _ b d alive works]
        exact .created cleared.symm alive works
      | some e =>
        simp only [World.importTexture, if_pos alive, works]
        exact .unavailable cleared.symm e (.inr rfl)
    · simp only [World.importTexture, if_neg alive]
      exact .unavailable cleared.symm .contextLost (.inl rfl)

/-- What a resolution writes is minor. -/
theorem resolve_minor (s : Slot) (w : World) (c : ContextId) (b : HardwareBuffer) (d : Dataspace)
    (force : Bool) : Writes Entry.Minor w (s.resolve w c b d force).world := by
  have resolves := s.resolve_resolves w c b d force
  generalize s.resolve w c b d force = after at resolves
  have clears := s.clear_writes minor_calls w .normal
  cases resolves with
  | cached => exact .of_eq rfl rfl
  | created cleared alive works =>
    rw [cleared] at alive works ⊢
    refine clears.trans ⟨(importTexture_rest s.pipeline b d alive works).1, _,
      importTexture_history s.pipeline b d alive works, ?_⟩
    simp [Entry.Minor]
  | unavailable cleared e refused =>
    rcases refused with rfl | rfl
    · rw [cleared]
      exact clears.andRecord trivial
    · rw [cleared]
      exact (clears.andRecord (e := .backend c _) trivial).andRecord trivial

/-- A resolution keeps the pipeline. -/
theorem resolve_pipeline (s : Slot) (w : World) (c : ContextId) (b : HardwareBuffer)
    (d : Dataspace) (force : Bool) : (s.resolve w c b d force).object.pipeline = s.pipeline := by
  have resolves := s.resolve_resolves w c b d force
  generalize s.resolve w c b d force = after at resolves
  cases resolves <;> rfl

/-- Clearing imports nothing. -/
theorem clear_imported (s : Slot) (w : World) (mode : TeardownMode) :
    (s.clear w mode).world.imported = w.imported := by
  have release : ∀ (v : World) (t : TextureId), (v.release t mode).1.imported = v.imported :=
    fun v t => (letGo_rest (v.markReleased t mode) t).2.2
  unfold clear
  cases s.texture with
  | none => rfl
  | some t =>
    dsimp only
    rw [release]
    split
    · exact (releaseQueue_rest w t).2.2
    · rfl

/-- The last that an import writes is its call. -/
theorem resolve_imports {t : TextureId} (created : (s.resolve w c b d force).answer = .created t) :
    ∃ es, (s.resolve w c b d force).world.history
        = w.history ++ es ++ [.backend c (.imported t b d)] ∧ ∀ e ∈ es, e.Minor := by
  have resolves := s.resolve_resolves w c b d force
  generalize s.resolve w c b d force = after at resolves created
  cases resolves with
  | cached => cases created
  | unavailable => cases created
  | created cleared alive works =>
    cases created
    obtain ⟨es, grown, minor⟩ := (s.clear_writes minor_calls w .normal).history
    refine ⟨es, ?_, minor⟩
    rw [← grown, ← cleared]
    exact importTexture_history s.pipeline b d alive works

/-- An import starts the record of the next texture, which the slot and an image hold. -/
theorem resolve_created {t : TextureId} (created : (s.resolve w c b d force).answer = .created t) :
    t = w.imported + 1 ∧ (s.resolve w c b d force).world.texture? t
      = some { newTexture c s.pipeline b d with holders := 2 } := by
  have resolves := s.resolve_resolves w c b d force
  generalize s.resolve w c b d force = after at resolves created
  cases resolves with
  | cached => cases created
  | unavailable => cases created
  | created cleared alive works =>
    cases created
    refine ⟨by rw [cleared, clear_imported], ?_⟩
    dsimp only
    rw [share, texture?_onTexture, if_pos rfl, importTexture_texture? s.pipeline b d alive works,
      if_pos rfl]
    rfl

end Slot

-- ==================================================== caches

namespace SlotCache

/-- The slot of a frame, which may be new. -/
def entry (cache : SlotCache) (slot : SlotId) : Slot :=
  (cache.get? slot).getD (.empty cache.pipeline)

variable {cache : SlotCache} {slot : SlotId} {t : TextureId}

/-- A slot that holds a texture is not new. -/
theorem get?_of_entry (texture : (cache.entry slot).texture = some t) :
    cache.get? slot = some (cache.entry slot) := by
  unfold entry at texture ⊢
  cases found : cache.get? slot with
  | none =>
    rw [found] at texture
    cases texture
  | some s => rfl

/-- The texture of an entry, whether the slot is open or not. -/
theorem entry_texture (cache : SlotCache) (slot : SlotId) :
    (cache.entry slot).texture = (cache.get? slot).bind Slot.texture := by
  unfold entry
  cases cache.get? slot <;> rfl

/-- A slot that is cleared holds no texture, and the others hold what they did. -/
theorem clear_texture (cache : SlotCache) (w : World) (slot slot' : SlotId) (mode : TeardownMode) :
    ((cache.clear w slot mode).object.get? slot').bind Slot.texture
      = if slot' = slot then none else (cache.get? slot').bind Slot.texture := by
  unfold clear
  cases found : cache.get? slot with
  | none =>
    dsimp only
    split
    · next same => rw [same, found, Option.bind_none]
    · rfl
  | some entry =>
    dsimp only
    rw [get?, Table.get?_set]
    split
    · rw [Option.bind_some, Slot.clear_object]
    · rfl

/-- A resolution touches its own slot alone. -/
theorem resolve_get?_ne {w : World} {c : ContextId} {slot' : SlotId} {b : HardwareBuffer}
    {d : Dataspace} {force : Bool} (ne : slot' ≠ slot) :
    (cache.resolve w c slot b d force).object.get? slot' = cache.get? slot' :=
  Table.get?_set_ne _ _ ne

theorem resolve_resolves (cache : SlotCache) (w : World) (c : ContextId) (slot : SlotId)
    (b : HardwareBuffer) (d : Dataspace) (force : Bool) :
    ∃ after, (cache.entry slot).Resolves w c b d force after
      ∧ cache.resolve w c slot b d force
        = ⟨after.world, { cache with slots := cache.slots.set slot after.object }, after.answer⟩ :=
  ⟨_, (cache.entry slot).resolve_resolves w c b d force, rfl⟩

/-- A texture that a resolution found is that of the slot, and matches the frame. -/
theorem resolve_cached {w : World} {c : ContextId} {b : HardwareBuffer} {d : Dataspace}
    {force : Bool} (cached : (cache.resolve w c slot b d force).answer = .cached t) :
    ∃ s x, cache.get? slot = some s ∧ s.texture = some t ∧ w.texture? t = some x
      ∧ x.buffer.id = b.id ∧ s.dataspace = d ∧ force = false := by
  obtain ⟨after, resolves, same⟩ := cache.resolve_resolves w c slot b d force
  rw [same] at cached
  cases resolves with
  | created => cases cached
  | unavailable => cases cached
  | cached texture known buffer dataspace free =>
    cases cached
    exact ⟨_, _, get?_of_entry texture, texture, known, buffer, dataspace, free⟩

end SlotCache

-- ==================================================== updaters

namespace Updater

/-- What the resolution of a frame writes is minor. -/
theorem resolution_minor (u : Updater) (w : World) (frame : Frame) :
    Writes Entry.Minor w (u.resolution w frame).world :=
  (u.cache.entry frame.slot).resolve_minor w u.context frame.buffer frame.dataspace
    frame.forceRecreate

/-- A texture that stands in a slot after a resolution stood there before, and if this is the
frame's slot it was found; or it was imported for the frame. -/
theorem resolution_get? {u : Updater} {w : World} {frame : Frame} {slot : SlotId} {s : Slot}
    {t : TextureId} (found : (u.resolution w frame).object.get? slot = some s)
    (texture : s.texture = some t) :
    u.cache.get? slot = some s
        ∧ (slot = frame.slot → (u.resolution w frame).answer = .cached t)
      ∨ slot = frame.slot ∧ s.dataspace = frame.dataspace
        ∧ (u.resolution w frame).answer = .created t := by
  obtain ⟨after, resolves, same⟩ := u.cache.resolve_resolves w u.context frame.slot frame.buffer
    frame.dataspace frame.forceRecreate
  unfold resolution at found ⊢
  by_cases here : slot = frame.slot
  · rw [same] at found ⊢
    rw [here, SlotCache.get?, Table.get?_set_self] at found
    cases found
    cases resolves with
    | cached texture' =>
      have held := SlotCache.get?_of_entry texture'
      rw [texture'] at texture
      cases texture
      rw [here]
      exact .inl ⟨held, fun _ => rfl⟩
    | created =>
      cases texture
      exact .inr ⟨here, rfl, rfl⟩
    | unavailable => cases texture
  · rw [SlotCache.resolve_get?_ne here] at found
    exact .inl ⟨found, fun h => absurd h here⟩

/-- A latch makes the slot of its frame the current one. -/
theorem latch_slots (u : Updater) (w : World) (frame : Frame) (issued : Option FenceClass) :
    (u.latch w frame issued).2.currentSlot = some frame.slot
      ∧ (u.latch w frame issued).2.cache = (u.resolution w frame).object := by
  unfold latch
  dsimp only
  split <;> exact ⟨rfl, rfl⟩

/-- Binding an image is minor. -/
theorem bind_minor (u : Updater) (w : World) (forceFilter : Bool) (transform : TextureTransform)
    (crop : Rect) (t : TextureId) :
    Writes Entry.Minor w (u.bind w forceFilter transform crop t).1 :=
  (Writes.record (e := .bound u.id forceFilter transform crop t) trivial).trans
    (letGoOf_writes minor_calls _ _)

/-- What a latch writes: the resolution, then that the frame is taken over and what the sink is
told of it, then that an image is bound. -/
theorem latch_history (u : Updater) (w : World) (frame : Frame) (issued : Option FenceClass) :
    ∃ told es, (u.latch w frame issued).1.history
        = (u.resolution w frame).world.history ++ .latched u.id frame (u.resolution w frame).answer
          :: .event u.id u.sink (.frameLatched told) :: es
      ∧ (told.forceFilter = u.needsFilter frame
        ∧ told.outcome = (u.resolution w frame).answer.outcome)
      ∧ ∀ e ∈ es, e.Minor := by
  unfold latch resolution
  dsimp only
  generalize u.cache.resolve w u.context frame.slot frame.buffer frame.dataspace
    frame.forceRecreate = after
  cases after.answer.image? with
  | none =>
    exact ⟨_, [], List.append_assoc _ _ _, ⟨rfl, rfl⟩, List.forall_mem_nil _⟩
  | some image =>
    obtain ⟨es, grown, minor⟩ := Writes.history (bind_minor _ _ _ _ _ image)
    have shape : ∀ (h : List Entry) a b, h ++ [a] ++ [b] ++ es = h ++ a :: b :: es := by simp
    exact ⟨_, es, grown.trans (shape _ _ _), ⟨rfl, rfl⟩, minor⟩

/-- After the resolution a latch changes of a texture only who holds it. -/
theorem latch_spares (u : Updater) (w : World) (frame : Frame) (issued : Option FenceClass)
    (t : TextureId) : Spares t (u.resolution w frame).world (u.latch w frame issued).1 := by
  unfold latch resolution
  dsimp only
  generalize u.cache.resolve w u.context frame.slot frame.buffer frame.dataspace
    frame.forceRecreate = after
  cases after.answer.image? with
  | none => exact .of_textures rfl
  | some image =>
    refine Spares.trans (Spares.of_textures (w := after.world) ?_) (.letGoOf t _ _)
    rfl

end Updater

end LayerFeed
