/-
Updaters as far as they are drawn: without the pipeline of their configuration and of their
cache. Whatever is done to an updater and to its drawn image, in worlds that are alike, leaves
worlds that are alike, and an updater and its drawn image again (`attach_drawn`,
`latch_drawn`, ...). A frame is latched alike whatever release fence was made for it.
-/
import LayerFeed.Proofs.Drawing.World
import LayerFeed.Updater

namespace LayerFeed.Updater

open World

/-- An updater as far as it is drawn. -/
def drawn (u : Updater) : Updater :=
  { u with config := { u.config with pipeline := .gl }, cache := u.cache.drawn }

variable (u : Updater) {w w' : World}

-- ==================================================== pending properties

/-- A new size draws alike. -/
theorem setSize_drawn (width height : UInt32) :
    (u.drawn.setSize width height).1 = (u.setSize width height).1.drawn := by
  unfold setSize
  rw [show u.drawn.width = u.width from rfl, show u.drawn.height = u.height from rfl]
  split <;> rfl

/-- A new blend draws alike. -/
theorem setBlend_drawn (blend : Bool) :
    (u.drawn.setBlend blend).1 = (u.setBlend blend).1.drawn := by
  unfold setBlend
  rw [show u.drawn.blend = u.blend from rfl]
  split <;> rfl

/-- Committing the transform draws alike. -/
theorem commitTransform_drawn : u.drawn.commitTransform = u.commitTransform.drawn := by
  unfold commitTransform
  rw [show u.drawn.transform = u.transform from rfl]
  split <;> rfl

variable (h : SamePicture w w')

include h

/-- A post draws nothing. -/
theorem post_drawn :
    SamePicture (u.post w).1 (u.drawn.post w').1 ∧ (u.drawn.post w').2 = (u.post w).2.drawn :=
  ⟨h.record _, rfl⟩

/-- Binding an image draws alike. -/
theorem bind_drawn (forceFilter : Bool) (windowTransform : TextureTransform) (crop : Rect)
    (image : TextureId) :
    SamePicture (u.bind w forceFilter windowTransform crop image).1
        (u.drawn.bind w' forceFilter windowTransform crop image).1
      ∧ (u.drawn.bind w' forceFilter windowTransform crop image).2
        = (u.bind w forceFilter windowTransform crop image).2.drawn :=
  ⟨(h.record _).letGoOf _, rfl⟩

-- ==================================================== the source

/-- Releasing the source draws alike, and gives back the same source. -/
theorem releaseSource_drawn :
    SamePicture (u.releaseSource w).world (u.drawn.releaseSource w').world
      ∧ (u.drawn.releaseSource w').object = (u.releaseSource w).object.drawn
      ∧ (u.releaseSource w).answer = (u.drawn.releaseSource w').answer := by
  unfold releaseSource
  rw [show u.drawn.source = u.source from rfl,
    show u.drawn.consumerAttached = u.consumerAttached from rfl]
  split
  · exact ⟨h, rfl, rfl⟩
  · dsimp only
    split
    · exact ⟨(h.record _).record _, rfl, rfl⟩
    · exact ⟨h.record _, rfl, rfl⟩

/-- Severing the active slot draws alike, and frees the same texture. -/
theorem severActiveSlot_drawn :
    SamePicture (u.severActiveSlot w).world (u.drawn.severActiveSlot w').world
      ∧ (u.drawn.severActiveSlot w').object = (u.severActiveSlot w).object.drawn
      ∧ (u.severActiveSlot w).answer = (u.drawn.severActiveSlot w').answer := by
  unfold severActiveSlot
  rw [show u.drawn.currentSlot = u.currentSlot from rfl,
    show u.drawn.cache = u.cache.drawn from rfl]
  split
  · exact ⟨h, rfl, rfl⟩
  · next slot _ =>
    have given := h.unseen (u.cache.releaseQueue_unseen w slot)
      (u.cache.drawn.releaseQueue_unseen w' slot)
    obtain ⟨alike, object, answer⟩ := u.cache.clear_drawn given slot .normal
    dsimp only
    rw [object, ← answer]
    split
    · exact ⟨alike.trace _ _ _ _, rfl, rfl⟩
    · exact ⟨alike, rfl, rfl⟩

/-- Attaching a source draws alike. -/
theorem attach_drawn (source : SourceRef) :
    SamePicture (u.attach w source).1 (u.drawn.attach w' source).1
      ∧ (u.drawn.attach w' source).2 = (u.attach w source).2.drawn := by
  obtain ⟨released, object, -⟩ := u.releaseSource_drawn h
  obtain ⟨severed, object', -⟩ := (u.releaseSource w).object.severActiveSlot_drawn released
  obtain ⟨cleared, cache, stale⟩ := SlotCache.clearAll_drawn
    ((u.releaseSource w).object.severActiveSlot (u.releaseSource w).world).object.cache
    severed .normal
  unfold attach
  dsimp only
  rw [object, object']
  unfold drawn at cleared cache stale ⊢
  dsimp only
  rw [cache, ← stale]
  refine ⟨World.SamePicture.record ?_ _, rfl⟩
  split
  · exact cleared.record _
  · exact cleared

/-- A detach draws alike. -/
theorem detach_drawn : SamePicture (u.detach w).1 (u.drawn.detach w').1
    ∧ (u.drawn.detach w').2 = (u.detach w).2.drawn := by
  obtain ⟨released, object, wasReleased⟩ := u.releaseSource_drawn h
  obtain ⟨severed, object', slot⟩ := (u.releaseSource w).object.severActiveSlot_drawn released
  unfold detach
  dsimp only
  rw [object, ← slot, show u.drawn.source = u.source from rfl]
  split
  · exact ⟨(severed.record _).trace _ _ _ _, object'⟩
  · exact ⟨severed, object'⟩

-- ==================================================== applying

/-- The start of an apply draws alike, and asks in the same cases. -/
theorem beginApply_drawn :
    SamePicture (u.beginApply w).world (u.drawn.beginApply w').world
      ∧ (u.drawn.beginApply w').object = (u.beginApply w).object.drawn
      ∧ (u.beginApply w).answer = (u.drawn.beginApply w').answer := by
  unfold beginApply
  dsimp only
  rw [show u.drawn.commitPaint.source = u.commitPaint.source from rfl]
  split
  · exact ⟨h, rfl, rfl⟩
  · unfold takeOwnership
    rw [show u.drawn.commitPaint.consumerAttached = u.commitPaint.consumerAttached from rfl]
    split
    · exact ⟨h, rfl, rfl⟩
    · exact ⟨h.record _, rfl, rfl⟩

/-- The class of the release fence is told to the sink, but does not change the frame. -/
theorem latch_drawn (frame : Frame) (issued issued' : Option FenceClass) :
    SamePicture (u.latch w frame issued).1 (u.drawn.latch w' frame issued').1
      ∧ (u.drawn.latch w' frame issued').2 = (u.latch w frame issued).2.drawn := by
  obtain ⟨alike, cache, answer⟩ := u.cache.resolve_drawn h u.context frame.slot frame.buffer
    frame.dataspace frame.forceRecreate
  unfold latch
  dsimp only
  rw [show u.drawn.cache = u.cache.drawn from rfl, show u.drawn.context = u.context from rfl,
    cache, ← answer]
  split
  · next image _ => exact bind_drawn _ ((alike.record _).trace _ _ _ _) _ _ _ image
  · exact ⟨(alike.record _).trace _ _ _ _, rfl⟩

-- ==================================================== teardown

/-- Giving up the ownership draws nothing. -/
theorem releaseOwnership_drawn :
    SamePicture (u.releaseOwnership w) (u.drawn.releaseOwnership w') := by
  unfold releaseOwnership
  rw [show u.drawn.source = u.source from rfl,
    show u.drawn.consumerAttached = u.consumerAttached from rfl]
  split
  · exact h.record _
  · exact h

/-- A teardown draws alike in either mode. -/
theorem teardown_drawn (mode : TeardownMode) :
    SamePicture (u.teardown w mode).1 (u.drawn.teardown w' mode).1
      ∧ (u.drawn.teardown w' mode).2 = (u.teardown w mode).2.drawn := by
  obtain ⟨cleared, cache, answer⟩ :=
    u.cache.clearAll_drawn ((u.releaseOwnership_drawn h).letGoOf u.shownImage) mode
  unfold teardown
  rw [show u.drawn.destroyed = u.destroyed from rfl, show u.drawn.cache = u.cache.drawn from rfl,
    show u.drawn.shownImage = u.shownImage from rfl]
  split
  · exact ⟨h, rfl⟩
  · dsimp only
    rw [cache, ← answer]
    exact ⟨(cleared.record _).trace _ _ _ _, rfl⟩

/-- Dropping the source draws alike. -/
theorem dropSource_drawn : SamePicture (u.dropSource w) (u.drawn.dropSource w') := by
  unfold dropSource
  rw [show u.drawn.source = u.source from rfl]
  split
  · exact h.record _
  · exact h

/-- Dropping the updater draws alike. -/
theorem discard_drawn : SamePicture (u.discard w) (u.drawn.discard w') := by
  unfold discard
  rw [show u.drawn.context = u.context from rfl, h.alive]
  generalize (if w'.alive u.context then TeardownMode.normal else .contextLost) = mode
  obtain ⟨down, object⟩ := u.teardown_drawn h mode
  dsimp only
  rw [object]
  exact SlotCache.discard_drawn _ ((dropSource_drawn _ down).letGoOf _)

end LayerFeed.Updater
