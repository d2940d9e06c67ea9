/-
Updaters retold. The sink of an updater is told of in the other way, and all else about it is
kept. Four of its operations emit events, between changes of the updater and of the world: a slot
that is severed, a source that is taken off, a frame that is latched and a teardown. Each of them
hands its event to the sink last or goes on from what the hand-over left, so it goes through the
retelling by `World.trace_retold`, like all that emits nothing.
-/
import LayerFeed.Proofs.Retelling.World
import LayerFeed.Updater

namespace LayerFeed

/-- The updater as it is retold. -/
def Updater.retold (u : Updater) (R : Retelling) : Updater := { u with sink := R.sink u.sink }

/-- A world and an updater, both retold. -/
def retoldBoth (R : Retelling) (after : World × Updater) : World × Updater :=
  (after.1.retold R, after.2.retold R)

/-- What an operation on an updater leaves, retold. -/
def retoldAfter {β : Type} (R : Retelling) (after : After Updater β) : After Updater β :=
  ⟨after.world.retold R, after.object.retold R, after.answer⟩

namespace Updater

variable (R : Retelling) (u : Updater) (w : World)

section fields

@[simp] theorem retold_id : (u.retold R).id = u.id := rfl
@[simp] theorem retold_context : (u.retold R).context = u.context := rfl
@[simp] theorem retold_source : (u.retold R).source = u.source := rfl
@[simp] theorem retold_consumerAttached :
    (u.retold R).consumerAttached = u.consumerAttached := rfl
@[simp] theorem retold_cache : (u.retold R).cache = u.cache := rfl
@[simp] theorem retold_currentSlot : (u.retold R).currentSlot = u.currentSlot := rfl
@[simp] theorem retold_destroyed : (u.retold R).destroyed = u.destroyed := rfl
/-- The sink of an updater is all that is retold of it. -/
@[simp] theorem retold_sink : (u.retold R).sink = R.sink u.sink := rfl
@[simp] theorem retold_layer : (u.retold R).layer = u.layer := rfl
@[simp] theorem retold_transform : (u.retold R).transform = u.transform := rfl
/-- What is committed of the paint has nothing to do with the sink. -/
@[simp] theorem retold_commitPaint : (u.retold R).commitPaint = u.commitPaint.retold R := rfl
@[simp] theorem retold_sizedLayer : (u.retold R).sizedLayer = u.sizedLayer := rfl
@[simp] theorem retold_shownImage : (u.retold R).shownImage = u.shownImage := rfl

end fields

-- ==================================================== pending properties

/-- Whether a size is news depends on the size before. -/
theorem setSize_retold (width height : UInt32) :
    (u.retold R).setSize width height
      = ((u.setSize width height).1.retold R, (u.setSize width height).2) := by
  unfold setSize
  by_cases same : u.width = width ∧ u.height = height
  · rw [if_pos same]
    exact if_pos same
  · rw [if_neg same]
    exact if_neg same

/-- Whether blending is news depends on how it was before. -/
theorem setBlend_retold (blend : Bool) :
    (u.retold R).setBlend blend = ((u.setBlend blend).1.retold R, (u.setBlend blend).2) := by
  unfold setBlend
  by_cases same : u.blend = blend
  · rw [if_pos same]
    exact if_pos same
  · rw [if_neg same]
    exact if_neg same

/-- A post is not about tracing. -/
theorem post_retold : (u.retold R).post (w.retold R) = retoldBoth R (u.post w) := by
  have posted : (w.retold R).record (.posted u.id) = _ := w.record_retold R trivial
  exact congrArg (·, _) posted

-- ==================================================== the layer

/-- A transform is committed to the layer alone. -/
theorem commitTransform_retold :
    (u.retold R).commitTransform = u.commitTransform.retold R := by
  unfold commitTransform
  simp only [retold_transform]
  split <;> rfl

/-- An image is bound to the layer, and the one it showed before is let go of. -/
theorem bind_retold (forceFilter : Bool) (transform : TextureTransform) (crop : Rect)
    (image : TextureId) :
    (u.retold R).bind (w.retold R) forceFilter transform crop image
      = retoldBoth R (u.bind w forceFilter transform crop image) := by
  have bound : (w.retold R).record (.bound u.id forceFilter transform crop image) = _ :=
    w.record_retold R trivial
  unfold bind
  simp only [retold_id, retold_sizedLayer, bound, World.letGoOf_retold]
  rfl

-- ==================================================== the source

/-- What a source is told is not about tracing. -/
theorem releaseSource_retold :
    (u.retold R).releaseSource (w.retold R) = retoldAfter R (u.releaseSource w) := by
  unfold releaseSource
  rw [retold_source, retold_consumerAttached]
  cases u.source with
  | none => rfl
  | some source =>
    simp only [World.source_retold]
    split <;> (simp only [World.source_retold]; rfl)

/-- The slot that is severed hands its buffer back and is cleared; that its texture is released is
an event. -/
theorem severActiveSlot_retold :
    (u.retold R).severActiveSlot (w.retold R) = retoldAfter R (u.severActiveSlot w) := by
  unfold severActiveSlot
  simp only [retold_currentSlot, retold_cache, retold_id, retold_sink]
  cases u.currentSlot with
  | none => rfl
  | some slot =>
    simp only [SlotCache.releaseQueue_retold, retoldWith, SlotCache.clear_retold, After.retold]
    cases (u.cache.clear (u.cache.releaseQueue w slot).1 slot .normal).answer with
    | none => rfl
    | some release =>
      simp only [World.trace_retold]
      rfl

/-- The source before is released and dropped, and the slots of its queue are cleared. -/
theorem attach_retold (source : SourceRef) :
    (u.retold R).attach (w.retold R) source = retoldBoth R (u.attach w source) := by
  unfold attach
  simp only [releaseSource_retold, retoldAfter, severActiveSlot_retold, retold_cache,
    SlotCache.clearAll_retold, After.retold]
  split <;> simp only [World.note_retold, World.source_retold] <;> rfl

/-- A detach releases the source and severs the slot, and tells of it as an event. -/
theorem detach_retold : (u.retold R).detach (w.retold R) = retoldBoth R (u.detach w) := by
  unfold detach
  simp only [releaseSource_retold, retoldAfter, severActiveSlot_retold, retold_source, retold_id,
    retold_sink, World.note_retold, World.trace_retold]
  split <;> rfl

-- ==================================================== applying

/-- The source is told that it is taken, unless it was before. -/
theorem takeOwnership_retold (source : SourceRef) :
    (u.retold R).takeOwnership (w.retold R) source = retoldBoth R (u.takeOwnership w source) := by
  unfold takeOwnership
  simp only [retold_consumerAttached, World.source_retold]
  split <;> rfl

/-- Whether a source is asked depends on the mailbox and on whether it was taken. -/
theorem beginApply_retold :
    (u.retold R).beginApply (w.retold R) = retoldAfter R (u.beginApply w) := by
  unfold beginApply
  simp only [retold_commitPaint, retold_source, takeOwnership_retold, retoldBoth]
  cases u.commitPaint.source <;> rfl

/-- A latch tells of its frame as an event, which is retold with the sink. -/
theorem latch_retold (frame : Frame) (issued : Option FenceClass) :
    (u.retold R).latch (w.retold R) frame issued = retoldBoth R (u.latch w frame issued) := by
  unfold latch
  simp only [retold_cache, retold_context, retold_id, retold_sink, SlotCache.resolve_retold,
    After.retold]
  generalize u.cache.resolve w u.context frame.slot frame.buffer frame.dataspace
    frame.forceRecreate = resolved
  have latched : (resolved.world.retold R).record (.latched u.id frame resolved.answer) = _ :=
    World.record_retold R _ trivial
  simp only [latched, World.trace_retold]
  cases resolved.answer.image? with
  | none => rfl
  | some image =>
    exact bind_retold R { u with
      currentSlot := some frame.slot
      framesLatched := u.framesLatched + 1
      cache := resolved.object } _ _ _ _ _

-- ==================================================== teardown

/-- A source that was taken is told that it is released. -/
theorem releaseOwnership_retold :
    (u.retold R).releaseOwnership (w.retold R) = (u.releaseOwnership w).retold R := by
  unfold releaseOwnership
  simp only [retold_source, retold_consumerAttached, World.source_retold]
  split <;> rfl

/-- A teardown tells of itself as an event, which is retold with the sink. -/
theorem teardown_retold (mode : TeardownMode) :
    (u.retold R).teardown (w.retold R) mode = retoldBoth R (u.teardown w mode) := by
  unfold teardown
  simp only [retold_destroyed, releaseOwnership_retold, retold_shownImage, World.letGoOf_retold,
    retold_cache, SlotCache.clearAll_retold, After.retold, World.note_retold, retold_id,
    retold_sink, retold_layer, World.trace_retold]
  split <;> rfl

/-- A source that is there is told that it is dropped. -/
theorem dropSource_retold : (u.retold R).dropSource (w.retold R) = (u.dropSource w).retold R := by
  unfold dropSource
  simp only [retold_source, World.source_retold]
  cases u.source <;> rfl

/-- An updater that goes away is torn down first, if it was not. -/
theorem discard_retold : (u.retold R).discard (w.retold R) = (u.discard w).retold R := by
  have alive : (w.retold R).alive u.context = w.alive u.context := rfl
  unfold discard
  simp only [retold_context, alive, teardown_retold, retoldBoth, dropSource_retold,
    retold_shownImage, World.letGoOf_retold, retold_cache, SlotCache.discard_retold]

end Updater

end LayerFeed
