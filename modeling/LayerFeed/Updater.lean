/-
A layer updater turns the frames of one producer into a committed layer.

Setters only change pending properties; `commitPaint`, `latch` and
`commitTransform`, which an apply runs in this order, bring them onto the layer.
An apply takes consumer ownership of a new source once, and asks it for a frame
when a post is in the mailbox. The frame's slot is resolved to a texture; if
there is none the layer keeps what it shows.

An updater is torn down at most once. It then has no cache entry and no current
slot, and applying it does nothing; its source stays until it is replaced or the
updater goes away.
-/
import LayerFeed.Fence.Gate
import LayerFeed.Layer
import LayerFeed.Mailbox
import LayerFeed.SlotCache

namespace LayerFeed

/-- A layer updater. -/
structure Updater where
  id : UpdaterId
  context : ContextId
  config : Config
  width : UInt32 := 0
  height : UInt32 := 0
  blend : Bool := false
  paint : Paint := .default
  transform : Option Affine := none
  mailbox : Mailbox := default
  source : Option SourceRef := none
  /-- Whether consumer ownership of the source is taken. -/
  consumerAttached : Bool := false
  layer : Option Layer := none
  cache : SlotCache
  /-- The slot of the frame latched last. -/
  currentSlot : Option SlotId := none
  framesLatched : UInt64 := 0
  destroyed : Bool := false
  sink : Sink := .none
deriving DecidableEq

/-- The stages of an updater's life. -/
inductive UpdaterState
  | detached
  | attached
  | destroyed
deriving DecidableEq

def UpdaterState.name : UpdaterState → String
  | detached => "Detached"
  | attached => "Attached"
  | destroyed => "Destroyed"

namespace Updater

/-- An updater without a source, over the given context. -/
def new (id : UpdaterId) (c : ContextId) (config : Config) : Updater :=
  { id, context := c, config, cache := .empty config.pipeline }

/-- The stage the updater is in. -/
def state (u : Updater) : UpdaterState :=
  if u.destroyed then .destroyed else if u.source.isSome then .attached else .detached

-- ==================================================== pending properties

/-- Sets the size of the layer to be. Answers whether it changed. -/
def setSize (u : Updater) (width height : UInt32) : Updater × Bool :=
  if u.width = width ∧ u.height = height then (u, false) else ({ u with width, height }, true)

/-- Sets whether the layer blends. Answers whether this changed. -/
def setBlend (u : Updater) (blend : Bool) : Updater × Bool :=
  if u.blend = blend then (u, false) else ({ u with blend }, true)

/-- Replaces the transform to be committed; `none` discards it. -/
def setTransform (u : Updater) (transform : Option Affine) : Updater := { u with transform }

/-- Takes over a paint, or the default one. -/
def setPaint (u : Updater) (paint : Option Paint) : Updater :=
  { u with paint := paint.getD .default }

/-- Routes events to a sink from now on. -/
def setSink (u : Updater) (sink : Sink) : Updater := { u with sink }

/-- Posts that a frame is there. -/
def post (u : Updater) (w : World) : World × Updater :=
  (w.record (.posted u.id), { u with mailbox := u.mailbox.raise })

-- ==================================================== the layer

/-- The layer, made if need be, with the pending size and blend flag. -/
def sizedLayer (u : Updater) : Layer :=
  { u.layer.getD (.new u.width u.height u.blend) with
    width := u.width, height := u.height, blend := u.blend }

/-- The image that the layer shows. -/
def shownImage (u : Updater) : Option TextureId := u.layer.bind Layer.image

/-- Brings the pending paint onto the layer. -/
def commitPaint (u : Updater) : Updater :=
  { u with layer := some { u.sizedLayer with paint := u.paint } }

/-- Brings the pending transform onto the layer, once. -/
def commitTransform (u : Updater) : Updater :=
  match u.transform with
  | some t =>
    { u with transform := none, layer := some { u.sizedLayer with transform := some t } }
  | none => u

/-- Binds an image with its sampling parameters, all together. The layer becomes
the holder that the image was, and the image it showed before lets go. -/
def bind (u : Updater) (w : World) (forceFilter : Bool) (windowTransform : TextureTransform)
    (crop : Rect) (image : TextureId) : World × Updater :=
  let layer := u.sizedLayer
  let w := w.record (.bound u.id forceFilter windowTransform crop image)
  (w.letGoOf layer.image,
    { u with layer := some { layer with forceFilter, windowTransform, crop, image } })

-- ==================================================== the source

/-- Drops the source, its ownership released first if it was taken. Answers
whether it was. -/
def releaseSource (u : Updater) (w : World) : After Updater Bool :=
  match u.source with
  | none => ⟨w, u, false⟩
  | some source =>
    let w := if u.consumerAttached then w.record (.source source .released) else w
    ⟨w.record (.source source .dropped), { u with source := none, consumerAttached := false },
      u.consumerAttached⟩

/-- Hands the buffer of the current slot back to the producer's queue, clears the
slot and forgets that it was current. -/
def severActiveSlot (u : Updater) (w : World) : After Updater (Option SlotId) :=
  match u.currentSlot with
  | none => ⟨w, u, none⟩
  | some slot =>
    let w := (u.cache.releaseQueue w slot).1
    let cleared := u.cache.clear w slot .normal
    let w := match cleared.answer with
      | some release => cleared.world.trace u.id u.sink (.textureReleased slot .normal release)
      | none => cleared.world
    ⟨w, { u with cache := cleared.object, currentSlot := none }, some slot⟩

/-- Installs a source. The one before is released and dropped, and all slots of
its queue are cleared, first; the layer keeps what it shows. -/
def attach (u : Updater) (w : World) (source : SourceRef) : World × Updater :=
  let released := u.releaseSource w
  let severed := released.object.severActiveSlot released.world
  let u := severed.object
  let cleared := u.cache.clearAll severed.world .normal
  let stale := cleared.answer
  let w := if stale > 0 then cleared.world.note (.staleSlotsDropped stale) else cleared.world
  (w.record (.source source .installed),
    { u with cache := cleared.object, source := some source })

/-- Takes the source off and clears the current slot. Without a source and a
current slot nothing happens. -/
def detach (u : Updater) (w : World) : World × Updater :=
  let released := u.releaseSource w
  let severed := released.object.severActiveSlot released.world
  let w := severed.world
  if u.source.isSome || severed.answer.isSome then
    let w := w.note (.sourceDetached severed.answer)
    (w.trace u.id u.sink (.detached severed.answer released.answer), severed.object)
  else (w, severed.object)

-- ==================================================== applying

/-- Takes consumer ownership of the source unless that was done, which counts as
a post. -/
def takeOwnership (u : Updater) (w : World) (source : SourceRef) : World × Updater :=
  if u.consumerAttached then (w, u)
  else (w.record (.source source .taken),
    { u with consumerAttached := true, mailbox := u.mailbox.raise })

/-- The first part of an apply, on an updater that is not destroyed: the paint is
committed, and consumer ownership of a source is taken. Answers the source to ask
for a frame, if a post was there. -/
def beginApply (u : Updater) (w : World) : After Updater (Option SourceRef) :=
  let u := u.commitPaint
  match u.source with
  | none => ⟨w, u, none⟩
  | some source =>
    let taken := u.takeOwnership w source
    let u := taken.2
    ⟨taken.1, { u with mailbox := u.mailbox.take },
      if u.mailbox.pending then some source else none⟩

/-- The fence callbacks for a dequeue. -/
def fences (u : Updater) : DequeueFences where
  gate := ⟨u.context, u.config.pipeline⟩
  previous := u.currentSlot.bind u.cache.get?

/-- Whether a frame has to be sampled with filtering: its shown size is not that
of the layer to be, and the configuration asks for it. -/
def needsFilter (u : Updater) (frame : Frame) : Bool :=
  u.config.filterOnSizeMismatch && frame.shownSize != (u.width, u.height)

/-- The second part of an apply: takes over a dequeued frame, for which the class
of the last release fence was `issued`. -/
def latch (u : Updater) (w : World) (frame : Frame) (issued : Option FenceClass) :
    World × Updater :=
  let u := { u with currentSlot := some frame.slot, framesLatched := u.framesLatched + 1 }
  let resolved :=
    u.cache.resolve w u.context frame.slot frame.buffer frame.dataspace frame.forceRecreate
  let u := { u with cache := resolved.object }
  let w := resolved.world.record (.latched u.id frame resolved.answer)
  let forceFilter := u.needsFilter frame
  let w := w.trace u.id u.sink (.frameLatched {
    frameIndex := u.framesLatched
    pipeline := u.config.pipeline
    slot := frame.slot
    buffer := frame.buffer.id
    outcome := resolved.answer.outcome
    releaseFence := issued
    forceFilter })
  match resolved.answer.image? with
  | some image => u.bind w forceFilter frame.transform frame.crop image
  | none => (w, u)

-- ==================================================== teardown

/-- Releases the source's ownership if it was taken. -/
def releaseOwnership (u : Updater) (w : World) : World :=
  match u.consumerAttached, u.source with
  | true, some source => w.record (.source source .released)
  | _, _ => w

/-- Releases the source's ownership, the layer and all slots. Runs at most once;
the layer goes first, so that the slots are the last holders of what it showed. -/
def teardown (u : Updater) (w : World) (mode : TeardownMode) : World × Updater :=
  if u.destroyed then (w, u)
  else
    let cleared := u.cache.clearAll ((u.releaseOwnership w).letGoOf u.shownImage) mode
    let w := cleared.world.note (.tornDown mode cleared.answer)
    let w := w.trace u.id u.sink (.tornDown mode cleared.answer u.layer.isSome)
    (w, { u with
      destroyed := true, consumerAttached := false, layer := none, cache := cleared.object,
      currentSlot := none })

/-- Drops the source, as its owner goes away. -/
def dropSource (u : Updater) (w : World) : World :=
  match u.source with
  | some source => w.record (.source source .dropped)
  | none => w

/-- The updater goes away: it is torn down if it was not, under the mode that the
context asks for, and then lets go of its source and of any layer made since. -/
def discard (u : Updater) (w : World) : World :=
  let down := u.teardown w (if w.alive u.context then .normal else .contextLost)
  let u := down.2
  u.cache.discard ((u.dropSource down.1).letGoOf u.shownImage)

-- ==================================================== description

def describe (u : Updater) (w : World) : String :=
  Text.openRecord "DeferredLayerUpdater" [("state", u.state.name), ("config", u.config.describe),
    ("width", toString u.width.toNat), ("height", toString u.height.toNat),
    ("current_slot", Text.option SlotId.describe u.currentSlot),
    ("slots", u.cache.describe w), ("layer", Text.option (·.describe w) u.layer),
    ("signal", u.mailbox.describe)]

end Updater

end LayerFeed
