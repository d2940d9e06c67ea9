/-
Textures with several holders. A handle belongs to a slot or to a caller, an
image to a layer or to a caller; each of them is one holder of its texture. When
the last holder lets go the texture leaves its backend: it is deleted if the
context is alive and no release under a lost context ever touched it, and is
abandoned otherwise.

On Vulkan a texture keeps its buffer from the producer's queue from its import,
or from the frame that brought the same buffer again, until the buffer is handed
back.
-/
import LayerFeed.World

namespace LayerFeed

-- ==================================================== descriptions

/-- A handle to the texture. -/
def Texture.describeHandle (x : Texture) : String :=
  Text.openRecord "TextureHandle" [("buffer", x.buffer.id.describe),
    ("dataspace", x.dataspace.describe), ("refs", toString x.holders)]

/-- An image of the texture. -/
def Texture.describeImage (x : Texture) : String :=
  Text.openRecord "LayerImage" [("buffer", x.buffer.id.describe),
    ("width", toString x.buffer.desc.width.toNat), ("height", toString x.buffer.desc.height.toNat)]

namespace World

/-- The record of a texture. -/
def texture? (w : World) (t : TextureId) : Option Texture := w.textures.get? t

/-- Enters the record of a new texture. -/
def setTexture (w : World) (t : TextureId) (x : Texture) : World :=
  { w with textures := w.textures.set t x }

/-- Changes the record of a texture. -/
def onTexture (w : World) (t : TextureId) (f : Texture → Texture) : World :=
  { w with textures := w.textures.modify t f }

/-- How many handles and images hold a texture. -/
def holders (w : World) (t : TextureId) : Nat := ((w.texture? t).map Texture.holders).getD 0

/-- Whether a texture keeps its buffer from the producer's queue. -/
def queueHeld (w : World) (t : TextureId) : Bool :=
  ((w.texture? t).map Texture.queueHeld).getD false

def describeHandle (w : World) (t : TextureId) : String :=
  ((w.texture? t).map Texture.describeHandle).getD ""

def describeImage (w : World) (t : TextureId) : String :=
  ((w.texture? t).map Texture.describeImage).getD ""

-- ==================================================== import

/-- Imports a buffer into a context as a new texture with one holder. A lost
context refuses without a call. -/
def importTexture (w : World) (c : ContextId) (p : Pipeline) (buffer : HardwareBuffer)
    (dataspace : Dataspace) : World × Except GpuError TextureId :=
  if w.alive c then
    match (w.backend c).importError with
    | some e => (w.call c (.importFailed buffer.id), .error e)
    | none =>
      let t := w.imported + 1
      let x : Texture :=
        { context := c, pipeline := p, buffer, dataspace, queueHeld := p = .vulkan }
      (({ w with imported := t }.call c (.imported t buffer dataspace)).setTexture t x, .ok t)
  else (w, .error .contextLost)

-- ==================================================== holders

/-- One more holder. -/
def share (w : World) (t : TextureId) : World :=
  w.onTexture t fun x => { x with holders := x.holders + 1 }

/-- The texture leaves its backend. -/
def free (w : World) (t : TextureId) (x : Texture) : World :=
  w.call x.context (if w.alive x.context && !x.condemned then .deleted t else .abandoned t)

/-- One holder lets go; the last one frees the texture. -/
def letGo (w : World) (t : TextureId) : World :=
  let after := w.onTexture t fun x => { x with holders := x.holders - 1 }
  match w.texture? t with
  | some x => if x.holders = 1 then after.free t x else after
  | none => after

/-- A holder that may be there lets go. -/
def letGoOf (w : World) (t : Option TextureId) : World :=
  match t with
  | some t => w.letGo t
  | none => w

/-- Notes the mode that the handle of a texture is released under. -/
def markReleased (w : World) (t : TextureId) (mode : TeardownMode) : World :=
  w.onTexture t fun x => { x with released := some mode }

/-- Gives up a handle under the given mode. -/
def release (w : World) (t : TextureId) (mode : TeardownMode) : World × Release :=
  let w := w.markReleased t mode
  (w.letGo t, if w.holders t = 1 then .freed else .shared)

-- ==================================================== the producer's queue

/-- Hands the buffer of a texture back to the producer's queue. Answers whether
the backend was called: only on Vulkan, only when the buffer was still kept, and
only while the context is alive. -/
def releaseQueue (w : World) (t : TextureId) : World × Bool :=
  let after := w.onTexture t fun x =>
    if x.pipeline = .vulkan then { x with queueHeld := false } else x
  match w.texture? t with
  | some x =>
    if x.pipeline = .vulkan ∧ x.queueHeld ∧ w.alive x.context then
      (after.call x.context (.queueReleased t), true)
    else (after, false)
  | none => (after, false)

/-- Notes that the producer delivered the buffer of a texture again. -/
def reacquireQueue (w : World) (t : TextureId) : World :=
  w.onTexture t fun x => if x.pipeline = .vulkan then { x with queueHeld := true } else x

end World

end LayerFeed
