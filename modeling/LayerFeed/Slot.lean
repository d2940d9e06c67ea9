/-
One slot of a producer's queue and the texture imported for it. A frame whose
buffer and dataspace match the texture uses it again; any other frame clears the
slot first and then imports, so that the old texture is released exactly once
whether or not the import succeeds.
-/
import LayerFeed.Texture

namespace LayerFeed

/-- A slot with the buffer it last saw and the texture it holds for it. -/
structure Slot where
  pipeline : Pipeline
  buffer : Option HardwareBuffer := none
  dataspace : Dataspace := .unknown
  texture : Option TextureId := none
deriving DecidableEq

/-- A resolution, its image described. -/
def Resolved.describe (w : World) : Resolved → String
  | cached t => Text.tuple "Cached" [w.describeImage t]
  | created t => Text.tuple "Created" [w.describeImage t]
  | unavailable => "Unavailable"

namespace Slot

/-- A slot that has seen no buffer. -/
def empty (p : Pipeline) : Slot := { pipeline := p }

/-- Whether the slot holds no texture. -/
def isEmpty (s : Slot) : Bool := s.texture.isNone

/-- The slot's texture if it was imported from this buffer with this dataspace. -/
def match? (s : Slot) (w : World) (buffer : HardwareBuffer) (dataspace : Dataspace) :
    Option TextureId :=
  s.texture.filter fun t =>
    (w.texture? t).any (·.buffer.same buffer) && decide (s.dataspace = dataspace)

/-- Hands the slot's buffer back to the producer's queue. -/
def releaseQueue (s : Slot) (w : World) : World × Bool :=
  match s.texture with
  | some t => w.releaseQueue t
  | none => (w, false)

/-- Gives up the slot's texture and forgets its buffer. In normal mode the
buffer goes back to the producer's queue first. -/
def clear (s : Slot) (w : World) (mode : TeardownMode) : After Slot (Option Release) :=
  let emptied := { s with buffer := none, dataspace := .unknown, texture := none }
  match s.texture with
  | none => ⟨w, emptied, none⟩
  | some t =>
    let w := if mode = .normal then (w.releaseQueue t).1 else w
    let released := w.release t mode
    ⟨released.1, emptied, some released.2⟩

/-- Imports the texture of a frame into this slot, which is empty. -/
def fill (s : Slot) (w : World) (c : ContextId) (buffer : HardwareBuffer) (dataspace : Dataspace) :
    After Slot Resolved :=
  let imported := w.importTexture c s.pipeline buffer dataspace
  match imported.2 with
  | .ok t =>
    ⟨imported.1.share t, { s with buffer := some buffer, dataspace, texture := some t },
      .created t⟩
  | .error e => ⟨imported.1.note (.importFailed buffer.id e), s, .unavailable⟩

/-- Finds or imports the texture of a frame in this slot. -/
def resolve (s : Slot) (w : World) (c : ContextId) (buffer : HardwareBuffer)
    (dataspace : Dataspace) (force : Bool) : After Slot Resolved :=
  match if force then none else s.match? w buffer dataspace with
  | some t => ⟨(w.reacquireQueue t).share t, s, .cached t⟩
  | none =>
    let cleared := s.clear w .normal
    cleared.object.fill cleared.world c buffer dataspace

/-- The slot goes away; its handle lets go without a release. -/
def discard (s : Slot) (w : World) : World := w.letGoOf s.texture

def describe (s : Slot) (w : World) : String :=
  Text.record "ImageSlot" [("pipeline", s.pipeline.name),
    ("buffer", Text.option (fun b => b.id.describe) s.buffer),
    ("dataspace", s.dataspace.describe),
    ("texture", Text.option w.describeHandle s.texture)]

end Slot

end LayerFeed
