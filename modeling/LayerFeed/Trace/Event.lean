/-
Events in the life of a layer updater, as trace sinks receive them.
-/
import LayerFeed.Config
import LayerFeed.Fence.Release
import LayerFeed.Teardown

namespace LayerFeed

/-- How the slot of a latched frame was resolved to a texture. -/
inductive SlotOutcome
  /-- The texture of the slot was used again. -/
  | cached
  /-- A texture was imported. -/
  | created
  /-- There is no texture, and the frame is not shown. -/
  | unavailable
deriving DecidableEq

def SlotOutcome.name : SlotOutcome → String
  | cached => "Cached"
  | created => "Created"
  | unavailable => "Unavailable"

/-- What is told about a latched frame. -/
structure FrameLatched where
  /-- How many frames the updater has latched, this one included. -/
  frameIndex : UInt64
  pipeline : Pipeline
  slot : SlotId
  buffer : BufferId
  outcome : SlotOutcome
  /-- The class of the last release fence handed out, if one was asked for. -/
  releaseFence : Option FenceClass
  forceFilter : Bool
deriving DecidableEq

/-- One event. -/
inductive Event
  | frameLatched (frame : FrameLatched)
  /-- A slot let go of its texture outside a teardown. -/
  | textureReleased (slot : SlotId) (mode : TeardownMode) (release : Release)
  /-- The source was taken off. -/
  | detached (activeSlot : Option SlotId) (releasedConsumer : Bool)
  /-- The updater was torn down. -/
  | tornDown (mode : TeardownMode) (releasedTextures : Nat) (releasedLayer : Bool)
deriving DecidableEq

end LayerFeed
