/-
What callers can see of images, handles, slots and caches.
-/
import LayerFeed.SlotCache

namespace LayerFeed

/-- An image: its texture, and the buffer the texture was imported from. -/
structure ImageView where
  texture : TextureId
  buffer : BufferId
  width : UInt32
  height : UInt32
  dataspace : Dataspace
deriving DecidableEq

/-- A handle: its texture's buffer, and who holds what. -/
structure HandleView where
  buffer : BufferId
  dataspace : Dataspace
  holders : Nat
  queueHeld : Bool
deriving DecidableEq

/-- A slot: empty, or with the buffer it last saw and its handle. -/
structure SlotView where
  isEmpty : Bool
  buffer : Option BufferId
  dataspace : Dataspace
  handle : Option HandleView
deriving DecidableEq

/-- A cache: how many entries it has, and how many of them hold a texture. -/
structure CacheView where
  size : Nat
  isEmpty : Bool
  live : Nat
deriving DecidableEq

namespace World

def imageView? (w : World) (t : TextureId) : Option ImageView :=
  (w.texture? t).map fun x =>
    ⟨t, x.buffer.id, x.buffer.desc.width, x.buffer.desc.height, x.dataspace⟩

def handleView? (w : World) (t : TextureId) : Option HandleView :=
  (w.texture? t).map fun x => ⟨x.buffer.id, x.dataspace, x.holders, x.queueHeld⟩

end World

def Slot.view (s : Slot) (w : World) : SlotView :=
  ⟨s.isEmpty, s.buffer.map HardwareBuffer.id, s.dataspace, s.texture.bind w.handleView?⟩

def SlotCache.view (c : SlotCache) : CacheView := ⟨c.size, c.isEmpty, c.liveTextures⟩

end LayerFeed
