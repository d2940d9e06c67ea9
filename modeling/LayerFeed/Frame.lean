/-
What a producer hands over: a numbered slot of its queue, the hardware buffer
in that slot, and how the buffer is to be sampled.
-/
import LayerFeed.Geometry

namespace LayerFeed

-- ==================================================== identities

/-- A slot of a producer's queue. -/
structure SlotId where
  number : Int32
deriving DecidableEq

/-- Identity of a hardware buffer. -/
structure BufferId where
  number : UInt64
deriving DecidableEq

/-- A display a fence belongs to. -/
structure DisplayId where
  number : UInt64
deriving DecidableEq

/-- A fence descriptor that can be waited on. -/
structure FenceFd where
  number : Int32
deriving DecidableEq

/-- Slots are ordered by number. -/
def SlotId.order (a b : SlotId) : Ordering := compare a.number.toInt b.number.toInt

/-- Buffers are ordered by number. -/
def BufferId.order (a b : BufferId) : Ordering := compare a.number.toNat b.number.toNat

def SlotId.describe (s : SlotId) : String := Text.tuple "SlotId" [toString s.number.toInt]
def BufferId.describe (b : BufferId) : String := Text.tuple "BufferId" [toString b.number.toNat]
def DisplayId.describe (d : DisplayId) : String := Text.tuple "DisplayId" [toString d.number.toNat]
def FenceFd.describe (f : FenceFd) : String := Text.tuple "FenceFd" [toString f.number.toInt]

-- ==================================================== dataspaces

/-- How the colors in a buffer are encoded. -/
structure Dataspace where
  code : Int32
deriving DecidableEq

namespace Dataspace

def unknown : Dataspace := ⟨0⟩
def srgb : Dataspace := ⟨142671872⟩
def srgbLinear : Dataspace := ⟨138477568⟩
def displayP3 : Dataspace := ⟨143261696⟩

instance : Inhabited Dataspace := ⟨unknown⟩

def describe (d : Dataspace) : String := Text.tuple "Dataspace" [toString d.code.toInt]

end Dataspace

-- ==================================================== texture transforms

/-- How a buffer's content is turned before it is shown: a set of bits. -/
structure TextureTransform where
  bits : UInt32
deriving DecidableEq

namespace TextureTransform

def identity : TextureTransform := ⟨0⟩
def flipHorizontal : TextureTransform := ⟨1⟩
def flipVertical : TextureTransform := ⟨2⟩
def rotate90 : TextureTransform := ⟨4⟩
def rotate180 : TextureTransform := ⟨3⟩
def rotate270 : TextureTransform := ⟨7⟩

instance : Inhabited TextureTransform := ⟨identity⟩

/-- Whether width and height trade places: the quarter-turn bit is set. -/
def swapsAxes (t : TextureTransform) : Bool := t.bits &&& 4 != 0

def describe (t : TextureTransform) : String :=
  Text.tuple "TextureTransform" [toString t.bits.toNat]

end TextureTransform

-- ==================================================== buffers

/-- Size and pixel format of a buffer. -/
structure BufferDesc where
  width : UInt32 := 0
  height : UInt32 := 0
  format : UInt32 := 0
deriving DecidableEq, Inhabited

def BufferDesc.describe (d : BufferDesc) : String :=
  Text.record "BufferDesc" [("width", toString d.width.toNat), ("height", toString d.height.toNat),
    ("format", toString d.format.toNat)]

/-- The kinds of value that can be attached to a buffer. -/
inductive PayloadKind
  | word32
  | word64
deriving DecidableEq

/-- A value attached to a buffer, of one kind. -/
structure Payload where
  kind : PayloadKind
  value : UInt64
deriving DecidableEq

/-- A buffer shared between producer and consumer. -/
structure HardwareBuffer where
  id : BufferId
  desc : BufferDesc
  payload : Option Payload := none
deriving DecidableEq

namespace HardwareBuffer

/-- Two buffers are the same when their identities are, whatever else differs. -/
def same (a b : HardwareBuffer) : Bool := a.id = b.id

/-- The attached value, if it is of the kind asked for. -/
def native (b : HardwareBuffer) (kind : PayloadKind) : Option UInt64 :=
  (b.payload.filter (·.kind = kind)).map Payload.value

def describe (b : HardwareBuffer) : String :=
  Text.record "HardwareBuffer" [("id", b.id.describe), ("desc", b.desc.describe),
    ("native", Text.flag b.payload.isSome)]

end HardwareBuffer

-- ==================================================== frames

/-- One frame taken from a producer's queue. -/
structure Frame where
  slot : SlotId
  buffer : HardwareBuffer
  dataspace : Dataspace
  transform : TextureTransform
  crop : Rect
  forceRecreate : Bool
deriving DecidableEq

namespace Frame

/-- A frame that shows the whole buffer as it is. -/
def ofBuffer (slot : SlotId) (buffer : HardwareBuffer) (dataspace : Dataspace) : Frame where
  slot := slot
  buffer := buffer
  dataspace := dataspace
  transform := .identity
  crop := .ofSize buffer.desc.width buffer.desc.height
  forceRecreate := false

/-- Width and height as they are shown, after the transform. -/
def shownSize (f : Frame) : UInt32 × UInt32 :=
  if f.transform.swapsAxes then (f.buffer.desc.height, f.buffer.desc.width)
  else (f.buffer.desc.width, f.buffer.desc.height)

def describe (f : Frame) : String :=
  Text.record "DequeuedBuffer" [("slot", f.slot.describe), ("buffer", f.buffer.describe),
    ("dataspace", f.dataspace.describe), ("texture_transform", f.transform.describe),
    ("crop", f.crop.describe), ("force_recreate", Text.flag f.forceRecreate)]

end Frame

end LayerFeed
