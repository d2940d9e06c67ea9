/-
Making release fences and waiting for acquire fences. Making a fence never
fails a frame: when the backend cannot make one, the answer is the fence without
a signal. A lost context is never called.
-/
import LayerFeed.Slot

namespace LayerFeed

/-- Fences of one context, made as a pipeline wants them. -/
structure FenceGate where
  context : ContextId
  pipeline : Pipeline
deriving DecidableEq

namespace FenceGate

/-- The number of the first native fence of a session. -/
def firstFd : Nat := 101

/-- Asks the backend for a native fence. -/
def makeNative (g : FenceGate) (w : World) (display : Option DisplayId) : World × ReleaseFence :=
  match (w.backend g.context).nativeError with
  | some e => ((w.call g.context (.nativeFence none)).note (.fenceUnavailable e), .none)
  | none =>
    let fd : FenceFd := ⟨(firstFd + w.nativeFences : Int).toInt32⟩
    ({ w with nativeFences := w.nativeFences + 1 }.call g.context (.nativeFence (some fd)),
      ⟨display, .native fd⟩)

/-- Asks the backend for a sync object. -/
def makeSync (g : FenceGate) (w : World) (display : Option DisplayId) : World × ReleaseFence :=
  match (w.backend g.context).syncFault with
  | some e => ((w.call g.context (.syncFence none)).note (.fenceUnavailable e), .none)
  | none =>
    let object : UInt64 := (w.syncFences + 1).toUInt64
    ({ w with syncFences := w.syncFences + 1 }.call g.context (.syncFence (some object)),
      ⟨display, .sync object⟩)

/-- A fence over all work given to the context so far. Vulkan always asks for a
native fence. GL asks for one where the backend supports it; elsewhere it asks
for a sync object, if `useSync` allows that. -/
def createFence (g : FenceGate) (w : World) (useSync : Bool) : World × ReleaseFence :=
  if w.alive g.context then
    match g.pipeline with
    | .vulkan => g.makeNative w none
    | .gl =>
      let backend := w.backend g.context
      let w := (w.call g.context .askedDisplay).call g.context .askedNativeFences
      if backend.nativeFences then g.makeNative w backend.shownDisplay
      else if useSync then g.makeSync w backend.shownDisplay
      else (w, .none)
  else (w, .none)

/-- Waits for a fence; answers what went wrong, if anything did. -/
def wait (g : FenceGate) (w : World) (fd : FenceFd) : World × Option GpuError :=
  if w.alive g.context then
    let waited := w.call g.context (.waited fd)
    match (w.backend g.context).waitError with
    | some e => (waited.note (.waitFailed fd e), some e)
    | none => (waited, none)
  else (w, some .contextLost)

def describe (g : FenceGate) (w : World) : String :=
  Text.record "FenceGate" [("pipeline", g.pipeline.name),
    ("context", w.describeContext g.context)]

end FenceGate

/-- The fence callbacks of one dequeue. -/
structure DequeueFences where
  gate : FenceGate
  /-- The slot whose frame was shown before. -/
  previous : Option Slot
  /-- The class of the last release fence handed out. -/
  issued : Option FenceClass := none

namespace DequeueFences

/-- A release fence for the producer. On Vulkan the buffer of the previous slot
goes back to the producer's queue first. -/
def createFence (f : DequeueFences) (w : World) (useSync : Bool) :
    After DequeueFences ReleaseFence :=
  let w := match f.gate.pipeline, f.previous with
    | .vulkan, some slot => (slot.releaseQueue w).1
    | _, _ => w
  let made := f.gate.createFence w useSync
  ⟨made.1, { f with issued := some made.2.fenceClass }, made.2⟩

/-- Waits for a fence of the producer. -/
def wait (f : DequeueFences) (w : World) (fd : FenceFd) : World × Option GpuError :=
  f.gate.wait w fd

def describe (f : DequeueFences) (w : World) : String :=
  Text.record "DequeueFences" [("gate", f.gate.describe w),
    ("has_previous", Text.flag f.previous.isSome),
    ("issued", Text.option FenceClass.name f.issued)]

end DequeueFences

end LayerFeed
