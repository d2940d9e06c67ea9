/-
The history of a session, oldest first: every call to a backend or a source,
every event with the sink it went to, every diagnostic and every notification,
and what updaters did with posts, frames and images.
-/
import LayerFeed.Error
import LayerFeed.Trace.Sink

namespace LayerFeed

/-- Number of a graphics context. -/
abbrev ContextId := Nat

/-- Number of a texture: 1 for the first import of a session, and so on. -/
abbrev TextureId := Nat

/-- Number of a source. -/
abbrev SourceId := Nat

/-- Number of an updater. -/
abbrev UpdaterId := Nat

/-- Number of a scripted observer. -/
abbrev ObserverId := Nat

/-- A call to a backend, with what it answered. -/
inductive BackendCall
  | imported (texture : TextureId) (buffer : HardwareBuffer) (dataspace : Dataspace)
  | importFailed (buffer : BufferId)
  | deleted (texture : TextureId)
  | abandoned (texture : TextureId)
  | queueReleased (texture : TextureId)
  | nativeFence (fd : Option FenceFd)
  | syncFence (object : Option UInt64)
  | waited (fd : FenceFd)
  | askedDisplay
  | askedNativeFences
deriving DecidableEq

namespace BackendCall

/-- The texture whose hold on the backend a call changes. -/
def ended? : BackendCall → Option TextureId
  | deleted t | abandoned t | queueReleased t => some t
  | _ => none

end BackendCall

/-- What a fence callback answered. -/
inductive CallbackResult
  | fence (fence : ReleaseFence)
  | waited (error : Option GpuError)
  | done
deriving DecidableEq

/-- A call to a source, after it was installed in its updater. -/
inductive SourceCall
  | installed
  | taken
  | dequeueBegun
  | dequeued (results : List CallbackResult)
  | released
  | dropped
deriving DecidableEq

/-- What a scripted observer does when it is notified. -/
inductive ObserverAction
  | count
  | destroy
  | register (name : String)
  | letGo (name : String)
deriving DecidableEq

/-- The written form of an action. -/
def ObserverAction.text : ObserverAction → String
  | count => "count"
  | destroy => "destroy"
  | register name => "register:" ++ name
  | letGo name => "drop:" ++ name

/-- A remark of the library on what it did. -/
inductive Diagnostic
  | importFailed (buffer : BufferId) (error : GpuError)
  | fenceUnavailable (error : GpuError)
  | waitFailed (fd : FenceFd) (error : GpuError)
  | contextDestroyed (context : ContextId) (observers : Nat)
  | staleSlotsDropped (count : Nat)
  | sourceDetached (activeSlot : Option SlotId)
  | tornDown (mode : TeardownMode) (releasedTextures : Nat)
  | applyIgnored
deriving DecidableEq

namespace Diagnostic

def level : Diagnostic → String
  | importFailed _ _ | fenceUnavailable _ | waitFailed _ _ => "WARN"
  | contextDestroyed _ _ | staleSlotsDropped _ | sourceDetached _ | tornDown _ _
  | applyIgnored => "DEBUG"

def message : Diagnostic → String
  | importFailed _ _ => "texture import failed, skipping frame"
  | fenceUnavailable _ => "release fence unavailable, producer will block"
  | waitFailed _ _ => "fence wait failed"
  | contextDestroyed _ _ => "GPU context destroyed"
  | staleSlotsDropped _ => "dropped slots of the replaced producer"
  | sourceDetached _ => "producer source detached"
  | tornDown _ _ => "layer updater torn down"
  | applyIgnored => "apply on a destroyed layer updater ignored"

/-- The values a remark carries, each with its name. -/
def fields : Diagnostic → List (String × String)
  | importFailed buffer error => [("buffer", buffer.describe), ("err", error.message)]
  | fenceUnavailable error => [("err", error.message)]
  | waitFailed fd error => [("fence", fd.describe), ("err", error.message)]
  | contextDestroyed _ observers => [("observers", toString observers)]
  | staleSlotsDropped count => [("stale", toString count)]
  | sourceDetached activeSlot => [("active_slot", Text.option SlotId.describe activeSlot)]
  | tornDown mode releasedTextures =>
    [("mode", mode.name), ("released_textures", toString releasedTextures)]
  | applyIgnored => []

end Diagnostic

/-- A source as it is known to the updater that owns it: its number, and its name
in the history. -/
structure SourceRef where
  id : SourceId
  name : String
  owner : UpdaterId
deriving DecidableEq

/-- What a frame's slot was resolved to; the image is a holder of its texture. -/
inductive Resolved
  | cached (image : TextureId)
  | created (image : TextureId)
  | unavailable
deriving DecidableEq

namespace Resolved

/-- The image, if there is one. -/
def image? : Resolved → Option TextureId
  | cached t | created t => some t
  | unavailable => none

def outcome : Resolved → SlotOutcome
  | cached _ => .cached
  | created _ => .created
  | unavailable => .unavailable

end Resolved

/-- Whoever can be registered with a render state. -/
inductive Participant
  | updater (id : UpdaterId)
  | observer (id : ObserverId)
deriving DecidableEq

/-- One entry of the history. -/
inductive Entry
  | backend (context : ContextId) (call : BackendCall)
  | source (source : SourceRef) (call : SourceCall)
  /-- An updater has news for its sink. -/
  | event (updater : UpdaterId) (sink : Sink) (event : Event)
  | note (diagnostic : Diagnostic)
  /-- Someone posts to the mailbox of an updater. -/
  | posted (updater : UpdaterId)
  /-- An updater takes over a frame, its slot resolved. -/
  | latched (updater : UpdaterId) (frame : Frame) (resolved : Resolved)
  /-- An image is bound to the layer of an updater. -/
  | bound (updater : UpdaterId) (forceFilter : Bool) (transform : TextureTransform) (crop : Rect)
      (image : TextureId)
  /-- A participant is told that the context of its render state is destroyed. -/
  | told (context : ContextId) (participant : Participant)
  /-- A scripted observer was told, so many times by now. -/
  | notified (observer : String) (times : Nat) (contextAlive : Bool)
  | acted (observer : String) (action : ObserverAction) (result : Option Nat)
  /-- A source destroyed a context, with so many participants told. -/
  | destroyed (observers : Nat)
  /-- A recorder was emptied. -/
  | cleared (recorder : RecorderId)
deriving DecidableEq

end LayerFeed
