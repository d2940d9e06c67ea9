/-
The commands of a session and their replies. A command that names an object
which does not exist changes nothing.
-/
import LayerFeed.Session.Basic
import LayerFeed.Session.View

namespace LayerFeed

/-- Where a new updater belongs. -/
inductive Home
  /-- The context of a render state, which will notify it. -/
  | registered (state : String)
  /-- The context of a render state, which will not notify it. -/
  | unregistered (state : String)
  /-- A context by its own name. -/
  | context (name : String)

/-- The sink a caller asks for. -/
inductive SinkChoice
  /-- Leaves the sink as it is. -/
  | unchanged
  | discard
  | standardError
  /-- The history, under the name of the updater. -/
  | history
  /-- A recorder, made if there is none of that name. -/
  | recorder (name : String)
  /-- A text; the limit holds if there is none of that name yet. -/
  | text (name : String) (limit : Option Nat)

/-- Which object to describe. -/
inductive Described
  | state (name : String)
  | context (name : String)
  | updater (name : String)
  | layer (updater : String)
  | cache (name : String)
  | slot (name : String)
  | handle (name : String)
  | image (name : String)
  | mailbox (name : String)
  | notifier (name : String)

/-- The slot whose frame was shown before a dequeue. -/
inductive Previous
  | none
  | slot (name : String)
  | cached (cache : String) (slot : SlotId)

/-- One command. -/
inductive Command
  -- contexts and observers
  | newState (name : String) (backend : Backend)
  | newContext (name : String) (backend : Backend)
  | adjustBackend (context : String) (settings : List BackendSetting)
  | isAlive (context : String)
  | destroy (state : String)
  | observerCount (state : String)
  | newObserver (name state : String) (actions : List ObserverAction) (registered : Bool)
  | register (name state : String)
  | notifiedCount (observer : String)
  /-- A thread dies while it holds the observer's lock; nothing else changes. -/
  | breakLock (observer : String)
  | dropObserver (name : String)
  -- updaters
  | newUpdater (name : String) (config : Config) (home : Home) (sink : SinkChoice)
  | setSink (updater : String) (sink : SinkChoice)
  | setSize (updater : String) (width height : UInt32)
  | setBlend (updater : String) (blend : Bool)
  | setTransform (updater : String) (transform : Option Affine)
  | setPaint (updater : String) (paint : Option Paint)
  | attach (updater name : String) (source : Source) (state : Option String)
  | push (source : String) (frames : List Frame)
  | setScript (source : String) (script : List ScriptItem)
  | post (updater : String)
  | newNotifier (updater notifier : String)
  | notify (notifier : String)
  | apply (updater : String)
  | bind (updater : String) (forceFilter : Bool) (transform : TextureTransform) (crop : Rect)
      (image : String)
  | detach (updater : String)
  | teardown (updater : String) (mode : TeardownMode)
  | contextDestroyed (updater : String)
  | dropUpdater (name : String)
  | updaterContextAlive (updater : String)
  | keepLayerImage (updater image : String)
  | look
  -- images and handles
  | imageInfo (name : String)
  | cloneImage (name copy : String)
  | sameTexture (name other : String)
  | dropImage (name : String)
  | importTexture (name context : String) (pipeline : Pipeline) (buffer : HardwareBuffer)
      (dataspace : Dataspace)
  | handleInfo (name : String)
  | handleImage (name image : String)
  | releaseHandleQueue (name : String)
  | releaseHandle (name : String) (mode : TeardownMode)
  | dropHandle (name : String)
  -- slots
  | newSlot (name : String) (pipeline : Pipeline)
  | resolveSlot (name context : String) (frame : Frame) (image : Option String)
  | releaseSlotQueue (name : String)
  | clearSlot (name : String) (mode : TeardownMode)
  | slotInfo (name : String)
  | dropSlot (name : String)
  -- caches
  | newCache (name : String) (pipeline : Pipeline)
  | resolveCached (name context : String) (frame : Frame) (image : Option String)
  | cacheEntry (name : String) (slot : SlotId)
  | releaseCachedQueue (name : String) (slot : SlotId)
  | clearCached (name : String) (slot : SlotId) (mode : TeardownMode)
  | clearCache (name : String) (mode : TeardownMode)
  | cacheInfo (name : String)
  | dropCache (name : String)
  -- fences
  | makeFence (context : String) (pipeline : Pipeline) (useSync : Bool)
  | waitFence (context : String) (pipeline : Pipeline) (fd : FenceFd)
  | dequeueFences (context : String) (pipeline : Pipeline) (previous : Previous)
      (calls : List ScriptItem)
  -- mailboxes
  | newMailbox (name : String)
  | newMailboxNotifier (mailbox notifier : String)
  | raiseMailbox (name : String)
  | takeMailbox (name : String)
  | mailboxPending (name : String)
  | dropMailbox (name : String)
  | dropNotifier (name : String)
  -- recorders and texts
  | newRecorder (name : String)
  | cloneRecorder (name copy : String)
  | records (name : String)
  | clearRecorder (name : String)
  | exportRecords (name : String) (stepNanos : Nat) (limit : Option Nat)
  | text (name : String)
  -- descriptions
  | describe (object : Described)

/-- What a command answers. -/
inductive Reply
  | nothing
  | flag (b : Bool)
  | count (n : Nat)
  | text (t : Option String)
  | config (pipeline : Pipeline) (filterOnSizeMismatch : Bool)
  | image (image : Option ImageView)
  | handle (handle : Option HandleView)
  | slot (slot : Option SlotView)
  | cache (cache : CacheView)
  | release (release : Option Release)
  | failed (error : GpuError)
  /-- How a frame's slot was resolved: the image, the result described, the slot
  after the image was kept or let go, and the cache if it is one of a cache. -/
  | resolved (outcome : SlotOutcome) (image : Option ImageView) (description : String)
      (slot : SlotView) (cache : Option CacheView)
  | slotCleared (release : Option Release) (slot : SlotView)
  | entryCleared (release : Option Release) (cache : CacheView)
  | cacheCleared (released : Nat) (cache : CacheView)
  | fence (fence : ReleaseFence) (description gate : String)
  | waited (error : Option GpuError)
  | callbacks (before : Option FenceClass) (results : List CallbackResult)
      (issued : Option FenceClass) (description : String)
  | records (events : List Event)
  | exported (written : Text.Written)

end LayerFeed
