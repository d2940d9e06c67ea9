/-
What all objects of a session share: the graphics contexts and their backends,
the textures that were imported, the numbers of the fences made so far, the
history, and what recorders and texts hold.
-/
import LayerFeed.Backend
import LayerFeed.History
import LayerFeed.Trace.Sink

namespace LayerFeed

/-- A graphics context over a backend. Once it is lost it stays lost. -/
structure Context where
  backend : Backend
  alive : Bool := true
deriving DecidableEq

/-- A texture. Its record stays when nobody holds it any more. -/
structure Texture where
  context : ContextId
  pipeline : Pipeline
  buffer : HardwareBuffer
  dataspace : Dataspace
  /-- Whether the buffer is still kept from the producer's queue. -/
  queueHeld : Bool
  /-- The mode its handle was released under, if it was released. -/
  released : Option TeardownMode := none
  /-- How many handles and images hold it. -/
  holders : Nat := 1
deriving DecidableEq

/-- Whether the handle was released under a lost context, after which the texture is
never deleted. -/
def Texture.condemned (x : Texture) : Bool := x.released = some .contextLost

/-- The state that objects share. -/
structure World where
  contexts : Table ContextId Context := ∅
  textures : Table TextureId Texture := ∅
  /-- How many textures were imported, which is the number of the last one. -/
  imported : Nat := 0
  nativeFences : Nat := 0
  syncFences : Nat := 0
  history : List Entry := []
  traces : Traces := default
deriving DecidableEq

/-- What an operation leaves: the world, the object it was run on, and an answer. -/
structure After (α β : Type) where
  world : World
  object : α
  answer : β

namespace World

instance : Inhabited World := ⟨{}⟩

-- ==================================================== history

/-- Adds an entry to the history. -/
def record (w : World) (e : Entry) : World := { w with history := w.history ++ [e] }

/-- Adds a call to the backend of context `c`. -/
def call (w : World) (c : ContextId) (call : BackendCall) : World := w.record (.backend c call)

/-- Adds a remark. -/
def note (w : World) (d : Diagnostic) : World := w.record (.note d)

/-- Hands an event of an updater to its sink. -/
def trace (w : World) (updater : UpdaterId) (sink : Sink) (e : Event) : World :=
  { w.record (.event updater sink e) with traces := w.traces.emit sink e }

/-- Empties a recorder. -/
def clearRecorder (w : World) (id : RecorderId) : World :=
  { w.record (.cleared id) with traces := w.traces.clearRecorder id }

-- ==================================================== contexts

/-- Whether a context is alive. -/
def alive (w : World) (c : ContextId) : Bool := ((w.contexts.get? c).map Context.alive).getD false

/-- The backend of a context. -/
def backend (w : World) (c : ContextId) : Backend :=
  ((w.contexts.get? c).map Context.backend).getD default

/-- Sets up context `c` over a backend. -/
def openContext (w : World) (c : ContextId) (b : Backend) : World :=
  { w with contexts := w.contexts.set c { backend := b } }

/-- Changes answers of the backend of a context. -/
def adjustBackend (w : World) (c : ContextId) (settings : List BackendSetting) : World :=
  { w with contexts := w.contexts.modify c fun x =>
      { x with backend := x.backend.adjustAll settings } }

/-- Marks a context as lost, with a remark on how many participants will be told. -/
def loseContext (w : World) (c : ContextId) (observers : Nat) : World :=
  { w with contexts := w.contexts.modify c fun x => { x with alive := false } }.note
    (.contextDestroyed c observers)

/-- A context shows only whether it is alive. -/
def describeContext (w : World) (c : ContextId) : String :=
  Text.openRecord "GpuContext" [("alive", Text.flag (w.alive c))]

end World

end LayerFeed
