/-
Running commands. `exec` gives each command its meaning in terms of the
operations on the objects it names; `run` is a whole session.
-/
import LayerFeed.Session.Apply
import LayerFeed.Session.Command
import LayerFeed.Trace.Timeline

namespace LayerFeed.Session

-- ==================================================== contexts and observers

/-- Makes a scripted observer, and registers it if asked to. -/
def newObserver (s : Session) (name state : String) (actions : List ObserverAction)
    (registered : Bool) : Session :=
  match s.state? state with
  | none => s
  | some c =>
    let id := s.fresh
    let o : Observer := { name, context := c, actions }
    let s := { s with fresh := id + 1, observers := s.observers.set id { value := o } }
    let s := if registered then s.register c (.observer id) else s
    s.nameObserver name id

/-- The observer of the given name, or else the updater of that name. -/
def participant? (s : Session) (name : String) : Option Participant :=
  ((s.observerNames.get? name).map .observer).or ((s.updaterNames.get? name).map .updater)

/-- Registers a named observer or updater with a render state once more. -/
def registerNamed (s : Session) (name state : String) : Session :=
  match s.participant? name, s.state? state with
  | some p, some c => s.register c p
  | _, _ => s

-- ==================================================== sinks

/-- The recorder of the given name, made if there is none. -/
def recorder (s : Session) (name : String) : Session × RecorderId :=
  match s.recorderNames.get? name with
  | some id => (s, id)
  | none =>
    let id := s.freshRecorder
    ({ s with
      freshRecorder := id + 1
      recorderNames := s.recorderNames.set name id
      world.traces := s.world.traces.openRecorder id }, id)

/-- Makes an empty recorder of the given name. -/
def newRecorder (s : Session) (name : String) : Session :=
  ({ s with recorderNames := s.recorderNames.erase name }.recorder name).1

/-- The sink asked for, for an updater of the given name; `none` leaves the sink
that is there. -/
def chooseSink (s : Session) (updater : String) : SinkChoice → Session × Option Sink
  | .unchanged => (s, none)
  | .discard => (s, some .discard)
  | .standardError => (s, some .standardError)
  | .history => (s, some (.history updater))
  | .recorder name =>
    let found := s.recorder name
    (found.1, some (.recorder found.2))
  | .text name limit =>
    ({ s with world.traces := s.world.traces.openText name limit }, some (.text name))

-- ==================================================== updaters

/-- The context of a new updater's home. -/
def homeContext? (s : Session) : Home → Option ContextId
  | .registered state | .unregistered state => s.state? state
  | .context name => s.context? name

/-- Makes an updater, registers it if its home is a render state, and gives it a
sink and a name. -/
def newUpdater (s : Session) (name : String) (config : Config) (home : Home)
    (sink : SinkChoice) : Session × Reply :=
  match s.homeContext? home with
  | none => (s, .nothing)
  | some c =>
    let id := s.fresh
    let chosen := { s with fresh := id + 1 }.chooseSink name sink
    let s := chosen.1
    let u := (Updater.new id c config).setSink (chosen.2.getD .none)
    let s := { s with updaters := s.updaters.set id { value := u } }
    let s := match home with
      | .registered _ => s.register c (.updater id)
      | .unregistered _ | .context _ => s
    (s.nameUpdater name id, .config config.pipeline config.filterOnSizeMismatch)

/-- Runs an operation on the updater of the given name and the world. -/
def onNamed (s : Session) (name : String) (f : Updater → World → World × Updater) : Session :=
  match s.updaterNames.get? name with
  | some id => s.onUpdater id f
  | none => s

/-- Runs an operation on the updater of the given name alone. -/
def onNamedAlone (s : Session) (name : String) (f : Updater → Updater) : Session :=
  s.onNamed name fun u w => (w, f u)

/-- What an operation on the updater of the given name answers. -/
def ask (s : Session) (name : String) (f : Updater → Reply) : Reply :=
  ((s.updater? name).map f).getD .nothing

/-- Installs a new source. -/
def attach (s : Session) (updater name : String) (source : Source) (state : Option String) :
    Session :=
  match s.updaterNames.get? updater with
  | none => s
  | some id =>
    let ref : SourceRef := ⟨s.fresh, name, id⟩
    let source := { source with context := state.bind s.state? }
    let s := { s with
      fresh := s.fresh + 1
      sources := s.sources.set ref.id source
      sourceNames := s.sourceNames.set name ref.id }
    s.onUpdater id fun u w => u.attach w ref

/-- Changes the source of the given name. -/
def onSource (s : Session) (name : String) (f : Source → Source) : Session :=
  match s.sourceNames.get? name with
  | some id => { s with sources := s.sources.modify id f }
  | none => s

/-- The source of the given name. -/
def source? (s : Session) (name : String) : Option Source :=
  (s.sourceNames.get? name).bind s.sources.get?

/-- Posts to the mailbox of a notifier, if that is there still. -/
def post (s : Session) : Notifier → Session
  | .updater id => s.onUpdater id fun u w => u.post w
  | .mailbox id => { s with mailboxes := s.mailboxes.modify id Mailbox.raise }

/-- Binds a copy of a named image to the layer of an updater. -/
def bind (s : Session) (updater : String) (forceFilter : Bool) (transform : TextureTransform)
    (crop : Rect) (image : String) : Session :=
  match s.updaterNames.get? updater, s.images.get? image with
  | some id, some t =>
    if s.updaters.contains id then
      (s.onWorld (·.share t)).onUpdater id fun u w => u.bind w forceFilter transform crop t
    else s
  | _, _ => s

/-- Keeps a copy of the image that the layer of an updater shows. -/
def keepLayerImage (s : Session) (updater image : String) : Session × Reply :=
  match s.updater? updater with
  | none => (s, .nothing)
  | some u =>
    match u.layer.bind Layer.image with
    | some t => ((s.onWorld (·.share t)).keepImage image t, .flag true)
    | none => (s, .flag false)

-- ==================================================== images and handles

/-- Keeps a copy of an image or of a handle's image. -/
def copyImage (s : Session) (t : Option TextureId) (copy : String) : Session :=
  match t with
  | some t => (s.onWorld (·.share t)).keepImage copy t
  | none => s

/-- Imports a texture and keeps its handle. -/
def importTexture (s : Session) (name context : String) (pipeline : Pipeline)
    (buffer : HardwareBuffer) (dataspace : Dataspace) : Session × Reply :=
  match s.context? context with
  | none => (s, .nothing)
  | some c =>
    let imported := s.world.importTexture c pipeline buffer dataspace
    let s := { s with world := imported.1 }
    match imported.2 with
    | .ok t => (s.keepHandle name t, .handle ((s.keepHandle name t).world.handleView? t))
    | .error e => (s, .failed e)

/-- Releases a handle, which is gone then. -/
def releaseHandle (s : Session) (name : String) (mode : TeardownMode) : Session × Reply :=
  match s.handles.get? name with
  | none => (s, .nothing)
  | some t =>
    let released := s.world.release t mode
    ({ s with world := released.1, handles := s.handles.erase name }, .release (some released.2))

-- ==================================================== slots and caches

/-- Finds or imports the texture of a frame in a slot that stands alone. -/
def resolveSlot (s : Session) (name context : String) (frame : Frame) (image : Option String) :
    Session × Reply :=
  match s.slots.get? name, s.context? context with
  | some slot, some c =>
    let after := slot.resolve s.world c frame.buffer frame.dataspace frame.forceRecreate
    let resolved := after.answer
    let view := resolved.image?.bind after.world.imageView?
    let s := { s with world := after.world, slots := s.slots.set name after.object }
    let s := s.keepOrDropImage image resolved.image?
    (s, .resolved resolved.outcome view (resolved.describe after.world)
      (after.object.view s.world) none)
  | _, _ => (s, .nothing)

/-- Finds or imports the texture of a frame in a cache. -/
def resolveCached (s : Session) (name context : String) (frame : Frame) (image : Option String) :
    Session × Reply :=
  match s.caches.get? name, s.context? context with
  | some cache, some c =>
    let after :=
      cache.resolve s.world c frame.slot frame.buffer frame.dataspace frame.forceRecreate
    let resolved := after.answer
    let view := resolved.image?.bind after.world.imageView?
    let s := { s with world := after.world, caches := s.caches.set name after.object }
    let s := s.keepOrDropImage image resolved.image?
    let slot := (after.object.get? frame.slot).getD (.empty cache.pipeline)
    (s, .resolved resolved.outcome view (resolved.describe after.world) (slot.view s.world)
      (some after.object.view))
  | _, _ => (s, .nothing)

/-- Clears a slot that stands alone. -/
def clearSlot (s : Session) (name : String) (mode : TeardownMode) : Session × Reply :=
  match s.slots.get? name with
  | some slot =>
    let cleared := slot.clear s.world mode
    ({ s with world := cleared.world, slots := s.slots.set name cleared.object },
      .slotCleared cleared.answer (cleared.object.view cleared.world))
  | none => (s, .nothing)

/-- Clears one entry of a cache. -/
def clearCached (s : Session) (name : String) (slot : SlotId) (mode : TeardownMode) :
    Session × Reply :=
  match s.caches.get? name with
  | some cache =>
    let cleared := cache.clear s.world slot mode
    ({ s with world := cleared.world, caches := s.caches.set name cleared.object },
      .entryCleared cleared.answer cleared.object.view)
  | none => (s, .nothing)

/-- Clears a whole cache. -/
def clearCache (s : Session) (name : String) (mode : TeardownMode) : Session × Reply :=
  match s.caches.get? name with
  | some cache =>
    let cleared := cache.clearAll s.world mode
    ({ s with world := cleared.world, caches := s.caches.set name cleared.object },
      .cacheCleared cleared.answer cleared.object.view)
  | none => (s, .nothing)

/-- An operation on the world that answers yes or no, for an object that may be
there. -/
def askWorld {α : Type} (s : Session) (x : Option α) (f : α → World → World × Bool) :
    Session × Reply :=
  match x with
  | some x =>
    let after := f x s.world
    ({ s with world := after.1 }, .flag after.2)
  | none => (s, .nothing)

-- ==================================================== fences

/-- Makes a release fence. -/
def makeFence (s : Session) (context : String) (pipeline : Pipeline) (useSync : Bool) :
    Session × Reply :=
  match s.context? context with
  | some c =>
    let gate : FenceGate := ⟨c, pipeline⟩
    let made := gate.createFence s.world useSync
    ({ s with world := made.1 }, .fence made.2 made.2.describe (gate.describe made.1))
  | none => (s, .nothing)

/-- Waits for an acquire fence. -/
def waitFence (s : Session) (context : String) (pipeline : Pipeline) (fd : FenceFd) :
    Session × Reply :=
  match s.context? context with
  | some c =>
    let waited := (⟨c, pipeline⟩ : FenceGate).wait s.world fd
    ({ s with world := waited.1 }, .waited waited.2)
  | none => (s, .nothing)

/-- The slot that a caller names as the previous one. -/
def previous? (s : Session) : Previous → Option Slot
  | .none => none
  | .slot name => s.slots.get? name
  | .cached cache slot => (s.caches.get? cache).bind (·.get? slot)

/-- Runs callbacks outside any dequeue. They belong to no updater and no source. -/
def dequeueFences (s : Session) (context : String) (pipeline : Pipeline) (previous : Previous)
    (calls : List ScriptItem) : Session × Reply :=
  match s.context? context with
  | some c =>
    let fences : DequeueFences := { gate := ⟨c, pipeline⟩, previous := s.previous? previous }
    let ran := s.runScript none none fences calls
    (ran.session, .callbacks fences.issued ran.answer ran.fences.issued
      (ran.fences.describe ran.session.world))
  | none => (s, .nothing)

-- ==================================================== mailboxes

/-- Makes a mailbox. -/
def newMailbox (s : Session) (name : String) : Session :=
  { s with
    fresh := s.fresh + 1
    mailboxes := s.mailboxes.set s.fresh default
    mailboxNames := s.mailboxNames.set name s.fresh }

/-- The mailbox of the given name. -/
def mailbox? (s : Session) (name : String) : Option Mailbox :=
  (s.mailboxNames.get? name).bind s.mailboxes.get?

/-- Empties a mailbox and answers whether a post was in it. -/
def takeMailbox (s : Session) (name : String) : Session × Reply :=
  match s.mailboxNames.get? name, s.mailbox? name with
  | some id, some m =>
    ({ s with mailboxes := s.mailboxes.set id m.take }, .flag m.pending)
  | _, _ => (s, .nothing)

-- ==================================================== recorders

/-- The events of a recorder with evenly spaced times, the first at zero. -/
def stampedRecords (events : List Event) (stepNanos : Nat) : List Trace.Record :=
  events.zipIdx.map fun (e, i) => .atNanos (i * stepNanos) e

/-- The recorder of the given name. -/
def recorder? (s : Session) (name : String) : Option (List Event) :=
  (s.recorderNames.get? name).map s.world.traces.records

-- ==================================================== descriptions

/-- The text shown instead of slots whose order has no meaning. -/
def unordered : String := "unordered"

/-- An object described, if it is there. -/
def describe (s : Session) : Described → Option String
  | .state name => (s.state? name).map fun c =>
      Text.record "RenderState" [("context", s.world.describeContext c),
        ("observers", toString (s.observerCount c))]
  | .context name => (s.context? name).map s.world.describeContext
  | .updater name => (s.updater? name).map fun u =>
      if u.cache.size > 1 then unordered else u.describe s.world
  | .layer updater => (s.updater? updater).bind fun u => u.layer.map (·.describe s.world)
  | .cache name => (s.caches.get? name).map fun c =>
      if c.size > 1 then unordered else c.describe s.world
  | .slot name => (s.slots.get? name).map (·.describe s.world)
  | .handle name => (s.handles.get? name).map s.world.describeHandle
  | .image name => (s.images.get? name).map s.world.describeImage
  | .mailbox name => (s.mailbox? name).map Mailbox.describe
  | .notifier name => (s.notifiers.get? name).map fun _ => Mailbox.notifierDescription

-- ==================================================== commands

/-- Runs one command. -/
def exec (s : Session) : Command → Session × Reply
  | .newState name backend => (s.addState name backend, .nothing)
  | .newContext name backend => (s.addContext name backend, .nothing)
  | .adjustBackend context settings =>
    match s.context? context with
    | some c => (s.onWorld (·.adjustBackend c settings), .nothing)
    | none => (s, .nothing)
  | .isAlive context => (s, ((s.context? context).map fun c => .flag (s.world.alive c)).getD .nothing)
  | .destroy state =>
    match s.state? state with
    | some c =>
      let destroyed := s.destroyContext none c
      (destroyed.1, .count destroyed.2)
    | none => (s, .nothing)
  | .observerCount state =>
    (s, ((s.state? state).map fun c => .count (s.observerCount c)).getD .nothing)
  | .newObserver name state actions registered =>
    (s.newObserver name state actions registered, .nothing)
  | .register name state => (s.registerNamed name state, .nothing)
  | .notifiedCount observer =>
    let held := (s.observerNames.get? observer).bind s.observers.get?
    (s, (held.map fun h => .count h.value.notified).getD .nothing)
  | .breakLock name => (s, .flag (s.observerNames.contains name))
  | .dropObserver name => (s.dropObserver name, .flag (s.observerNames.contains name))
  | .newUpdater name config home sink => s.newUpdater name config home sink
  | .setSink updater sink =>
    let chosen := s.chooseSink updater sink
    match chosen.2 with
    | some sink => (chosen.1.onNamedAlone updater (·.setSink sink), .nothing)
    | none => (chosen.1, .nothing)
  | .setSize updater width height =>
    (s.onNamedAlone updater fun u => (u.setSize width height).1,
      s.ask updater fun u => .flag (u.setSize width height).2)
  | .setBlend updater blend =>
    (s.onNamedAlone updater fun u => (u.setBlend blend).1,
      s.ask updater fun u => .flag (u.setBlend blend).2)
  | .setTransform updater transform => (s.onNamedAlone updater (·.setTransform transform), .nothing)
  | .setPaint updater paint => (s.onNamedAlone updater (·.setPaint paint), .nothing)
  | .attach updater name source state => (s.attach updater name source state, .nothing)
  | .push source frames =>
    let s := s.onSource source fun q => { q with frames := q.frames ++ frames }
    (s, ((s.source? source).map fun q => .count q.frames.length).getD .nothing)
  | .setScript source script => (s.onSource source fun q => { q with script }, .nothing)
  | .post updater => (s.onNamed updater fun u w => u.post w, .nothing)
  | .newNotifier updater notifier =>
    match s.updaterNames.get? updater with
    | some id =>
      ({ s with notifiers := s.notifiers.set notifier (.updater id) },
        .text (some Mailbox.notifierDescription))
    | none => (s, .nothing)
  | .notify notifier =>
    match s.notifiers.get? notifier with
    | some n => (s.post n, .nothing)
    | none => (s, .nothing)
  | .apply updater =>
    match s.updaterNames.get? updater with
    | some id => (s.apply id, .nothing)
    | none => (s, .nothing)
  | .bind updater forceFilter transform crop image =>
    (s.bind updater forceFilter transform crop image, .nothing)
  | .detach updater => (s.onNamed updater fun u w => u.detach w, .nothing)
  | .teardown updater mode => (s.onNamed updater fun u w => u.teardown w mode, .nothing)
  | .contextDestroyed updater =>
    (s.onNamed updater fun u w => u.teardown w .contextLost, .nothing)
  | .dropUpdater name => (s.dropUpdater name, .flag (s.updaterNames.contains name))
  | .updaterContextAlive updater => (s, s.ask updater fun u => .flag (s.world.alive u.context))
  | .keepLayerImage updater image => s.keepLayerImage updater image
  | .look => (s, .nothing)
  | .imageInfo name => (s, .image ((s.images.get? name).bind s.world.imageView?))
  | .cloneImage name copy => (s.copyImage (s.images.get? name) copy, .nothing)
  | .sameTexture name other =>
    match s.images.get? name, s.images.get? other with
    | some a, some b => (s, .flag (a = b))
    | _, _ => (s, .nothing)
  | .dropImage name => (s.dropImage name, .flag (s.images.contains name))
  | .importTexture name context pipeline buffer dataspace =>
    s.importTexture name context pipeline buffer dataspace
  | .handleInfo name => (s, .handle ((s.handles.get? name).bind s.world.handleView?))
  | .handleImage name image =>
    let t := s.handles.get? name
    let s := s.copyImage t image
    (s, .image (t.bind s.world.imageView?))
  | .releaseHandleQueue name => s.askWorld (s.handles.get? name) fun t w => w.releaseQueue t
  | .releaseHandle name mode => s.releaseHandle name mode
  | .dropHandle name => (s.dropHandle name, .flag (s.handles.contains name))
  | .newSlot name pipeline =>
    let slot := Slot.empty pipeline
    let s := s.keepSlot name slot
    (s, .slot (some (slot.view s.world)))
  | .resolveSlot name context frame image => s.resolveSlot name context frame image
  | .releaseSlotQueue name => s.askWorld (s.slots.get? name) Slot.releaseQueue
  | .clearSlot name mode => s.clearSlot name mode
  | .slotInfo name => (s, .slot ((s.slots.get? name).map (·.view s.world)))
  | .dropSlot name => (s.dropSlot name, .flag (s.slots.contains name))
  | .newCache name pipeline =>
    let cache := SlotCache.empty pipeline
    (s.keepCache name cache, .cache cache.view)
  | .resolveCached name context frame image => s.resolveCached name context frame image
  | .cacheEntry name slot =>
    (s, .slot (((s.caches.get? name).bind (·.get? slot)).map (·.view s.world)))
  | .releaseCachedQueue name slot =>
    s.askWorld (s.caches.get? name) fun cache w => cache.releaseQueue w slot
  | .clearCached name slot mode => s.clearCached name slot mode
  | .clearCache name mode => s.clearCache name mode
  | .cacheInfo name => (s, ((s.caches.get? name).map fun c => .cache c.view).getD .nothing)
  | .dropCache name => (s.dropCache name, .flag (s.caches.contains name))
  | .makeFence context pipeline useSync => s.makeFence context pipeline useSync
  | .waitFence context pipeline fd => s.waitFence context pipeline fd
  | .dequeueFences context pipeline previous calls =>
    s.dequeueFences context pipeline previous calls
  | .newMailbox name => (s.newMailbox name, .nothing)
  | .newMailboxNotifier mailbox notifier =>
    match s.mailboxNames.get? mailbox with
    | some id => ({ s with notifiers := s.notifiers.set notifier (.mailbox id) }, .nothing)
    | none => (s, .nothing)
  | .raiseMailbox name =>
    match s.mailboxNames.get? name with
    | some id => (s.post (.mailbox id), .nothing)
    | none => (s, .nothing)
  | .takeMailbox name => s.takeMailbox name
  | .mailboxPending name => (s, ((s.mailbox? name).map fun m => .flag m.pending).getD .nothing)
  | .dropMailbox name =>
    ({ s with mailboxNames := s.mailboxNames.erase name }, .flag (s.mailboxNames.contains name))
  | .dropNotifier name =>
    ({ s with notifiers := s.notifiers.erase name }, .flag (s.notifiers.contains name))
  | .newRecorder name => (s.newRecorder name, .nothing)
  | .cloneRecorder name copy =>
    match s.recorderNames.get? name with
    | some id => ({ s with recorderNames := s.recorderNames.set copy id }, .nothing)
    | none => (s, .nothing)
  | .records name => (s, ((s.recorder? name).map .records).getD .nothing)
  | .clearRecorder name =>
    match s.recorderNames.get? name with
    | some id => (s.onWorld (·.clearRecorder id), .nothing)
    | none => (s, .nothing)
  | .exportRecords name stepNanos limit =>
    (s, ((s.recorder? name).map fun events =>
      .exported (Text.write limit (Trace.timeline (stampedRecords events stepNanos)))).getD .nothing)
  | .text name => (s, .text ((s.world.traces.texts.get? name).map (·.text)))
  | .describe object => (s, .text (s.describe object))

/-- Runs commands one after the other. -/
def run (s : Session) (commands : List Command) : Session :=
  commands.foldl (fun s c => (s.exec c).1) s

end LayerFeed.Session
