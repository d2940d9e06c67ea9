/-
What a command changes. Many commands only ask. Every other one makes a change, and there are
fewer kinds of change than there are commands (`Command.change`): all that can be set on an
updater is one kind, an image is copied wherever it comes from, and all that is done with
mailboxes and notifiers is done with them alone.

A command leaves the session that its change leaves (`exec_change`). So whatever is to be known
of all commands is proved of all changes, and a command that makes a change of a known kind
needs no proof of its own.
-/
import LayerFeed.Session.Run

namespace LayerFeed

-- ==================================================== kinds of change

/-- What is set on an updater, beside its sink. -/
inductive Setting
  | size (width height : UInt32)
  | blend (blend : Bool)
  | transform (transform : Option Affine)
  | paint (paint : Option Paint)

/-- What an updater is made to do with the world. -/
inductive Treatment
  | post
  | detach
  | teardown (mode : TeardownMode)

/-- What is changed of a source from outside. -/
inductive SourceChange
  | push (frames : List Frame)
  | script (script : List ScriptItem)

/-- Where an image is copied from. -/
inductive Origin
  | image (name : String)
  | handle (name : String)
  | layer (updater : String)

/-- Where a handle is found: by its name, or in a slot. -/
inductive Keeper
  | handle (name : String)
  | slot (name : String)
  | entry (cache : String) (slot : SlotId)

/-- What is done with textures and fences: with images, handles, slots and caches that have names,
and with the gate of a context. -/
inductive TextureChange
  | copy (origin : Origin) (copy : String)
  | dropImage (name : String)
  | importTexture (name context : String) (pipeline : Pipeline) (buffer : HardwareBuffer)
      (dataspace : Dataspace)
  | releaseHandle (name : String) (mode : TeardownMode)
  | dropHandle (name : String)
  | newSlot (name : String) (pipeline : Pipeline)
  | resolveSlot (name context : String) (frame : Frame) (image : Option String)
  | clearSlot (name : String) (mode : TeardownMode)
  | dropSlot (name : String)
  | newCache (name : String) (pipeline : Pipeline)
  | resolveCached (name context : String) (frame : Frame) (image : Option String)
  | clearCached (name : String) (slot : SlotId) (mode : TeardownMode)
  | clearCache (name : String) (mode : TeardownMode)
  | dropCache (name : String)
  | releaseQueue (keeper : Keeper)
  | makeFence (context : String) (pipeline : Pipeline) (useSync : Bool)
  | waitFence (context : String) (pipeline : Pipeline) (fd : FenceFd)
  | dequeueFences (context : String) (pipeline : Pipeline) (previous : Previous)
      (calls : List ScriptItem)

/-- What is done with mailboxes that stand alone, and with notifiers. -/
inductive MailChange
  | newMailbox (name : String)
  | raise (name : String)
  | take (name : String)
  | dropMailbox (name : String)
  | updaterNotifier (updater notifier : String)
  | mailboxNotifier (mailbox notifier : String)
  | dropNotifier (name : String)

/-- What is done with recorders. -/
inductive RecorderChange
  | new (name : String)
  | clone (name copy : String)
  | clear (name : String)

/-- What a command changes. -/
inductive Change
  /-- Nothing is changed, but something may be asked. -/
  | nothing
  -- contexts and who is told of their loss
  | newState (name : String) (backend : Backend)
  | newContext (name : String) (backend : Backend)
  | backend (context : String) (settings : List BackendSetting)
  | destroy (state : String)
  | newObserver (name state : String) (actions : List ObserverAction) (registered : Bool)
  | register (name state : String)
  | dropObserver (name : String)
  -- updaters
  | newUpdater (name : String) (config : Config) (home : Home) (sink : SinkChoice)
  | sink (updater : String) (choice : SinkChoice)
  | setting (updater : String) (setting : Setting)
  | treatment (updater : String) (treatment : Treatment)
  | attach (updater name : String) (source : Source) (state : Option String)
  | bind (updater : String) (forceFilter : Bool) (transform : TextureTransform) (crop : Rect)
      (image : String)
  | apply (updater : String)
  | dropUpdater (name : String)
  -- all else
  | source (name : String) (change : SourceChange)
  | notify (notifier : String)
  | textures (change : TextureChange)
  | mail (change : MailChange)
  | recorders (change : RecorderChange)

-- ==================================================== updaters, sources and images

namespace Updater

/-- The updater after a setting. -/
def set (u : Updater) : Setting → Updater
  | .size width height => (u.setSize width height).1
  | .blend blend => (u.setBlend blend).1
  | .transform transform => u.setTransform transform
  | .paint paint => u.setPaint paint

/-- The world and the updater after a treatment. -/
def treat (u : Updater) (w : World) : Treatment → World × Updater
  | .post => u.post w
  | .detach => u.detach w
  | .teardown mode => u.teardown w mode

end Updater

/-- The source after a change. -/
def Source.change (q : Source) : SourceChange → Source
  | .push frames => { q with frames := q.frames ++ frames }
  | .script script => { q with script }

namespace Session

/-- The texture of an image to be copied, if there is one. -/
def origin? (s : Session) : Origin → Option TextureId
  | .image name => s.images.get? name
  | .handle name => s.handles.get? name
  | .layer updater => (s.updater? updater).bind fun u => u.layer.bind Layer.image

/-- The texture whose handle is there, if one is. -/
def keptBy? (s : Session) : Keeper → Option TextureId
  | .handle name => s.handles.get? name
  | .slot name => (s.slots.get? name).bind Slot.texture
  | .entry cache slot => ((s.caches.get? cache).bind (·.get? slot)).bind Slot.texture

/-- The buffer of a texture that may be there goes back to the producer's queue. -/
def handBack (s : Session) (t : Option TextureId) : Session :=
  match t with
  | some t => s.onWorld fun w => (w.releaseQueue t).1
  | none => s

/-- Changes textures or fences. -/
def onTextures (s : Session) : TextureChange → Session
  | .copy origin copy => s.copyImage (s.origin? origin) copy
  | .dropImage name => s.dropImage name
  | .importTexture name context pipeline buffer dataspace =>
    (s.importTexture name context pipeline buffer dataspace).1
  | .releaseHandle name mode => (s.releaseHandle name mode).1
  | .dropHandle name => s.dropHandle name
  | .newSlot name pipeline => s.keepSlot name (.empty pipeline)
  | .resolveSlot name context frame image => (s.resolveSlot name context frame image).1
  | .clearSlot name mode => (s.clearSlot name mode).1
  | .dropSlot name => s.dropSlot name
  | .newCache name pipeline => s.keepCache name (.empty pipeline)
  | .resolveCached name context frame image => (s.resolveCached name context frame image).1
  | .clearCached name slot mode => (s.clearCached name slot mode).1
  | .clearCache name mode => (s.clearCache name mode).1
  | .dropCache name => s.dropCache name
  | .releaseQueue keeper => s.handBack (s.keptBy? keeper)
  | .makeFence context pipeline useSync => (s.makeFence context pipeline useSync).1
  | .waitFence context pipeline fd => (s.waitFence context pipeline fd).1
  | .dequeueFences context pipeline previous calls =>
    (s.dequeueFences context pipeline previous calls).1

end Session

-- ==================================================== mailboxes and recorders

/-- Mailboxes and notifiers, and what else is looked at where they change. -/
structure Desk where
  fresh : Nat
  updaterNames : Table String UpdaterId
  mailboxes : Table MailboxId Mailbox
  mailboxNames : Table String MailboxId
  notifiers : Table String Notifier

/-- The desk after a change. -/
def Desk.change (d : Desk) : MailChange → Desk
  | .newMailbox name =>
    { d with
      fresh := d.fresh + 1
      mailboxes := d.mailboxes.set d.fresh default
      mailboxNames := d.mailboxNames.set name d.fresh }
  | .raise name =>
    match d.mailboxNames.get? name with
    | some id => { d with mailboxes := d.mailboxes.modify id Mailbox.raise }
    | none => d
  | .take name =>
    match d.mailboxNames.get? name, (d.mailboxNames.get? name).bind d.mailboxes.get? with
    | some id, some m => { d with mailboxes := d.mailboxes.set id m.take }
    | _, _ => d
  | .dropMailbox name => { d with mailboxNames := d.mailboxNames.erase name }
  | .updaterNotifier updater notifier =>
    match d.updaterNames.get? updater with
    | some id => { d with notifiers := d.notifiers.set notifier (.updater id) }
    | none => d
  | .mailboxNotifier mailbox notifier =>
    match d.mailboxNames.get? mailbox with
    | some id => { d with notifiers := d.notifiers.set notifier (.mailbox id) }
    | none => d
  | .dropNotifier name => { d with notifiers := d.notifiers.erase name }

/-- A number is spent at most. -/
theorem Desk.fresh_le (d : Desk) (change : MailChange) : d.fresh ≤ (d.change change).fresh := by
  cases change with
  | newMailbox name => exact Nat.le_succ _
  | dropMailbox | dropNotifier => exact Nat.le_refl _
  | raise | take | updaterNotifier | mailboxNotifier =>
    unfold change
    dsimp only
    split <;> exact Nat.le_refl _

namespace Session

/-- The desk of a session. -/
def desk (s : Session) : Desk where
  fresh := s.fresh
  updaterNames := s.updaterNames
  mailboxes := s.mailboxes
  mailboxNames := s.mailboxNames
  notifiers := s.notifiers

/-- Puts mailboxes and notifiers in the place of those that are there. -/
def setDesk (s : Session) (d : Desk) : Session :=
  { s with
    fresh := d.fresh
    mailboxes := d.mailboxes
    mailboxNames := d.mailboxNames
    notifiers := d.notifiers }

/-- Changes mailboxes or notifiers. -/
def onMail (s : Session) (change : MailChange) : Session := s.setDesk (s.desk.change change)

/-- Changes recorders. -/
def onRecorders (s : Session) : RecorderChange → Session
  | .new name => s.newRecorder name
  | .clone name copy =>
    match s.recorderNames.get? name with
    | some id => { s with recorderNames := s.recorderNames.set copy id }
    | none => s
  | .clear name =>
    match s.recorderNames.get? name with
    | some id => s.onWorld (·.clearRecorder id)
    | none => s

-- ==================================================== changes of a session

/-- Lets an updater have the sink that is chosen for it. -/
def setSink (s : Session) (updater : String) (choice : SinkChoice) : Session :=
  let chosen := s.chooseSink updater choice
  match chosen.2 with
  | some sink => chosen.1.onNamedAlone updater (·.setSink sink)
  | none => chosen.1

/-- The session after a change. -/
def after (s : Session) : Change → Session
  | .nothing => s
  | .newState name backend => s.addState name backend
  | .newContext name backend => s.addContext name backend
  | .backend context settings =>
    match s.context? context with
    | some c => s.onWorld (·.adjustBackend c settings)
    | none => s
  | .destroy state =>
    match s.state? state with
    | some c => (s.destroyContext none c).1
    | none => s
  | .newObserver name state actions registered => s.newObserver name state actions registered
  | .register name state => s.registerNamed name state
  | .dropObserver name => s.dropObserver name
  | .newUpdater name config home sink => (s.newUpdater name config home sink).1
  | .sink updater choice => s.setSink updater choice
  | .setting updater setting => s.onNamedAlone updater (·.set setting)
  | .treatment updater treatment => s.onNamed updater (·.treat · treatment)
  | .attach updater name source state => s.attach updater name source state
  | .bind updater forceFilter transform crop image =>
    s.bind updater forceFilter transform crop image
  | .apply updater =>
    match s.updaterNames.get? updater with
    | some id => s.apply id
    | none => s
  | .dropUpdater name => s.dropUpdater name
  | .source name change => s.onSource name (·.change change)
  | .notify notifier =>
    match s.notifiers.get? notifier with
    | some n => s.post n
    | none => s
  | .textures change => s.onTextures change
  | .mail change => s.onMail change
  | .recorders change => s.onRecorders change

end Session

-- ==================================================== commands

/-- What a command changes. -/
def Command.change : Command → Change
  | .isAlive _ | .observerCount _ | .notifiedCount _ | .breakLock _ | .updaterContextAlive _
  | .look | .imageInfo _ | .sameTexture _ _ | .handleInfo _ | .slotInfo _ | .cacheEntry _ _
  | .cacheInfo _ | .mailboxPending _ | .records _ | .exportRecords _ _ _ | .text _
  | .describe _ => .nothing
  | .newState name backend => .newState name backend
  | .newContext name backend => .newContext name backend
  | .adjustBackend context settings => .backend context settings
  | .destroy state => .destroy state
  | .newObserver name state actions registered => .newObserver name state actions registered
  | .register name state => .register name state
  | .dropObserver name => .dropObserver name
  | .newUpdater name config home sink => .newUpdater name config home sink
  | .setSink updater sink => .sink updater sink
  | .setSize updater width height => .setting updater (.size width height)
  | .setBlend updater blend => .setting updater (.blend blend)
  | .setTransform updater transform => .setting updater (.transform transform)
  | .setPaint updater paint => .setting updater (.paint paint)
  | .attach updater name source state => .attach updater name source state
  | .push source frames => .source source (.push frames)
  | .setScript source script => .source source (.script script)
  | .post updater => .treatment updater .post
  | .newNotifier updater notifier => .mail (.updaterNotifier updater notifier)
  | .notify notifier => .notify notifier
  | .apply updater => .apply updater
  | .bind updater forceFilter transform crop image =>
    .bind updater forceFilter transform crop image
  | .detach updater => .treatment updater .detach
  | .teardown updater mode => .treatment updater (.teardown mode)
  | .contextDestroyed updater => .treatment updater (.teardown .contextLost)
  | .dropUpdater name => .dropUpdater name
  | .keepLayerImage updater image => .textures (.copy (.layer updater) image)
  | .cloneImage name copy => .textures (.copy (.image name) copy)
  | .dropImage name => .textures (.dropImage name)
  | .importTexture name context pipeline buffer dataspace =>
    .textures (.importTexture name context pipeline buffer dataspace)
  | .handleImage name image => .textures (.copy (.handle name) image)
  | .releaseHandleQueue name => .textures (.releaseQueue (.handle name))
  | .releaseHandle name mode => .textures (.releaseHandle name mode)
  | .dropHandle name => .textures (.dropHandle name)
  | .newSlot name pipeline => .textures (.newSlot name pipeline)
  | .resolveSlot name context frame image => .textures (.resolveSlot name context frame image)
  | .releaseSlotQueue name => .textures (.releaseQueue (.slot name))
  | .clearSlot name mode => .textures (.clearSlot name mode)
  | .dropSlot name => .textures (.dropSlot name)
  | .newCache name pipeline => .textures (.newCache name pipeline)
  | .resolveCached name context frame image =>
    .textures (.resolveCached name context frame image)
  | .releaseCachedQueue name slot => .textures (.releaseQueue (.entry name slot))
  | .clearCached name slot mode => .textures (.clearCached name slot mode)
  | .clearCache name mode => .textures (.clearCache name mode)
  | .dropCache name => .textures (.dropCache name)
  | .makeFence context pipeline useSync => .textures (.makeFence context pipeline useSync)
  | .waitFence context pipeline fd => .textures (.waitFence context pipeline fd)
  | .dequeueFences context pipeline previous calls =>
    .textures (.dequeueFences context pipeline previous calls)
  | .newMailbox name => .mail (.newMailbox name)
  | .newMailboxNotifier mailbox notifier => .mail (.mailboxNotifier mailbox notifier)
  | .raiseMailbox name => .mail (.raise name)
  | .takeMailbox name => .mail (.take name)
  | .dropMailbox name => .mail (.dropMailbox name)
  | .dropNotifier name => .mail (.dropNotifier name)
  | .newRecorder name => .recorders (.new name)
  | .cloneRecorder name copy => .recorders (.clone name copy)
  | .clearRecorder name => .recorders (.clear name)

namespace Session

variable (s : Session)

/-- The image of a layer is copied as any other one. -/
theorem keepLayerImage_copies (updater image : String) :
    (s.keepLayerImage updater image).1 = s.copyImage (s.origin? (.layer updater)) image := by
  simp only [keepLayerImage, origin?]
  cases s.updater? updater with
  | none => rfl
  | some u =>
    simp only [Option.bind_some]
    cases u.layer.bind Layer.image <;> rfl

/-- What a slot hands back is the buffer of its texture. -/
theorem slot_handBack (name : String) :
    (s.askWorld (s.slots.get? name) Slot.releaseQueue).1 = s.handBack (s.keptBy? (.slot name)) := by
  simp only [askWorld, keptBy?]
  cases s.slots.get? name with
  | none => rfl
  | some slot =>
    simp only [Slot.releaseQueue, Option.bind_some]
    cases slot.texture <;> rfl

/-- What a cache hands back is the buffer of the texture in one of its slots. -/
theorem cache_handBack (name : String) (slot : SlotId) :
    (s.askWorld (s.caches.get? name) fun cache w => cache.releaseQueue w slot).1
      = s.handBack (s.keptBy? (.entry name slot)) := by
  simp only [askWorld, keptBy?]
  cases s.caches.get? name with
  | none => rfl
  | some cache =>
    simp only [SlotCache.releaseQueue, Option.bind_some]
    cases cache.get? slot with
    | none => rfl
    | some entry =>
      simp only [Slot.releaseQueue, Option.bind_some]
      cases entry.texture <;> rfl

/-- A command leaves the session that its change leaves. -/
theorem exec_change (c : Command) : (s.exec c).1 = s.after c.change := by
  cases c with
  | adjustBackend context settings =>
    simp only [exec, after, Command.change]
    cases s.context? context <;> rfl
  | destroy state =>
    simp only [exec, after, Command.change]
    cases s.state? state <;> rfl
  | setSink updater sink =>
    simp only [exec, after, Command.change, setSink]
    cases (s.chooseSink updater sink).2 <;> rfl
  | notify notifier =>
    simp only [exec, after, Command.change]
    cases s.notifiers.get? notifier <;> rfl
  | apply updater =>
    simp only [exec, after, Command.change]
    cases s.updaterNames.get? updater <;> rfl
  | sameTexture name other =>
    simp only [exec]
    split <;> rfl
  | keepLayerImage updater image => exact s.keepLayerImage_copies updater image
  | releaseHandleQueue name =>
    simp only [exec, askWorld, after, Command.change, onTextures, keptBy?]
    cases s.handles.get? name <;> rfl
  | releaseSlotQueue name => exact s.slot_handBack name
  | releaseCachedQueue name slot => exact s.cache_handBack name slot
  | newNotifier updater notifier =>
    simp only [exec, after, Command.change, onMail, Desk.change, desk]
    cases s.updaterNames.get? updater <;> rfl
  | newMailboxNotifier mailbox notifier =>
    simp only [exec, after, Command.change, onMail, Desk.change, desk]
    cases s.mailboxNames.get? mailbox <;> rfl
  | raiseMailbox name =>
    simp only [exec, after, Command.change, onMail, Desk.change, desk]
    cases s.mailboxNames.get? name <;> rfl
  | takeMailbox name =>
    simp only [exec, takeMailbox, mailbox?, after, Command.change, onMail, Desk.change, desk]
    cases s.mailboxNames.get? name with
    | none => rfl
    | some id =>
      simp only [Option.bind_some]
      cases s.mailboxes.get? id <;> rfl
  | cloneRecorder name copy =>
    simp only [exec, after, Command.change, onRecorders]
    cases s.recorderNames.get? name <;> rfl
  | clearRecorder name =>
    simp only [exec, after, Command.change, onRecorders]
    cases s.recorderNames.get? name <;> rfl
  | _ => rfl

end Session

end LayerFeed
