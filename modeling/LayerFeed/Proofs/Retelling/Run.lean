/-
Commands retold. A command that is not about tracing does to the retold session what it did to
the session, retold, and answers the same (`exec_retold`). The commands about tracing choose a
sink for an updater or make, name, read and empty recorders and texts; a new updater may choose a
sink too, which is left out of it (`Command.untraced`).

What such a command leaves is what its change leaves, and that goes through the retelling for
every kind of change (`after_retold`). Its answer is looked at for itself (`reply_retold`): where
it does not depend on an updater or on the world there is nothing to show.
-/
import LayerFeed.Proofs.Retelling.Session
import LayerFeed.Proofs.Session.Change

namespace LayerFeed

/-- A command without what it says of tracing; none if it says nothing else. -/
def Command.untraced : Command → Option Command
  | .setSink _ _ | .newRecorder _ | .cloneRecorder _ _ | .records _ | .clearRecorder _
  | .exportRecords _ _ _ | .text _ => none
  | .newUpdater name config home _ => some (.newUpdater name config home .unchanged)
  | c => some c

/-- A change that has nothing to do with tracing. -/
def Change.Untraced : Change → Prop
  | .sink _ _ | .recorders _ => False
  | .newUpdater _ _ _ choice => choice = .unchanged
  | _ => True

/-- A command that says nothing of tracing makes a change that has nothing to do with it. -/
theorem Command.change_untraced {c : Command} (untraced : c.untraced = some c) :
    c.change.Untraced := by
  cases c with
  | newUpdater name config home sink =>
    exact (Command.newUpdater.inj (Option.some.inj untraced)).2.2.2.symm
  | setSink | newRecorder | cloneRecorder | clearRecorder => cases untraced
  | _ => trivial

namespace Session

variable (R : Retelling) (s : Session)

@[simp] theorem retold_sourceNames : (s.retold R).sourceNames = s.sourceNames := rfl
@[simp] theorem retold_notifiers : (s.retold R).notifiers = s.notifiers := rfl
@[simp] theorem retold_mailboxNames : (s.retold R).mailboxNames = s.mailboxNames := rfl
@[simp] theorem state?_retold (name : String) : (s.retold R).state? name = s.state? name := rfl
@[simp] theorem context?_retold (name : String) :
    (s.retold R).context? name = s.context? name := rfl

-- ==================================================== observers and updaters

/-- A new observer is entered, perhaps registered, and named. -/
theorem newObserver_retold (name state : String) (actions : List ObserverAction)
    (registered : Bool) :
    (s.retold R).newObserver name state actions registered
      = (s.newObserver name state actions registered).retold R := by
  unfold newObserver
  rw [state?_retold]
  cases s.state? state with
  | none => rfl
  | some c =>
    let t : Session := { s with
      fresh := s.fresh + 1
      observers := s.observers.set s.fresh { value := { name, context := c, actions } } }
    cases registered with
    | false => exact t.nameObserver_retold R name s.fresh
    | true =>
      have registered := t.register_retold R c (.observer s.fresh)
      exact (congrArg (nameObserver · name s.fresh) registered).trans (nameObserver_retold R _ _ _)

/-- Names lead to the same participants, which are registered once more. -/
theorem registerNamed_retold (name state : String) :
    (s.retold R).registerNamed name state = (s.registerNamed name state).retold R := by
  have same : (s.retold R).participant? name = s.participant? name := rfl
  unfold registerNamed
  rw [same, state?_retold]
  split
  · exact s.register_retold R _ _
  · rfl

/-- Enters a new updater under its number, registers it if its home is a render state, and gives
it its name. -/
def enter (s : Session) (name : String) (id : UpdaterId) (c : ContextId) (home : Home)
    (u : Updater) : Session :=
  let s := { s with updaters := s.updaters.set id { value := u } }
  let s := match home with
    | .registered _ => s.register c (.updater id)
    | .unregistered _ | .context _ => s
  s.nameUpdater name id

/-- The updater that is entered is the retold one. -/
theorem enter_retold (name : String) (id : UpdaterId) (c : ContextId) (home : Home) (u : Updater) :
    (s.retold R).enter name id c home (u.retold R) = (s.enter name id c home u).retold R := by
  have entered :
      { s.retold R with updaters := (s.retold R).updaters.set id { value := u.retold R } }
        = ({ s with updaters := s.updaters.set id { value := u } } : Session).retold R :=
    s.put_retold R id { value := u } s.world
  unfold enter
  dsimp only
  rw [entered]
  cases home with
  | registered state =>
    dsimp only
    rw [register_retold, nameUpdater_retold]
  | unregistered state => exact nameUpdater_retold R _ _ _
  | context name => exact nameUpdater_retold R _ _ _

/-- A new updater is entered with the sink that was chosen. -/
theorem newUpdater_eq (name : String) (config : Config) (home : Home) (sink : SinkChoice) :
    s.newUpdater name config home sink = match s.homeContext? home with
      | none => (s, .nothing)
      | some c =>
        let chosen := { s with fresh := s.fresh + 1 }.chooseSink name sink
        (chosen.1.enter name s.fresh c home
          ((Updater.new s.fresh c config).setSink (chosen.2.getD .none)),
          .config config.pipeline config.filterOnSizeMismatch) := by
  unfold newUpdater
  cases s.homeContext? home <;> rfl

/-- A new updater that chooses no sink is retold as it is. -/
theorem newUpdater_retold (name : String) (config : Config) (home : Home) :
    (s.retold R).newUpdater name config home .unchanged
      = retoldReply R (s.newUpdater name config home .unchanged) := by
  have homes : (s.retold R).homeContext? home = s.homeContext? home := by cases home <;> rfl
  rw [newUpdater_eq, newUpdater_eq, homes]
  cases s.homeContext? home with
  | none => rfl
  | some c =>
    have plain : (Updater.new s.fresh c config).setSink .none
        = ((Updater.new s.fresh c config).setSink .none).retold R := by
      rw [Updater.retold, Updater.setSink, R.sink_none]
    have entered := enter_retold R { s with fresh := s.fresh + 1 } name s.fresh c home
      ((Updater.new s.fresh c config).setSink .none)
    rw [← plain] at entered
    exact congrArg (·, Reply.config config.pipeline config.filterOnSizeMismatch) entered

/-- What goes through the retelling of an updater and the world may be done to an updater by its
name. -/
theorem onNamed_retold (name : String) {f : Updater → World → World × Updater}
    (retells : ∀ u w, f (u.retold R) (w.retold R) = retoldBoth R (f u w)) :
    (s.retold R).onNamed name f = (s.onNamed name f).retold R := by
  unfold onNamed
  rw [retold_updaterNames]
  cases s.updaterNames.get? name with
  | none => rfl
  | some id => exact s.onUpdater_retold R id retells

/-- The same for what is done to the updater alone. -/
theorem onNamedAlone_retold (name : String) {f : Updater → Updater}
    (retells : ∀ u, f (u.retold R) = (f u).retold R) :
    (s.retold R).onNamedAlone name f = (s.onNamedAlone name f).retold R :=
  s.onNamed_retold R name fun u w => congrArg (w.retold R, ·) (retells u)

/-- What can be asked of the retold updater as of the updater is answered the same. -/
theorem ask_retold (name : String) {f : Updater → Reply} (same : ∀ u, f (u.retold R) = f u) :
    (s.retold R).ask name f = s.ask name f := by
  unfold ask
  rw [updater?_retold, Option.map_map]
  cases s.updater? name with
  | none => rfl
  | some u => exact same u

/-- A source is entered and attached to an updater by its name. -/
theorem attach_retold (updater name : String) (source : Source) (state : Option String) :
    (s.retold R).attach updater name source state
      = (s.attach updater name source state).retold R := by
  unfold attach
  rw [retold_updaterNames]
  cases s.updaterNames.get? updater with
  | none => rfl
  | some id =>
    exact onUpdater_retold R { s with
      fresh := s.fresh + 1
      sources := s.sources.set s.fresh { source with context := state.bind s.state? }
      sourceNames := s.sourceNames.set name s.fresh } id fun u w => u.attach_retold R w _

/-- Sources are not retold. -/
theorem onSource_retold (name : String) (f : Source → Source) :
    (s.retold R).onSource name f = (s.onSource name f).retold R := by
  unfold onSource
  rw [retold_sourceNames]
  cases s.sourceNames.get? name <;> rfl

/-- Posts go to updaters or to mailboxes that stand alone. -/
theorem post_retold (n : Notifier) : (s.retold R).post n = (s.post n).retold R := by
  cases n with
  | updater id => exact s.onUpdater_retold R id fun u w => u.post_retold R w
  | mailbox id => rfl

/-- One more holder of a texture. -/
theorem share_retold (t : TextureId) :
    (s.retold R).onWorld (·.share t) = (s.onWorld (·.share t)).retold R :=
  s.onWorld_retold R fun _ => rfl

/-- An image is bound to the layer of an updater that is there still. -/
theorem bind_retold (updater : String) (forceFilter : Bool) (transform : TextureTransform)
    (crop : Rect) (image : String) :
    (s.retold R).bind updater forceFilter transform crop image
      = (s.bind updater forceFilter transform crop image).retold R := by
  unfold bind
  rw [retold_updaterNames, retold_images]
  split
  · next id t _ _ =>
    have there : (s.retold R).updaters.contains id = s.updaters.contains id :=
      s.isLive_retold R (.updater id)
    rw [there, share_retold]
    split
    · exact onUpdater_retold R _ id fun u w => u.bind_retold R w _ _ _ _
    · rfl
  · rfl

-- ==================================================== images and handles

/-- A copy of an image is one more holder of its texture. -/
theorem copyImage_retold (t : Option TextureId) (copy : String) :
    (s.retold R).copyImage t copy = (s.copyImage t copy).retold R := by
  cases t with
  | none => rfl
  | some t =>
    unfold copyImage
    dsimp only
    rw [share_retold, keepImage_retold]

/-- The handle that is imported is looked at in the retold world, where its texture is the same. -/
theorem importTexture_retold (name context : String) (pipeline : Pipeline)
    (buffer : HardwareBuffer) (dataspace : Dataspace) :
    (s.retold R).importTexture name context pipeline buffer dataspace
      = retoldReply R (s.importTexture name context pipeline buffer dataspace) := by
  unfold importTexture
  rw [context?_retold]
  cases s.context? context with
  | none => rfl
  | some c =>
    simp only [retold_world, World.importTexture_retold, retoldWith]
    generalize s.world.importTexture c pipeline buffer dataspace = imported
    cases imported.2 with
    | error e => rfl
    | ok t =>
      have kept := keepHandle_retold R { s with world := imported.1 } name t
      exact congrArg (fun s : Session => (s, Reply.handle (s.world.handleView? t))) kept

theorem releaseHandle_retold (name : String) (mode : TeardownMode) :
    (s.retold R).releaseHandle name mode = retoldReply R (s.releaseHandle name mode) := by
  unfold releaseHandle
  rw [retold_handles]
  cases s.handles.get? name with
  | none => rfl
  | some t =>
    simp only [retold_world, World.release_retold]
    rfl

-- ==================================================== slots and caches

/-- What is answered of a slot is looked at in the retold world, where textures are the same. -/
theorem resolveSlot_retold (name context : String) (frame : Frame) (image : Option String) :
    (s.retold R).resolveSlot name context frame image
      = retoldReply R (s.resolveSlot name context frame image) := by
  unfold resolveSlot
  rw [retold_slots, context?_retold]
  split
  · next slot c _ _ =>
    simp only [retold_world, Slot.resolve_retold, After.retold]
    generalize slot.resolve s.world c frame.buffer frame.dataspace frame.forceRecreate = after
    have kept := keepOrDropImage_retold R
      { s with world := after.world, slots := s.slots.set name after.object } image
      after.answer.image?
    exact congrArg
      (fun s : Session => (s, Reply.resolved _ _ _ (after.object.view s.world) none)) kept
  · rfl

/-- What is answered of a slot of a cache is looked at in the retold world. -/
theorem resolveCached_retold (name context : String) (frame : Frame) (image : Option String) :
    (s.retold R).resolveCached name context frame image
      = retoldReply R (s.resolveCached name context frame image) := by
  unfold resolveCached
  rw [retold_caches, context?_retold]
  split
  · next cache c _ _ =>
    simp only [retold_world, SlotCache.resolve_retold, After.retold]
    generalize cache.resolve s.world c frame.slot frame.buffer frame.dataspace
      frame.forceRecreate = after
    have kept := keepOrDropImage_retold R
      { s with world := after.world, caches := s.caches.set name after.object } image
      after.answer.image?
    exact congrArg (fun s : Session => (s, Reply.resolved _ _ _
      (((after.object.get? frame.slot).getD (.empty cache.pipeline)).view s.world) _)) kept
  · rfl

theorem clearSlot_retold (name : String) (mode : TeardownMode) :
    (s.retold R).clearSlot name mode = retoldReply R (s.clearSlot name mode) := by
  unfold clearSlot
  rw [retold_slots]
  cases s.slots.get? name with
  | none => rfl
  | some slot =>
    simp only [retold_world, Slot.clear_retold]
    rfl

theorem clearCached_retold (name : String) (slot : SlotId) (mode : TeardownMode) :
    (s.retold R).clearCached name slot mode = retoldReply R (s.clearCached name slot mode) := by
  unfold clearCached
  rw [retold_caches]
  cases s.caches.get? name with
  | none => rfl
  | some cache =>
    simp only [retold_world, SlotCache.clear_retold]
    rfl

theorem clearCache_retold (name : String) (mode : TeardownMode) :
    (s.retold R).clearCache name mode = retoldReply R (s.clearCache name mode) := by
  unfold clearCache
  rw [retold_caches]
  cases s.caches.get? name with
  | none => rfl
  | some cache =>
    simp only [retold_world, SlotCache.clearAll_retold]
    rfl

/-- What is asked of the world and answered by yes or no. -/
theorem askWorld_retold {α : Type} (x : Option α) {f : α → World → World × Bool}
    (retells : ∀ x w, f x (w.retold R) = retoldWith R (f x w)) :
    (s.retold R).askWorld x f = retoldReply R (s.askWorld x f) := by
  cases x with
  | none => rfl
  | some x =>
    simp only [askWorld, retold_world, retells]
    rfl

-- ==================================================== fences and mailboxes

theorem makeFence_retold (context : String) (pipeline : Pipeline) (useSync : Bool) :
    (s.retold R).makeFence context pipeline useSync
      = retoldReply R (s.makeFence context pipeline useSync) := by
  unfold makeFence
  rw [context?_retold]
  cases s.context? context with
  | none => rfl
  | some c =>
    simp only [retold_world, FenceGate.createFence_retold]
    rfl

theorem waitFence_retold (context : String) (pipeline : Pipeline) (fd : FenceFd) :
    (s.retold R).waitFence context pipeline fd
      = retoldReply R (s.waitFence context pipeline fd) := by
  unfold waitFence
  rw [context?_retold]
  cases s.context? context with
  | none => rfl
  | some c =>
    simp only [retold_world, FenceGate.wait_retold]
    rfl

theorem dequeueFences_retold (context : String) (pipeline : Pipeline) (previous : Previous)
    (calls : List ScriptItem) :
    (s.retold R).dequeueFences context pipeline previous calls
      = retoldReply R (s.dequeueFences context pipeline previous calls) := by
  have same : (s.retold R).previous? previous = s.previous? previous := by cases previous <;> rfl
  unfold dequeueFences
  rw [context?_retold]
  cases s.context? context with
  | none => rfl
  | some c =>
    simp only [same, runScript_retold]
    rfl

theorem takeMailbox_retold (name : String) :
    (s.retold R).takeMailbox name = retoldReply R (s.takeMailbox name) := by
  have same : (s.retold R).mailbox? name = s.mailbox? name := rfl
  unfold takeMailbox
  rw [retold_mailboxNames, same]
  split <;> rfl

-- ==================================================== descriptions

/-- Descriptions tell nothing of sinks. -/
theorem describe_retold (object : Described) :
    (s.retold R).describe object = s.describe object := by
  cases object with
  | state name =>
    simp only [describe, state?_retold, observerCount_retold]
    rfl
  | updater name =>
    simp only [describe, updater?_retold, Option.map_map]
    rfl
  | layer updater =>
    simp only [describe, updater?_retold]
    cases s.updater? updater <;> rfl
  | context | cache | slot | handle | image | mailbox | notifier => rfl

-- ==================================================== changes

/-- Mailboxes and notifiers are not retold. -/
theorem onMail_retold (change : MailChange) :
    (s.retold R).onMail change = (s.onMail change).retold R := rfl

/-- The images that can be copied are found where they were. -/
theorem origin?_retold (origin : Origin) : (s.retold R).origin? origin = s.origin? origin := by
  cases origin with
  | image | handle => rfl
  | layer updater =>
    simp only [origin?, updater?_retold]
    cases s.updater? updater <;> rfl

/-- To hand a buffer back is a call to the backend. -/
theorem handBack_retold (t : Option TextureId) :
    (s.retold R).handBack t = (s.handBack t).retold R := by
  cases t with
  | none => rfl
  | some t => exact s.onWorld_retold (f := fun w => (w.releaseQueue t).1) R fun w =>
      congrArg Prod.fst (w.releaseQueue_retold R t)

/-- Whatever is done with textures and fences goes through the retelling. -/
theorem onTextures_retold (change : TextureChange) :
    (s.retold R).onTextures change = (s.onTextures change).retold R := by
  cases change with
  | copy origin copy =>
    simp only [onTextures, origin?_retold]
    exact s.copyImage_retold R _ copy
  | dropImage name => exact s.dropImage_retold R name
  | importTexture name context pipeline buffer dataspace =>
    exact congrArg Prod.fst (s.importTexture_retold R name context pipeline buffer dataspace)
  | releaseHandle name mode => exact congrArg Prod.fst (s.releaseHandle_retold R name mode)
  | dropHandle name => exact s.dropHandle_retold R name
  | newSlot name pipeline => exact s.keepSlot_retold R name (.empty pipeline)
  | resolveSlot name context frame image =>
    exact congrArg Prod.fst (s.resolveSlot_retold R name context frame image)
  | clearSlot name mode => exact congrArg Prod.fst (s.clearSlot_retold R name mode)
  | dropSlot name => exact s.dropSlot_retold R name
  | newCache name pipeline => exact s.keepCache_retold R name (.empty pipeline)
  | resolveCached name context frame image =>
    exact congrArg Prod.fst (s.resolveCached_retold R name context frame image)
  | clearCached name slot mode => exact congrArg Prod.fst (s.clearCached_retold R name slot mode)
  | clearCache name mode => exact congrArg Prod.fst (s.clearCache_retold R name mode)
  | dropCache name => exact s.dropCache_retold R name
  | releaseQueue keeper => exact s.handBack_retold R _
  | makeFence context pipeline useSync =>
    exact congrArg Prod.fst (s.makeFence_retold R context pipeline useSync)
  | waitFence context pipeline fd =>
    exact congrArg Prod.fst (s.waitFence_retold R context pipeline fd)
  | dequeueFences context pipeline previous calls =>
    exact congrArg Prod.fst (s.dequeueFences_retold R context pipeline previous calls)

/-- A change that has nothing to do with tracing goes through the retelling. -/
theorem after_retold {change : Change} (untraced : change.Untraced) :
    (s.retold R).after change = (s.after change).retold R := by
  cases change with
  | nothing | newState | newContext => rfl
  | sink | recorders => cases untraced
  | backend context settings =>
    simp only [after, context?_retold]
    cases s.context? context <;> rfl
  | destroy state =>
    simp only [after, state?_retold]
    cases s.state? state with
    | none => rfl
    | some c => exact congrArg Prod.fst (s.destroyContext_retold R none c)
  | newObserver name state actions registered =>
    exact s.newObserver_retold R name state actions registered
  | register name state => exact s.registerNamed_retold R name state
  | dropObserver name => exact s.dropObserver_retold R name
  | newUpdater name config home choice =>
    obtain rfl : choice = .unchanged := untraced
    exact congrArg Prod.fst (s.newUpdater_retold R name config home)
  | setting updater setting =>
    refine s.onNamedAlone_retold R updater fun u => ?_
    cases setting with
    | size width height => exact congrArg Prod.fst (u.setSize_retold R width height)
    | blend blend => exact congrArg Prod.fst (u.setBlend_retold R blend)
    | transform | paint => rfl
  | treatment updater treatment =>
    refine s.onNamed_retold R updater fun u w => ?_
    cases treatment with
    | post => exact u.post_retold R w
    | detach => exact u.detach_retold R w
    | teardown mode => exact u.teardown_retold R w mode
  | attach updater name source state => exact s.attach_retold R updater name source state
  | bind updater forceFilter transform crop image =>
    exact s.bind_retold R updater forceFilter transform crop image
  | apply updater =>
    simp only [after, retold_updaterNames]
    cases s.updaterNames.get? updater with
    | none => rfl
    | some id => exact s.apply_retold R id
  | dropUpdater name => exact s.dropUpdater_retold R name
  | source name change => exact s.onSource_retold R name _
  | notify notifier =>
    simp only [after, retold_notifiers]
    cases s.notifiers.get? notifier with
    | none => rfl
    | some n => exact s.post_retold R n
  | textures change => exact s.onTextures_retold R change
  | mail change => exact s.onMail_retold R change

-- ==================================================== commands

/-- What a command that is not about tracing answers is not retold. -/
theorem reply_retold {c : Command} (untraced : c.untraced = some c) :
    ((s.retold R).exec c).2 = (s.exec c).2 := by
  have answered {after after' : Session × Reply} (same : after' = retoldReply R after) :
      after'.2 = after.2 := by
    rw [same]
    rfl
  cases c with
  | setSink | records | exportRecords | text | newRecorder | cloneRecorder | clearRecorder =>
    cases untraced
  | newUpdater name config home sink =>
    obtain rfl : SinkChoice.unchanged = sink :=
      (Command.newUpdater.inj (Option.some.inj untraced)).2.2.2
    exact answered (s.newUpdater_retold R name config home)
  | adjustBackend context settings =>
    simp only [exec, context?_retold]
    cases s.context? context <;> rfl
  | destroy state =>
    simp only [exec, state?_retold, destroyContext_retold]
    cases s.state? state <;> rfl
  | observerCount state => simp only [exec, state?_retold, observerCount_retold]
  | setSize updater width height =>
    exact s.ask_retold R updater fun u => by rw [u.setSize_retold R]
  | setBlend updater blend => exact s.ask_retold R updater fun u => by rw [u.setBlend_retold R]
  | updaterContextAlive updater => exact s.ask_retold R updater fun _ => rfl
  | push source frames =>
    simp only [exec, onSource_retold]
    rfl
  | newNotifier updater notifier =>
    simp only [exec, retold_updaterNames]
    cases s.updaterNames.get? updater <;> rfl
  | notify notifier =>
    simp only [exec, retold_notifiers]
    cases s.notifiers.get? notifier <;> rfl
  | apply updater =>
    simp only [exec, retold_updaterNames]
    cases s.updaterNames.get? updater <;> rfl
  | keepLayerImage updater image =>
    simp only [exec, keepLayerImage, updater?_retold]
    cases s.updater? updater with
    | none => rfl
    | some u =>
      simp only [Option.map_some, Updater.retold_layer]
      cases u.layer.bind Layer.image <;> rfl
  | sameTexture name other =>
    simp only [exec, retold_images]
    split <;> rfl
  | importTexture name context pipeline buffer dataspace =>
    exact answered (s.importTexture_retold R name context pipeline buffer dataspace)
  | handleImage name image =>
    simp only [exec, retold_handles, copyImage_retold]
    rfl
  | releaseHandleQueue name =>
    exact answered (s.askWorld_retold (f := fun t w => w.releaseQueue t) R _
      fun t w => w.releaseQueue_retold R t)
  | releaseHandle name mode => exact answered (s.releaseHandle_retold R name mode)
  | newSlot name pipeline =>
    simp only [exec, keepSlot_retold]
    rfl
  | resolveSlot name context frame image =>
    exact answered (s.resolveSlot_retold R name context frame image)
  | releaseSlotQueue name =>
    exact answered (s.askWorld_retold R _ fun slot w => slot.releaseQueue_retold R w)
  | clearSlot name mode => exact answered (s.clearSlot_retold R name mode)
  | resolveCached name context frame image =>
    exact answered (s.resolveCached_retold R name context frame image)
  | releaseCachedQueue name slot =>
    exact answered (s.askWorld_retold (f := fun cache w => cache.releaseQueue w slot) R
      (s.caches.get? name) fun cache w => SlotCache.releaseQueue_retold R w cache slot)
  | clearCached name slot mode => exact answered (s.clearCached_retold R name slot mode)
  | clearCache name mode => exact answered (s.clearCache_retold R name mode)
  | makeFence context pipeline useSync =>
    exact answered (s.makeFence_retold R context pipeline useSync)
  | waitFence context pipeline fd =>
    exact answered (s.waitFence_retold R context pipeline fd)
  | dequeueFences context pipeline previous calls =>
    exact answered (s.dequeueFences_retold R context pipeline previous calls)
  | newMailboxNotifier mailbox notifier =>
    simp only [exec, retold_mailboxNames]
    cases s.mailboxNames.get? mailbox <;> rfl
  | raiseMailbox name =>
    simp only [exec, retold_mailboxNames]
    cases s.mailboxNames.get? name <;> rfl
  | takeMailbox name => exact answered (s.takeMailbox_retold R name)
  | describe object => exact congrArg Reply.text (s.describe_retold R object)
  | _ => rfl

/-- A command that is not about tracing goes through the retelling. -/
theorem exec_retold {c : Command} (untraced : c.untraced = some c) :
    (s.retold R).exec c = retoldReply R (s.exec c) := by
  have changed : ((s.retold R).exec c).1 = (s.exec c).1.retold R := by
    rw [exec_change, exec_change, s.after_retold R (Command.change_untraced untraced)]
  exact Prod.ext changed (s.reply_retold R untraced)

end Session

end LayerFeed
