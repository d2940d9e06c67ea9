/-
What a run draws. Of every command a part is drawn (`Command.drawn`): backends without all that
fences depend on, objects without their pipeline, scripts without their fences. What is drawn of
a command changes what is drawn of its change (`Command.change_drawn`), so a run and the run of
what is drawn of its commands go side by side: after each change the second session is what is
drawn of the first (`DrawnAs.after`), hence after each command and each run (`DrawnAs.exec`,
`DrawnAs.run`).
-/
import LayerFeed.Proofs.Drawing.Session
import LayerFeed.Proofs.Session.Change

namespace LayerFeed

open World

/-- A configuration as far as it is drawn. -/
def Config.drawn (config : Config) : Config := { config with pipeline := .gl }

/-- What is drawn of a command. -/
def Command.drawn : Command → Command
  | .newState name backend => .newState name backend.drawn
  | .newContext name backend => .newContext name backend.drawn
  | .adjustBackend context settings =>
    let kept := settings.filter BackendSetting.isDrawn
    if kept = [] then .look else .adjustBackend context kept
  | .newUpdater name config home sink => .newUpdater name config.drawn home sink
  | .attach updater name source state => .attach updater name source.drawn state
  | .setScript source script => .setScript source (script.filterMap ScriptItem.drawn?)
  | .importTexture name context _ buffer dataspace =>
    .importTexture name context .gl buffer dataspace
  | .newSlot name _ => .newSlot name .gl
  | .newCache name _ => .newCache name .gl
  | .makeFence _ _ _ | .waitFence _ _ _ => .look
  | .dequeueFences context _ _ calls =>
    .dequeueFences context .gl .none (calls.filterMap ScriptItem.drawn?)
  | c => c

-- ==================================================== what is drawn of a change

/-- What is drawn of a change of a source: scripts without their fences. -/
def SourceChange.drawn : SourceChange → SourceChange
  | .push frames => .push frames
  | .script items => .script (items.filterMap ScriptItem.drawn?)

/-- What is drawn of a change of textures: nothing if it is about fences alone, and no pipeline
ever. -/
def TextureChange.drawn : TextureChange → Change
  | .makeFence _ _ _ | .waitFence _ _ _ => .nothing
  | .importTexture name context _ buffer dataspace =>
    .textures (.importTexture name context .gl buffer dataspace)
  | .newSlot name _ => .textures (.newSlot name .gl)
  | .newCache name _ => .textures (.newCache name .gl)
  | .dequeueFences context _ _ calls =>
    .textures (.dequeueFences context .gl .none (calls.filterMap ScriptItem.drawn?))
  | change => .textures change

/-- What is drawn of a change. -/
def Change.drawn : Change → Change
  | .newState name b => .newState name b.drawn
  | .newContext name b => .newContext name b.drawn
  | .backend context settings =>
    let kept := settings.filter BackendSetting.isDrawn
    if kept = [] then .nothing else .backend context kept
  | .newUpdater name config home choice => .newUpdater name config.drawn home choice
  | .attach updater name q state => .attach updater name q.drawn state
  | .source name change => .source name change.drawn
  | .textures change => change.drawn
  | change => change

/-- To draw a command is to draw its change. -/
theorem Command.change_drawn (c : Command) : c.drawn.change = c.change.drawn := by
  cases c with
  | adjustBackend context settings =>
    exact apply_ite Command.change _ _ _
  | _ => rfl

namespace Session.DrawnAs

variable {s s' : Session} (h : DrawnAs s s')

include h

-- ==================================================== contexts and observers

/-- A new observer on both sides. -/
theorem newObserver (name state : String) (actions : List ObserverAction) (registered : Bool) :
    DrawnAs (s.newObserver name state actions registered)
      (s'.newObserver name state actions registered) := by
  unfold Session.newObserver
  rw [h.state?, h.fresh]
  cases s.state? state with
  | none => exact h
  | some c =>
    have made : DrawnAs
        { s with
          fresh := s.fresh + 1
          observers := s.observers.set s.fresh { value := { name, context := c, actions } } }
        { s' with
          fresh := s.fresh + 1
          observers := s'.observers.set s.fresh { value := { name, context := c, actions } } } :=
      { h with fresh := rfl, observers := by rw [h.observers] }
    dsimp only
    cases registered with
    | false => exact made.nameObserver name s.fresh
    | true => exact (made.register c _).nameObserver name s.fresh

/-- A registration on both sides. -/
theorem registerNamed (name state : String) :
    DrawnAs (s.registerNamed name state) (s'.registerNamed name state) := by
  have participant : s'.participant? name = s.participant? name := by
    unfold Session.participant?
    rw [h.observerNames, h.updaterNames]
  unfold Session.registerNamed
  rw [participant, h.state?]
  split
  · exact h.register _ _
  · exact h

-- ==================================================== sinks

theorem recorder (name : String) :
    DrawnAs (s.recorder name).1 (s'.recorder name).1
      ∧ (s'.recorder name).2 = (s.recorder name).2 := by
  unfold Session.recorder
  rw [h.recorderNames, h.freshRecorder]
  cases s.recorderNames.get? name with
  | some id => exact ⟨h, rfl⟩
  | none =>
    refine ⟨{ h with world := ?_, freshRecorder := rfl, recorderNames := rfl }, rfl⟩
    exact ⟨h.world.contexts, h.world.textures, h.world.imported, h.world.calls⟩

theorem newRecorder (name : String) : DrawnAs (s.newRecorder name) (s'.newRecorder name) := by
  have unnamed : DrawnAs { s with recorderNames := s.recorderNames.erase name }
      { s' with recorderNames := s'.recorderNames.erase name } :=
    { h with recorderNames := by rw [h.recorderNames] }
  exact (unnamed.recorder name).1

/-- A choice of a sink on both sides, which gives the same sink. -/
theorem chooseSink (updater : String) (sink : SinkChoice) :
    DrawnAs (s.chooseSink updater sink).1 (s'.chooseSink updater sink).1
      ∧ (s'.chooseSink updater sink).2 = (s.chooseSink updater sink).2 := by
  cases sink with
  | unchanged | discard | standardError | history => exact ⟨h, rfl⟩
  | recorder name =>
    obtain ⟨found, id⟩ := h.recorder name
    exact ⟨found, congrArg (fun id => some (Sink.recorder id)) id⟩
  | text name limit =>
    refine ⟨{ h with world := ?_ }, rfl⟩
    exact ⟨h.world.contexts, h.world.textures, h.world.imported, h.world.calls⟩

-- ==================================================== updaters

/-- A new updater on both sides, for either pipeline. -/
theorem newUpdater (name : String) (config : Config) (home : Home) (sink : SinkChoice) :
    DrawnAs (s.newUpdater name config home sink).1
      (s'.newUpdater name config.drawn home sink).1 := by
  have homes : s'.homeContext? home = s.homeContext? home := by
    cases home with
    | registered | unregistered => exact h.state? _
    | context => exact h.context? _
  unfold Session.newUpdater
  rw [homes, h.fresh]
  cases s.homeContext? home with
  | none => exact h
  | some c =>
    have numbered : DrawnAs { s with fresh := s.fresh + 1 } { s' with fresh := s.fresh + 1 } :=
      { h with fresh := rfl }
    obtain ⟨chosen, choice⟩ := numbered.chooseSink name sink
    dsimp only
    rw [choice]
    have made := chosen.setUpdater s.fresh
      { value := (Updater.new s.fresh c config).setSink
          (({ s with fresh := s.fresh + 1 }.chooseSink name sink).2.getD .none) }
    cases home with
    | registered state => exact (made.register c _).nameUpdater name s.fresh
    | unregistered state => exact made.nameUpdater name s.fresh
    | context context => exact made.nameUpdater name s.fresh

/-- A function on a named updater, drawn alike on all of them, draws alike. -/
theorem onNamed {f g : Updater → World → World × Updater} (name : String)
    (same : ∀ u, SamePicture (f u s.world).1 (g u.drawn s'.world).1
      ∧ (g u.drawn s'.world).2 = (f u s.world).2.drawn) :
    DrawnAs (s.onNamed name f) (s'.onNamed name g) := by
  unfold Session.onNamed
  rw [h.updaterName?]
  cases s.updaterNames.get? name with
  | none => exact h
  | some id => exact h.onUpdater id same

/-- And so does one that leaves the world. -/
theorem onNamedAlone {f : Updater → Updater} (name : String)
    (same : ∀ u : Updater, f u.drawn = (f u).drawn) :
    DrawnAs (s.onNamedAlone name f) (s'.onNamedAlone name f) :=
  h.onNamed name fun u => ⟨h.world, same u⟩

/-- The source attached on one side, and on the other without its fence scripts. -/
theorem attach (updater name : String) (source : Source) (state : Option String) :
    DrawnAs (s.attach updater name source state) (s'.attach updater name source.drawn state) := by
  have states : s'.state? = s.state? := funext h.state?
  unfold Session.attach
  rw [h.updaterName?, h.fresh, states]
  cases s.updaterNames.get? updater with
  | none => exact h
  | some id =>
    have made : DrawnAs
        { s with
          fresh := s.fresh + 1
          sources := s.sources.set s.fresh { source with context := state.bind s.state? }
          sourceNames := s.sourceNames.set name s.fresh }
        { s' with
          fresh := s.fresh + 1
          sources := s'.sources.set s.fresh { source.drawn with context := state.bind s.state? }
          sourceNames := s'.sourceNames.set name s.fresh } :=
      { h with
        fresh := rfl
        sources := by
          rw [Table.map_set, h.sources]
          rfl
        sourceNames := by rw [h.sourceNames] }
    exact made.onUpdater id fun u => u.attach_drawn h.world ⟨s.fresh, name, id⟩

/-- A change of a source on one side, and what is drawn of it on the other. -/
theorem onSource {f g : Source → Source} (name : String)
    (same : ∀ q : Source, (f q).drawn = g q.drawn) :
    DrawnAs (s.onSource name f) (s'.onSource name g) := by
  unfold Session.onSource
  rw [h.sourceNames]
  cases s.sourceNames.get? name with
  | none => exact h
  | some id =>
    exact { h with
      sources := by rw [Table.map_modify same, h.sources]
      sourceNames := rfl }

/-- A post on both sides. -/
theorem post (n : Notifier) : DrawnAs (s.post n) (s'.post n) := by
  cases n with
  | updater id => exact h.onUpdater id fun u => u.post_drawn h.world
  | mailbox id =>
    refine { h with mailboxes := ?_ }
    show s'.mailboxes.modify id _ = s.mailboxes.modify id _
    rw [h.mailboxes]

theorem share (t : TextureId) :
    DrawnAs (s.onWorld (·.share t)) (s'.onWorld (·.share t)) := h.onWorld (h.world.share t)

/-- An image bound on both sides. -/
theorem bind (updater : String) (forceFilter : Bool) (transform : TextureTransform)
    (crop : Rect) (image : String) :
    DrawnAs (s.bind updater forceFilter transform crop image)
      (s'.bind updater forceFilter transform crop image) := by
  have there (id : UpdaterId) : s'.updaters.contains id = s.updaters.contains id :=
    congrFun h.isLive (.updater id)
  unfold Session.bind
  rw [h.updaterName?, h.image?]
  split
  · next id t _ _ =>
    rw [there]
    split
    · exact (h.share t).onUpdater id fun u =>
        u.bind_drawn (h.share t).world forceFilter transform crop t
    · exact h
  · exact h

-- ==================================================== images and handles

/-- A copy of an image on both sides. -/
theorem copyImage (t : Option TextureId) (copy : String) :
    DrawnAs (s.copyImage t copy) (s'.copyImage t copy) := by
  cases t with
  | none => exact h
  | some t => exact (h.share t).keepImage copy t

/-- An import on both sides, for either pipeline. -/
theorem importTexture (name context : String) (p p' : Pipeline) (b : HardwareBuffer)
    (d : Dataspace) :
    DrawnAs (s.importTexture name context p b d).1 (s'.importTexture name context p' b d).1 := by
  unfold Session.importTexture
  rw [h.context?]
  cases s.context? context with
  | none => exact h
  | some c =>
    obtain ⟨same, answer⟩ := h.world.importTexture c p p' b d
    dsimp only
    rw [← answer]
    cases (s.world.importTexture c p b d).2 with
    | ok t => exact (h.worlds same).keepHandle name t
    | error e => exact h.worlds same

/-- A release on both sides. -/
theorem releaseHandle (name : String) (mode : TeardownMode) :
    DrawnAs (s.releaseHandle name mode).1 (s'.releaseHandle name mode).1 := by
  unfold Session.releaseHandle
  rw [h.handle?]
  cases s.handles.get? name with
  | none => exact h
  | some t =>
    exact { h with
      world := (h.world.release t mode).1
      handles := congrArg (·.erase name) h.handles }

-- ==================================================== slots and caches

/-- A frame into a named slot on both sides. -/
theorem resolveSlot (name context : String) (frame : Frame) (image : Option String) :
    DrawnAs (s.resolveSlot name context frame image).1
      (s'.resolveSlot name context frame image).1 := by
  unfold Session.resolveSlot
  rw [h.slot?, h.context?]
  cases s.slots.get? name with
  | none => exact h
  | some slot =>
    cases s.context? context with
    | none => exact h
    | some c =>
      obtain ⟨same, object, answer⟩ :=
        slot.resolve_drawn h.world c frame.buffer frame.dataspace frame.forceRecreate
      dsimp only [Option.map]
      rw [object, ← answer]
      exact ((h.worlds same).setSlot name _).keepOrDropImage image _

/-- A frame into a named cache on both sides. -/
theorem resolveCached (name context : String) (frame : Frame) (image : Option String) :
    DrawnAs (s.resolveCached name context frame image).1
      (s'.resolveCached name context frame image).1 := by
  unfold Session.resolveCached
  rw [h.cache?, h.context?]
  cases s.caches.get? name with
  | none => exact h
  | some cache =>
    cases s.context? context with
    | none => exact h
    | some c =>
      obtain ⟨same, object, answer⟩ :=
        cache.resolve_drawn h.world c frame.slot frame.buffer frame.dataspace frame.forceRecreate
      dsimp only [Option.map]
      rw [object, ← answer]
      exact ((h.worlds same).setCache name _).keepOrDropImage image _

theorem clearSlot (name : String) (mode : TeardownMode) :
    DrawnAs (s.clearSlot name mode).1 (s'.clearSlot name mode).1 := by
  unfold Session.clearSlot
  rw [h.slot?]
  cases s.slots.get? name with
  | none => exact h
  | some slot =>
    obtain ⟨same, object, -⟩ := slot.clear_drawn h.world mode
    dsimp only [Option.map]
    rw [object]
    exact (h.worlds same).setSlot name _

theorem clearCached (name : String) (slot : SlotId) (mode : TeardownMode) :
    DrawnAs (s.clearCached name slot mode).1 (s'.clearCached name slot mode).1 := by
  unfold Session.clearCached
  rw [h.cache?]
  cases s.caches.get? name with
  | none => exact h
  | some cache =>
    obtain ⟨same, object, -⟩ := cache.clear_drawn h.world slot mode
    dsimp only [Option.map]
    rw [object]
    exact (h.worlds same).setCache name _

theorem clearCache (name : String) (mode : TeardownMode) :
    DrawnAs (s.clearCache name mode).1 (s'.clearCache name mode).1 := by
  unfold Session.clearCache
  rw [h.cache?]
  cases s.caches.get? name with
  | none => exact h
  | some cache =>
    obtain ⟨same, object, -⟩ := cache.clearAll_drawn h.world mode
    dsimp only [Option.map]
    rw [object]
    exact (h.worlds same).setCache name _

-- ==================================================== fences

/-- A fence made on one side only. -/
theorem makeFence (context : String) (p : Pipeline) (useSync : Bool) :
    DrawnAs (s.makeFence context p useSync).1 s' := by
  unfold Session.makeFence
  cases s.context? context with
  | none => exact h
  | some c => exact h.unseen (FenceGate.createFence_unseen _ s.world useSync)

/-- A fence waited for on one side only. -/
theorem waitFence (context : String) (p : Pipeline) (fd : FenceFd) :
    DrawnAs (s.waitFence context p fd).1 s' := by
  unfold Session.waitFence
  cases s.context? context with
  | none => exact h
  | some c => exact h.unseen (FenceGate.wait_unseen _ s.world fd)

/-- The script of a dequeue on both sides, on the other without its fences. -/
theorem dequeueFences (context : String) (p p' : Pipeline) (previous previous' : Previous)
    (calls : List ScriptItem) :
    DrawnAs (s.dequeueFences context p previous calls).1
      (s'.dequeueFences context p' previous' (calls.filterMap ScriptItem.drawn?)).1 := by
  unfold Session.dequeueFences
  rw [h.context?]
  cases s.context? context with
  | none => exact h
  | some c => exact h.runScript calls rfl

-- ==================================================== changes

theorem desk : s'.desk = s.desk := by
  unfold Session.desk
  rw [h.fresh, h.updaterNames, h.mailboxes, h.mailboxNames, h.notifiers]

/-- Mailboxes and notifiers are drawn as they are. -/
theorem onMail (change : MailChange) : DrawnAs (s.onMail change) (s'.onMail change) := by
  unfold Session.onMail
  rw [h.desk]
  exact { h with
    fresh := rfl
    mailboxes := rfl
    mailboxNames := rfl
    notifiers := rfl }

theorem onRecorders (change : RecorderChange) :
    DrawnAs (s.onRecorders change) (s'.onRecorders change) := by
  cases change with
  | new name => exact h.newRecorder name
  | clone name copy =>
    simp only [Session.onRecorders, h.recorderNames]
    cases s.recorderNames.get? name with
    | none => exact h
    | some id => exact { h with recorderNames := rfl }
  | clear name =>
    simp only [Session.onRecorders, h.recorderNames]
    cases s.recorderNames.get? name with
    | none => exact h
    | some id =>
      have cleared := h.world.record (.cleared id)
      exact h.worlds ⟨cleared.contexts, cleared.textures, cleared.imported, cleared.calls⟩

theorem setSink (updater : String) (choice : SinkChoice) :
    DrawnAs (s.setSink updater choice) (s'.setSink updater choice) := by
  obtain ⟨chosen, same⟩ := h.chooseSink updater choice
  simp only [Session.setSink, same]
  cases (s.chooseSink updater choice).2 with
  | none => exact chosen
  | some sink => exact chosen.onNamedAlone updater fun _ => rfl

/-- The images that can be copied are drawn with the same textures. -/
theorem origin? (origin : Origin) : s'.origin? origin = s.origin? origin := by
  cases origin with
  | image name => exact h.image? name
  | handle name => exact h.handle? name
  | layer updater =>
    simp only [Session.origin?, h.updater?]
    cases s.updater? updater <;> rfl

/-- Handing a buffer back is not drawn, whichever texture it is done for. -/
theorem handBack (t t' : Option TextureId) : DrawnAs (s.handBack t) (s'.handBack t') := by
  have left : DrawnAs (s.handBack t) s' := by
    cases t with
    | none => exact h
    | some t => exact h.unseen (releaseQueue_unseen _ t)
  cases t' with
  | none => exact left
  | some t => exact left.worlds (left.world.unseen (SamePicture.refl _) (releaseQueue_unseen _ t))

/-- A change of textures and what is drawn of it. -/
theorem onTextures (change : TextureChange) :
    DrawnAs (s.onTextures change) (s'.after change.drawn) := by
  cases change with
  | copy origin copy =>
    show DrawnAs _ (s'.copyImage (s'.origin? origin) copy)
    rw [h.origin?]
    exact h.copyImage _ copy
  | dropImage name => exact h.dropImage name
  | importTexture name context pipeline buffer dataspace =>
    exact h.importTexture name context pipeline .gl buffer dataspace
  | releaseHandle name mode => exact h.releaseHandle name mode
  | dropHandle name => exact h.dropHandle name
  | newSlot name pipeline => exact h.keepSlot name (.empty pipeline)
  | resolveSlot name context frame image => exact h.resolveSlot name context frame image
  | clearSlot name mode => exact h.clearSlot name mode
  | dropSlot name => exact h.dropSlot name
  | newCache name pipeline => exact h.keepCache name (.empty pipeline)
  | resolveCached name context frame image => exact h.resolveCached name context frame image
  | clearCached name slot mode => exact h.clearCached name slot mode
  | clearCache name mode => exact h.clearCache name mode
  | dropCache name => exact h.dropCache name
  | releaseQueue keeper => exact h.handBack _ _
  | makeFence context pipeline useSync => exact h.makeFence context pipeline useSync
  | waitFence context pipeline fd => exact h.waitFence context pipeline fd
  | dequeueFences context pipeline previous calls =>
    exact h.dequeueFences context pipeline .gl previous .none calls

/-- A change and what is drawn of it. -/
theorem after (change : Change) : DrawnAs (s.after change) (s'.after change.drawn) := by
  cases change with
  | nothing => exact h
  | newState name backend => exact h.addState name rfl
  | newContext name backend => exact h.addContext name rfl
  | backend context settings =>
    unfold Change.drawn
    dsimp only
    split
    · next undrawn =>
      simp only [Session.after]
      cases s.context? context with
      | none => exact h
      | some c => exact h.unseen (s.world.adjustBackend_unseen c undrawn)
    · simp only [Session.after, h.context?]
      cases s.context? context with
      | none => exact h
      | some c => exact h.worlds (h.world.adjustBackend c settings)
  | destroy state =>
    simp only [Session.after, Change.drawn, h.state?]
    cases s.state? state with
    | none => exact h
    | some c => exact h.destroyContext none c
  | newObserver name state actions registered => exact h.newObserver name state actions registered
  | register name state => exact h.registerNamed name state
  | dropObserver name => exact h.dropObserver name
  | newUpdater name config home sink => exact h.newUpdater name config home sink
  | sink updater choice => exact h.setSink updater choice
  | setting updater setting =>
    refine h.onNamedAlone updater fun u => ?_
    cases setting with
    | size width height => exact u.setSize_drawn ..
    | blend blend => exact u.setBlend_drawn ..
    | transform | paint => rfl
  | treatment updater treatment =>
    refine h.onNamed updater fun u => ?_
    cases treatment with
    | post => exact u.post_drawn h.world
    | detach => exact u.detach_drawn h.world
    | teardown mode => exact u.teardown_drawn h.world mode
  | attach updater name source state => exact h.attach updater name source state
  | bind updater forceFilter transform crop image =>
    exact h.bind updater forceFilter transform crop image
  | apply updater =>
    simp only [Session.after, Change.drawn, h.updaterName?]
    cases s.updaterNames.get? updater with
    | none => exact h
    | some id => exact h.apply id
  | dropUpdater name => exact h.dropUpdater name
  | source name change => exact h.onSource name fun _ => by cases change <;> rfl
  | notify notifier =>
    simp only [Session.after, Change.drawn, h.notifiers]
    cases s.notifiers.get? notifier with
    | none => exact h
    | some n => exact h.post n
  | textures change => exact h.onTextures change
  | mail change => exact h.onMail change
  | recorders change => exact h.onRecorders change

-- ==================================================== commands

/-- A command and what is drawn of it. -/
theorem exec (c : Command) : DrawnAs (s.exec c).1 (s'.exec c.drawn).1 := by
  rw [exec_change, exec_change, c.change_drawn]
  exact h.after c.change

/-- Commands and what is drawn of them. -/
theorem run (commands : List Command) :
    DrawnAs (s.run commands) (s'.run (commands.map Command.drawn)) := by
  induction commands generalizing s s' with
  | nil => exact h
  | cons c commands ih => exact ih (h.exec c)

end Session.DrawnAs

end LayerFeed
