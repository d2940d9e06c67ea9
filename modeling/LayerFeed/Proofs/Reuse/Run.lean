/-
Two runs side by side: one runs commands, the other the same commands with every delivered frame
forced (`Command.forced`). To force a command is to force its change (`Command.change_forced`).
After each change, hence after each command, the two sessions are twins (`Twins.after`,
`Twins.exec`), as long as frames with equal buffers describe them in the same way, and imports
work for the updaters that are applied.
-/
import LayerFeed.Proofs.Reuse.Apply
import LayerFeed.Proofs.Session.Routine

namespace LayerFeed

open World

/-- The frames that a command gives to a source. -/
def Command.delivered : Command → List Frame
  | .attach _ _ source _ => source.frames
  | .push _ frames => frames
  | _ => []

/-- The same command, with every frame that it gives to a source forced. -/
def Command.forced : Command → Command
  | .attach updater name source state => .attach updater name source.forced state
  | .push source frames => .push source (frames.map Frame.forced)
  | c => c

-- ==================================================== frames of a change

/-- The frames that are given to a source where it changes. -/
def SourceChange.delivered : SourceChange → List Frame
  | .push frames => frames
  | .script _ => []

/-- The same change of a source, with all its frames forced. -/
def SourceChange.forced : SourceChange → SourceChange
  | .push frames => .push (frames.map Frame.forced)
  | .script items => .script items

/-- The frames that a change gives to a source. -/
def Change.delivered : Change → List Frame
  | .attach _ _ q _ => q.frames
  | .source _ change => change.delivered
  | _ => []

/-- The same change, with every frame that it gives to a source forced. -/
def Change.forced : Change → Change
  | .attach updater name q state => .attach updater name q.forced state
  | .source name change => .source name change.forced
  | change => change

/-- A command delivers what its change does. -/
theorem Command.change_delivered (c : Command) : c.change.delivered = c.delivered := by
  cases c <;> rfl

/-- To force a command is to force its change. -/
theorem Command.change_forced (c : Command) : c.forced.change = c.change.forced := by
  cases c <;> rfl

/-- A change of a source, its frames forced in the second session. -/
theorem Source.Twins.change {A : Sight → Prop} {q q' : Source} (same : Source.Twins A q q')
    (change : SourceChange) (delivered : ∀ f ∈ change.delivered, A f.sight) :
    Source.Twins A (q.change change) (q'.change change.forced) := by
  obtain ⟨rfl, allowed⟩ := same
  cases change with
  | push frames =>
    refine ⟨?_, fun f mem => (List.mem_append.1 mem).elim (allowed f) (delivered f)⟩
    simp [Source.forced, Source.change, SourceChange.forced]
  | script items => exact ⟨rfl, allowed⟩

/-- A treatment of an updater and of its twin. -/
theorem Updater.Twins.treat {A : Sight → Prop} {h h' : List Entry} {u u' : Updater}
    (held : u.Twins A h h' u') (w w' : World) (treatment : Treatment) :
    (u.treat w treatment).2.Twins A h h' (u'.treat w' treatment).2 := by
  cases treatment with
  | post => exact Updater.post_twins held w w'
  | detach => exact Updater.detach_twins held w w'
  | teardown mode => exact Updater.teardown_twins held w w' mode

namespace Session.Twins

variable {A : Sight → Prop} {s s' : Session} {t t' : TextureId} (twins : Twins A s s')

include twins

-- ==================================================== contexts and observers

/-- A new observer on both sides. -/
theorem newObserver (name state : String) (actions : List ObserverAction) (registered : Bool) :
    Twins A (s.newObserver name state actions registered)
      (s'.newObserver name state actions registered) := by
  unfold Session.newObserver
  rw [twins.state?, twins.fresh]
  cases s.state? state with
  | none => exact twins
  | some c =>
    have made : Twins A
        { s with
          fresh := s.fresh + 1
          observers := s.observers.set s.fresh { value := { name, context := c, actions } } }
        { s' with
          fresh := s.fresh + 1
          observers := s'.observers.set s.fresh { value := { name, context := c, actions } } } :=
      { twins with
        rest := congrArg (fun t : Session => { t with
          fresh := s.fresh + 1
          observers := t.observers.set s.fresh
            { value := { name, context := c, actions } } }) twins.rest }
    dsimp only
    cases registered with
    | false => exact made.nameObserver name s.fresh
    | true => exact (made.register c _).nameObserver name s.fresh

/-- A registration on both sides. -/
theorem registerNamed (name state : String) :
    Twins A (s.registerNamed name state) (s'.registerNamed name state) := by
  have participant : s'.participant? name = s.participant? name :=
    twins.read (fun s => s.participant? name) fun _ => rfl
  unfold Session.registerNamed
  rw [participant, twins.state?]
  split
  · exact twins.register _ _
  · exact twins

-- ==================================================== sinks

/-- What recorders and texts hold is not compared. -/
theorem traces (traces traces' : Traces) :
    Twins A { s with world.traces := traces } { s' with world.traces := traces' } :=
  twins.grow twins.contexts (List.Subset.refl _) (List.Subset.refl _)

theorem recorderName? (name : String) :
    s'.recorderNames.get? name = s.recorderNames.get? name :=
  twins.read (fun s => s.recorderNames.get? name) fun _ => rfl

theorem recorder (name : String) :
    Twins A (s.recorder name).1 (s'.recorder name).1
      ∧ (s'.recorder name).2 = (s.recorder name).2 := by
  unfold Session.recorder
  rw [twins.recorderName?, twins.freshRecorder]
  cases s.recorderNames.get? name with
  | some id => exact ⟨twins, rfl⟩
  | none =>
    have opened := twins.traces (s.world.traces.openRecorder s.freshRecorder)
      (s'.world.traces.openRecorder s.freshRecorder)
    exact ⟨{ opened with
      rest := congrArg (fun t : Session => { t with
        freshRecorder := s.freshRecorder + 1
        recorderNames := t.recorderNames.set name s.freshRecorder }) twins.rest }, rfl⟩

theorem newRecorder (name : String) : Twins A (s.newRecorder name) (s'.newRecorder name) := by
  have unnamed : Twins A { s with recorderNames := s.recorderNames.erase name }
      { s' with recorderNames := s'.recorderNames.erase name } :=
    { twins with
      rest := congrArg (fun t : Session =>
        { t with recorderNames := t.recorderNames.erase name }) twins.rest }
  exact (unnamed.recorder name).1

/-- A choice of a sink on both sides, which gives the same sink. -/
theorem chooseSink (updater : String) (sink : SinkChoice) :
    Twins A (s.chooseSink updater sink).1 (s'.chooseSink updater sink).1
      ∧ (s'.chooseSink updater sink).2 = (s.chooseSink updater sink).2 := by
  cases sink with
  | unchanged | discard | standardError | history => exact ⟨twins, rfl⟩
  | recorder name =>
    obtain ⟨found, id⟩ := twins.recorder name
    exact ⟨found, congrArg (fun id => some (Sink.recorder id)) id⟩
  | text name limit => exact ⟨twins.traces _ _, rfl⟩

-- ==================================================== updaters

/-- A new updater on both sides. -/
theorem newUpdater (name : String) (config : Config) (home : Home) (sink : SinkChoice) :
    Twins A (s.newUpdater name config home sink).1 (s'.newUpdater name config home sink).1 := by
  have homes : s'.homeContext? home = s.homeContext? home := by
    cases home with
    | registered | unregistered => exact twins.state? _
    | context => exact twins.context? _
  unfold Session.newUpdater
  rw [homes, twins.fresh]
  cases s.homeContext? home with
  | none => exact twins
  | some c =>
    have numbered : Twins A { s with fresh := s.fresh + 1 } { s' with fresh := s.fresh + 1 } :=
      { twins with
        rest := congrArg (fun t : Session => { t with fresh := s.fresh + 1 }) twins.rest }
    obtain ⟨chosen, choice⟩ := numbered.chooseSink name sink
    dsimp only
    rw [choice]
    have made := chosen.setUpdater s.fresh (HeldTwins.new (Updater.setter_twins
      (Updater.new_twins s.fresh c config)
      (.sink (({ s with fresh := s.fresh + 1 }.chooseSink name sink).2.getD .none))))
    cases home with
    | registered state => exact (made.register c _).nameUpdater name s.fresh
    | unregistered state => exact made.nameUpdater name s.fresh
    | context context => exact made.nameUpdater name s.fresh

/-- A function that makes twins of twins, on a named updater on both sides. -/
theorem onNamed {P : Entry → Prop} {f : Updater → World → World × Updater} (name : String)
    (writes : ∀ u w, Writes P w (f u w).1)
    (same : ∀ {u u'}, u.Twins A s.world.history s'.world.history u' →
      (f u s.world).2.Twins A s.world.history s'.world.history (f u' s'.world).2) :
    Twins A (s.onNamed name f) (s'.onNamed name f) := by
  unfold Session.onNamed
  rw [twins.updaterName?]
  cases s.updaterNames.get? name with
  | none => exact twins
  | some id => exact twins.onUpdater id writes same

/-- A setter on both sides. -/
theorem setNamed {f : Updater → Updater} (name : String) (setter : Updater.Setter f) :
    Twins A (s.onNamedAlone name f) (s'.onNamedAlone name f) :=
  twins.onNamed (P := fun _ => True) name (fun _ w => .refl w) fun held =>
    Updater.setter_twins held setter

/-- The source attached on one side, and on the other with its frames forced. -/
theorem attach (updater name : String) (source : Source) (state : Option String)
    (allowed : ∀ f ∈ source.frames, A f.sight) :
    Twins A (s.attach updater name source state) (s'.attach updater name source.forced state) := by
  have states : s'.state? = s.state? := funext twins.state?
  unfold Session.attach
  rw [twins.updaterName?, twins.fresh, states]
  cases s.updaterNames.get? updater with
  | none => exact twins
  | some id =>
    have made : Twins A
        { s with
          fresh := s.fresh + 1
          sources := s.sources.set s.fresh { source with context := state.bind s.state? }
          sourceNames := s.sourceNames.set name s.fresh }
        { s' with
          fresh := s.fresh + 1
          sources := s'.sources.set s.fresh { source.forced with context := state.bind s.state? }
          sourceNames := s'.sourceNames.set name s.fresh } :=
      { twins with
        rest := congrArg (fun t : Session => { t with
          fresh := s.fresh + 1
          sourceNames := t.sourceNames.set name s.fresh }) twins.rest
        sources := twins.sources.set s.fresh ⟨rfl, allowed⟩ }
    exact made.onUpdater id (fun u w => u.attach_writes w _) fun held =>
      Updater.attach_twins held _ _ ⟨s.fresh, name, id⟩

/-- A change of a source on each side that makes twins of twins. -/
theorem onSource {f g : Source → Source} (name : String)
    (same : ∀ q q', Source.Twins A q q' → Source.Twins A (f q) (g q')) :
    Twins A (s.onSource name f) (s'.onSource name g) := by
  have named : s'.sourceNames.get? name = s.sourceNames.get? name :=
    twins.read (fun s => s.sourceNames.get? name) fun _ => rfl
  unfold Session.onSource
  rw [named]
  cases s.sourceNames.get? name with
  | none => exact twins
  | some id => exact { twins with sources := twins.sources.modify id same }

/-- A post on both sides. -/
theorem post (n : Notifier) : Twins A (s.post n) (s'.post n) := by
  cases n with
  | updater id =>
    exact twins.onUpdater (P := fun _ => True) id (fun _ _ => .record trivial) fun held =>
      Updater.post_twins held _ _
  | mailbox id =>
    exact { twins with
      rest := congrArg (fun t : Session =>
        { t with mailboxes := t.mailboxes.modify id Mailbox.raise }) twins.rest }

/-- A share more of a texture on each side. -/
theorem share (t t' : TextureId) :
    Twins A (s.onWorld (·.share t)) (s'.onWorld (·.share t')) :=
  twins.ages (.of_writes (P := fun _ => True) (onTexture_writes _ _ _))
    (.of_writes (P := fun _ => True) (onTexture_writes _ _ _))

/-- An image bound on both sides. -/
theorem bind (updater : String) (forceFilter : Bool) (transform : TextureTransform)
    (crop : Rect) (image : String) :
    Twins A (s.bind updater forceFilter transform crop image)
      (s'.bind updater forceFilter transform crop image) := by
  have there (id : UpdaterId) : s'.updaters.contains id = s.updaters.contains id :=
    twins.updaters.contains id
  have named := twins.images.get? image
  unfold Session.bind
  rw [twins.updaterName?]
  generalize s.images.get? image = o, s'.images.get? image = o' at named
  cases s.updaterNames.get? updater with
  | none => exact twins
  | some id =>
    cases named with
    | none => exact twins
    | @some t t' same =>
      dsimp only
      rw [there]
      split
      · exact (twins.share t t').deal id (fun u w => u.bind_writes w _ _ _ _)
          (fun u w => u.bind_writes w _ _ _ _) fun _ _ held =>
            (Updater.bind_twins held same _ _ _ _ _).mono (Updater.bind_writes _ _ _ _ _ _).subset
              (Updater.bind_writes _ _ _ _ _ _).subset
      · exact twins

-- ==================================================== images and handles

/-- A copy on both sides, of images that look the same. -/
theorem copyImage {o o' : Option TextureId}
    (same : Option.Rel (SameSight s.world.history s'.world.history) o o') (copy : String) :
    Twins A (s.copyImage o copy) (s'.copyImage o' copy) := by
  cases same with
  | none => exact twins
  | @some t t' same => exact (twins.share t t').keepImage copy same

/-- An import outside any updater, the same on both sides. -/
theorem importTexture (name context : String) (p : Pipeline) (b : HardwareBuffer)
    (d : Dataspace) :
    Twins A (s.importTexture name context p b d).1 (s'.importTexture name context p b d).1 := by
  unfold Session.importTexture
  rw [twins.context?]
  cases s.context? context with
  | none => exact twins
  | some c =>
    have aged := twins.worlds (importTexture_writes s.world c p b d)
      (importTexture_writes s'.world c p b d)
    dsimp only
    cases serves : s.world.serves c with
    | true =>
      obtain ⟨answer, depicts⟩ := importTexture_serves serves p b d
      obtain ⟨answer', depicts'⟩ := importTexture_serves
        ((serves_congr twins.contexts c).trans serves) p b d
      rw [answer, answer']
      exact aged.keepHandle name ⟨_, depicts, depicts'⟩
    | false =>
      obtain ⟨e, refused⟩ := importTexture_refuses serves p b d
      obtain ⟨e', refused'⟩ := importTexture_refuses
        ((serves_congr twins.contexts c).trans serves) p b d
      rw [refused, refused']
      exact aged

/-- A release on both sides. -/
theorem releaseHandle (name : String) (mode : TeardownMode) :
    Twins A (s.releaseHandle name mode).1 (s'.releaseHandle name mode).1 := by
  have found := twins.handles.get? name
  unfold Session.releaseHandle
  generalize s.handles.get? name = o, s'.handles.get? name = o' at found
  cases found with
  | none => exact twins
  | @some t t' same =>
    have aged := twins.worlds (release_writes ordinary_calls s.world t mode)
      (release_writes ordinary_calls s'.world t' mode)
    exact { aged with handles := aged.handles.erase name }

-- ==================================================== slots and caches

section Resolve

variable (ledger : s.world.Ledger) (ledger' : s'.world.Ledger)

include ledger ledger'

/-- A frame into a named slot on both sides. -/
theorem resolveSlot (name context : String) (frame : Frame) (image : Option String) :
    Twins A (s.resolveSlot name context frame image).1
      (s'.resolveSlot name context frame image).1 := by
  have found := twins.slots.get? name
  unfold Session.resolveSlot
  rw [twins.context?]
  generalize s.slots.get? name = o, s'.slots.get? name = o' at found
  cases found with
  | none => exact twins
  | @some slot slot' same =>
    cases s.context? context with
    | none => exact twins
    | some c =>
      obtain ⟨object, shown⟩ := same.resolve ledger ledger' c frame.buffer frame.dataspace
        (Sight.agrees_alike _ frame.forceRecreate (serves_congr twins.contexts c))
      have aged := twins.worlds
        (slot.resolve_writes s.world c frame.buffer frame.dataspace frame.forceRecreate)
        (slot'.resolve_writes s'.world c frame.buffer frame.dataspace frame.forceRecreate)
      exact (aged.setSlot name object).keepOrDropImage image shown

/-- A frame into a named cache on both sides. -/
theorem resolveCached (name context : String) (frame : Frame) (image : Option String) :
    Twins A (s.resolveCached name context frame image).1
      (s'.resolveCached name context frame image).1 := by
  have found := twins.caches.get? name
  unfold Session.resolveCached
  rw [twins.context?]
  generalize s.caches.get? name = o, s'.caches.get? name = o' at found
  cases found with
  | none => exact twins
  | @some cache cache' same =>
    cases s.context? context with
    | none => exact twins
    | some c =>
      obtain ⟨object, shown⟩ := same.resolve ledger ledger' c frame.slot frame.buffer
        frame.dataspace (Sight.agrees_alike _ frame.forceRecreate (serves_congr twins.contexts c))
      have aged := twins.worlds
        (cache.resolve_writes s.world c frame.slot frame.buffer frame.dataspace frame.forceRecreate)
        (cache'.resolve_writes s'.world c frame.slot frame.buffer frame.dataspace
          frame.forceRecreate)
      exact (aged.setCache name object).keepOrDropImage image shown

end Resolve

theorem clearSlot (name : String) (mode : TeardownMode) :
    Twins A (s.clearSlot name mode).1 (s'.clearSlot name mode).1 := by
  have found := twins.slots.get? name
  unfold Session.clearSlot
  generalize s.slots.get? name = o, s'.slots.get? name = o' at found
  cases found with
  | none => exact twins
  | @some slot slot' same =>
    have aged := twins.worlds (slot.clear_writes ordinary_calls s.world mode)
      (slot'.clear_writes ordinary_calls s'.world mode)
    exact aged.setSlot name (same.clear _ _ mode)

theorem clearCached (name : String) (slot : SlotId) (mode : TeardownMode) :
    Twins A (s.clearCached name slot mode).1 (s'.clearCached name slot mode).1 := by
  have found := twins.caches.get? name
  unfold Session.clearCached
  generalize s.caches.get? name = o, s'.caches.get? name = o' at found
  cases found with
  | none => exact twins
  | @some cache cache' same =>
    have left := cache.clear_writes ordinary_calls s.world slot mode
    have right := cache'.clear_writes ordinary_calls s'.world slot mode
    have aged := twins.worlds left right
    exact aged.setCache name ((same.clear _ _ slot mode).mono left.subset right.subset)

theorem clearCache (name : String) (mode : TeardownMode) :
    Twins A (s.clearCache name mode).1 (s'.clearCache name mode).1 := by
  have found := twins.caches.get? name
  unfold Session.clearCache
  generalize s.caches.get? name = o, s'.caches.get? name = o' at found
  cases found with
  | none => exact twins
  | @some cache cache' same =>
    have left := cache.clearAll_writes ordinary_calls s.world mode
    have right := cache'.clearAll_writes ordinary_calls s'.world mode
    have aged := twins.worlds left right
    exact aged.setCache name ((same.clearAll _ _ mode).mono left.subset right.subset)

-- ==================================================== fences

omit twins in
/-- A fence made is ageing. -/
theorem makeFence_ages (s : Session) (context : String) (p : Pipeline) (useSync : Bool) :
    Ages s (s.makeFence context p useSync).1 := by
  unfold Session.makeFence
  cases s.context? context with
  | none => exact .refl s
  | some c => exact .of_writes (FenceGate.createFence_writes ⟨c, p⟩ s.world useSync)

omit twins in
/-- A fence waited for is ageing. -/
theorem waitFence_ages (s : Session) (context : String) (p : Pipeline) (fd : FenceFd) :
    Ages s (s.waitFence context p fd).1 := by
  unfold Session.waitFence
  cases s.context? context with
  | none => exact .refl s
  | some c => exact .of_writes (FenceGate.wait_writes ⟨c, p⟩ s.world fd)

/-- A script on both sides. -/
theorem dequeueFences (context : String) (p : Pipeline) (previous : Previous)
    (calls : List ScriptItem) :
    Twins A (s.dequeueFences context p previous calls).1
      (s'.dequeueFences context p previous calls).1 := by
  unfold Session.dequeueFences
  rw [twins.context?]
  cases s.context? context with
  | none => exact twins
  | some c => exact twins.runScript calls rfl

-- ==================================================== changes

/-- Mailboxes and notifiers have nothing of textures, and stay the same. -/
theorem onMail (change : MailChange) : Twins A (s.onMail change) (s'.onMail change) := by
  have desk : s'.desk = s.desk := twins.read Session.desk fun _ => rfl
  unfold Session.onMail
  rw [desk]
  exact { twins with
    rest := congrArg (fun t : Session => t.setDesk (s.desk.change change)) twins.rest }

theorem onRecorders (change : RecorderChange) :
    Twins A (s.onRecorders change) (s'.onRecorders change) := by
  cases change with
  | new name => exact twins.newRecorder name
  | clone name copy =>
    simp only [Session.onRecorders, twins.recorderName?]
    cases s.recorderNames.get? name with
    | none => exact twins
    | some id =>
      exact { twins with
        rest := congrArg (fun t : Session =>
          { t with recorderNames := t.recorderNames.set copy id }) twins.rest }
  | clear name =>
    simp only [Session.onRecorders, twins.recorderName?]
    cases s.recorderNames.get? name with
    | none => exact twins
    | some id =>
      exact twins.worlds (P := fun _ => True) (Q := fun _ => True)
        ⟨rfl, [_], rfl, fun _ _ => trivial⟩ ⟨rfl, [_], rfl, fun _ _ => trivial⟩

theorem setSink (updater : String) (choice : SinkChoice) :
    Twins A (s.setSink updater choice) (s'.setSink updater choice) := by
  obtain ⟨chosen, same⟩ := twins.chooseSink updater choice
  simp only [Session.setSink, same]
  cases (s.chooseSink updater choice).2 with
  | none => exact chosen
  | some sink => exact chosen.setNamed updater (.sink sink)

/-- An image to be copied shows the same in both sessions. -/
theorem origin? (origin : Origin) :
    Option.Rel (SameSight s.world.history s'.world.history) (s.origin? origin)
      (s'.origin? origin) := by
  cases origin with
  | image name => exact twins.images.get? name
  | handle name => exact twins.handles.get? name
  | layer updater =>
    have found := twins.updater? updater
    unfold Session.origin?
    dsimp only
    generalize s.updater? updater = o, s'.updater? updater = o' at found
    cases found with
    | none => exact .none
    | some same => exact Updater.shownImage_twins same

omit twins in
/-- A texture handed back is ageing. -/
theorem handBack_ages (s : Session) (t : Option TextureId) : Ages s (s.handBack t) := by
  cases t with
  | none => exact .refl s
  | some t => exact .of_writes (releaseQueue_writes ordinary_calls s.world t)

/-- A change of textures, made in both sessions. -/
theorem onTextures (ledger : s.world.Ledger) (ledger' : s'.world.Ledger)
    (change : TextureChange) : Twins A (s.onTextures change) (s'.onTextures change) := by
  cases change with
  | copy origin copy => exact twins.copyImage (twins.origin? origin) copy
  | dropImage name => exact twins.dropImage name
  | importTexture name context pipeline buffer dataspace =>
    exact twins.importTexture name context pipeline buffer dataspace
  | releaseHandle name mode => exact twins.releaseHandle name mode
  | dropHandle name => exact twins.dropHandle name
  | newSlot name pipeline => exact twins.newSlot name pipeline
  | resolveSlot name context frame image =>
    exact twins.resolveSlot ledger ledger' name context frame image
  | clearSlot name mode => exact twins.clearSlot name mode
  | dropSlot name => exact twins.dropSlot name
  | newCache name pipeline => exact twins.newCache name pipeline
  | resolveCached name context frame image =>
    exact twins.resolveCached ledger ledger' name context frame image
  | clearCached name slot mode => exact twins.clearCached name slot mode
  | clearCache name mode => exact twins.clearCache name mode
  | dropCache name => exact twins.dropCache name
  | releaseQueue keeper => exact twins.ages (handBack_ages s _) (handBack_ages s' _)
  | makeFence context pipeline useSync =>
    exact twins.ages (makeFence_ages s ..) (makeFence_ages s' ..)
  | waitFence context pipeline fd => exact twins.ages (waitFence_ages s ..) (waitFence_ages s' ..)
  | dequeueFences context pipeline previous calls =>
    exact twins.dequeueFences context pipeline previous calls

section Runs

variable (described : ∀ a b, A a → A b → a.buffer = b.buffer → a.desc = b.desc)
variable (kept : s.Kept) (kept' : s'.Kept)

include described kept kept'

/-- A change, its frames forced in the second session. -/
theorem after (change : Change) (delivered : ∀ f ∈ change.delivered, A f.sight)
    (serves : ∀ id u, s.updaterOf? id = some u → (s.after change).world.serves u.context) :
    Twins A (s.after change) (s'.after change.forced) := by
  cases change with
  | nothing => exact twins
  | newState name backend => exact twins.addState name backend
  | newContext name backend => exact twins.addContext name backend
  | backend context settings =>
    simp only [Session.after, Change.forced, twins.context?]
    cases s.context? context with
    | none => exact twins
    | some c => exact twins.adjustBackend c settings
  | destroy state =>
    simp only [Session.after, Change.forced, twins.state?]
    cases s.state? state with
    | none => exact twins
    | some c => exact twins.destroyContext none c
  | newObserver name state actions registered =>
    exact twins.newObserver name state actions registered
  | register name state => exact twins.registerNamed name state
  | dropObserver name => exact twins.dropObserver name
  | newUpdater name config home sink => exact twins.newUpdater name config home sink
  | sink updater choice => exact twins.setSink updater choice
  | setting updater setting => exact twins.setNamed updater (setting_setter setting)
  | treatment updater treatment =>
    exact twins.onNamed (P := fun _ => True) updater
      (treat_writes (fun _ _ => trivial) fun _ _ => trivial) fun held => held.treat _ _ treatment
  | attach updater name source state => exact twins.attach updater name source state delivered
  | bind updater forceFilter transform crop image =>
    exact twins.bind updater forceFilter transform crop image
  | apply updater =>
    simp only [Session.after, Change.forced, twins.updaterName?] at serves ⊢
    cases named : s.updaterNames.get? updater with
    | none => exact twins
    | some id =>
      rw [named] at serves
      exact twins.apply described kept kept' (serves id)
  | dropUpdater name => exact twins.dropUpdater name
  | source name change => exact twins.onSource name fun _ _ same => same.change change delivered
  | notify notifier =>
    have found : s'.notifiers.get? notifier = s.notifiers.get? notifier :=
      twins.read (fun s => s.notifiers.get? notifier) fun _ => rfl
    simp only [Session.after, Change.forced, found]
    cases s.notifiers.get? notifier with
    | none => exact twins
    | some n => exact twins.post n
  | textures change =>
    exact twins.onTextures kept.order.sound.ledger kept'.order.sound.ledger change
  | mail change => exact twins.onMail change
  | recorders change => exact twins.onRecorders change

-- ==================================================== commands

/-- One command, its frames forced in the second session. -/
theorem exec (c : Command) (delivered : ∀ f ∈ c.delivered, A f.sight)
    (serves : ∀ id u, s.updaterOf? id = some u → (s.exec c).1.world.serves u.context) :
    Twins A (s.exec c).1 (s'.exec c.forced).1 := by
  rw [exec_change] at serves ⊢
  rw [exec_change, c.change_forced]
  rw [← c.change_delivered] at delivered
  exact twins.after described kept kept' c.change delivered serves

end Runs

end Session.Twins

end LayerFeed
