/-
Sessions as far as they are drawn. A session is `DrawnAs` another one if their worlds make the
same picture and the other has the drawn image of every updater, source, slot and cache, and
else the same names, registrations, observers and mailboxes. What is done to both of them alike
keeps this, the destruction of a context with all that its observers do included
(`destroyContext`), and so does a script in which the other session leaves out all that
concerns fences (`runScript`), and an apply (`apply`).
-/
import LayerFeed.Proofs.Drawing.Updater
import LayerFeed.Session.Apply

namespace LayerFeed

open World

-- ==================================================== objects

/-- What a script does for the picture: nothing that concerns fences. -/
def ScriptItem.drawn? : ScriptItem → Option ScriptItem
  | .fence _ | .wait _ => none
  | .notify => some .notify
  | .destroy => some .destroy
  | .adjust settings =>
    let kept := settings.filter BackendSetting.isDrawn
    if kept = [] then none else some (.adjust kept)

/-- A source as far as it is drawn. -/
def Source.drawn (q : Source) : Source :=
  { q with script := q.script.filterMap ScriptItem.drawn? }

/-- A source delivers the same frame without its fence script. -/
theorem Source.next_drawn (q : Source) : q.drawn.next = (q.next.1, q.next.2.drawn) := by
  unfold next
  rw [show q.drawn.fifo = q.fifo from rfl, show q.drawn.frames = q.frames from rfl]
  split <;> rfl

/-- An updater with its holders, as far as it is drawn. -/
def Held.drawn (held : Held Updater) : Held Updater := { held with value := held.value.drawn }

namespace Session

/-- The session `s'` is what is drawn of the session `s`. -/
structure DrawnAs (s s' : Session) : Prop where
  world : SamePicture s.world s'.world
  fresh : s'.fresh = s.fresh
  freshRecorder : s'.freshRecorder = s.freshRecorder
  contextNames : s'.contextNames = s.contextNames
  stateNames : s'.stateNames = s.stateNames
  registries : s'.registries = s.registries
  roll : s'.roll = s.roll
  updaters : s'.updaters = s.updaters.map Held.drawn
  updaterNames : s'.updaterNames = s.updaterNames
  observers : s'.observers = s.observers
  observerNames : s'.observerNames = s.observerNames
  sources : s'.sources = s.sources.map Source.drawn
  sourceNames : s'.sourceNames = s.sourceNames
  mailboxes : s'.mailboxes = s.mailboxes
  mailboxNames : s'.mailboxNames = s.mailboxNames
  notifiers : s'.notifiers = s.notifiers
  recorderNames : s'.recorderNames = s.recorderNames
  images : s'.images = s.images
  handles : s'.handles = s.handles
  slots : s'.slots = s.slots.map Slot.drawn
  caches : s'.caches = s.caches.map SlotCache.drawn

namespace DrawnAs

variable {s s' : Session} {w w' : World} {e e' : Entry} (h : DrawnAs s s')

include h

-- ==================================================== worlds

/-- Both worlds change, and make the same picture still. -/
theorem worlds (same : SamePicture w w') :
    DrawnAs { s with world := w } { s' with world := w' } := { h with world := same }

/-- What is not seen may be done to the first session alone. -/
theorem unseen (same : SamePicture s.world w) : DrawnAs { s with world := w } s' :=
  h.worlds (same.symm.trans h.world)

/-- A change of the world on both sides. -/
theorem onWorld {f : World → World} (same : SamePicture (f s.world) (f s'.world)) :
    DrawnAs (s.onWorld f) (s'.onWorld f) := h.worlds same

theorem record (e : Entry) : DrawnAs (s.record e) (s'.record e) := h.onWorld (h.world.record e)

/-- Remarks may differ. -/
theorem remark (undrawn : e.drawCall? = none) (undrawn' : e'.drawCall? = none) :
    DrawnAs (s.record e) (s'.record e') :=
  h.worlds (h.world.unseen (record_unseen _ undrawn) (record_unseen _ undrawn'))

-- ==================================================== updaters

/-- The same updaters, up to what is not drawn. -/
theorem held? (id : UpdaterId) :
    s'.updaters.get? id = (s.updaters.get? id).map Held.drawn := by
  rw [h.updaters, Table.get?_map]

theorem updaterOf? (id : UpdaterId) :
    s'.updaterOf? id = (s.updaterOf? id).map Updater.drawn := by
  unfold Session.updaterOf?
  rw [h.held?]
  cases s.updaters.get? id <;> rfl

theorem updaterName? (name : String) :
    s'.updaterNames.get? name = s.updaterNames.get? name := congrArg (·.get? name) h.updaterNames

/-- Under the same names. -/
theorem updater? (name : String) : s'.updater? name = (s.updater? name).map Updater.drawn := by
  unfold Session.updater?
  rw [h.updaterName?]
  cases s.updaterNames.get? name with
  | none => rfl
  | some id => exact h.updaterOf? id

theorem setUpdater (id : UpdaterId) (held : Held Updater) :
    DrawnAs { s with updaters := s.updaters.set id held }
      { s' with updaters := s'.updaters.set id held.drawn } :=
  { h with updaters := by rw [Table.map_set, h.updaters] }

theorem setObserver (id : ObserverId) (held : Held Observer) :
    DrawnAs { s with observers := s.observers.set id held }
      { s' with observers := s'.observers.set id held } :=
  { h with observers := by rw [h.observers] }

/-- Operations that do to the drawn image what they do to the updater. -/
theorem onUpdater {f g : Updater → World → World × Updater} (id : UpdaterId)
    (same : ∀ u, SamePicture (f u s.world).1 (g u.drawn s'.world).1
      ∧ (g u.drawn s'.world).2 = (f u s.world).2.drawn) :
    DrawnAs (s.onUpdater id f) (s'.onUpdater id g) := by
  unfold Session.onUpdater
  rw [h.held?]
  cases s.updaters.get? id with
  | none => exact h
  | some held =>
    obtain ⟨picture, object⟩ := same held.value
    have drawn : ({ held.drawn with value := (g held.drawn.value s'.world).2 } : Held Updater)
        = Held.drawn { held with value := (f held.value s.world).2 } := by
      rw [Held.drawn, Held.drawn, object]
    dsimp only [Option.map]
    rw [drawn]
    exact (h.worlds picture).setUpdater id _

/-- Operations that leave the world alone. -/
theorem onUpdaterAlone {f : Updater → Updater} (id : UpdaterId)
    (same : ∀ u : Updater, f u.drawn = (f u).drawn) :
    DrawnAs (s.onUpdater id fun u w => (w, f u)) (s'.onUpdater id fun u w => (w, f u)) :=
  h.onUpdater id fun u => ⟨h.world, same u⟩

-- ==================================================== holders of participants

/-- The same participants live. -/
theorem isLive : s'.isLive = s.isLive := by
  funext p
  cases p with
  | updater id => exact (congrArg (·.contains id) h.updaters).trans (Table.contains_map ..)
  | observer id => exact congrArg (·.contains id) h.observers

/-- A share of a participant on both sides. -/
theorem hold (p : Participant) : DrawnAs (s.hold p) (s'.hold p) := by
  cases p with
  | updater id =>
    refine { h with updaters := ?_ }
    show s'.updaters.modify id _ = (s.updaters.modify id _).map Held.drawn
    rw [h.updaters]
    refine (Table.map_modify (f := Held.drawn) ?_ s.updaters id).symm
    exact fun _ => rfl
  | observer id =>
    refine { h with observers := ?_ }
    rw [Session.hold, Session.hold, h.observers]

/-- A share less on both sides, which is the last in both or in neither. -/
theorem letGo (p : Participant) : DrawnAs (s.letGo p) (s'.letGo p) := by
  cases p with
  | updater id =>
    unfold Session.letGo
    dsimp only
    rw [h.held?]
    cases s.updaters.get? id with
    | none => exact h
    | some held =>
      dsimp only [Option.map]
      rw [show held.drawn.holds = held.holds from rfl]
      split
      · exact { h with
          world := held.value.discard_drawn h.world
          updaters := by rw [Table.map_erase, h.updaters]
          roll := by rw [h.roll] }
      · exact h.setUpdater id _
  | observer id =>
    unfold Session.letGo
    dsimp only
    rw [h.observers]
    cases s.observers.get? id with
    | none => exact h
    | some held =>
      dsimp only
      split
      · exact { h with observers := rfl, roll := by rw [h.roll] }
      · exact { h with observers := rfl }

-- ==================================================== registries

/-- The same registries. -/
theorem registry (c : ContextId) : s'.registry c = s.registry c :=
  congrArg (fun t => (Table.get? t c).getD []) h.registries

/-- A registration on both sides. -/
theorem register (c : ContextId) (p : Participant) :
    DrawnAs (s.register c p) (s'.register c p) :=
  { h with
    registries := by
      show s'.registries.set _ _ = s.registries.set _ _
      rw [h.registries, h.registry, h.isLive]
    roll := by
      show s'.roll ++ _ = s.roll ++ _
      rw [h.roll] }

-- ==================================================== names

theorem observerName? (name : String) :
    s'.observerNames.get? name = s.observerNames.get? name :=
  congrArg (·.get? name) h.observerNames

theorem image? (name : String) : s'.images.get? name = s.images.get? name :=
  congrArg (·.get? name) h.images

theorem handle? (name : String) : s'.handles.get? name = s.handles.get? name :=
  congrArg (·.get? name) h.handles

theorem nameUpdater (name : String) (id : UpdaterId) :
    DrawnAs (s.nameUpdater name id) (s'.nameUpdater name id) := by
  have named : DrawnAs { s with updaterNames := s.updaterNames.set name id }
      { s' with updaterNames := s'.updaterNames.set name id } :=
    { h with updaterNames := by rw [h.updaterNames] }
  unfold Session.nameUpdater
  dsimp only
  rw [h.updaterName?]
  cases s.updaterNames.get? name with
  | none => exact named
  | some old => exact named.letGo (.updater old)

theorem dropUpdater (name : String) : DrawnAs (s.dropUpdater name) (s'.dropUpdater name) := by
  have unnamed : DrawnAs { s with updaterNames := s.updaterNames.erase name }
      { s' with updaterNames := s'.updaterNames.erase name } :=
    { h with updaterNames := by rw [h.updaterNames] }
  unfold Session.dropUpdater
  rw [h.updaterName?]
  cases s.updaterNames.get? name with
  | none => exact h
  | some id => exact unnamed.letGo (.updater id)

theorem nameObserver (name : String) (id : ObserverId) :
    DrawnAs (s.nameObserver name id) (s'.nameObserver name id) := by
  have named : DrawnAs { s with observerNames := s.observerNames.set name id }
      { s' with observerNames := s'.observerNames.set name id } :=
    { h with observerNames := by rw [h.observerNames] }
  unfold Session.nameObserver
  dsimp only
  rw [h.observerName?]
  cases s.observerNames.get? name with
  | none => exact named
  | some old => exact named.letGo (.observer old)

theorem dropObserver (name : String) : DrawnAs (s.dropObserver name) (s'.dropObserver name) := by
  have unnamed : DrawnAs { s with observerNames := s.observerNames.erase name }
      { s' with observerNames := s'.observerNames.erase name } :=
    { h with observerNames := by rw [h.observerNames] }
  unfold Session.dropObserver
  rw [h.observerName?]
  cases s.observerNames.get? name with
  | none => exact h
  | some id => exact unnamed.letGo (.observer id)

/-- A texture less on both sides. -/
theorem letGoTexture (t : Option TextureId) : DrawnAs (s.letGoTexture t) (s'.letGoTexture t) :=
  h.onWorld (h.world.letGoOf t)

/-- An image kept on both sides. -/
theorem keepImage (name : String) (t : TextureId) :
    DrawnAs (s.keepImage name t) (s'.keepImage name t) := by
  have kept : DrawnAs { s with images := s.images.set name t }
      { s' with images := s'.images.set name t } := { h with images := by rw [h.images] }
  unfold Session.keepImage
  rw [h.image?]
  exact kept.letGoTexture _

theorem keepOrDropImage (name : Option String) (t : Option TextureId) :
    DrawnAs (s.keepOrDropImage name t) (s'.keepOrDropImage name t) := by
  cases t with
  | none => cases name <;> exact h
  | some t =>
    cases name with
    | none => exact h.letGoTexture (some t)
    | some name => exact h.keepImage name t

theorem dropImage (name : String) : DrawnAs (s.dropImage name) (s'.dropImage name) := by
  have dropped : DrawnAs { s with images := s.images.erase name }
      { s' with images := s'.images.erase name } := { h with images := by rw [h.images] }
  unfold Session.dropImage
  rw [h.image?]
  exact dropped.letGoTexture _

/-- A handle kept on both sides. -/
theorem keepHandle (name : String) (t : TextureId) :
    DrawnAs (s.keepHandle name t) (s'.keepHandle name t) := by
  have kept : DrawnAs { s with handles := s.handles.set name t }
      { s' with handles := s'.handles.set name t } := { h with handles := by rw [h.handles] }
  unfold Session.keepHandle
  rw [h.handle?]
  exact kept.letGoTexture _

theorem dropHandle (name : String) : DrawnAs (s.dropHandle name) (s'.dropHandle name) := by
  have dropped : DrawnAs { s with handles := s.handles.erase name }
      { s' with handles := s'.handles.erase name } := { h with handles := by rw [h.handles] }
  unfold Session.dropHandle
  rw [h.handle?]
  exact dropped.letGoTexture _

-- ==================================================== slots and caches

/-- The same named slots, up to what is not drawn. -/
theorem slot? (name : String) : s'.slots.get? name = (s.slots.get? name).map Slot.drawn := by
  rw [h.slots, Table.get?_map]

/-- And the same named caches. -/
theorem cache? (name : String) :
    s'.caches.get? name = (s.caches.get? name).map SlotCache.drawn := by
  rw [h.caches, Table.get?_map]

theorem setSlot (name : String) (slot : Slot) :
    DrawnAs { s with slots := s.slots.set name slot }
      { s' with slots := s'.slots.set name slot.drawn } :=
  { h with slots := by rw [Table.map_set, h.slots] }

theorem setCache (name : String) (cache : SlotCache) :
    DrawnAs { s with caches := s.caches.set name cache }
      { s' with caches := s'.caches.set name cache.drawn } :=
  { h with caches := by rw [Table.map_set, h.caches] }

/-- A slot dropped on both sides. -/
theorem discardSlot (slot : Option Slot) :
    DrawnAs (s.discardSlot slot) (s'.discardSlot (slot.map Slot.drawn)) := by
  cases slot with
  | none => exact h
  | some slot => exact h.worlds (slot.discard_drawn h.world)

/-- A cache dropped on both sides. -/
theorem discardCache (cache : Option SlotCache) :
    DrawnAs (s.discardCache cache) (s'.discardCache (cache.map SlotCache.drawn)) := by
  cases cache with
  | none => exact h
  | some cache => exact h.worlds (cache.discard_drawn h.world)

theorem keepSlot (name : String) (slot : Slot) :
    DrawnAs (s.keepSlot name slot) (s'.keepSlot name slot.drawn) := by
  unfold Session.keepSlot
  rw [h.slot?]
  exact (h.setSlot name slot).discardSlot _

theorem keepCache (name : String) (cache : SlotCache) :
    DrawnAs (s.keepCache name cache) (s'.keepCache name cache.drawn) := by
  unfold Session.keepCache
  rw [h.cache?]
  exact (h.setCache name cache).discardCache _

theorem dropSlot (name : String) : DrawnAs (s.dropSlot name) (s'.dropSlot name) := by
  have dropped : DrawnAs { s with slots := s.slots.erase name }
      { s' with slots := s'.slots.erase name } :=
    { h with slots := by rw [Table.map_erase, h.slots] }
  unfold Session.dropSlot
  rw [h.slot?]
  exact dropped.discardSlot _

theorem dropCache (name : String) : DrawnAs (s.dropCache name) (s'.dropCache name) := by
  have dropped : DrawnAs { s with caches := s.caches.erase name }
      { s' with caches := s'.caches.erase name } :=
    { h with caches := by rw [Table.map_erase, h.caches] }
  unfold Session.dropCache
  rw [h.cache?]
  exact dropped.discardCache _

-- ==================================================== contexts

theorem state? (name : String) : s'.state? name = s.state? name :=
  congrArg (·.get? name) h.stateNames

theorem context? (name : String) : s'.context? name = s.context? name := by
  unfold Session.context?
  rw [h.contextNames, h.state?]

/-- A new context on both sides, with backends that differ in what is not drawn. -/
theorem makeContext {b b' : Backend} (same : b.drawn = b'.drawn) :
    DrawnAs (s.makeContext b).1 (s'.makeContext b').1 := by
  have drawn : ({ b with minimal := s.minimal } : Backend).drawn
      = ({ b' with minimal := s'.minimal } : Backend).drawn := same
  unfold Session.makeContext
  dsimp only
  rw [h.fresh]
  exact { h with fresh := rfl, world := h.world.openContext s.fresh drawn }

theorem addContext (name : String) {b b' : Backend} (same : b.drawn = b'.drawn) :
    DrawnAs (s.addContext name b) (s'.addContext name b') :=
  { h.makeContext same with
    contextNames := by
      show s'.contextNames.set name s'.fresh = s.contextNames.set name s.fresh
      rw [h.contextNames, h.fresh] }

theorem addState (name : String) {b b' : Backend} (same : b.drawn = b'.drawn) :
    DrawnAs (s.addState name b) (s'.addState name b') :=
  { h.makeContext same with
    stateNames := by
      show s'.stateNames.set name s'.fresh = s.stateNames.set name s.fresh
      rw [h.stateNames, h.fresh] }

omit h in
/-- Sessions that begin with backends whose imports fail alike. -/
theorem start (minimal minimal' : Bool) {b b' : Backend} (same : b.drawn = b'.drawn) :
    DrawnAs (Session.start minimal b) (Session.start minimal' b') := by
  have empty : DrawnAs ({ minimal } : Session) ({ minimal := minimal' } : Session) :=
    ⟨.refl _, rfl, rfl, rfl, rfl, rfl, rfl, rfl, rfl, rfl, rfl, rfl, rfl, rfl, rfl, rfl, rfl, rfl,
      rfl, rfl, rfl⟩
  exact empty.addState "s" same

end DrawnAs

-- ==================================================== the end of a context

/-- A way to destroy contexts that does the same to what is drawn. -/
abbrev Destroyer.Even (destroy : Destroyer) : Prop :=
  ∀ {s s' : Session} (c : ContextId), DrawnAs s s' → DrawnAs (destroy s c).1 (destroy s' c).1

namespace DrawnAs

variable {s s' : Session} {destroy : Destroyer} {locked : Option UpdaterId}

/-- The same step for each of several values. -/
theorem each {α : Type} {op : Session → α → Session}
    (step : ∀ {s s' : Session} (a : α), DrawnAs s s' → DrawnAs (op s a) (op s' a))
    (values : List α) (h : DrawnAs s s') :
    DrawnAs (values.foldl op s) (values.foldl op s') := by
  induction values generalizing s s' with
  | nil => exact h
  | cons a values ih => exact ih (step a h)

/-- The actions of an observer draw alike, if the destruction that they may ask for does. -/
theorem act (even : Destroyer.Even destroy) (h : DrawnAs s s') (o : Observer)
    (action : ObserverAction) : DrawnAs (s.act destroy o action) (s'.act destroy o action) := by
  cases action with
  | count => exact h.remark rfl rfl
  | destroy => exact (even o.context h).remark rfl rfl
  | register name =>
    unfold Session.act
    dsimp only
    rw [h.observerName?]
    cases s.observerNames.get? name with
    | none => exact h.remark rfl rfl
    | some id => exact (h.register o.context (.observer id)).remark rfl rfl
  | letGo name => exact ((h.dropObserver name).dropUpdater name).remark rfl rfl

/-- Telling one participant draws alike. -/
theorem notify (even : Destroyer.Even destroy) (h : DrawnAs s s') (c : ContextId)
    (p : Participant) :
    DrawnAs (s.notify destroy locked c p) (s'.notify destroy locked c p) := by
  unfold Session.notify
  split
  · exact h
  · have told := h.record (.told c p)
    cases p with
    | updater id => exact told.onUpdater id fun u => u.teardown_drawn told.world .contextLost
    | observer id =>
      dsimp only
      rw [told.observers]
      cases (s.record (.told c (.observer id))).observers.get? id with
      | none => exact told
      | some held =>
        have counted := told.setObserver id
          { held with value := { held.value with notified := held.value.notified + 1 } }
        rw [told.observers] at counted
        exact (counted.remark rfl rfl).each (fun action h => h.act even _ action) _

/-- The destruction of a context draws alike at every depth, by induction on the depth. -/
theorem destroyWithin (locked : Option UpdaterId) (depth : Nat) :
    Destroyer.Even (Session.destroyWithin locked depth) := by
  induction depth with
  | zero => exact fun _ h => h
  | succ depth even =>
    intro s s' c h
    unfold Session.destroyWithin
    rw [h.world.alive]
    split
    · dsimp only
      rw [h.registry, h.isLive]
      have lost : DrawnAs
          { s.onWorld (·.loseContext c ((s.registry c).filter s.isLive).length) with
            registries := s.registries.set c []
            roll := s.roll ++ [.lost c locked] }
          { s'.onWorld (·.loseContext c ((s.registry c).filter s.isLive).length) with
            registries := s'.registries.set c []
            roll := s'.roll ++ [.lost c locked] } :=
        { h with
          world := h.world.loseContext c _
          registries := by rw [h.registries]
          roll := by rw [h.roll] }
      have held := lost.each (fun p h => h.hold p) ((s.registry c).filter s.isLive)
      have notified : ∀ {s s' : Session} (p : Participant), DrawnAs s s' →
          DrawnAs (s.notify (Session.destroyWithin locked depth) locked c p)
            (s'.notify (Session.destroyWithin locked depth) locked c p) :=
        fun p h => h.notify even c p
      have told := held.each notified ((s.registry c).filter s.isLive)
      exact told.each (fun p h => h.letGo p) _
    · exact h

/-- The destruction of a context draws alike. -/
theorem destroyContext (h : DrawnAs s s') (locked : Option UpdaterId) (c : ContextId) :
    DrawnAs (s.destroyContext locked c).1 (s'.destroyContext locked c).1 := by
  have size : s'.world.contexts.size = s.world.contexts.size := by
    rw [← Table.size_map Context.drawn, ← h.world.contexts, Table.size_map]
  unfold Session.destroyContext
  rw [size]
  exact destroyWithin locked _ c h

end DrawnAs

-- ==================================================== callbacks

variable {s s' : Session} {owner : Option UpdaterId} {state : Option ContextId}
  {fences fences' : DequeueFences} {item item' : ScriptItem}

namespace DrawnAs

variable (h : DrawnAs s s')

include h

/-- A callback that only concerns fences. -/
theorem callback_unseen (undrawn : item.drawn? = none) :
    DrawnAs (s.callback owner state fences item).session s' := by
  cases item with
  | fence useSync => exact h.unseen (fences.createFence_unseen s.world useSync)
  | wait fd => exact h.unseen (fences.gate.wait_unseen s.world fd)
  | notify | destroy => simp [ScriptItem.drawn?] at undrawn
  | adjust settings =>
    have none : settings.filter BackendSetting.isDrawn = [] := by
      simpa only [ScriptItem.drawn?, ite_eq_left_iff, reduceCtorEq, imp_false, not_not]
        using undrawn
    exact h.unseen (s.world.adjustBackend_unseen _ none)

/-- Any other callback. -/
theorem callback (drawn : item.drawn? = some item')
    (context : fences'.gate.context = fences.gate.context) :
    DrawnAs (s.callback owner state fences item).session
      (s'.callback owner state fences' item').session := by
  cases item with
  | fence | wait => simp [ScriptItem.drawn?] at drawn
  | notify =>
    obtain rfl : ScriptItem.notify = item' := by simpa [ScriptItem.drawn?] using drawn
    cases owner with
    | none => exact h
    | some id => exact h.onUpdater id fun u => u.post_drawn h.world
  | destroy =>
    obtain rfl : ScriptItem.destroy = item' := by simpa [ScriptItem.drawn?] using drawn
    cases state with
    | none => exact h
    | some c => exact (h.destroyContext owner c).remark rfl rfl
  | adjust settings =>
    obtain rfl : ScriptItem.adjust (settings.filter BackendSetting.isDrawn) = item' := by
      simp only [ScriptItem.drawn?, Option.ite_none_left_eq_some, Option.some.injEq] at drawn
      exact drawn.2
    unfold Session.callback
    rw [context]
    exact h.worlds (h.world.adjustBackend _ settings)

/-- A script draws alike on any two gates of one context. -/
theorem runScript (items : List ScriptItem)
    (context : fences'.gate.context = fences.gate.context) :
    DrawnAs (s.runScript owner state fences items).session
      (s'.runScript owner state fences' (items.filterMap ScriptItem.drawn?)).session := by
  -- along the first script; the second session stands still where an item is not drawn
  induction items generalizing s s' fences fences' with
  | nil => exact h
  | cons item items ih =>
    rw [Session.runScript]
    cases drawn : item.drawn? with
    | none =>
      rw [List.filterMap_cons_none drawn]
      exact ih (h.callback_unseen drawn) (context.trans (callback_context s item).symm)
    | some item' =>
      rw [List.filterMap_cons_some drawn, Session.runScript]
      refine ih (h.callback drawn context) ?_
      rw [callback_context, callback_context, context]

/-- A source answers the same frame, whatever it is told of fences. -/
theorem dequeue (id : UpdaterId) (ref : SourceRef)
    (context : fences'.gate.context = fences.gate.context) :
    DrawnAs (s.dequeue id ref fences).session (s'.dequeue id ref fences').session
      ∧ (s'.dequeue id ref fences').answer = (s.dequeue id ref fences).answer := by
  have begun := h.record (.source ref .dequeueBegun)
  unfold Session.dequeue
  dsimp only
  rw [begun.sources, Table.get?_map]
  cases (s.record (.source ref .dequeueBegun)).sources.get? ref.id with
  | none => exact ⟨begun, rfl⟩
  | some source =>
    dsimp only [Option.map]
    rw [source.next_drawn, show source.drawn.always = source.always from rfl,
      show source.drawn.context = source.context from rfl, ← begun.sources]
    have taken : DrawnAs
        { s.record (.source ref .dequeueBegun) with
          sources := (s.record (.source ref .dequeueBegun)).sources.set ref.id source.next.2 }
        { s'.record (.source ref .dequeueBegun) with
          sources := (s'.record (.source ref .dequeueBegun)).sources.set ref.id
            source.next.2.drawn } :=
      { begun with sources := by rw [Table.map_set, begun.sources] }
    split
    · exact ⟨(taken.runScript source.script context).remark rfl rfl, rfl⟩
    · exact ⟨taken, rfl⟩

/-- The dequeue of an apply and its latch draw alike. -/
theorem latchFrame (id : UpdaterId) (ref : SourceRef)
    (context : fences'.gate.context = fences.gate.context) :
    DrawnAs (s.latchFrame id ref fences) (s'.latchFrame id ref fences') := by
  obtain ⟨asked, answer⟩ := h.dequeue id ref context
  unfold Session.latchFrame
  dsimp only
  rw [answer]
  cases (s.dequeue id ref fences).answer with
  | none => exact asked
  | some frame => exact asked.onUpdater id fun u => u.latch_drawn asked.world frame _ _

/-- An apply draws alike. -/
theorem apply (id : UpdaterId) : DrawnAs (s.apply id) (s'.apply id) := by
  unfold Session.apply
  rw [h.updaterOf?]
  cases s.updaterOf? id with
  | none => exact h
  | some u =>
    dsimp only [Option.map]
    rw [show u.drawn.destroyed = u.destroyed from rfl]
    split
    · exact h.record _
    · have held := h.hold (.updater id)
      obtain ⟨-, -, answer⟩ := u.beginApply_drawn held.world
      have begun := held.onUpdater
        (f := fun u w => ((u.beginApply w).world, (u.beginApply w).object))
        (g := fun u w => ((u.beginApply w).world, (u.beginApply w).object)) id fun u =>
          have drawn := u.beginApply_drawn held.world
          ⟨drawn.1, drawn.2.1⟩
      rw [← answer]
      refine DrawnAs.letGo (DrawnAs.onUpdaterAlone ?_ id Updater.commitTransform_drawn) _
      split
      · next ref _ => exact begun.latchFrame id ref rfl
      · exact begun

end DrawnAs

end Session

end LayerFeed
