/-
Sessions that differ in their textures alone. Two sessions are `Session.Twins` if their contexts
are the same, their updaters, images, handles, slots and caches show the same, and the second
session has the same frames in its sources, but each of them forced to be imported anew. In all
else they are equal (`Session.rest`), but for their histories, of which nothing is said.

Whatever is done to both of them alike leaves twins, the destruction of a context with all that
its observers do included (`destroyContext`). Worlds count for their contexts alone, so each of
the two may write what it likes (`Ages`). A frame is dequeued by both, forced in the second
(`dequeue`), and latched alike where imports work (`latchFrame`, `apply`).
-/
import LayerFeed.Proofs.Reuse.Updater
import LayerFeed.Proofs.Session.Applied

namespace LayerFeed

open World

variable {A : Sight → Prop} {h h' k k' : List Entry} {t t' : TextureId}

-- ==================================================== objects

/-- A source whose frames all have to be imported anew. -/
def Source.forced (q : Source) : Source := { q with frames := q.frames.map Frame.forced }

/-- Two sources have the same frames, which show what is allowed; in the second one they are
forced. -/
structure Source.Twins (A : Sight → Prop) (q q' : Source) : Prop where
  forced : q' = q.forced
  allowed : ∀ f ∈ q.frames, A f.sight

/-- Two sources answer the same frame, and are twins still. -/
theorem Source.Twins.next {q q' : Source} (twins : Twins A q q') :
    q'.next.1 = q.next.1.map Frame.forced ∧ Twins A q.next.2 q'.next.2
      ∧ ∀ f, q.next.1 = some f → A f.sight := by
  obtain ⟨rfl, allowed⟩ := twins
  unfold Source.next
  rw [show q.forced.fifo = q.fifo from rfl,
    show q.forced.frames = q.frames.map Frame.forced from rfl]
  split
  · refine ⟨List.head?_map, ⟨?_, fun f mem => allowed f (List.mem_of_mem_tail mem)⟩,
      fun f taken => allowed f (List.mem_of_head? taken)⟩
    unfold Source.forced
    rw [List.map_tail]
  · exact ⟨List.getLast?_map, ⟨rfl, List.forall_mem_nil _⟩,
      fun f taken => allowed f (List.mem_of_getLast? taken)⟩

/-- Two updaters with as many holders. -/
inductive HeldTwins (A : Sight → Prop) (h h' : List Entry) (held : Held Updater) :
    Held Updater → Prop
  | mk {u : Updater} (twins : held.value.Twins A h h' u) :
      HeldTwins A h h' held { held with value := u }

/-- Two updaters that no one else holds yet. -/
theorem HeldTwins.new {u u' : Updater} (twins : u.Twins A h h' u') :
    HeldTwins A h h' { value := u } { value := u' } :=
  .mk twins

/-- Twins remain twins as the histories grow. -/
theorem HeldTwins.mono {held held' : Held Updater} (more : h ⊆ k) (more' : h' ⊆ k')
    (twins : HeldTwins A h h' held held') : HeldTwins A k k' held held' := by
  cases twins with
  | mk twins => exact .mk (twins.mono more more')

namespace Session

/-- All of a session that does not tell textures apart. -/
def rest (s : Session) : Session :=
  { s with
    world := default, updaters := ∅, sources := ∅, images := ∅, handles := ∅, slots := ∅
    caches := ∅ }

/-- Two sessions differ in their textures alone, and these show the same. In the second one all
frames are forced, and all of them show what is allowed. -/
structure Twins (A : Sight → Prop) (s s' : Session) : Prop where
  rest : s'.rest = s.rest
  contexts : s'.world.contexts = s.world.contexts
  updaters : s.updaters.Rel (HeldTwins A s.world.history s'.world.history) s'.updaters
  sources : s.sources.Rel (Source.Twins A) s'.sources
  images : s.images.Rel (SameSight s.world.history s'.world.history) s'.images
  handles : s.handles.Rel (SameSight s.world.history s'.world.history) s'.handles
  slots : s.slots.Rel (Slot.Twins (fun _ => True) s.world.history s'.world.history) s'.slots
  caches : s.caches.Rel (SlotCache.Twins (fun _ => True) s.world.history s'.world.history)
    s'.caches

-- ==================================================== worlds

variable {s s' : Session} {w w' : World}

/-- Only the world changes, and its contexts do not. -/
def Ages (s t : Session) : Prop :=
  ∃ w, t = { s with world := w } ∧ Writes (fun _ => True) s.world w

/-- Writing is ageing. -/
theorem Ages.of_writes {P : Entry → Prop} (writes : Writes P s.world w) :
    Ages s { s with world := w } :=
  ⟨w, rfl, writes.mono fun _ _ => trivial⟩

/-- Standing still is ageing. -/
theorem Ages.refl (s : Session) : Ages s s := ⟨_, rfl, .refl _⟩

/-- An entry more is ageing. -/
theorem Ages.record (s : Session) (e : Entry) : Ages s (s.record e) :=
  ⟨_, rfl, .record trivial⟩

/-- A texture less is ageing: every sight of it stays in the history. -/
theorem Ages.letGoTexture (s : Session) (t : Option TextureId) : Ages s (s.letGoTexture t) :=
  .of_writes (letGoOf_writes ordinary_calls _ t)

/-- And so is a slot dropped. -/
theorem Ages.discardSlot (s : Session) (slot : Option Slot) : Ages s (s.discardSlot slot) := by
  cases slot with
  | none => exact .refl s
  | some slot => exact .of_writes (slot.discard_writes ordinary_calls _)

/-- And a cache. -/
theorem Ages.discardCache (s : Session) (cache : Option SlotCache) :
    Ages s (s.discardCache cache) := by
  cases cache with
  | none => exact .refl s
  | some cache => exact .of_writes (cache.discard_writes ordinary_calls _)

namespace Twins

variable (twins : Twins A s s')

include twins

/-- Both histories grow, and the contexts change alike. -/
theorem grow (contexts : w'.contexts = w.contexts) (more : s.world.history ⊆ w.history)
    (more' : s'.world.history ⊆ w'.history) :
    Twins A { s with world := w } { s' with world := w' } where
  rest := twins.rest
  contexts := contexts
  updaters := twins.updaters.mono fun _ _ same => same.mono more more'
  sources := twins.sources
  images := twins.images.mono fun _ _ same => same.mono more more'
  handles := twins.handles.mono fun _ _ same => same.mono more more'
  slots := twins.slots.mono fun _ _ same => same.mono more more'
  caches := twins.caches.mono fun _ _ same => same.mono more more'

/-- Twin sessions remain so when their worlds write, each its own. -/
theorem worlds {P Q : Entry → Prop} (left : Writes P s.world w) (right : Writes Q s'.world w') :
    Twins A { s with world := w } { s' with world := w' } :=
  twins.grow (by rw [right.contexts, left.contexts, twins.contexts]) left.subset right.subset

/-- Both worlds change, each in its own way. -/
theorem ages {v v' : Session} (left : Ages s v) (right : Ages s' v') : Twins A v v' := by
  obtain ⟨w, rfl, left⟩ := left
  obtain ⟨w', rfl, right⟩ := right
  exact twins.worlds left right

/-- When each writes an entry of its own. -/
theorem record (e e' : Entry) : Twins A (s.record e) (s'.record e') :=
  twins.ages (.record s e) (.record s' e')

/-- The same contexts live in both. -/
theorem alive (c : ContextId) : s'.world.alive c = s.world.alive c := alive_congr twins.contexts c

-- ==================================================== names and numbers

/-- What does not depend on textures is the same. -/
theorem read {α : Type} (f : Session → α) (aside : ∀ s : Session, f s.rest = f s) :
    f s' = f s := by
  rw [← aside s', twins.rest, aside]

/-- Both give the same number next. -/
theorem fresh : s'.fresh = s.fresh := twins.read Session.fresh fun _ => rfl

theorem freshRecorder : s'.freshRecorder = s.freshRecorder :=
  twins.read Session.freshRecorder fun _ => rfl

theorem updaterName? (name : String) :
    s'.updaterNames.get? name = s.updaterNames.get? name :=
  twins.read (fun s => s.updaterNames.get? name) fun _ => rfl

/-- They have the same observers. -/
theorem observer? (id : ObserverId) : s'.observers.get? id = s.observers.get? id :=
  twins.read (fun s => s.observers.get? id) fun _ => rfl

theorem observerName? (name : String) :
    s'.observerNames.get? name = s.observerNames.get? name :=
  twins.read (fun s => s.observerNames.get? name) fun _ => rfl

theorem state? (name : String) : s'.state? name = s.state? name :=
  twins.read (fun s => s.state? name) fun _ => rfl

theorem context? (name : String) : s'.context? name = s.context? name :=
  twins.read (fun s => s.context? name) fun _ => rfl

-- ==================================================== updaters

/-- Twin updaters under the same numbers. -/
theorem updaterOf? (id : UpdaterId) :
    Option.Rel (Updater.Twins A s.world.history s'.world.history) (s.updaterOf? id)
      (s'.updaterOf? id) := by
  have found := twins.updaters.get? id
  unfold Session.updaterOf?
  generalize s.updaters.get? id = o, s'.updaters.get? id = o' at found
  cases found with
  | none => exact .none
  | some same => cases same with | mk same => exact .some same

/-- And under the same names. -/
theorem updater? (name : String) :
    Option.Rel (Updater.Twins A s.world.history s'.world.history) (s.updater? name)
      (s'.updater? name) := by
  unfold Session.updater?
  rw [twins.updaterName?]
  cases s.updaterNames.get? name with
  | none => exact .none
  | some id => exact twins.updaterOf? id

/-- Twin updaters stored on both sides. -/
theorem setUpdater (id : UpdaterId) {held held' : Held Updater}
    (same : HeldTwins A s.world.history s'.world.history held held') :
    Twins A { s with updaters := s.updaters.set id held }
      { s' with updaters := s'.updaters.set id held' } :=
  { twins with updaters := twins.updaters.set id same }

theorem setObserver (id : ObserverId) (held : Held Observer) :
    Twins A { s with observers := s.observers.set id held }
      { s' with observers := s'.observers.set id held } :=
  { twins with
    rest := congrArg (fun s => { s with observers := s.observers.set id held }) twins.rest }

/-- Operations that make twins of twins, by what they write. -/
theorem deal {P Q : Entry → Prop} {f g : Updater → World → World × Updater} (id : UpdaterId)
    (writes : ∀ u w, Writes P w (f u w).1) (writes' : ∀ u w, Writes Q w (g u w).1)
    (same : ∀ {u u'}, s.updaterOf? id = some u → s'.updaterOf? id = some u' →
      u.Twins A s.world.history s'.world.history u' →
      (f u s.world).2.Twins A (f u s.world).1.history (g u' s'.world).1.history
        (g u' s'.world).2) :
    Twins A (s.onUpdater id f) (s'.onUpdater id g) := by
  have found := twins.updaters.get? id
  unfold Session.updaterOf? at same
  unfold Session.onUpdater
  generalize s.updaters.get? id = o, s'.updaters.get? id = o' at found same
  cases found with
  | none => exact twins
  | some held =>
    cases held with
    | mk held =>
      exact (twins.worlds (writes _ _) (writes' _ _)).setUpdater id (.mk (same rfl rfl held))

/-- Operations in which the worlds have no say. -/
theorem onUpdater {P : Entry → Prop} {f : Updater → World → World × Updater} (id : UpdaterId)
    (writes : ∀ u w, Writes P w (f u w).1)
    (same : ∀ {u u'}, u.Twins A s.world.history s'.world.history u' →
      (f u s.world).2.Twins A s.world.history s'.world.history (f u' s'.world).2) :
    Twins A (s.onUpdater id f) (s'.onUpdater id f) :=
  twins.deal id writes writes fun _ _ held =>
    (same held).mono (writes _ _).subset (writes _ _).subset

/-- Operations that leave the world alone. -/
theorem setter {f : Updater → Updater} (id : UpdaterId) (setter : Updater.Setter f) :
    Twins A (s.onUpdater id fun u w => (w, f u)) (s'.onUpdater id fun u w => (w, f u)) :=
  twins.onUpdater (P := fun _ => True) id (fun _ w => .refl w) fun held =>
    Updater.setter_twins held setter

-- ==================================================== holders of participants

/-- The same participants live. -/
theorem isLive : s'.isLive = s.isLive := by
  funext p
  cases p with
  | updater id => exact twins.updaters.contains id
  | observer id => exact congrArg Option.isSome (twins.observer? id)

/-- A share more on both sides. -/
theorem hold (p : Participant) : Twins A (s.hold p) (s'.hold p) := by
  cases p with
  | updater id =>
    refine { twins with updaters := twins.updaters.modify id fun held held' same => ?_ }
    cases same with
    | mk same => exact .mk same
  | observer id =>
    exact { twins with
      rest := congrArg (fun s => { s with
        observers := s.observers.modify id fun h => { h with holds := h.holds + 1 } }) twins.rest }

/-- A share less on both sides, which is the last in both or in neither. -/
theorem letGo (p : Participant) : Twins A (s.letGo p) (s'.letGo p) := by
  cases p with
  | updater id =>
    have found := twins.updaters.get? id
    unfold Session.letGo
    dsimp only
    generalize s.updaters.get? id = o, s'.updaters.get? id = o' at found
    cases found with
    | none => exact twins
    | @some held held' same =>
      cases same with
      | @mk u same =>
        dsimp only
        split
        · have gone := twins.worlds (held.value.discard_writes s.world) (u.discard_writes s'.world)
          exact { gone with
            rest := congrArg (fun s : Session =>
              { s with roll := s.roll ++ [RollEntry.gone (.updater id)] }) twins.rest
            updaters := gone.updaters.erase id }
        · exact twins.setUpdater id (.mk same)
  | observer id =>
    unfold Session.letGo
    dsimp only
    rw [twins.observer?]
    cases s.observers.get? id with
    | none => exact twins
    | some held =>
      dsimp only
      split
      · exact { twins with
          rest := congrArg (fun s : Session => { s with
            observers := s.observers.erase id
            roll := s.roll ++ [RollEntry.gone (.observer id)] }) twins.rest }
      · exact twins.setObserver id _

-- ==================================================== registries

/-- The same registries. -/
theorem registry (c : ContextId) : s'.registry c = s.registry c :=
  twins.read (fun s => s.registry c) fun _ => rfl

/-- A registration on both sides. -/
theorem register (c : ContextId) (p : Participant) :
    Twins A (s.register c p) (s'.register c p) := by
  unfold Session.register
  rw [twins.registry, twins.isLive]
  exact { twins with
    rest := congrArg (fun t : Session => { t with
      registries := t.registries.set c ((s.registry c).filter s.isLive ++ [p])
      roll := t.roll ++ [RollEntry.registered c p] }) twins.rest }

-- ==================================================== names

theorem nameUpdater (name : String) (id : UpdaterId) :
    Twins A (s.nameUpdater name id) (s'.nameUpdater name id) := by
  have named : Twins A { s with updaterNames := s.updaterNames.set name id }
      { s' with updaterNames := s'.updaterNames.set name id } :=
    { twins with
      rest := congrArg (fun s => { s with updaterNames := s.updaterNames.set name id }) twins.rest }
  unfold Session.nameUpdater
  dsimp only
  rw [twins.updaterName?]
  cases s.updaterNames.get? name with
  | none => exact named
  | some old => exact named.letGo (.updater old)

theorem dropUpdater (name : String) : Twins A (s.dropUpdater name) (s'.dropUpdater name) := by
  have unnamed : Twins A { s with updaterNames := s.updaterNames.erase name }
      { s' with updaterNames := s'.updaterNames.erase name } :=
    { twins with
      rest := congrArg (fun s => { s with updaterNames := s.updaterNames.erase name }) twins.rest }
  unfold Session.dropUpdater
  rw [twins.updaterName?]
  cases s.updaterNames.get? name with
  | none => exact twins
  | some id => exact unnamed.letGo (.updater id)

theorem nameObserver (name : String) (id : ObserverId) :
    Twins A (s.nameObserver name id) (s'.nameObserver name id) := by
  have named : Twins A { s with observerNames := s.observerNames.set name id }
      { s' with observerNames := s'.observerNames.set name id } :=
    { twins with
      rest := congrArg (fun s => { s with observerNames := s.observerNames.set name id })
        twins.rest }
  unfold Session.nameObserver
  dsimp only
  rw [twins.observerName?]
  cases s.observerNames.get? name with
  | none => exact named
  | some old => exact named.letGo (.observer old)

theorem dropObserver (name : String) : Twins A (s.dropObserver name) (s'.dropObserver name) := by
  have unnamed : Twins A { s with observerNames := s.observerNames.erase name }
      { s' with observerNames := s'.observerNames.erase name } :=
    { twins with
      rest := congrArg (fun s => { s with observerNames := s.observerNames.erase name })
        twins.rest }
  unfold Session.dropObserver
  rw [twins.observerName?]
  cases s.observerNames.get? name with
  | none => exact twins
  | some id => exact unnamed.letGo (.observer id)

/-- An image kept on both sides, of textures that look the same. -/
theorem keepImage (name : String) (same : SameSight s.world.history s'.world.history t t') :
    Twins A (s.keepImage name t) (s'.keepImage name t') := by
  have kept : Twins A { s with images := s.images.set name t }
      { s' with images := s'.images.set name t' } :=
    { twins with images := twins.images.set name same }
  exact kept.ages (.letGoTexture _ _) (.letGoTexture _ _)

theorem keepOrDropImage (name : Option String) {o o' : Option TextureId}
    (same : Option.Rel (SameSight s.world.history s'.world.history) o o') :
    Twins A (s.keepOrDropImage name o) (s'.keepOrDropImage name o') := by
  cases same with
  | none => cases name <;> exact twins
  | some same =>
    cases name with
    | none => exact twins.ages (.letGoTexture _ _) (.letGoTexture _ _)
    | some name => exact twins.keepImage name same

theorem dropImage (name : String) : Twins A (s.dropImage name) (s'.dropImage name) := by
  have dropped : Twins A { s with images := s.images.erase name }
      { s' with images := s'.images.erase name } :=
    { twins with images := twins.images.erase name }
  exact dropped.ages (.letGoTexture _ _) (.letGoTexture _ _)

/-- A handle kept on both sides, of textures that look the same. -/
theorem keepHandle (name : String) (same : SameSight s.world.history s'.world.history t t') :
    Twins A (s.keepHandle name t) (s'.keepHandle name t') := by
  have kept : Twins A { s with handles := s.handles.set name t }
      { s' with handles := s'.handles.set name t' } :=
    { twins with handles := twins.handles.set name same }
  exact kept.ages (.letGoTexture _ _) (.letGoTexture _ _)

theorem dropHandle (name : String) : Twins A (s.dropHandle name) (s'.dropHandle name) := by
  have dropped : Twins A { s with handles := s.handles.erase name }
      { s' with handles := s'.handles.erase name } :=
    { twins with handles := twins.handles.erase name }
  exact dropped.ages (.letGoTexture _ _) (.letGoTexture _ _)

-- ==================================================== slots and caches

/-- Twin slots stored on both sides. -/
theorem setSlot (name : String) {slot slot' : Slot}
    (same : slot.Twins (fun _ => True) s.world.history s'.world.history slot') :
    Twins A { s with slots := s.slots.set name slot }
      { s' with slots := s'.slots.set name slot' } :=
  { twins with slots := twins.slots.set name same }

/-- Twin caches stored on both sides. -/
theorem setCache (name : String) {cache cache' : SlotCache}
    (same : cache.Twins (fun _ => True) s.world.history s'.world.history cache') :
    Twins A { s with caches := s.caches.set name cache }
      { s' with caches := s'.caches.set name cache' } :=
  { twins with caches := twins.caches.set name same }

theorem newSlot (name : String) (p : Pipeline) :
    Twins A (s.keepSlot name (.empty p)) (s'.keepSlot name (.empty p)) :=
  (twins.setSlot name (Slot.twins_empty p)).ages (.discardSlot _ _) (.discardSlot _ _)

theorem dropSlot (name : String) : Twins A (s.dropSlot name) (s'.dropSlot name) := by
  have dropped : Twins A { s with slots := s.slots.erase name }
      { s' with slots := s'.slots.erase name } :=
    { twins with slots := twins.slots.erase name }
  exact dropped.ages (.discardSlot _ _) (.discardSlot _ _)

theorem newCache (name : String) (p : Pipeline) :
    Twins A (s.keepCache name (.empty p)) (s'.keepCache name (.empty p)) :=
  (twins.setCache name (SlotCache.twins_empty p)).ages (.discardCache _ _) (.discardCache _ _)

theorem dropCache (name : String) : Twins A (s.dropCache name) (s'.dropCache name) := by
  have dropped : Twins A { s with caches := s.caches.erase name }
      { s' with caches := s'.caches.erase name } :=
    { twins with caches := twins.caches.erase name }
  exact dropped.ages (.discardCache _ _) (.discardCache _ _)

-- ==================================================== contexts

/-- A new context on both sides. -/
theorem makeContext (b : Backend) : Twins A (s.makeContext b).1 (s'.makeContext b).1 := by
  have backend : ({ b with minimal := s'.minimal } : Backend)
      = { b with minimal := s.minimal } := by
    rw [twins.read Session.minimal fun _ => rfl]
  have opened (b : Backend) : Twins A { s with world := s.world.openContext s.fresh b }
      { s' with world := s'.world.openContext s.fresh b } :=
    twins.grow (congrArg (Table.set · _ _) twins.contexts) (List.Subset.refl _)
      (List.Subset.refl _)
  unfold Session.makeContext
  dsimp only
  rw [backend, twins.fresh]
  exact { opened _ with
    rest := congrArg (fun t : Session => { t with fresh := s.fresh + 1 }) twins.rest }

theorem addContext (name : String) (b : Backend) :
    Twins A (s.addContext name b) (s'.addContext name b) := by
  have made := twins.makeContext b
  show Twins A { (s.makeContext b).1 with contextNames := s.contextNames.set name s.fresh }
    { (s'.makeContext b).1 with contextNames := s'.contextNames.set name s'.fresh }
  rw [twins.fresh]
  exact { made with
    rest := congrArg (fun t : Session =>
      { t with contextNames := t.contextNames.set name s.fresh }) made.rest }

theorem addState (name : String) (b : Backend) :
    Twins A (s.addState name b) (s'.addState name b) := by
  have made := twins.makeContext b
  show Twins A { (s.makeContext b).1 with stateNames := s.stateNames.set name s.fresh }
    { (s'.makeContext b).1 with stateNames := s'.stateNames.set name s'.fresh }
  rw [twins.fresh]
  exact { made with
    rest := congrArg (fun t : Session =>
      { t with stateNames := t.stateNames.set name s.fresh }) made.rest }

end Twins

-- ==================================================== the end of a context

/-- A way to destroy contexts that makes twins of twins. -/
abbrev Destroyer.Alike (A : Sight → Prop) (destroy : Destroyer) : Prop :=
  ∀ {s s' : Session} (c : ContextId), Twins A s s' → Twins A (destroy s c).1 (destroy s' c).1

namespace Twins

variable {destroy : Destroyer} {locked : Option UpdaterId}

/-- The same step for each of several values. -/
theorem each {α : Type} {op : Session → α → Session}
    (step : ∀ {s s' : Session} (a : α), Twins A s s' → Twins A (op s a) (op s' a))
    (values : List α) (twins : Twins A s s') :
    Twins A (values.foldl op s) (values.foldl op s') := by
  induction values generalizing s s' with
  | nil => exact twins
  | cons a values ih => exact ih (step a twins)

/-- The actions of an observer on both sides. -/
theorem act (alike : Destroyer.Alike A destroy) (twins : Twins A s s') (o : Observer)
    (action : ObserverAction) : Twins A (s.act destroy o action) (s'.act destroy o action) := by
  cases action with
  | count => exact twins.record _ _
  | destroy => exact (alike o.context twins).record _ _
  | register name =>
    unfold Session.act
    dsimp only
    rw [twins.observerName?]
    cases s.observerNames.get? name with
    | none => exact twins.record _ _
    | some id => exact (twins.register o.context (.observer id)).record _ _
  | letGo name => exact ((twins.dropObserver name).dropUpdater name).record _ _

/-- Telling one participant on both sides. -/
theorem notify (alike : Destroyer.Alike A destroy) (twins : Twins A s s') (c : ContextId)
    (p : Participant) :
    Twins A (s.notify destroy locked c p) (s'.notify destroy locked c p) := by
  unfold Session.notify
  split
  · exact twins
  · have told := twins.record (.told c p) (.told c p)
    cases p with
    | updater id =>
      exact told.onUpdater id (fun u w => u.teardown_writes w .contextLost) fun held =>
        Updater.teardown_twins held _ _ .contextLost
    | observer id =>
      dsimp only
      rw [told.observer?]
      cases (s.record (.told c (.observer id))).observers.get? id with
      | none => exact told
      | some held =>
        have counted := told.setObserver id
          { held with value := { held.value with notified := held.value.notified + 1 } }
        exact (counted.record _ _).each (fun action twins => twins.act alike _ action) _

/-- A context lost on both sides. -/
theorem loseContext (twins : Twins A s s') (c : ContextId) (n : Nat) (locked : Option UpdaterId) :
    Twins A
      { s.onWorld (·.loseContext c n) with
        registries := s.registries.set c []
        roll := s.roll ++ [.lost c locked] }
      { s'.onWorld (·.loseContext c n) with
        registries := s'.registries.set c []
        roll := s'.roll ++ [.lost c locked] } := by
  have contexts : (s'.world.loseContext c n).contexts = (s.world.loseContext c n).contexts := by
    show Table.modify _ _ _ = Table.modify _ _ _
    rw [twins.contexts]
  have lost : Twins A (s.onWorld (·.loseContext c n)) (s'.onWorld (·.loseContext c n)) :=
    twins.grow contexts (List.subset_append_left _ _) (List.subset_append_left _ _)
  exact { lost with
    rest := congrArg (fun t : Session => { t with
      registries := t.registries.set c []
      roll := t.roll ++ [RollEntry.lost c locked] }) twins.rest }

/-- The destruction of a context at every depth, by induction on the depth. -/
theorem destroyWithin (locked : Option UpdaterId) (depth : Nat) :
    Destroyer.Alike A (Session.destroyWithin locked depth) := by
  induction depth with
  | zero => exact fun _ twins => twins
  | succ depth alike =>
    intro s s' c twins
    unfold Session.destroyWithin
    rw [twins.alive]
    split
    · dsimp only
      rw [twins.registry, twins.isLive]
      have lost := twins.loseContext c ((s.registry c).filter s.isLive).length locked
      have held := lost.each (fun p twins => twins.hold p) ((s.registry c).filter s.isLive)
      have notified : ∀ {s s' : Session} (p : Participant), Twins A s s' →
          Twins A (s.notify (Session.destroyWithin locked depth) locked c p)
            (s'.notify (Session.destroyWithin locked depth) locked c p) :=
        fun p twins => twins.notify alike c p
      have told := held.each notified ((s.registry c).filter s.isLive)
      exact told.each (fun p twins => twins.letGo p) _
    · exact twins

/-- The destruction of a context on both sides. -/
theorem destroyContext (twins : Twins A s s') (locked : Option UpdaterId) (c : ContextId) :
    Twins A (s.destroyContext locked c).1 (s'.destroyContext locked c).1 := by
  unfold Session.destroyContext
  rw [twins.contexts]
  exact destroyWithin locked _ c twins

end Twins

end Session

end LayerFeed
