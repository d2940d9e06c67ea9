/-
Sessions retold. Every updater is retold, whoever holds it, and so is the world. Holding and
letting go, registering, naming, the end of a context and an apply go through the retelling: what
is done to the retold session is what was done to the session, retold. The nested destructions of
contexts take an induction on their depth (`destroyWithin_retold`), and the callbacks of a source
one on its script (`runScript_retold`).
-/
import LayerFeed.Proofs.Retelling.Updater
import LayerFeed.Proofs.Tables
import LayerFeed.Session.Apply

namespace LayerFeed

/-- A held updater, retold. -/
def Held.retold (h : Held Updater) (R : Retelling) : Held Updater :=
  { h with value := h.value.retold R }

namespace Session

/-- The session as it is retold. -/
def retold (s : Session) (R : Retelling) : Session :=
  { s with
    world := s.world.retold R
    updaters := s.updaters.map (·.retold R)
    recorderNames := R.recorderNames s.recorderNames
    freshRecorder := R.freshRecorder s.freshRecorder }

/-- A session and an answer; the answer stays as it is. -/
def retoldReply {α : Type} (R : Retelling) (after : Session × α) : Session × α :=
  (after.1.retold R, after.2)

variable (R : Retelling) (s : Session)

@[simp] theorem retold_world : (s.retold R).world = s.world.retold R := rfl
@[simp] theorem retold_updaterNames : (s.retold R).updaterNames = s.updaterNames := rfl
@[simp] theorem retold_observers : (s.retold R).observers = s.observers := rfl
@[simp] theorem retold_observerNames : (s.retold R).observerNames = s.observerNames := rfl
@[simp] theorem retold_sources : (s.retold R).sources = s.sources := rfl
@[simp] theorem retold_images : (s.retold R).images = s.images := rfl
@[simp] theorem retold_handles : (s.retold R).handles = s.handles := rfl
@[simp] theorem retold_slots : (s.retold R).slots = s.slots := rfl
@[simp] theorem retold_caches : (s.retold R).caches = s.caches := rfl

-- ==================================================== worlds and updaters

/-- What goes through the retelling of worlds goes through that of sessions. -/
theorem onWorld_retold {f : World → World} (retells : ∀ w, f (w.retold R) = (f w).retold R) :
    (s.retold R).onWorld f = (s.onWorld f).retold R := by
  unfold onWorld
  rw [retold_world, retells]
  rfl

/-- An entry that is not about tracing may be recorded after the retelling or before it. -/
theorem record_retold {e : Entry} (untraced : e.Untraced) :
    (s.retold R).record e = (s.record e).retold R :=
  s.onWorld_retold R fun w => w.record_retold R untraced

/-- Updaters are found in the retold session where they were. -/
@[simp] theorem held_retold (id : UpdaterId) :
    (s.retold R).updaters.get? id = (s.updaters.get? id).map (·.retold R) :=
  Table.get?_map _ _ _

@[simp] theorem updaterOf?_retold (id : UpdaterId) :
    (s.retold R).updaterOf? id = (s.updaterOf? id).map (·.retold R) := by
  unfold updaterOf?
  rw [held_retold, Option.map_map, Option.map_map]
  rfl

@[simp] theorem updater?_retold (name : String) :
    (s.retold R).updater? name = (s.updater? name).map (·.retold R) := by
  unfold updater?
  rw [retold_updaterNames]
  cases s.updaterNames.get? name with
  | none => rfl
  | some id => exact s.updaterOf?_retold R id

/-- Entering an updater goes through the retelling. -/
theorem set_retold (id : UpdaterId) (h : Held Updater) :
    (s.retold R).updaters.set id (h.retold R)
      = (s.updaters.set id h).map fun h => h.retold R := by
  rw [Table.map_set]
  rfl

/-- Taking an updater out goes through the retelling. -/
theorem erase_retold (id : UpdaterId) :
    (s.retold R).updaters.erase id = (s.updaters.erase id).map fun h => h.retold R := by
  rw [Table.map_erase]
  rfl

/-- An updater and the world change together. -/
theorem put_retold (id : UpdaterId) (h : Held Updater) (w : World) :
    { s.retold R with
      world := w.retold R, updaters := (s.retold R).updaters.set id (h.retold R) }
      = ({ s with world := w, updaters := s.updaters.set id h } : Session).retold R := by
  rw [set_retold]
  rfl

/-- What goes through the retelling of an updater and the world may be done to an updater of the
session. -/
theorem onUpdater_retold (id : UpdaterId) {f f' : Updater → World → World × Updater}
    (retells : ∀ u w, f' (u.retold R) (w.retold R) = retoldBoth R (f u w)) :
    (s.retold R).onUpdater id f' = (s.onUpdater id f).retold R := by
  unfold onUpdater
  rw [held_retold]
  cases s.updaters.get? id with
  | none => rfl
  | some h =>
    have after : f' (h.retold R).value (s.retold R).world = _ := retells h.value s.world
    simp only [Option.map_some, after]
    exact s.put_retold R id { h with value := (f h.value s.world).2 } _

-- ==================================================== holders of participants

/-- Nobody comes or goes by a retelling. -/
@[simp] theorem isLive_retold (p : Participant) : (s.retold R).isLive p = s.isLive p := by
  cases p with
  | updater id => exact Table.contains_map _ _ _
  | observer id => rfl

/-- Holders are counted as before. -/
theorem hold_retold (p : Participant) : (s.retold R).hold p = (s.hold p).retold R := by
  cases p with
  | observer id => rfl
  | updater id =>
    let more : Held Updater → Held Updater := fun h => { h with holds := h.holds + 1 }
    have commutes : ∀ h, (more h).retold R = more (h.retold R) := fun _ => rfl
    have held := Table.map_modify (f := fun h => h.retold R) commutes s.updaters id
    exact congrArg (fun updaters => { s.retold R with updaters }) held.symm

/-- The last holder of an updater discards it, and that goes through the retelling. -/
theorem letGo_retold (p : Participant) : (s.retold R).letGo p = (s.letGo p).retold R := by
  cases p with
  | observer id =>
    unfold letGo
    simp only [retold_observers]
    cases s.observers.get? id with
    | none => rfl
    | some h =>
      dsimp only
      split <;> rfl
  | updater id =>
    unfold letGo
    simp only [held_retold]
    cases s.updaters.get? id with
    | none => rfl
    | some h =>
      have gone : (h.retold R).value.discard (s.retold R).world = _ :=
        h.value.discard_retold R s.world
      have less := s.set_retold R id { h with holds := h.holds - 1 }
      simp only [Option.map_some, gone, erase_retold]
      by_cases last : h.holds ≤ 1
      · rw [if_pos last]
        exact if_pos last
      · rw [if_neg last]
        refine (if_neg last).trans ?_
        exact congrArg (fun updaters => { s.retold R with updaters }) less

-- ==================================================== registries

/-- The same participants are registered and there still. -/
theorem filter_live_retold (c : ContextId) :
    ((s.retold R).registry c).filter (s.retold R).isLive = (s.registry c).filter s.isLive :=
  List.filter_congr fun p _ => s.isLive_retold R p

/-- A registration prunes the registry of the same participants. -/
theorem register_retold (c : ContextId) (p : Participant) :
    (s.retold R).register c p = (s.register c p).retold R := by
  unfold register
  rw [filter_live_retold]
  rfl

@[simp] theorem observerCount_retold (c : ContextId) :
    (s.retold R).observerCount c = s.observerCount c :=
  List.countP_congr fun p _ => by rw [isLive_retold]

-- ==================================================== names

/-- The updater that had the name is let go of. -/
theorem nameUpdater_retold (name : String) (id : UpdaterId) :
    (s.retold R).nameUpdater name id = (s.nameUpdater name id).retold R := by
  unfold nameUpdater
  rw [retold_updaterNames]
  cases s.updaterNames.get? name with
  | none => rfl
  | some old => exact letGo_retold R { s with updaterNames := s.updaterNames.set name id } _

/-- The updater of the name is let go of. -/
theorem dropUpdater_retold (name : String) :
    (s.retold R).dropUpdater name = (s.dropUpdater name).retold R := by
  unfold dropUpdater
  rw [retold_updaterNames]
  cases s.updaterNames.get? name with
  | none => rfl
  | some id => exact letGo_retold R { s with updaterNames := s.updaterNames.erase name } _

/-- The observer that had the name is let go of. -/
theorem nameObserver_retold (name : String) (id : ObserverId) :
    (s.retold R).nameObserver name id = (s.nameObserver name id).retold R := by
  unfold nameObserver
  rw [retold_observerNames]
  cases s.observerNames.get? name with
  | none => rfl
  | some old => exact letGo_retold R { s with observerNames := s.observerNames.set name id } _

/-- The observer of the name is let go of. -/
theorem dropObserver_retold (name : String) :
    (s.retold R).dropObserver name = (s.dropObserver name).retold R := by
  unfold dropObserver
  rw [retold_observerNames]
  cases s.observerNames.get? name with
  | none => rfl
  | some id => exact letGo_retold R { s with observerNames := s.observerNames.erase name } _

/-- A texture that may be there is let go of. -/
theorem letGoTexture_retold (t : Option TextureId) :
    (s.retold R).letGoTexture t = (s.letGoTexture t).retold R :=
  s.onWorld_retold R fun w => w.letGoOf_retold R t

/-- The image that had the name is let go of. -/
theorem keepImage_retold (name : String) (t : TextureId) :
    (s.retold R).keepImage name t = (s.keepImage name t).retold R :=
  letGoTexture_retold R { s with images := s.images.set name t } _

/-- An image that gets no name is let go of at once. -/
theorem keepOrDropImage_retold (name : Option String) (t : Option TextureId) :
    (s.retold R).keepOrDropImage name t = (s.keepOrDropImage name t).retold R := by
  cases t with
  | none => cases name <;> rfl
  | some t =>
    cases name with
    | none => exact s.letGoTexture_retold R (some t)
    | some name => exact s.keepImage_retold R name t

theorem dropImage_retold (name : String) :
    (s.retold R).dropImage name = (s.dropImage name).retold R :=
  letGoTexture_retold R { s with images := s.images.erase name } _

theorem keepHandle_retold (name : String) (t : TextureId) :
    (s.retold R).keepHandle name t = (s.keepHandle name t).retold R :=
  letGoTexture_retold R { s with handles := s.handles.set name t } _

theorem dropHandle_retold (name : String) :
    (s.retold R).dropHandle name = (s.dropHandle name).retold R :=
  letGoTexture_retold R { s with handles := s.handles.erase name } _

/-- Slots are not retold, and are discarded as before. -/
theorem discardSlot_retold (slot : Option Slot) :
    (s.retold R).discardSlot slot = (s.discardSlot slot).retold R := by
  cases slot with
  | none => rfl
  | some slot => exact s.onWorld_retold R fun w => slot.discard_retold R w

/-- Caches are not retold, and are discarded as before. -/
theorem discardCache_retold (cache : Option SlotCache) :
    (s.retold R).discardCache cache = (s.discardCache cache).retold R := by
  cases cache with
  | none => rfl
  | some cache => exact s.onWorld_retold R fun w => cache.discard_retold R w

/-- The slot that had the name gives its texture up. -/
theorem keepSlot_retold (name : String) (slot : Slot) :
    (s.retold R).keepSlot name slot = (s.keepSlot name slot).retold R :=
  discardSlot_retold R { s with slots := s.slots.set name slot } _

theorem dropSlot_retold (name : String) :
    (s.retold R).dropSlot name = (s.dropSlot name).retold R :=
  discardSlot_retold R { s with slots := s.slots.erase name } _

/-- The cache that had the name gives all its textures up. -/
theorem keepCache_retold (name : String) (cache : SlotCache) :
    (s.retold R).keepCache name cache = (s.keepCache name cache).retold R :=
  discardCache_retold R { s with caches := s.caches.set name cache } _

theorem dropCache_retold (name : String) :
    (s.retold R).dropCache name = (s.dropCache name).retold R :=
  discardCache_retold R { s with caches := s.caches.erase name } _

-- ==================================================== the end of a context

/-- One after the other, what is done goes through the retelling if each of it does. -/
theorem foldl_retold {α : Type} {f : Session → α → Session}
    (retells : ∀ s a, f (s.retold R) a = (f s a).retold R) (xs : List α) (s : Session) :
    xs.foldl f (s.retold R) = (xs.foldl f s).retold R := by
  induction xs generalizing s with
  | nil => rfl
  | cons x xs ih =>
    rw [List.foldl_cons, List.foldl_cons, retells]
    exact ih _

/-- A destroyer that goes through the retelling. -/
def Retells (destroy : Destroyer) : Prop :=
  ∀ s c, destroy (s.retold R) c = retoldReply R (destroy s c)

/-- An action of an observer looks at registries and names only, and a destruction in it is one
that goes through the retelling. -/
theorem act_retold {destroy : Destroyer} (retells : Retells R destroy) (o : Observer)
    (action : ObserverAction) (s : Session) :
    act destroy (s.retold R) o action = (act destroy s o action).retold R := by
  have told (s : Session) (result : Option Nat) :
      (s.retold R).record (.acted o.name action result)
        = (s.record (.acted o.name action result)).retold R := s.record_retold R trivial
  cases action with
  | count =>
    simp only [act, observerCount_retold]
    exact told s _
  | destroy =>
    simp only [act, retells s o.context]
    exact told _ _
  | register name =>
    simp only [act, retold_observerNames]
    cases s.observerNames.get? name with
    | none => exact told s none
    | some id =>
      simp only [register_retold]
      exact told _ none
  | letGo name =>
    simp only [act, dropObserver_retold, dropUpdater_retold]
    exact told _ none

/-- Whoever is told does what he did, if the destructions that he may begin go through the
retelling. -/
theorem notify_retold {destroy : Destroyer} (retells : Retells R destroy)
    (locked : Option UpdaterId) (c : ContextId) (s : Session) (p : Participant) :
    notify destroy locked c (s.retold R) p = (notify destroy locked c s p).retold R := by
  unfold notify
  split
  · rfl
  · have told : (s.retold R).record (.told c p) = (s.record (.told c p)).retold R :=
      s.record_retold R trivial
    simp only [told]
    cases p with
    | updater id => exact onUpdater_retold R _ id fun u w => u.teardown_retold R w .contextLost
    | observer id =>
      generalize s.record (.told c (.observer id)) = s
      simp only [retold_observers]
      cases s.observers.get? id with
      | none => rfl
      | some h =>
        let o : Observer := { h.value with notified := h.value.notified + 1 }
        let t : Session := { s with observers := s.observers.set id { h with value := o } }
        have heard : (t.retold R).record (.notified o.name o.notified (t.world.alive o.context))
            = (t.record (.notified o.name o.notified (t.world.alive o.context))).retold R :=
          t.record_retold R trivial
        have acted := foldl_retold (f := fun s action => act destroy s o action) R
          (fun s action => act_retold R retells o action s) o.actions
          (t.record (.notified o.name o.notified (t.world.alive o.context)))
        exact (congrArg (o.actions.foldl fun s action => act destroy s o action) heard).trans acted

/-- Destructions go through the retelling however deep they nest; the induction is on the depth. -/
theorem destroyWithin_retold (locked : Option UpdaterId) (depth : Nat) :
    Retells R (destroyWithin locked depth) := by
  induction depth with
  | zero => exact fun _ _ => rfl
  | succ depth ih =>
    intro s c
    have alive : (s.retold R).world.alive c = s.world.alive c := rfl
    unfold destroyWithin
    simp only [alive, filter_live_retold]
    split
    · generalize (s.registry c).filter s.isLive = live
      let lost : Session := { s.onWorld (·.loseContext c live.length) with
        registries := s.registries.set c []
        roll := s.roll ++ [.lost c locked] }
      have start : { (s.retold R).onWorld (·.loseContext c live.length) with
          registries := s.registries.set c []
          roll := s.roll ++ [.lost c locked] } = lost.retold R := by
        rw [s.onWorld_retold R fun w => w.loseContext_retold R c live.length]
        rfl
      have held := foldl_retold R (fun s p => s.hold_retold R p) live lost
      have told := foldl_retold R (fun s p => notify_retold R ih locked c s p) live
        (live.foldl hold lost)
      have done := foldl_retold R (fun s p => s.letGo_retold R p) live
        (live.foldl (notify (destroyWithin locked depth) locked c) (live.foldl hold lost))
      refine congrArg (·, live.length) (Eq.trans ?_ done)
      rw [← told, ← held, ← start]
      rfl
    · rfl

/-- The end of a context goes through the retelling, and as many are told. -/
theorem destroyContext_retold (locked : Option UpdaterId) (c : ContextId) :
    (s.retold R).destroyContext locked c = retoldReply R (s.destroyContext locked c) :=
  destroyWithin_retold R locked s.world.contexts.size s c

-- ==================================================== applying

/-- What callbacks leave, retold. -/
def Called.retold {α : Type} (called : Called α) (R : Retelling) : Called α :=
  { called with session := called.session.retold R }

/-- A callback of a source may make a fence, wait, post, destroy or adjust a backend; none of these
is about tracing. -/
theorem callback_retold (owner : Option UpdaterId) (state : Option ContextId)
    (fences : DequeueFences) (item : ScriptItem) (s : Session) :
    (s.retold R).callback owner state fences item
      = (s.callback owner state fences item).retold R := by
  cases item with
  | fence useSync =>
    simp only [callback, retold_world, DequeueFences.createFence_retold]
    rfl
  | wait fd =>
    simp only [callback, retold_world, DequeueFences.wait, FenceGate.wait_retold]
    rfl
  | notify =>
    cases owner with
    | none => rfl
    | some id =>
      exact congrArg (Called.mk · fences _)
        (s.onUpdater_retold R id fun u w => u.post_retold R w)
  | destroy =>
    cases state with
    | none => rfl
    | some c =>
      simp only [callback, destroyContext_retold, retoldReply]
      exact congrArg (Called.mk · fences _) (record_retold R _ trivial)
  | adjust settings =>
    exact congrArg (Called.mk · fences _) (s.onWorld_retold R fun w => rfl)

/-- A script is run item by item. -/
theorem runScript_retold (owner : Option UpdaterId) (state : Option ContextId)
    (items : List ScriptItem) (fences : DequeueFences) (s : Session) :
    (s.retold R).runScript owner state fences items
      = (s.runScript owner state fences items).retold R := by
  induction items generalizing s fences with
  | nil => rfl
  | cons item items ih =>
    simp only [runScript, callback_retold, Called.retold, ih]

/-- A source that is asked answers the same frame, after the same callbacks. -/
theorem dequeue_retold (id : UpdaterId) (ref : SourceRef) (fences : DequeueFences) :
    (s.retold R).dequeue id ref fences = (s.dequeue id ref fences).retold R := by
  have told (s : Session) (call : SourceCall) :
      (s.retold R).record (.source ref call) = (s.record (.source ref call)).retold R :=
    s.record_retold R trivial
  unfold dequeue
  simp only [told]
  generalize s.record (.source ref .dequeueBegun) = s
  simp only [retold_sources]
  cases s.sources.get? ref.id with
  | none => rfl
  | some source =>
    let taken : Session := { s with sources := s.sources.set ref.id source.next.2 }
    have ran := runScript_retold R (some id) source.context source.script fences taken
    dsimp only
    split
    · let after : Called (List CallbackResult) → Called (Option Frame) := fun ran =>
        ⟨ran.session.record (.source ref (.dequeued ran.answer)), ran.fences, source.next.1⟩
      exact (congrArg after ran).trans (congrArg (Called.mk · _ _) (told _ _))
    · rfl

/-- The frame that a source answers is latched, if there is one. -/
theorem latchFrame_retold (id : UpdaterId) (ref : SourceRef) (fences : DequeueFences) :
    (s.retold R).latchFrame id ref fences = (s.latchFrame id ref fences).retold R := by
  unfold latchFrame
  simp only [dequeue_retold, Called.retold]
  cases (s.dequeue id ref fences).answer with
  | none => rfl
  | some frame => exact onUpdater_retold R _ id fun u w => u.latch_retold R w frame _

/-- An apply of an updater goes through the retelling, from the hold that is taken at its beginning
to the one that is let go of at its end. -/
theorem apply_retold (id : UpdaterId) : (s.retold R).apply id = (s.apply id).retold R := by
  unfold apply
  rw [updaterOf?_retold]
  cases s.updaterOf? id with
  | none => rfl
  | some u =>
    have same : (u.retold R).destroyed = u.destroyed ∧ (u.retold R).fences = u.fences := ⟨rfl, rfl⟩
    have begins (s : Session) :
        (s.retold R).onUpdater id (fun u w => ((u.beginApply w).world, (u.beginApply w).object))
          = (s.onUpdater id fun u w =>
              ((u.beginApply w).world, (u.beginApply w).object)).retold R :=
      s.onUpdater_retold R id fun u w => by
        rw [u.beginApply_retold R w]
        rfl
    have commits (s : Session) :
        (s.retold R).onUpdater id (fun u w => (w, u.commitTransform))
          = (s.onUpdater id fun u w => (w, u.commitTransform)).retold R :=
      s.onUpdater_retold R id fun u w => by
        rw [u.commitTransform_retold R]
        rfl
    have asked : ((u.retold R).beginApply ((s.hold (.updater id)).retold R).world).answer
        = (u.beginApply (s.hold (.updater id)).world).answer := by
      rw [retold_world, u.beginApply_retold R]
      rfl
    simp only [Option.map_some, same]
    split
    · exact s.onWorld_retold R fun w => w.note_retold R _
    · rw [hold_retold, asked, begins]
      cases (u.beginApply (s.hold (.updater id)).world).answer with
      | none =>
        dsimp only
        rw [commits, letGo_retold]
      | some ref =>
        dsimp only
        rw [latchFrame_retold, commits, letGo_retold]

end Session

end LayerFeed
