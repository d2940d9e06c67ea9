/-
What commands do with those who take part in a session. A command is made of affairs, and of
contexts that it opens or destroys (`Upheaval`). Between upheavals nobody is told that a
context is lost, and but for an apply no source is taken or asked (`exec_doings`).

An apply takes a source and asks it at its beginning. What follows once the source is asked,
its callbacks included, takes no source and asks none (`apply_doings`).
-/
import LayerFeed.Proofs.Session.Affairs

namespace LayerFeed

open World

/-- A change that makes or loses contexts, or makes, names, registers or lets go of those who take
part. -/
def Change.Concerns : Change → Prop
  | .newState _ _ | .newContext _ _ | .destroy _ | .newObserver _ _ _ _ | .register _ _
  | .dropObserver _ | .newUpdater _ _ _ _ | .dropUpdater _ | .apply _ => True
  | _ => False

/-- A change by which somebody may post to an updater. -/
def Change.Posts : Change → Prop
  | .treatment _ .post | .notify _ => True
  | _ => False

namespace Session

variable {s s' : Session} {P : Entry → Prop} {D : Session → Session → Prop}

/-- A context is opened, or it is destroyed with all that follows from it. -/
inductive Upheaval : Session → Session → Prop
  | opens {s : Session} (b : Backend) : Upheaval s (s.makeContext b).1
  | destroys {s : Session} (locked : Option UpdaterId) (depth : Nat) (c : ContextId) :
      Upheaval s (destroyWithin locked depth s c).1

/-- The destruction of a context is an upheaval. -/
theorem destroyContext_upheaval (s : Session) (locked : Option UpdaterId) (c : ContextId) :
    Upheaval s (s.destroyContext locked c).1 := .destroys locked _ c

/-- What a command does that applies no updater, with anything between that `D` admits. -/
abbrev Course (D : Session → Session → Prop) : Session → Session → Prop := Doings Entry.Aside D

namespace Course

theorem refl (s : Session) : Course D s s := Relation.ReflTransGen.refl

theorem trans {s'' : Session} (first : Course D s s') (second : Course D s' s'') : Course D s s'' :=
  Relation.ReflTransGen.trans first second

/-- A single affair. -/
theorem affair (h : Affair Entry.Aside s s') : Course D s s' := .single (.affair h)

/-- A single step beyond the affairs. -/
theorem beyond (h : D s s') : Course D s s' := Doings.beyond h

/-- Only the world changes, and what stands beside names, registrations and participants. -/
theorem world (company : s'.company = s.company) (fresh : s.fresh ≤ s'.fresh)
    (writes : Writes Entry.Ordinary s.world s'.world) : Course D s s' :=
  Doings.apart (.of_company company fresh (writes.mono fun _ => Entry.Ordinary.aside))

/-- Only what stands beside changes. -/
theorem beside (company : s'.company = s.company) (fresh : s.fresh ≤ s'.fresh)
    (world : s'.world = s.world) : Course D s s' :=
  .world company fresh (by rw [world]; exact .refl _)

/-- Writing an entry that stands aside. -/
theorem remark {e : Entry} (aside : e.Aside) : Course D s (s.record e) :=
  Doings.apart (.record aside)

theorem onUpdater {id : UpdaterId} {f : Updater → World → World × Updater}
    (writes : ∀ u w, Writes Entry.Ordinary w (f u w).1) : Course D s (s.onUpdater id f) :=
  Doings.apart (.onUpdater fun u w => (writes u w).mono fun _ => Entry.Ordinary.aside)

/-- A post, by anybody. -/
theorem post (s : Session) (id : UpdaterId) :
    Course D s (s.onUpdater id fun u w => u.post w) :=
  Doings.apart (.onUpdater fun _ _ => .record ⟨trivial, trivial⟩)

end Course

/-- By an upheaval no source is taken or asked. -/
theorem Upheaval.history (upheaval : Upheaval s s') :
    ∃ es, s'.world.history = s.world.history ++ es ∧ ∀ e ∈ es, e.Unasked := by
  cases upheaval with
  | opens b => exact ⟨[], (List.append_nil _).symm, by simp⟩
  | destroys locked depth c =>
    exact (destroyWithin_affairs locked depth s c).history fun _ ordinary => ordinary.aside.2

/-- In its course a command takes no source and asks none. -/
theorem Course.history (course : Course Upheaval s s') :
    ∃ es, s'.world.history = s.world.history ++ es ∧ ∀ e ∈ es, e.Unasked := by
  have further : ∀ {a b : Session}, (∃ fs, b.world.history = a.world.history ++ fs
      ∧ ∀ e ∈ fs, e.Unasked) → (∃ es, a.world.history = s.world.history ++ es
      ∧ ∀ e ∈ es, e.Unasked) → ∃ es, b.world.history = s.world.history ++ es
      ∧ ∀ e ∈ es, e.Unasked := by
    rintro a b ⟨fs, grown', unasked'⟩ ⟨es, grown, unasked⟩
    refine ⟨es ++ fs, by rw [grown', grown, List.append_assoc], fun e mem => ?_⟩
    exact (List.mem_append.1 mem).elim (unasked e) (unasked' e)
  refine course.kept (I := fun t => ∃ es, t.world.history = s.world.history ++ es
    ∧ ∀ e ∈ es, e.Unasked) ⟨[], (List.append_nil _).symm, by simp⟩ (fun a b affair => further ?_)
    fun a b upheaval => further upheaval.history
  obtain ⟨fs, grown, aside⟩ := affair.history fun _ => Entry.Ordinary.aside
  exact ⟨fs, grown, fun e mem => (aside e mem).2⟩

-- ==================================================== callbacks

/-- A callback concerns nobody that posts to no updater and destroys no context. -/
theorem callback_apart {owner : Option UpdaterId} {state : Option ContextId} (s : Session)
    (fences : DequeueFences) {item : ScriptItem} (unposted : item = .notify → owner = none)
    (undestroyed : item = .destroy → state = none) :
    Apart Entry.Ordinary s (s.callback owner state fences item).session := by
  cases item with
  | fence useSync =>
    exact .of_company rfl (Nat.le_refl _) (fences.createFence_writes s.world useSync)
  | wait fd => exact .of_company rfl (Nat.le_refl _) (fences.gate.wait_writes s.world fd)
  | notify =>
    cases unposted rfl
    exact .refl _
  | destroy =>
    cases undestroyed rfl
    exact .refl _
  | adjust settings => exact .adjustBackend _ settings

section Callbacks

variable {owner : Option UpdaterId} {state : Option ContextId}
  (destroys : ∀ c, state = some c → ∀ s : Session, D s (s.destroyContext owner c).1)

include destroys

/-- A callback is a course: an upheaval only where it destroys a context. -/
theorem callback_course (s : Session) (fences : DequeueFences) (item : ScriptItem) :
    Course D s (s.callback owner state fences item).session := by
  cases item with
  | notify =>
    cases owner with
    | none => exact .refl _
    | some id => exact .post s id
  | destroy =>
    cases state with
    | none => exact .refl _
    | some c =>
      exact (Course.beyond (destroys c rfl s)).trans (.remark ⟨trivial, trivial⟩)
  | fence | wait | adjust =>
    refine Doings.apart (.mono (fun _ => Entry.Ordinary.aside) (callback_apart s fences ?_ ?_))
    all_goals nofun

/-- And so is a script, item by item. -/
theorem runScript_course (s : Session) (fences : DequeueFences) (script : List ScriptItem) :
    Course D s (s.runScript owner state fences script).session := by
  induction script generalizing s fences with
  | nil => exact .refl _
  | cons item items ih => exact (callback_course destroys s fences item).trans (ih _ _)

end Callbacks

-- ==================================================== applying

/-- A dequeue is a course, from the note that it has begun. -/
theorem dequeue_course (s : Session) (id : UpdaterId) (ref : SourceRef) (fences : DequeueFences) :
    Course Upheaval (s.record (.source ref .dequeueBegun)) (s.dequeue id ref fences).session := by
  unfold dequeue
  dsimp only
  generalize s.record (.source ref .dequeueBegun) = s
  cases s.sources.get? ref.id with
  | none => exact .refl _
  | some source =>
    have taken : Course Upheaval s { s with sources := s.sources.set ref.id source.next.2 } :=
      .beside rfl (Nat.le_refl _) rfl
    dsimp only
    split
    · refine taken.trans (Course.trans ?_ (.remark ⟨trivial, trivial⟩))
      exact runScript_course (fun c _ s => destroyContext_upheaval s (some id) c) _ fences _
    · exact taken

/-- And so is the latch that follows it. -/
theorem latchFrame_course (s : Session) (id : UpdaterId) (ref : SourceRef)
    (fences : DequeueFences) :
    Course Upheaval (s.record (.source ref .dequeueBegun)) (s.latchFrame id ref fences) := by
  have dequeued := dequeue_course s id ref fences
  unfold latchFrame
  dsimp only
  split
  · exact dequeued.trans (.onUpdater fun u w => u.latch_writes w _ _)
  · exact dequeued

/-- An apply up to the moment at which the source is asked, or to where it is left alone. -/
def begun (s : Session) (id : UpdaterId) (u : Updater) : Session :=
  let taken := (s.hold (.updater id)).onUpdater id fun u w =>
    ((u.beginApply w).world, (u.beginApply w).object)
  (u.beginApply s.world).answer.elim taken fun ref => taken.record (.source ref .dequeueBegun)

/-- What follows in an apply after its beginning. -/
theorem apply_course {id : UpdaterId} {u : Updater} (found : s.updaterOf? id = some u)
    (live : ¬ u.destroyed) : Course Upheaval (s.begun id u) (s.apply id) := by
  have committed : ∀ s', Course Upheaval s' ((s'.onUpdater id fun u w => (w, u.commitTransform)).letGo
      (.updater id)) :=
    fun s' => (Course.onUpdater fun _ w => .refl w).trans (.affair (.letGo _))
  unfold apply begun
  rw [found]
  dsimp only
  rw [if_neg live, show (s.hold (.updater id)).world = s.world from rfl]
  cases (u.beginApply s.world).answer with
  | none => exact committed _
  | some ref => exact (latchFrame_course _ id ref u.fences).trans (committed _)

/-- Nobody is told of a loss as an apply begins. -/
theorem begun_doings (s : Session) (id : UpdaterId) (u : Updater) :
    Doings Entry.Untold D s (s.begun id u) := by
  have taken : Doings Entry.Untold D s ((s.hold (.updater id)).onUpdater id fun u w =>
      ((u.beginApply w).world, (u.beginApply w).object)) :=
    (Doings.apart (.hold s _)).trans
      (Doings.apart (.onUpdater fun u w => u.beginApply_writes (fun _ => trivial) w))
  unfold begun
  dsimp only
  cases (u.beginApply s.world).answer with
  | none => exact taken
  | some ref => exact taken.trans (Doings.apart (.record trivial))

/-- In a course nobody is told of a loss but by an upheaval. -/
theorem Course.untold (course : Course Upheaval s s') : Doings Entry.Untold Upheaval s s' :=
  course.mono (fun _ aside => aside.1) fun _ _ => id

/-- And so in an apply. -/
theorem apply_doings (s : Session) (id : UpdaterId) :
    Doings Entry.Untold Upheaval s (s.apply id) := by
  cases found : s.updaterOf? id with
  | none =>
    unfold apply
    rw [found]
  | some u =>
    by_cases live : u.destroyed
    · unfold apply
      rw [found]
      dsimp only
      rw [if_pos live]
      exact Doings.apart (.record trivial)
    · exact (begun_doings s id u).trans (apply_course found live).untold

-- ==================================================== commands on participants

/-- A new observer is entered, registered if that is asked for, and named. -/
theorem newObserver_affairs (s : Session) (name state : String) (actions : List ObserverAction)
    (registered : Bool) : Affairs P s (s.newObserver name state actions registered) := by
  unfold newObserver
  cases s.state? state with
  | none => exact .refl
  | some c =>
    dsimp only
    have live : ∀ o, ({ s with fresh := s.fresh + 1, observers := s.observers.set s.fresh o }
        : Session).isLive (.observer s.fresh) := fun o => by
      show (Table.get? _ _).isSome
      rw [Table.get?_set_self]
      rfl
    refine .head (.observer ⟨name, c, actions, 0⟩) ?_
    split
    · exact .head (.registers c (.inl (live _))) (nameObserver_affairs name (live _))
    · exact nameObserver_affairs name (live _)

/-- A participant that is registered by its name is one that has a name. -/
theorem registerNamed_affairs (s : Session) (name state : String) :
    Affairs P s (s.registerNamed name state) := by
  unfold registerNamed
  split
  · next p c found _ =>
    refine .single (.registers c (.inr ?_))
    unfold participant? at found
    rcases Option.or_eq_some_iff.1 found with found | ⟨-, found⟩
    · obtain ⟨id, named, rfl⟩ := Option.map_eq_some_iff.1 found
      exact ⟨name, named⟩
    · obtain ⟨id, named, rfl⟩ := Option.map_eq_some_iff.1 found
      exact ⟨name, named⟩
  · exact .refl

-- ==================================================== commands on updaters and sources

theorem recorder_apart (s : Session) (name : String) : Apart P s (s.recorder name).1 := by
  unfold recorder
  cases s.recorderNames.get? name with
  | some id => exact .refl _
  | none => exact .of_company rfl (Nat.le_refl _) (.of_eq rfl rfl)

theorem chooseSink_apart (s : Session) (updater : String) (choice : SinkChoice) :
    Apart P s (s.chooseSink updater choice).1 := by
  cases choice with
  | recorder name => exact recorder_apart s name
  | text name limit => exact .of_company rfl (Nat.le_refl _) (.of_eq rfl rfl)
  | unchanged | discard | standardError | history => exact .refl _

/-- A new updater is entered with a sink of its choice, registered if its home is a render state,
and named. -/
theorem newUpdater_affairs (s : Session) (name : String) (config : Config) (home : Home)
    (sink : SinkChoice) : Affairs P s (s.newUpdater name config home sink).1 := by
  unfold newUpdater
  cases s.homeContext? home with
  | none => exact .refl
  | some c =>
    dsimp only
    rw [chooseSink_keeps]
    generalize chosen : ({ s with fresh := s.fresh + 1 } : Session).chooseSink name sink = k
    -- the updater can be entered before its sink is chosen
    generalize (Updater.new s.fresh c config).setSink (k.2.getD .none) = u
    have entered : Affairs P s { k.1 with updaters := s.updaters.set s.fresh { value := u } } := by
      have sunk : Apart P _ _ := chooseSink_apart { s with
        fresh := s.fresh + 1, updaters := s.updaters.set s.fresh { value := u } } name sink
      rw [chooseSink_updaters { s with fresh := s.fresh + 1 }, chosen] at sunk
      exact .head (.updater u) (Affairs.apart sunk)
    have live : ({ k.1 with updaters := s.updaters.set s.fresh { value := u } } : Session).isLive
        (.updater s.fresh) := by
      show (Table.get? _ _).isSome
      rw [Table.get?_set_self]
      rfl
    refine entered.trans ?_
    cases home with
    | registered state =>
      exact .head (.registers c (.inl live)) (nameUpdater_affairs name live)
    | unregistered | context => exact nameUpdater_affairs name live

/-- A function on a named updater is apart where its writes are allowed. -/
theorem onNamed_apart (s : Session) (name : String) {f : Updater → World → World × Updater}
    (writes : ∀ u w, Writes P w (f u w).1) : Apart P s (s.onNamed name f) := by
  unfold onNamed
  cases s.updaterNames.get? name with
  | none => exact .refl _
  | some id => exact .onUpdater writes

/-- A function that writes nothing is apart under any rule. -/
theorem onNamedAlone_apart (s : Session) (name : String) (f : Updater → Updater) :
    Apart P s (s.onNamedAlone name f) := onNamed_apart s name fun _ w => .refl w

theorem setSink_apart (s : Session) (updater : String) (choice : SinkChoice) :
    Apart P s (s.setSink updater choice) := by
  refine (chooseSink_apart s updater choice).trans ?_
  unfold setSink
  dsimp only
  split
  · exact onNamedAlone_apart _ updater _
  · exact .refl _

/-- A treatment posts, or writes what is ordinary. -/
theorem treat_writes (ordinary : ∀ e, e.Ordinary → P e) {treatment : Treatment}
    (posted : treatment = .post → ∀ id, P (.posted id)) (u : Updater) (w : World) :
    Writes P w (u.treat w treatment).1 := by
  cases treatment with
  | post => exact .record (posted rfl u.id)
  | detach => exact (u.detach_writes w).mono ordinary
  | teardown mode => exact (u.teardown_writes w mode).mono ordinary

/-- Attaching a source calls sources and backends. -/
theorem attach_apart (s : Session) (updater name : String) (source : Source)
    (state : Option String) : Apart Entry.Ordinary s (s.attach updater name source state) := by
  unfold attach
  cases s.updaterNames.get? updater with
  | none => exact .refl _
  | some id =>
    dsimp only
    refine Apart.trans ?_ (.onUpdater fun u w => u.attach_writes w _)
    exact .beside rfl (Nat.le_succ s.fresh) rfl

theorem onSource_apart (s : Session) (name : String) (f : Source → Source) :
    Apart P s (s.onSource name f) := by
  unfold onSource
  cases s.sourceNames.get? name with
  | none => exact .refl _
  | some id => exact .beside rfl (Nat.le_refl _) rfl

/-- A post writes the entry of its updater. -/
theorem post_apart (posted : ∀ id, P (.posted id)) (s : Session) (n : Notifier) :
    Apart P s (s.post n) := by
  cases n with
  | updater id => exact .onUpdater fun u _ => .record (posted u.id)
  | mailbox id => exact .beside rfl (Nat.le_refl _) rfl

theorem bind_apart (s : Session) (updater : String) (forceFilter : Bool)
    (transform : TextureTransform) (crop : Rect) (image : String) :
    Apart Entry.Ordinary s (s.bind updater forceFilter transform crop image) := by
  unfold bind
  split
  · next t _ _ =>
    split
    · refine Apart.trans ?_ (.onUpdater fun u w => u.bind_writes w _ _ _ _)
      exact .of_company rfl (Nat.le_refl _) (s.world.onTexture_writes t _)
    · exact .refl _
  · exact .refl _

-- ==================================================== commands on textures

theorem letGoTexture_apart (s : Session) (o : Option TextureId) :
    Apart Entry.Ordinary s (s.letGoTexture o) :=
  .of_company rfl (Nat.le_refl _) (letGoOf_writes ordinary_calls s.world o)

theorem keepImage_apart (s : Session) (name : String) (t : TextureId) :
    Apart Entry.Ordinary s (s.keepImage name t) := by
  refine Apart.trans ?_ (letGoTexture_apart _ _)
  exact .beside rfl (Nat.le_refl _) rfl

theorem keepOrDropImage_apart (s : Session) (name : Option String) (t : Option TextureId) :
    Apart Entry.Ordinary s (s.keepOrDropImage name t) := by
  unfold keepOrDropImage
  split
  · exact keepImage_apart s _ _
  · exact letGoTexture_apart s _
  · exact .refl _

theorem copyImage_apart (s : Session) (o : Option TextureId) (copy : String) :
    Apart Entry.Ordinary s (s.copyImage o copy) := by
  cases o with
  | none => exact .refl _
  | some t =>
    refine Apart.trans ?_ (keepImage_apart _ copy t)
    exact .of_company rfl (Nat.le_refl _) (s.world.onTexture_writes t _)

/-- An import outside any updater writes backend calls. -/
theorem importTexture_apart (s : Session) (name context : String) (p : Pipeline)
    (b : HardwareBuffer) (d : Dataspace) :
    Apart Entry.Ordinary s (s.importTexture name context p b d).1 := by
  unfold importTexture
  split
  · exact .refl _
  · next c _ =>
    have imported : Apart Entry.Ordinary s { s with world := (s.world.importTexture c p b d).1 } :=
      .of_company rfl (Nat.le_refl _) (s.world.importTexture_writes c p b d)
    dsimp only
    split
    · refine imported.trans (Apart.trans ?_ (letGoTexture_apart _ _))
      exact .beside rfl (Nat.le_refl _) rfl
    · exact imported

theorem releaseHandle_apart (s : Session) (name : String) (mode : TeardownMode) :
    Apart Entry.Ordinary s (s.releaseHandle name mode).1 := by
  unfold releaseHandle
  split
  · exact .refl _
  · exact .of_company rfl (Nat.le_refl _) (release_writes ordinary_calls s.world _ mode)

theorem discardSlot_apart (s : Session) (slot : Option Slot) :
    Apart Entry.Ordinary s (s.discardSlot slot) := by
  cases slot with
  | none => exact .refl _
  | some slot => exact .of_company rfl (Nat.le_refl _) (slot.discard_writes ordinary_calls s.world)

theorem discardCache_apart (s : Session) (cache : Option SlotCache) :
    Apart Entry.Ordinary s (s.discardCache cache) := by
  cases cache with
  | none => exact .refl _
  | some cache =>
    exact .of_company rfl (Nat.le_refl _) (cache.discard_writes ordinary_calls s.world)

theorem resolveSlot_apart (s : Session) (name context : String) (frame : Frame)
    (image : Option String) : Apart Entry.Ordinary s (s.resolveSlot name context frame image).1 := by
  unfold resolveSlot
  split
  · next slot c _ _ =>
    refine Apart.trans ?_ (keepOrDropImage_apart _ image _)
    exact .of_company rfl (Nat.le_refl _) (slot.resolve_writes s.world c _ _ _)
  · exact .refl _

theorem resolveCached_apart (s : Session) (name context : String) (frame : Frame)
    (image : Option String) :
    Apart Entry.Ordinary s (s.resolveCached name context frame image).1 := by
  unfold resolveCached
  split
  · next cache c _ _ =>
    refine Apart.trans ?_ (keepOrDropImage_apart _ image _)
    exact .of_company rfl (Nat.le_refl _) (cache.resolve_writes s.world c _ _ _ _)
  · exact .refl _

theorem clearSlot_apart (s : Session) (name : String) (mode : TeardownMode) :
    Apart Entry.Ordinary s (s.clearSlot name mode).1 := by
  unfold clearSlot
  split
  · exact .of_company rfl (Nat.le_refl _) (Slot.clear_writes ordinary_calls _ s.world mode)
  · exact .refl _

theorem clearCached_apart (s : Session) (name : String) (slot : SlotId) (mode : TeardownMode) :
    Apart Entry.Ordinary s (s.clearCached name slot mode).1 := by
  unfold clearCached
  split
  · exact .of_company rfl (Nat.le_refl _)
      (SlotCache.clear_writes ordinary_calls _ s.world slot mode)
  · exact .refl _

/-- Clearing a cache writes backend calls. -/
theorem clearCache_apart (s : Session) (name : String) (mode : TeardownMode) :
    Apart Entry.Ordinary s (s.clearCache name mode).1 := by
  unfold clearCache
  split
  · exact .of_company rfl (Nat.le_refl _) (SlotCache.clearAll_writes ordinary_calls _ s.world mode)
  · exact .refl _

/-- Handing back a texture writes backend calls. -/
theorem handBack_apart (s : Session) (o : Option TextureId) :
    Apart Entry.Ordinary s (s.handBack o) := by
  cases o with
  | none => exact .refl _
  | some t => exact .of_company rfl (Nat.le_refl _) (releaseQueue_writes ordinary_calls s.world t)

-- ==================================================== commands on fences

/-- Making a fence writes backend calls. -/
theorem makeFence_apart (s : Session) (context : String) (p : Pipeline) (useSync : Bool) :
    Apart Entry.Ordinary s (s.makeFence context p useSync).1 := by
  unfold makeFence
  split
  · exact .of_company rfl (Nat.le_refl _) (FenceGate.createFence_writes _ s.world useSync)
  · exact .refl _

/-- Waiting for one writes backend calls. -/
theorem waitFence_apart (s : Session) (context : String) (p : Pipeline) (fd : FenceFd) :
    Apart Entry.Ordinary s (s.waitFence context p fd).1 := by
  unfold waitFence
  split
  · exact .of_company rfl (Nat.le_refl _) (FenceGate.wait_writes _ s.world fd)
  · exact .refl _

/-- A script that is run for nobody writes calls only. -/
theorem runScript_apart (s : Session) (fences : DequeueFences) (script : List ScriptItem) :
    Apart Entry.Ordinary s (s.runScript none none fences script).session := by
  induction script generalizing s fences with
  | nil => exact .refl _
  | cons item items ih =>
    exact (callback_apart s fences (fun _ => rfl) fun _ => rfl).trans (ih _ _)

theorem dequeueFences_apart (s : Session) (context : String) (p : Pipeline)
    (previous : Previous) (calls : List ScriptItem) :
    Apart Entry.Ordinary s (s.dequeueFences context p previous calls).1 := by
  unfold dequeueFences
  split
  · exact runScript_apart s _ calls
  · exact .refl _

/-- Whatever is done with textures and fences concerns nobody who takes part. -/
theorem onTextures_apart (s : Session) (change : TextureChange) :
    Apart Entry.Ordinary s (s.onTextures change) := by
  cases change with
  | copy origin copy => exact copyImage_apart s _ copy
  | dropImage | dropHandle =>
    exact .of_company rfl (Nat.le_refl _) (letGoOf_writes ordinary_calls s.world _)
  | importTexture name context p b d => exact importTexture_apart s name context p b d
  | releaseHandle name mode => exact releaseHandle_apart s name mode
  | newSlot name p =>
    have kept : Apart Entry.Ordinary s { s with slots := s.slots.set name (.empty p) } :=
      .beside rfl (Nat.le_refl _) rfl
    exact kept.trans (discardSlot_apart _ _)
  | resolveSlot name context frame image => exact resolveSlot_apart s name context frame image
  | clearSlot name mode => exact clearSlot_apart s name mode
  | dropSlot name =>
    have erased : Apart Entry.Ordinary s { s with slots := s.slots.erase name } :=
      .beside rfl (Nat.le_refl _) rfl
    exact erased.trans (discardSlot_apart _ _)
  | newCache name p =>
    have kept : Apart Entry.Ordinary s { s with caches := s.caches.set name (.empty p) } :=
      .beside rfl (Nat.le_refl _) rfl
    exact kept.trans (discardCache_apart _ _)
  | resolveCached name context frame image => exact resolveCached_apart s name context frame image
  | clearCached name slot mode => exact clearCached_apart s name slot mode
  | clearCache name mode => exact clearCache_apart s name mode
  | dropCache name =>
    have erased : Apart Entry.Ordinary s { s with caches := s.caches.erase name } :=
      .beside rfl (Nat.le_refl _) rfl
    exact erased.trans (discardCache_apart _ _)
  | releaseQueue keeper => exact handBack_apart s _
  | makeFence context p useSync => exact makeFence_apart s context p useSync
  | waitFence context p fd => exact waitFence_apart s context p fd
  | dequeueFences context p previous calls => exact dequeueFences_apart s context p previous calls

/-- Of the changes of a recorder only a clearing writes. -/
theorem onRecorders_apart (cleared : ∀ id, P (.cleared id)) (s : Session)
    (change : RecorderChange) : Apart P s (s.onRecorders change) := by
  cases change with
  | new name =>
    have erased : Apart P s { s with recorderNames := s.recorderNames.erase name } :=
      .beside rfl (Nat.le_refl _) rfl
    exact erased.trans (recorder_apart _ name)
  | clone name copy =>
    unfold onRecorders
    dsimp only
    split
    · exact .beside rfl (Nat.le_refl _) rfl
    · exact .refl _
  | clear name =>
    unfold onRecorders
    dsimp only
    split
    · next id _ =>
      exact (Apart.record (cleared id)).trans
        (.of_company rfl (Nat.le_refl _) (.of_eq rfl rfl))
    · exact .refl _

-- ==================================================== all changes

section Changes

variable (ordinary : ∀ e, e.Ordinary → P e) (cleared : ∀ id, P (.cleared id)) {change : Change}
  (posted : change.Posts → ∀ id, P (.posted id))

include ordinary cleared posted

/-- A change that concerns nobody leaves everybody in place, and writes what is allowed if
whatever is ordinary is, and a post where one may be made. -/
theorem change_apart (aloof : ¬ change.Concerns) : Apart P s (s.after change) := by
  cases change with
  | newState | newContext | destroy | newObserver | register | dropObserver | newUpdater
  | dropUpdater | apply => exact absurd trivial aloof
  | nothing => exact .refl _
  | backend context settings =>
    unfold after
    dsimp only
    split
    · exact .adjustBackend _ settings
    · exact .refl _
  | sink updater choice => exact setSink_apart s updater choice
  | setting updater setting => exact onNamedAlone_apart s updater _
  | treatment updater treatment =>
    exact onNamed_apart s updater (treat_writes ordinary fun same => posted (by rw [same]; trivial))
  | attach updater name source state =>
    exact (attach_apart s updater name source state).mono ordinary
  | bind updater forceFilter transform crop image =>
    exact (bind_apart s updater forceFilter transform crop image).mono ordinary
  | source name change => exact onSource_apart s name _
  | notify notifier =>
    unfold after
    dsimp only
    split
    · exact post_apart (posted trivial) s _
    · exact .refl _
  | textures change => exact (onTextures_apart s change).mono ordinary
  | mail change => exact .beside rfl (s.desk.fresh_le change) rfl
  | recorders change => exact onRecorders_apart cleared s change

/-- A change that stirs nothing is made of affairs, but for contexts that are opened. -/
theorem change_doings (opens : ∀ (s : Session) (b : Backend), D s (s.makeContext b).1)
    (calm : ¬ change.Stirs) : Doings P D s (s.after change) := by
  by_cases concerns : change.Concerns
  · cases change with
    | newState name b | newContext name b =>
      exact (Doings.beyond (opens s b)).trans (Doings.apart (.beside rfl (Nat.le_refl _) rfl))
    | newObserver name state actions registered =>
      exact .of_affairs (newObserver_affairs s name state actions registered)
    | register name state => exact .of_affairs (registerNamed_affairs s name state)
    | dropObserver name => exact .of_affairs (dropObserver_affairs s name)
    | newUpdater name config home sink =>
      exact .of_affairs (newUpdater_affairs s name config home sink)
    | dropUpdater name => exact .of_affairs (dropUpdater_affairs s name)
    | destroy | apply => exact absurd trivial calm
    | _ => exact concerns.elim
  · exact Doings.apart (change_apart ordinary cleared posted concerns)

end Changes

-- ==================================================== all commands

/-- A command that stirs nothing takes its course, in which contexts are opened at most. -/
theorem exec_calm_course (opens : ∀ (s : Session) (b : Backend), D s (s.makeContext b).1)
    {command : Command} (calm : ¬ command.Stirs) : Course D s (s.exec command).1 := by
  rw [exec_change]
  exact change_doings (fun _ => Entry.Ordinary.aside) (fun _ => ⟨trivial, trivial⟩)
    (fun _ _ => ⟨trivial, trivial⟩) opens fun stirs => calm (command.stirs_change.1 stirs)

/-- Every command but an apply takes its course. -/
theorem exec_course (command : Command) (other : ∀ name, command ≠ .apply name) :
    Course Upheaval s (s.exec command).1 := by
  cases command with
  | apply name => exact absurd rfl (other name)
  | destroy state =>
    unfold exec
    dsimp only
    split
    · exact Doings.beyond (destroyContext_upheaval s none _)
    · exact .refl _
  | _ => exact exec_calm_course (fun _ b => .opens b) id

/-- In no command is anybody told of a lost context but by its destruction. -/
theorem exec_doings (s : Session) (command : Command) :
    Doings Entry.Untold Upheaval s (s.exec command).1 := by
  by_cases applies : ∃ name, command = .apply name
  · obtain ⟨name, rfl⟩ := applies
    unfold exec
    dsimp only
    split
    · exact apply_doings s _
    · exact .refl
  · exact (exec_course command fun name same => applies ⟨name, same⟩).untold

/-- A run is doings over all its commands. -/
theorem run_doings (s : Session) (commands : List Command) :
    Doings Entry.Untold Upheaval s (s.run commands) :=
  Doings.foldl exec_doings commands s

/-- And so is the start. -/
theorem start_doings (minimal : Bool) (b : Backend) :
    Doings Entry.Untold Upheaval ({ minimal } : Session) (start minimal b) := by
  have opened : Course Upheaval ({ minimal } : Session) (({ minimal } : Session).makeContext b).1 :=
    .beyond (.opens b)
  refine opened.untold.trans (Course.untold ?_)
  exact .beside rfl (Nat.le_refl _) rfl

end Session

end LayerFeed
