/-
What the parts of a command do, they do by moves: names are given and taken back, a context
is destroyed and all who are registered are told of it, a source is asked and runs its
callbacks. All of this keeps the backing of updaters, so that what is known of commands
(`Goes`) is put together from what is known of their parts.

Destructions are nested: who is told of one may destroy another context. The induction is
on how deep they may nest. While an updater's source is asked that updater stays locked
through all of them, because it is the one participant that is never told.
-/
import LayerFeed.Proofs.Session.Dequeue

namespace LayerFeed.Session

open World

variable {s s' : Session} {id i : UpdaterId} {h : Held Updater} {k : Nat} {c : ContextId}
  {locked : Option UpdaterId} {p : Participant}

-- ==================================================== names

/-- Taking a share of a participant goes by moves. -/
theorem hold_moves (s : Session) (p : Participant) : Moves locked s (s.hold p) := by
  cases p with
  | updater id => exact .single (.hold id)
  | observer id => exact .single (.beside ⟨rfl, Nat.le_refl _⟩)

/-- Dropping an observer changes no texture and no updater. -/
theorem letGo_observer_beside (s : Session) (id : ObserverId) :
    Beside s (s.letGo (.observer id)) := by
  unfold Session.letGo
  dsimp only
  cases s.observers.get? id with
  | none => exact ⟨rfl, Nat.le_refl _⟩
  | some h =>
    dsimp only
    split <;> exact ⟨rfl, Nat.le_refl _⟩

/-- So does letting go of one, also of the last share of an updater, which is dropped. -/
theorem letGo_moves (s : Session) (p : Participant) : Moves locked s (s.letGo p) := by
  cases p with
  | updater id => exact .single (.letGo id)
  | observer id => exact .single (.beside (letGo_observer_beside s id))

/-- Taking a share of each of a list goes by moves. -/
theorem holdAll_moves (s : Session) (ps : List Participant) : Moves locked s (ps.foldl hold s) := by
  induction ps generalizing s with
  | nil => exact .refl
  | cons p ps ih => exact (hold_moves s p).trans (ih _)

/-- Letting go of each of a list goes by moves. -/
theorem letGoAll_moves (s : Session) (ps : List Participant) :
    Moves locked s (ps.foldl Session.letGo s) := by
  induction ps generalizing s with
  | nil => exact .refl
  | cons p ps ih => exact (letGo_moves s p).trans (ih _)

/-- An updater whose name is gone has a holder without a name. -/
theorem Backed.unname {name : String} (named : s.updaterNames.get? name = some id)
    (backed : s.Backed i k) :
    { s with updaterNames := s.updaterNames.erase name }.Backed i
      (k + [Participant.updater id].count (Participant.updater i)) := by
  have total := Table.total_erase (fun j => if i = j then 1 else 0) s.updaterNames name
  rw [named] at total
  dsimp only [Option.elim] at total
  unfold Backed namesOf holdsOf at backed ⊢
  rw [count_updater]
  dsimp only
  omega

/-- Dropping a named updater goes by moves. -/
theorem dropUpdater_goes (s : Session) (name : String) : Goes locked s (s.dropUpdater name) := by
  unfold dropUpdater
  cases named : s.updaterNames.get? name with
  | none => exact .refl locked s
  | some id =>
    have unnamed : Moves locked s { s with updaterNames := s.updaterNames.erase name } :=
      .single (.beside ⟨rfl, Nat.le_refl _⟩)
    exact ⟨unnamed.trans (letGo_moves _ _), fun i k backed => (backed.unname named).letGo⟩

/-- No updater is concerned when an observer is let go. -/
theorem letGo_observer_aloof (s : Session) (id : ObserverId) :
    Aloof s (s.letGo (.observer id)) :=
  .beside (letGo_observer_beside s id) (letGo_names s _)

/-- Dropping a named observer leaves textures and updaters alone. -/
theorem dropObserver_aloof (s : Session) (name : String) : Aloof s (s.dropObserver name) := by
  unfold dropObserver
  cases s.observerNames.get? name with
  | none => exact .refl s
  | some id =>
    have unnamed : Aloof s { s with observerNames := s.observerNames.erase name } :=
      .beside ⟨rfl, Nat.le_refl _⟩ rfl
    exact unnamed.trans (letGo_observer_aloof _ id)

/-- Naming an observer again leaves textures and updaters alone. -/
theorem nameObserver_aloof (s : Session) (name : String) (id : ObserverId) :
    Aloof s (s.nameObserver name id) := by
  have renamed : Aloof s { s with observerNames := s.observerNames.set name id } :=
    .beside ⟨rfl, Nat.le_refl _⟩ rfl
  refine renamed.trans ?_
  unfold nameObserver
  cases s.observerNames.get? name with
  | none => exact .refl _
  | some old => exact letGo_observer_aloof _ old

/-- Naming an updater again goes by moves: the former holder of the name lets go. -/
theorem nameUpdater_moves (s : Session) (name : String) (id : UpdaterId) :
    Moves locked s (s.nameUpdater name id) := by
  have renamed : Moves locked s { s with updaterNames := s.updaterNames.set name id } :=
    .single (.beside ⟨rfl, Nat.le_refl _⟩)
  refine renamed.trans ?_
  unfold nameUpdater
  cases s.updaterNames.get? name with
  | none => exact .refl
  | some old => exact letGo_moves _ _

/-- A holder of an updater that had no name gets one. -/
theorem Backed.nameUpdater (name : String)
    (backed : s.Backed i (k + [Participant.updater id].count (.updater i))) :
    (s.nameUpdater name id).Backed i k := by
  have total := Table.total_set (fun j => if i = j then 1 else 0) s.updaterNames name id
  rw [count_updater] at backed
  unfold Session.nameUpdater
  cases named : s.updaterNames.get? name with
  | none =>
    rw [named] at total
    dsimp only [Option.elim] at total
    unfold Backed namesOf holdsOf at backed ⊢
    dsimp only
    omega
  | some old =>
    rw [named] at total
    dsimp only [Option.elim] at total
    refine Backed.letGo ?_
    unfold Backed namesOf holdsOf at backed ⊢
    rw [count_updater]
    dsimp only
    omega

-- ==================================================== destruction

/-- A teardown of an updater that is not locked is a deed of its own. -/
theorem teardown_goes (s : Session) (mode : TeardownMode) (free : locked ≠ some id) :
    Goes locked s (s.onUpdater id fun u w => u.teardown w mode) :=
  .onUpdater (fun _ _ => .teardown mode) fun same => absurd same free

section Destroy

variable {destroy : Destroyer} (destroys : ∀ s c, Goes locked s (destroy s c).1)

include destroys

/-- Every action of an observer goes by moves, provided that a nested destruction does. -/
theorem act_goes (s : Session) (o : Observer) (action : ObserverAction) :
    Goes locked s (act destroy s o action) := by
  cases action with
  | count => exact .remark rfl rfl
  | destroy => exact (destroys s o.context).trans (.remark rfl rfl)
  | register name =>
    refine Goes.trans ?_ (.remark rfl rfl)
    cases s.observerNames.get? name with
    | none => exact .refl _ _
    | some id => exact .beside ⟨rfl, Nat.le_refl _⟩ rfl
  | letGo name =>
    exact (Goes.aloof (dropObserver_aloof s name)).trans
      ((dropUpdater_goes _ name).trans (.remark rfl rfl))

/-- Telling one participant goes by moves; an updater that is locked is passed over. -/
theorem notify_goes (c : ContextId) (s : Session) (p : Participant) :
    Goes locked s (notify destroy locked c s p) := by
  unfold notify
  split
  · exact .refl _ _
  · next free =>
    have told : Goes locked s (s.record (.told c p)) := .remark rfl rfl
    refine told.trans ?_
    cases p with
    | updater id =>
      refine teardown_goes _ .contextLost fun same => free ?_
      rw [same, Option.map_some]
    | observer id =>
      dsimp only
      cases (s.record (.told c (.observer id))).observers.get? id with
      | none => exact .refl _ _
      | some h =>
        dsimp only
        refine Goes.trans ?_ (Goes.trans (.remark (e := .notified _ _ _) rfl rfl)
          (Goes.foldl (fun s action => act_goes destroys s _ action) _ _))
        exact .beside ⟨rfl, Nat.le_refl _⟩ rfl

end Destroy

/-- The session in which a context was just marked as lost. -/
def loses (s : Session) (locked : Option UpdaterId) (c : ContextId) : Session :=
  { s.onWorld (·.loseContext c (s.observerCount c)) with
    registries := s.registries.set c []
    roll := s.roll ++ [.lost c locked] }

/-- Losing a living context goes by moves. -/
theorem loses_goes {k : Option UpdaterId} (alive : s.world.alive c) :
    Goes locked s (s.loses k c) :=
  (Goes.aloof (.loseContext (s.observerCount c) alive)).trans (.beside ⟨rfl, Nat.le_refl _⟩ rfl)

/-- What follows once a context is marked as lost: all that are registered are held, then
told in order, then let go in order. -/
theorem told_goes {depth : Nat}
    (nested : ∀ s c, Goes locked s (destroyWithin locked depth s c).1) (alive : s.world.alive c) :
    Goes locked (s.loses locked c) (destroyWithin locked (depth + 1) s c).1 := by
  unfold destroyWithin
  rw [if_pos alive]
  have count : ((s.registry c).filter s.isLive).length = s.observerCount c :=
    List.countP_eq_length_filter.symm
  have live : ∀ p ∈ (s.registry c).filter s.isLive, (s.loses locked c).isLive p := by
    intro p mem
    have held := (List.mem_filter.1 mem).2
    cases p <;> exact held
  unfold loses at live ⊢
  dsimp only
  rw [count]
  generalize (s.registry c).filter s.isLive = ps at live
  have notified := Goes.foldl (notify_goes nested c) ps
  refine ⟨(holdAll_moves _ ps).trans ((notified _).moves.trans (letGoAll_moves _ ps)),
    fun i k backed => ?_⟩
  exact ((notified _).backed i _ (backed.holdAll live)).letGoAll

/-- The destruction of a context goes by moves at every depth, by induction on the depth. -/
theorem destroyWithin_goes (locked : Option UpdaterId) (depth : Nat) (s : Session)
    (c : ContextId) : Goes locked s (destroyWithin locked depth s c).1 := by
  induction depth generalizing s c with
  | zero => exact .refl locked s
  | succ depth ih =>
    by_cases alive : s.world.alive c
    · exact (loses_goes alive).trans (told_goes ih alive)
    · rw [destroyWithin, if_neg alive]
      exact .refl locked s

/-- A context that is alive is one of those that may be lost. -/
theorem exists_depth (alive : s.world.alive c) : ∃ depth, s.world.contexts.size = depth + 1 := by
  obtain ⟨x, found, -⟩ := alive_eq_true.1 alive
  unfold Table.get? at found
  unfold Table.size
  cases entries : s.world.contexts.entries with
  | nil =>
    rw [entries] at found
    cases found
  | cons row rows => exact ⟨rows.length, rfl⟩

/-- The destruction of a context goes by moves. -/
theorem destroyContext_goes (s : Session) (locked : Option UpdaterId) (c : ContextId) :
    Goes locked s (s.destroyContext locked c).1 :=
  destroyWithin_goes locked _ s c

-- ==================================================== callbacks

/-- Updater `id` is being asked for by `fences`: it is there, it is held beside its names, and
the fences are made with the slot that it shows. -/
structure Asked (s : Session) (id : UpdaterId) (h : Held Updater) (fences : DequeueFences) :
    Prop where
  order : s.InOrder
  entered : s.updaters.get? id = some h
  backed : s.Backed id 1
  gate : fences.gate = h.value.fences.gate
  previous : fences.previous = h.value.fences.previous

variable {fences fences' : DequeueFences}

/-- Whoever is asked is still asked after what happens while it is locked. -/
theorem Asked.goes (asked : s.Asked id h fences) (goes : Goes (some id) s s')
    (gate : fences'.gate = fences.gate) (previous : fences'.previous = fences.previous) :
    ∃ h', s'.Asked id h' fences' ∧ Untouched h h' := by
  have backed := goes.backed id 1 asked.backed
  obtain ⟨h', entered⟩ := backed.there
  have given := (asked.order.sound.numbered.updaters id h asked.entered).1
  rcases goes.moves.untouched given asked.entered with absent | ⟨v, there, same⟩
  · rw [absent] at entered
    cases entered
  · rw [there] at entered
    cases entered
    refine ⟨h', ⟨asked.order.steps goes.moves.steps, there, backed, ?_, ?_⟩, same⟩
    · rw [gate, asked.gate, same.fences]
    · rw [previous, asked.previous, same.fences]

/-- A callback of a source that is asked. A fence hands back the buffer of the slot that is
shown. -/
theorem callback_goes (asked : s.Asked id h fences) (state : Option ContextId)
    (item : ScriptItem) :
    let called := s.callback (some id) state fences item
    Goes (some id) s called.session ∧ called.fences.gate = fences.gate
      ∧ called.fences.previous = fences.previous
      ∧ ((∃ f, called.answer = .fence f) → h.value.HandedBack called.session.world) := by
  cases item with
  | fence useSync =>
    have deed : Goes (some id) s _ := .deed asked.entered
      (.callback (.fence fences useSync asked.gate asked.previous))
      fun _ => .fence fences useSync asked.gate asked.previous
    rw [updaters_set_self asked.entered] at deed
    refine ⟨deed, rfl, rfl, fun _ => ?_⟩
    exact fence_handsBack asked.order.handBacks fences useSync asked.gate asked.previous
  | wait fd => exact ⟨.aloof (.waitFence fences.gate fd), rfl, rfl, nofun⟩
  | notify =>
    exact ⟨.onUpdater (fun _ _ => .callback .post) fun _ _ _ => .post, rfl, rfl, nofun⟩
  | destroy =>
    cases state with
    | none => exact ⟨.refl _ _, rfl, rfl, nofun⟩
    | some c =>
      exact ⟨(destroyContext_goes s (some id) c).trans (.remark rfl rfl), rfl, rfl, nofun⟩
  | adjust settings => exact ⟨.aloof (.adjustBackend _ settings), rfl, rfl, nofun⟩

/-- All callbacks of a source that is asked. -/
theorem runScript_goes (asked : s.Asked id h fences) (state : Option ContextId)
    (script : List ScriptItem) :
    let ran := s.runScript (some id) state fences script
    Goes (some id) s ran.session ∧ ∃ h', ran.session.Asked id h' ran.fences ∧ Untouched h h'
      ∧ ((∃ f, .fence f ∈ ran.answer) → h'.value.HandedBack ran.session.world) := by
  induction script generalizing s h fences with
  | nil => exact ⟨.refl _ _, h, asked, rfl, fun ⟨_, mem⟩ => by cases mem⟩
  | cons item items ih =>
    obtain ⟨called, gate, previous, back⟩ := callback_goes asked state item
    obtain ⟨h₁, asked₁, same₁⟩ := asked.goes called gate previous
    obtain ⟨ran, h₂, asked₂, same₂, back₂⟩ := ih asked₁
    refine ⟨called.trans ran, h₂, asked₂, same₁.trans same₂, ?_⟩
    rintro ⟨f, mem⟩
    rcases List.mem_cons.1 mem with first | mem
    · -- the first callback handed the buffer back, and the others leave it so
      have given := (asked₁.order.sound.numbered.updaters id h₁ asked₁.entered).1
      have back₁ := (back ⟨f, first.symm⟩).congr same₁.config same₁.fences fun _ _ _ _ => rfl
      exact ran.moves.handedBack asked₁.order given asked₁.entered asked₂.entered back₁
    · exact back₂ ⟨f, mem⟩

-- ==================================================== applying

/-- Noting what a dequeue answered goes by moves. -/
theorem answer_goes {ref : SourceRef} (entered : s.updaters.get? id = some h)
    (has : h.value.source = some ref) (results : List CallbackResult) :
    Goes none s (s.record (.source ref (.dequeued results))) := by
  have answered : Goes none s _ := .deed entered (.answer results has) unlocked
  rwa [updaters_set_self entered] at answered

/-- What follows once a source is asked: it runs its callbacks and answers, and the updater that
asked it is there to take a frame over. -/
theorem dequeue_goes {ref : SourceRef}
    (asked : (s.record (.source ref .dequeueBegun)).Asked id h fences)
    (has : h.value.source = some ref) (live : ¬ h.value.destroyed) :
    let dequeued := s.dequeue id ref fences
    Goes none (s.record (.source ref .dequeueBegun)) dequeued.session
      ∧ ∃ h', dequeued.session.updaters.get? id = some h' ∧ ¬ h'.value.destroyed
        ∧ (dequeued.answer.isSome → h'.value.Answered dequeued.session.world) := by
  unfold dequeue
  dsimp only
  generalize s.record (.source ref .dequeueBegun) = s at asked
  cases s.sources.get? ref.id with
  | none => exact ⟨.refl none s, h, asked.entered, live, nofun⟩
  | some source =>
    dsimp only
    have taken : Goes (some id) s
        { s with sources := s.sources.set ref.id source.next.2 } :=
      .beside ⟨rfl, Nat.le_refl _⟩ rfl
    obtain ⟨h₁, asked₁, same₁⟩ := asked.goes taken rfl rfl
    have live₁ : ¬ h₁.value.destroyed := by
      rw [same₁]
      exact live
    by_cases runs : (source.next.1.isSome || source.always) = true
    · rw [if_pos runs]
      obtain ⟨ran, h₂, asked₂, same₂, back⟩ := runScript_goes asked₁ source.context source.script
      have same := same₁.trans same₂
      have has₂ : h₂.value.source = some ref := by
        rw [same]
        exact has
      have live₂ : ¬ h₂.value.destroyed := by
        rw [same₂]
        exact live₁
      exact ⟨taken.unlock.trans (ran.unlock.trans (answer_goes asked₂.entered has₂ _)), h₂,
        asked₂.entered, live₂, fun _ => ⟨_, ref, _, rfl, has₂, back⟩⟩
    · rw [if_neg runs]
      exact ⟨taken.unlock, h₁, asked₁.entered, live₁, nofun⟩

/-- A latch destroys nothing. -/
theorem latch_destroyed (u : Updater) (w : World) (frame : Frame) (issued : Option FenceClass) :
    (u.latch w frame issued).2.destroyed = u.destroyed :=
  (latch_sameSource u w frame issued).destroyed

/-- The dequeue of an apply and its latch go by moves, in a session where the updater asked for
them. -/
theorem latchFrame_goes {ref : SourceRef}
    (asked : (s.record (.source ref .dequeueBegun)).Asked id h fences)
    (has : h.value.source = some ref) (live : ¬ h.value.destroyed) :
    Goes none (s.record (.source ref .dequeueBegun)) (s.latchFrame id ref fences)
      ∧ ∀ h', (s.latchFrame id ref fences).updaters.get? id = some h' → ¬ h'.value.destroyed := by
  obtain ⟨dequeued, h', there, live', answered⟩ := dequeue_goes asked has live
  have only : ∀ v, (s.dequeue id ref fences).session.updaters.get? id = some v → v = h' :=
    fun v entered => Option.some.inj (entered.symm.trans there)
  unfold latchFrame
  dsimp only
  cases answer : (s.dequeue id ref fences).answer with
  | none => exact ⟨dequeued, fun v entered => by rwa [only v entered]⟩
  | some frame =>
    have latched : Goes none (s.dequeue id ref fences).session _ :=
      .onUpdater (f := fun u w => u.latch w frame (s.dequeue id ref fences).fences.issued)
        (fun v entered => by
          rw [only v entered]
          exact .latch frame _ live' (answered (by rw [answer]; rfl))) unlocked
    refine ⟨dequeued.trans latched, fun v entered => ?_⟩
    rw [onUpdater_get?, if_pos rfl, there] at entered
    cases entered
    rwa [latch_destroyed]

/-- The start of an apply does not touch the fences. -/
theorem beginApply_fences (u : Updater) (w : World) :
    (u.beginApply w).object.fences = u.fences := by
  unfold Updater.beginApply Updater.takeOwnership
  dsimp only
  split
  · rfl
  · split <;> rfl

theorem updaterOf?_hold (s : Session) (p : Participant) (id : UpdaterId) :
    (s.hold p).updaterOf? id = s.updaterOf? id := by
  cases p with
  | observer => rfl
  | updater j =>
    unfold updaterOf?
    rw [hold_get?]
    split
    · next same => rw [same, Option.map_map]; rfl
    · rfl

/-- The first part of an apply that asks a source. The updater, which is held for it, waits for
the answer. -/
theorem ask_goes {ref : SourceRef} (order : s.InOrder) (entered : s.updaters.get? id = some h)
    (live : ¬ h.value.destroyed) (asked : (h.value.beginApply s.world).answer = some ref)
    (owed : s.Backed id 1) :
    let begun := (s.onUpdater id fun u w =>
      ((u.beginApply w).world, (u.beginApply w).object)).record (.source ref .dequeueBegun)
    Goes none s begun
      ∧ begun.Asked id { h with value := (h.value.beginApply s.world).object } h.value.fences := by
  have asks : Goes none s _ := .deed entered (.ask live asked) unlocked
  dsimp only
  rw [onUpdater_eq entered]
  refine ⟨asks, ?_⟩
  exact
    { order := order.steps asks.moves.steps
      entered := Table.get?_set_self _ _ _
      backed := asks.backed id 1 owed
      gate := by rw [beginApply_fences]
      previous := by rw [beginApply_fences] }

/-- An apply holds its updater, and lets it go at the end. -/
theorem apply_goes (order : s.InOrder) (backed : ∀ i, s.Backed i 0) (id : UpdaterId) :
    Goes none s (s.apply id) := by
  unfold apply
  cases found : s.updaterOf? id with
  | none => exact .refl none s
  | some u =>
    dsimp only
    by_cases gone : u.destroyed
    · rw [if_pos gone]
      exact .remark rfl rfl
    · rw [if_neg gone]
      have live : s.isLive (.updater id) := by
        obtain ⟨h, entered, -⟩ := Option.map_eq_some_iff.1 found
        show (s.updaters.get? id).isSome
        rw [entered]
        rfl
      have held : (s.hold (.updater id)).updaterOf? id = some u := by
        rw [updaterOf?_hold, found]
      have holding : Moves none s (s.hold (.updater id)) := hold_moves s (.updater id)
      have order' := order.steps holding.steps
      have backed' : ∀ i k, s.Backed i k →
          (s.hold (.updater id)).Backed i (k + [Participant.updater id].count (.updater i)) :=
        fun i k backed => backed.hold live
      suffices body : Goes none (s.hold (.updater id)) _ from
        ⟨holding.trans (body.moves.trans (letGo_moves _ _)),
          fun i k backed => (body.backed i _ (backed' i k backed)).letGo⟩
      have owed := backed' id 0 (backed id)
      rw [count_updater, if_pos rfl] at owed
      generalize s.hold (.updater id) = s at held order' owed
      obtain ⟨h, entered, rfl⟩ := Option.map_eq_some_iff.1 held
      have committed : ∀ s' : Session, Goes none s s' ∧
          (∀ h', s'.updaters.get? id = some h' → ¬ h'.value.destroyed) →
          Goes none s (s'.onUpdater id fun u w => (w, u.commitTransform)) :=
        fun s' ⟨goes, live⟩ => goes.trans
          (.onUpdater (fun v there => .setter .commitTransform (.inl (live v there))) unlocked)
      refine committed _ ?_
      cases asked : (h.value.beginApply s.world).answer with
      | none =>
        have same := (Updater.beginApply_idle asked).2.2.2
        refine ⟨.onUpdater (fun v there => ?_) unlocked, fun v there => ?_⟩
        · rw [entered] at there
          cases there
          exact .idle gone asked
        · rw [onUpdater_get?, if_pos rfl, entered] at there
          cases there
          rwa [same]
      | some ref =>
        obtain ⟨asks, waits⟩ := ask_goes order' entered gone asked owed
        obtain ⟨-, -, has, -, same⟩ := Updater.beginApply_asks asked
        obtain ⟨latches, live⟩ := latchFrame_goes waits has (by rwa [same])
        exact ⟨asks.trans latches, live⟩

end LayerFeed.Session
