/-
What few commands touch: the names of contexts, and the caches that have names. Whatever
becomes of those who take part in a session, all this stays as it is: destructions, applies and
most commands leave it in place (`exec_fixtures`).

So a context that has a name was opened, and every updater belongs to such a context
(`run_housed`): what the history tells of the context's loss decides whether it is alive.
-/
import LayerFeed.Proofs.Session.Applied

namespace LayerFeed

/-- The command names a context, or does something with a cache that has a name. -/
def Command.Refits : Command → Prop
  | .newState _ _ | .newContext _ _ | .newCache _ _ | .dropCache _ | .resolveCached _ _ _ _
  | .clearCached _ _ _ | .clearCache _ _ => True
  | _ => False

/-- A cache that has a name comes, goes or changes. -/
def TextureChange.Refits : TextureChange → Prop
  | .newCache _ _ | .dropCache _ | .resolveCached _ _ _ _ | .clearCached _ _ _
  | .clearCache _ _ => True
  | _ => False

/-- A context gets a name, or something is done with a cache that has one. -/
def Change.Refits : Change → Prop
  | .newState _ _ | .newContext _ _ => True
  | .textures change => change.Refits
  | _ => False

/-- A command refits exactly when its change does. -/
theorem Command.refits_change (command : Command) : command.change.Refits ↔ command.Refits := by
  cases command <;> exact Iff.rfl

namespace Session

variable {s s' : Session} {locked : Option UpdaterId} {i : UpdaterId} {c : ContextId}

/-- The names of contexts and render states, and the caches that have names. -/
def fixtures (s : Session) :
    Table String ContextId × Table String ContextId × Table String SlotCache :=
  (s.contextNames, s.stateNames, s.caches)

/-- A list of steps that leave the fixtures. -/
theorem foldl_fixtures {α : Type} {f : Session → α → Session}
    (h : ∀ s a, (f s a).fixtures = s.fixtures) (as : List α) (s : Session) :
    (as.foldl f s).fixtures = s.fixtures := by
  induction as generalizing s with
  | nil => rfl
  | cons a as ih => exact (ih _).trans (h s a)

-- ==================================================== participants

/-- A function on an updater leaves the fixtures. -/
theorem onUpdater_fixtures (s : Session) (id : UpdaterId)
    (f : Updater → World → World × Updater) : (s.onUpdater id f).fixtures = s.fixtures := by
  unfold onUpdater
  split <;> rfl

/-- A share of a participant is no fixture. -/
theorem hold_fixtures (s : Session) (p : Participant) : (s.hold p).fixtures = s.fixtures := by
  cases p <;> rfl

/-- Letting go of one leaves the fixtures. -/
theorem letGo_fixtures (s : Session) (p : Participant) : (s.letGo p).fixtures = s.fixtures := by
  cases p <;>
  · unfold letGo
    dsimp only
    split
    · split <;> rfl
    · rfl

/-- Dropping a named updater leaves the fixtures. -/
theorem dropUpdater_fixtures (s : Session) (name : String) :
    (s.dropUpdater name).fixtures = s.fixtures := by
  unfold dropUpdater
  split
  · exact letGo_fixtures _ _
  · rfl

theorem dropObserver_fixtures (s : Session) (name : String) :
    (s.dropObserver name).fixtures = s.fixtures := by
  unfold dropObserver
  split
  · exact letGo_fixtures _ _
  · rfl

/-- Naming an updater again leaves the fixtures. -/
theorem nameUpdater_fixtures (s : Session) (name : String) (id : UpdaterId) :
    (s.nameUpdater name id).fixtures = s.fixtures := by
  unfold nameUpdater
  dsimp only
  split
  · exact letGo_fixtures _ _
  · rfl

theorem nameObserver_fixtures (s : Session) (name : String) (id : ObserverId) :
    (s.nameObserver name id).fixtures = s.fixtures := by
  unfold nameObserver
  dsimp only
  split
  · exact letGo_fixtures _ _
  · rfl

-- ==================================================== destruction

section Destroy

variable {destroy : Destroyer} (destroys : ∀ s c, (destroy s c).1.fixtures = s.fixtures)

include destroys

/-- Whatever an observer does, the fixtures stay. -/
theorem act_fixtures (s : Session) (o : Observer) (action : ObserverAction) :
    (act destroy s o action).fixtures = s.fixtures := by
  cases action with
  | count => rfl
  | destroy => exact destroys s o.context
  | register name =>
    unfold act
    dsimp only
    cases s.observerNames.get? name <;> rfl
  | letGo name => exact (dropUpdater_fixtures _ name).trans (dropObserver_fixtures s name)

/-- Telling a participant leaves the fixtures. -/
theorem notify_fixtures (c : ContextId) (s : Session) (p : Participant) :
    (notify destroy locked c s p).fixtures = s.fixtures := by
  unfold notify
  split
  · rfl
  · cases p with
    | updater id => exact onUpdater_fixtures _ id _
    | observer id =>
      dsimp only
      split
      · exact foldl_fixtures (fun s => act_fixtures destroys s _) _ _
      · rfl

end Destroy

/-- The destruction of a context leaves the fixtures. -/
theorem destroyWithin_fixtures (locked : Option UpdaterId) (depth : Nat) (s : Session)
    (c : ContextId) : (destroyWithin locked depth s c).1.fixtures = s.fixtures := by
  induction depth generalizing s c with
  | zero => rfl
  | succ depth ih =>
    unfold destroyWithin
    split
    · refine (foldl_fixtures letGo_fixtures _ _).trans ?_
      refine (foldl_fixtures (notify_fixtures ih c) _ _).trans ?_
      exact foldl_fixtures hold_fixtures _ _
    · rfl

-- ==================================================== applying

/-- A script leaves the fixtures. -/
theorem runScript_fixtures (s : Session) (owner : Option UpdaterId) (state : Option ContextId)
    (fences : DequeueFences) (script : List ScriptItem) :
    (s.runScript owner state fences script).session.fixtures = s.fixtures := by
  induction script generalizing s fences with
  | nil => rfl
  | cons item items ih =>
    refine (ih _ _).trans ?_
    cases item with
    | fence | wait | adjust => rfl
    | notify =>
      cases owner with
      | none => rfl
      | some id => exact onUpdater_fixtures s id _
    | destroy =>
      cases state with
      | none => rfl
      | some c => exact destroyWithin_fixtures owner _ s c

/-- The dequeue of an apply and its latch leave the fixtures. -/
theorem latchFrame_fixtures (s : Session) (id : UpdaterId) (ref : SourceRef)
    (fences : DequeueFences) : (s.latchFrame id ref fences).fixtures = s.fixtures := by
  have dequeued : (s.dequeue id ref fences).session.fixtures = s.fixtures := by
    unfold dequeue
    dsimp only
    split
    · rfl
    · split
      · exact runScript_fixtures _ _ _ _ _
      · rfl
  unfold latchFrame
  dsimp only
  split
  · exact (onUpdater_fixtures _ id _).trans dequeued
  · exact dequeued

/-- An apply leaves the fixtures. -/
theorem apply_fixtures (s : Session) (id : UpdaterId) : (s.apply id).fixtures = s.fixtures := by
  unfold apply
  split
  · rfl
  · split
    · rfl
    · refine (letGo_fixtures _ _).trans ((onUpdater_fixtures _ id _).trans ?_)
      have begun := fun f => (onUpdater_fixtures (s.hold (.updater id)) id f).trans
        (hold_fixtures s (.updater id))
      split
      · exact (latchFrame_fixtures _ id _ _).trans (begun _)
      · exact begun _

-- ==================================================== commands

theorem recorder_fixtures (s : Session) (name : String) :
    (s.recorder name).1.fixtures = s.fixtures := by
  unfold recorder
  split <;> rfl

theorem chooseSink_fixtures (s : Session) (updater : String) (choice : SinkChoice) :
    (s.chooseSink updater choice).1.fixtures = s.fixtures := by
  cases choice with
  | recorder name => exact recorder_fixtures s name
  | unchanged | discard | standardError | history | text => rfl

/-- A function on a named updater leaves the fixtures. -/
theorem onNamed_fixtures (s : Session) (name : String) (f : Updater → World → World × Updater) :
    (s.onNamed name f).fixtures = s.fixtures := by
  unfold onNamed
  split
  · exact onUpdater_fixtures s _ f
  · rfl

/-- A new updater leaves the fixtures. -/
theorem newUpdater_fixtures (s : Session) (name : String) (config : Config) (home : Home)
    (sink : SinkChoice) : (s.newUpdater name config home sink).1.fixtures = s.fixtures := by
  have chosen := chooseSink_fixtures { s with fresh := s.fresh + 1 } name sink
  unfold newUpdater
  split
  · rfl
  · refine (nameUpdater_fixtures _ name _).trans ?_
    cases home <;> exact chosen

theorem copyImage_fixtures (s : Session) (t : Option TextureId) (copy : String) :
    (s.copyImage t copy).fixtures = s.fixtures := by
  cases t <;> rfl

theorem discardSlot_fixtures (s : Session) (slot : Option Slot) :
    (s.discardSlot slot).fixtures = s.fixtures := by
  cases slot <;> rfl

theorem handBack_fixtures (s : Session) (t : Option TextureId) :
    (s.handBack t).fixtures = s.fixtures := by
  cases t <;> rfl

theorem setSink_fixtures (s : Session) (updater : String) (choice : SinkChoice) :
    (s.setSink updater choice).fixtures = s.fixtures := by
  have chosen := chooseSink_fixtures s updater choice
  unfold setSink
  dsimp only
  split
  · exact (onNamed_fixtures _ updater _).trans chosen
  · exact chosen

/-- A change of textures leaves the fixtures, unless it refits a named cache. -/
theorem onTextures_fixtures {change : TextureChange} (plain : ¬ change.Refits) :
    (s.onTextures change).fixtures = s.fixtures := by
  cases change with
  | newCache | dropCache | resolveCached | clearCached | clearCache => exact absurd trivial plain
  | copy origin copy => exact copyImage_fixtures s _ copy
  | dropImage | dropHandle => rfl
  | importTexture name context p b d =>
    unfold onTextures importTexture
    dsimp only
    split
    · rfl
    · split <;> rfl
  | newSlot | dropSlot => exact discardSlot_fixtures _ _
  | resolveSlot name context frame image =>
    unfold onTextures resolveSlot
    dsimp only
    split
    · unfold keepOrDropImage
      split <;> rfl
    · rfl
  | releaseQueue keeper => exact handBack_fixtures s _
  | releaseHandle | clearSlot | makeFence | waitFence =>
    unfold onTextures
    dsimp only
    first
      | unfold releaseHandle | unfold clearSlot | unfold makeFence | unfold waitFence
    split <;> rfl
  | dequeueFences context p previous calls =>
    unfold onTextures dequeueFences
    dsimp only
    split
    · exact runScript_fixtures s none none _ calls
    · rfl

/-- A change that refits nothing leaves the fixtures in place. -/
theorem change_fixtures {change : Change} (plain : ¬ change.Refits) :
    (s.after change).fixtures = s.fixtures := by
  cases change with
  | nothing | mail => rfl
  | newState | newContext => exact absurd trivial plain
  | backend =>
    unfold after
    dsimp only
    split <;> rfl
  | destroy state =>
    unfold after
    dsimp only
    split
    · exact destroyWithin_fixtures none _ s _
    · rfl
  | newObserver name state actions registered =>
    unfold after newObserver
    dsimp only
    split
    · rfl
    · refine (nameObserver_fixtures _ name _).trans ?_
      split <;> rfl
  | register name state =>
    unfold after registerNamed
    dsimp only
    split <;> rfl
  | dropObserver name => exact dropObserver_fixtures s name
  | newUpdater name config home sink => exact newUpdater_fixtures s name config home sink
  | sink updater choice => exact setSink_fixtures s updater choice
  | setting updater | treatment updater => exact onNamed_fixtures s updater _
  | attach updater name source state =>
    unfold after attach
    dsimp only
    split
    · rfl
    · exact onUpdater_fixtures _ _ _
  | bind updater forceFilter transform crop image =>
    unfold after bind
    dsimp only
    split
    · split
      · exact onUpdater_fixtures _ _ _
      · rfl
    · rfl
  | apply updater =>
    unfold after
    dsimp only
    split
    · exact apply_fixtures s _
    · rfl
  | dropUpdater name => exact dropUpdater_fixtures s name
  | source name change =>
    unfold after onSource
    dsimp only
    split <;> rfl
  | notify notifier =>
    unfold after
    dsimp only
    split
    · next n _ =>
      cases n with
      | updater id => exact onUpdater_fixtures s id _
      | mailbox id => rfl
    · rfl
  | textures change => exact onTextures_fixtures plain
  | recorders change =>
    cases change with
    | new name => exact recorder_fixtures _ name
    | clone | clear =>
      unfold after onRecorders
      dsimp only
      split <;> rfl

/-- A command that refits nothing leaves the fixtures in place. -/
theorem exec_fixtures {command : Command} (plain : ¬ command.Refits) :
    (s.exec command).1.fixtures = s.fixtures := by
  rw [exec_change]
  exact change_fixtures fun refits => plain (command.refits_change.1 refits)

/-- Only a context that is made gets a name as one. -/
theorem exec_contextNames {command : Command} (old : ∀ name b, command ≠ .newContext name b)
    (old' : ∀ name b, command ≠ .newState name b) :
    (s.exec command).1.contextNames = s.contextNames
      ∧ (s.exec command).1.stateNames = s.stateNames := by
  have plain : ¬ command.Refits → (s.exec command).1.contextNames = s.contextNames
      ∧ (s.exec command).1.stateNames = s.stateNames := fun plain =>
    ⟨congrArg (·.1) (exec_fixtures plain), congrArg (·.2.1) (exec_fixtures plain)⟩
  cases command with
  | newContext name b => exact absurd rfl (old name b)
  | newState name b => exact absurd rfl (old' name b)
  | newCache name p =>
    unfold exec keepCache discardCache
    dsimp only
    split <;> exact ⟨rfl, rfl⟩
  | dropCache name =>
    unfold exec dropCache discardCache
    dsimp only
    split <;> exact ⟨rfl, rfl⟩
  | resolveCached name context frame image =>
    unfold exec resolveCached
    dsimp only
    split
    · unfold keepOrDropImage
      split <;> exact ⟨rfl, rfl⟩
    · exact ⟨rfl, rfl⟩
  | clearCached name slot mode =>
    unfold exec clearCached
    dsimp only
    split <;> exact ⟨rfl, rfl⟩
  | clearCache name mode =>
    unfold exec clearCache
    dsimp only
    split <;> exact ⟨rfl, rfl⟩
  | _ => exact plain fun refits => refits

-- ==================================================== open contexts

/-- A context was opened. -/
def Opened (s : Session) (c : ContextId) : Prop := (s.world.contexts.get? c).isSome

/-- The context that was made was opened. -/
theorem makeContext_opened (s : Session) (b : Backend) : (s.makeContext b).1.Opened s.fresh := by
  show ((s.world.contexts.set s.fresh _).get? s.fresh).isSome
  rw [Table.get?_set_self]
  rfl

/-- What was opened stays so over a step. -/
theorem Step.opened (sound : s.Sound) (step : Step s s') (opened : s.Opened c) : s'.Opened c := by
  unfold Opened at opened ⊢
  rcases step.transfer sound.numbered.unnamed with ⟨b, rfl⟩ | transfer
  · rw [show (s.makeContext b).1.world.contexts.get? c = _ from Table.get?_set _ _ _ _]
    split
    · rfl
    · exact opened
  · rwa [World.Steps.contexts (transfer sound.owned).1]

/-- And over steps. -/
theorem Steps.opened (sound : s.Sound) (steps : Steps s s') (opened : s.Opened c) :
    s'.Opened c := by
  induction steps with
  | refl => exact opened
  | tail before step ih => exact step.opened (Steps.sound sound before) ih

/-- And over a command. -/
theorem exec_opened (kept : s.Kept) (command : Command) (opened : s.Opened c) :
    (s.exec command).1.Opened c :=
  Steps.opened kept.order.sound (exec_goes kept command).moves.steps opened

/-- An open context is alive as long as the history tells of no loss. -/
theorem Sound.alive_iff (sound : s.Sound) (opened : s.Opened c) :
    s.world.alive c ↔ ¬ LostIn c s.world.history := by
  rw [← sound.ledger.lost c opened, Bool.not_eq_false]

-- ==================================================== the context of an updater

/-- A latch leaves the context of its updater. -/
theorem latch_context (u : Updater) (w : World) (frame : Frame) (issued : Option FenceClass) :
    (u.latch w frame issued).2.context = u.context := by
  unfold Updater.latch
  dsimp only
  split <;> rfl

/-- So does committing the transform. -/
theorem commitTransform_context (u : Updater) : u.commitTransform.context = u.context := by
  unfold Updater.commitTransform
  split <;> rfl

/-- No command takes an updater to another context. -/
theorem Obeys.context {u v : Updater} {call : Command} (obeys : Obeys s i u call v) :
    v.context = u.context := by
  cases obeys with
  | setSink | setTransform | setPaint | post | ignores | bind | misses => rfl
  | setSize name width height =>
    unfold Updater.setSize
    split <;> rfl
  | setBlend name blend =>
    unfold Updater.setBlend
    split <;> rfl
  | attach name source queue state w ref =>
    obtain ⟨cache, -, same⟩ := u.attach_object w ref
    rw [same]
  | detach name w =>
    obtain ⟨cache, same⟩ := u.detach_object w
    rw [same]
  | apply name live applies world =>
    rw [commitTransform_context]
    cases applies with
    | idle => rfl
    | latches => exact latch_context _ _ _ _
  | teardown | contextDestroyed =>
    unfold Updater.teardown
    split <;> rfl

/-- An updater is made over the context of its home. -/
theorem newUpdater_context {name : String} {config : Config} {home : Home} {sink : SinkChoice}
    {v : Updater} (found : (s.newUpdater name config home sink).1.updaterOf? i = some v) :
    (∃ u, s.updaterOf? i = some u ∧ v.context = u.context)
      ∨ s.homeContext? home = some v.context := by
  unfold newUpdater at found
  cases there : s.homeContext? home with
  | none =>
    rw [there] at found
    exact .inl ⟨v, found, rfl⟩
  | some c =>
    rw [there] at found
    dsimp only at found
    rw [chooseSink_keeps] at found
    generalize (({ s with fresh := s.fresh + 1 } : Session).chooseSink name sink).2.getD .none = k
      at found
    generalize (({ s with fresh := s.fresh + 1 } : Session).chooseSink name sink).1 = chosen
      at found
    have named : ∀ a : Session, a.updaters = s.updaters.set s.fresh
        { value := (Updater.new s.fresh c config).setSink k } →
        (a.nameUpdater name s.fresh).updaterOf? i = some v →
        (∃ u, s.updaterOf? i = some u ∧ v.context = u.context) ∨ some c = some v.context := by
      intro a entered found
      have drifts : Drifts none i a _ := .nameUpdater a name s.fresh
      obtain ⟨u, there, drift⟩ := drifts v found
      rw [updaterOf?, entered, Table.get?_set] at there
      split at there
      · cases there
        exact .inr (congrArg some drift.context.symm)
      · exact .inl ⟨u, there, drift.context⟩
    cases home <;> exact named _ rfl found

/-- Every context that has a name was opened, and so was that of every updater. -/
structure Housed (s : Session) : Prop where
  contexts : ∀ name c, s.contextNames.get? name = some c → s.Opened c
  states : ∀ name c, s.stateNames.get? name = some c → s.Opened c
  updaters : ∀ i u, s.updaterOf? i = some u → s.Opened u.context

/-- The context that a home names was opened. -/
theorem Housed.home (housed : s.Housed) {home : Home} (found : s.homeContext? home = some c) :
    s.Opened c := by
  cases home with
  | registered state | unregistered state => exact housed.states _ _ found
  | context name =>
    rcases Option.or_eq_some_iff.1 found with found | ⟨-, found⟩
    · exact housed.contexts _ _ found
    · exact housed.states _ _ found

/-- A command keeps everything housed. -/
theorem Housed.exec (housed : s.Housed) (kept : s.Kept) (command : Command) :
    (s.exec command).1.Housed := by
  have stays : ∀ {c}, s.Opened c → (s.exec command).1.Opened c := exec_opened kept command
  -- a context that is made is open, and gets a name
  have names : ∀ {names : Table String ContextId} {name b name' c},
      command = .newContext name b ∨ command = .newState name b →
      (∀ name c, names.get? name = some c → s.Opened c) →
      (names.set name s.fresh).get? name' = some c → (s.exec command).1.Opened c := by
    intro names name b name' c made opened found
    rw [Table.get?_set] at found
    split at found
    · cases found
      rcases made with rfl | rfl <;> exact makeContext_opened s b
    · exact stays (opened _ _ found)
  have updaters : ∀ i v, (s.exec command).1.updaterOf? i = some v →
      (s.exec command).1.Opened v.context := by
    intro i v found
    by_cases addressed : s.recipient? command = some i
    · obtain ⟨u, there, obeys⟩ := exec_obeys kept addressed found
      rw [obeys.context]
      exact stays (housed.updaters i u there)
    · by_cases new : ∃ name config home sink, command = .newUpdater name config home sink
      · obtain ⟨name, config, home, sink, rfl⟩ := new
        rcases newUpdater_context found with ⟨u, there, same⟩ | same
        · rw [same]
          exact stays (housed.updaters i u there)
        · exact stays (housed.home same)
      · obtain ⟨u, there, drift⟩ := exec_drifts_old addressed
          (fun name config home sink same => new ⟨name, config, home, sink, same⟩) v found
        rw [drift.context]
        exact stays (housed.updaters i u there)
  by_cases made : ∃ name b, command = .newContext name b ∨ command = .newState name b
  · obtain ⟨name, b, rfl | rfl⟩ := made
    · exact ⟨fun _ _ => names (.inl rfl) housed.contexts, fun _ _ found =>
        stays (housed.states _ _ found), updaters⟩
    · exact ⟨fun _ _ found => stays (housed.contexts _ _ found), fun _ _ =>
        names (.inr rfl) housed.states, updaters⟩
  · obtain ⟨contexts, states⟩ := exec_contextNames
      (fun name b same => made ⟨name, b, .inl same⟩) fun name b same => made ⟨name, b, .inr same⟩
    refine ⟨fun name c found => ?_, fun name c found => ?_, updaters⟩
    · rw [contexts] at found
      exact stays (housed.contexts name c found)
    · rw [states] at found
      exact stays (housed.states name c found)

/-- A session that has just started is housed. -/
theorem housed_start (minimal : Bool) (b : Backend) : (start minimal b).Housed where
  contexts name c found := by cases found
  states name c found := by
    rw [show (start minimal b).stateNames.get? name = _ from Table.get?_set _ _ _ _] at found
    split at found
    · cases found
      exact makeContext_opened _ b
    · cases found
  updaters i u found := by cases found

/-- A run keeps everything housed. -/
theorem Housed.run (housed : s.Housed) (kept : s.Kept) (commands : List Command) :
    (s.run commands).Housed := by
  induction commands using List.reverseRecOn with
  | nil => exact housed
  | append_singleton commands command ih =>
    rw [run_snoc]
    exact ih.exec (kept.run commands) command

/-- Every run leads to a housed session. -/
theorem run_housed (minimal : Bool) (b : Backend) (commands : List Command) :
    ((start minimal b).run commands).Housed :=
  (housed_start minimal b).run (kept_start minimal b) commands

end Session

end LayerFeed
