/-
Every command goes by moves, and so does every run (`run_goes`). Whatever a command holds
for a time it gives back, so between two commands an updater has exactly the holders that
it counts names for, or more.

Most changes leave all updaters alone (`change_aloof`). Of the others some make or drop an
updater, and the rest speak to one that they name.
-/
import LayerFeed.Proofs.Session.Change
import LayerFeed.Proofs.Session.Walk

namespace LayerFeed

open Owners World

namespace Session

variable {s : Session} {id : UpdaterId} {t : TextureId} {locked : Option UpdaterId}

-- ==================================================== contexts and observers

/-- A new context goes by moves. -/
theorem makeContext_goes (s : Session) (b : Backend) : Goes locked s (s.makeContext b).1 :=
  .of_move (.makeContext b) rfl fun _ => rfl

/-- A new named context goes by moves. -/
theorem addContext_goes (s : Session) (name : String) (b : Backend) :
    Goes locked s (s.addContext name b) :=
  (makeContext_goes s b).trans (.beside ⟨rfl, Nat.le_refl _⟩ rfl)

/-- A new state goes by moves. -/
theorem addState_goes (s : Session) (name : String) (b : Backend) :
    Goes locked s (s.addState name b) :=
  (makeContext_goes s b).trans (.beside ⟨rfl, Nat.le_refl _⟩ rfl)

/-- A new observer leaves textures and updaters alone. -/
theorem newObserver_aloof (s : Session) (name state : String) (actions : List ObserverAction)
    (registered : Bool) : Aloof s (s.newObserver name state actions registered) := by
  unfold newObserver
  cases s.state? state with
  | none => exact .refl s
  | some c =>
    dsimp only
    refine Aloof.trans ?_ (nameObserver_aloof _ name s.fresh)
    split <;> exact .beside ⟨rfl, Nat.le_succ s.fresh⟩ rfl

/-- A registration leaves textures and updaters alone. -/
theorem registerNamed_aloof (s : Session) (name state : String) :
    Aloof s (s.registerNamed name state) := by
  unfold registerNamed
  split
  · exact .beside ⟨rfl, Nat.le_refl _⟩ rfl
  · exact .refl s

-- ==================================================== sinks

theorem recorder_aloof (s : Session) (name : String) : Aloof s (s.recorder name).1 := by
  unfold recorder
  cases s.recorderNames.get? name with
  | some id => exact .refl s
  | none =>
    exact (Aloof.traces (s.world.traces.openRecorder s.freshRecorder)).trans
      (.beside ⟨rfl, Nat.le_refl s.fresh⟩ rfl)

/-- The choice of a sink leaves textures and updaters alone. -/
theorem chooseSink_aloof (s : Session) (updater : String) (choice : SinkChoice) :
    Aloof s (s.chooseSink updater choice).1 := by
  cases choice with
  | recorder name => exact recorder_aloof s name
  | text name limit => exact .traces (s.world.traces.openText name limit)
  | unchanged | discard | standardError | history => exact .refl s

/-- The choice of a sink does not look at updaters. -/
theorem chooseSink_updaters (s : Session) (updaters : Table UpdaterId (Held Updater))
    (updater : String) (choice : SinkChoice) :
    { s with updaters }.chooseSink updater choice
      = ({ (s.chooseSink updater choice).1 with updaters }, (s.chooseSink updater choice).2) := by
  cases choice with
  | recorder name =>
    unfold chooseSink recorder
    dsimp only
    cases s.recorderNames.get? name <;> rfl
  | _ => rfl

theorem chooseSink_keeps (s : Session) (updater : String) (choice : SinkChoice) :
    (s.chooseSink updater choice).1.updaters = s.updaters :=
  congrArg (·.1.updaters) (chooseSink_updaters s s.updaters updater choice)

theorem chooseSink_names (s : Session) (updater : String) (choice : SinkChoice) :
    (s.chooseSink updater choice).1.updaterNames = s.updaterNames := by
  cases choice with
  | recorder name =>
    unfold chooseSink recorder
    dsimp only
    cases s.recorderNames.get? name <;> rfl
  | _ => rfl

-- ==================================================== updaters

/-- A new updater has one holder, which has no name yet. -/
theorem Backed.newUpdater {i : UpdaterId} {k : Nat} (sound : s.Sound) (backed : s.Backed i k)
    (u : Updater) :
    { s with fresh := s.fresh + 1, updaters := s.updaters.set s.fresh { value := u } }.Backed i
      (k + [Participant.updater s.fresh].count (Participant.updater i)) := by
  rw [count_updater]
  unfold Backed namesOf holdsOf at backed ⊢
  dsimp only
  rw [Table.get?_set]
  split
  · next new =>
    rw [new, sound.numbered.unnamed] at backed
    rw [new]
    exact Nat.add_le_add_right backed 1
  · exact backed

/-- A new updater enters with nothing to its name. -/
theorem newUpdater_goes (sound : s.Sound) (name : String) (config : Config) (home : Home)
    (sink : SinkChoice) : Goes locked s (s.newUpdater name config home sink).1 := by
  unfold newUpdater
  cases s.homeContext? home with
  | none => exact .refl locked s
  | some c =>
    dsimp only
    rw [chooseSink_keeps]
    -- the updater can be entered before its sink is chosen
    have chosen : ∀ updaters, Goes locked { s with fresh := s.fresh + 1, updaters }
        { ({ s with fresh := s.fresh + 1 }.chooseSink name sink).1 with updaters } := by
      intro updaters
      have chosen : Goes locked _ _ :=
        .aloof (chooseSink_aloof { s with fresh := s.fresh + 1, updaters } name sink)
      rwa [chooseSink_updaters { s with fresh := s.fresh + 1 } updaters name sink] at chosen
    generalize ({ s with fresh := s.fresh + 1 }.chooseSink name sink).2.getD .none = k
    have named : ∀ s', Goes locked { s with
        fresh := s.fresh + 1
        updaters := s.updaters.set s.fresh
          { value := (Updater.new s.fresh c config).setSink k } } s' →
        Goes locked s (s'.nameUpdater name s.fresh) := by
      intro s' goes
      exact ⟨.head (.newUpdater c config k) (goes.moves.trans (nameUpdater_moves _ name _)),
        fun i n backed => (goes.backed i _ (backed.newUpdater sound _)).nameUpdater name⟩
    refine named _ ((chosen _).trans ?_)
    cases home with
    | registered state => exact .beside ⟨rfl, Nat.le_refl _⟩ rfl
    | unregistered | context => exact .refl locked _

/-- The updater of the given name is not the one that is locked. -/
def Free (locked : Option UpdaterId) (s : Session) (name : String) : Prop :=
  ∀ id, s.updaterNames.get? name = some id → locked ≠ some id

/-- Between commands no updater is locked. -/
theorem free_of_unlocked (s : Session) (name : String) : Free none s name := fun _ _ => by simp

/-- A function on a named updater goes by moves where each of its calls is a deed. -/
theorem onNamed_goes (s : Session) {name : String} {f : Updater → World → World × Updater}
    (free : Free locked s name) (deeds : ∀ id h, s.updaters.get? id = some h →
      Deed s id h.value s.fresh (f h.value s.world)) : Goes locked s (s.onNamed name f) := by
  unfold onNamed
  cases named : s.updaterNames.get? name with
  | none => exact .refl locked s
  | some id => exact .onUpdater (deeds id) fun same => absurd same (free id named)

theorem setSize_layer (u : Updater) (width height : UInt32) :
    (u.setSize width height).1.layer = u.layer := by
  unfold Updater.setSize
  split <;> rfl

theorem setBlend_layer (u : Updater) (blend : Bool) : (u.setBlend blend).1.layer = u.layer := by
  unfold Updater.setBlend
  split <;> rfl

/-- Each setting is a setter. -/
theorem setting_setter (setting : Setting) : Updater.Setter (·.set setting) := by
  cases setting with
  | size width height => exact .size width height
  | blend blend => exact .blend blend
  | transform transform => exact .transform transform
  | paint paint => exact .paint paint

/-- What is set waits for an apply: the layer stays. -/
theorem set_layer (u : Updater) (setting : Setting) : (u.set setting).layer = u.layer := by
  cases setting with
  | size width height => exact setSize_layer u width height
  | blend blend => exact setBlend_layer u blend
  | transform | paint => rfl

/-- A setter that leaves the layer goes by moves. -/
theorem setter_goes (s : Session) {name : String} {f : Updater → Updater}
    (free : Free locked s name) (setter : Updater.Setter f)
    (layer : ∀ u, (f u).layer = u.layer) : Goes locked s (s.onNamedAlone name f) :=
  onNamed_goes s free fun _ h _ => .setter setter (.inr (layer h.value))

/-- A new sink goes by moves. -/
theorem setSink_goes (s : Session) {updater : String} (free : Free locked s updater)
    (choice : SinkChoice) : Goes locked s (s.setSink updater choice) := by
  refine (Goes.aloof (chooseSink_aloof s updater choice)).trans ?_
  unfold setSink
  dsimp only
  split
  · refine setter_goes _ (fun id named => free id ?_) (.sink _) fun _ => rfl
    rwa [chooseSink_names] at named
  · exact .refl locked _

/-- A treatment of a named updater goes by moves. -/
theorem treatment_goes (s : Session) {name : String} (free : Free locked s name)
    (treatment : Treatment) : Goes locked s (s.onNamed name (·.treat · treatment)) := by
  refine onNamed_goes s free fun id h _ => ?_
  cases treatment with
  | post => exact .callback .post
  | detach => exact .detach
  | teardown mode => exact .teardown mode

/-- Installing a source spends a number, whether or not the updater is there. -/
theorem install_goes (s : Session) (name : String) (free : locked ≠ some id) :
    Goes locked s ({ s with fresh := s.fresh + 1 }.onUpdater id fun u w =>
      u.attach w ⟨s.fresh, name, id⟩) := by
  cases entered : s.updaters.get? id with
  | none =>
    simp only [onUpdater, entered]
    exact .beside ⟨rfl, Nat.le_succ _⟩ rfl
  | some h =>
    rw [onUpdater_eq (s := { s with fresh := s.fresh + 1 }) entered]
    exact .deed entered (.attach name) fun same => absurd same free

/-- Attaching a source goes by moves. -/
theorem attach_goes (s : Session) {updater : String} (free : Free locked s updater)
    (name : String) (source : Source) (state : Option String) :
    Goes locked s (s.attach updater name source state) := by
  unfold attach
  cases named : s.updaterNames.get? updater with
  | none => exact .refl locked s
  | some id =>
    have entered : Goes locked s { s with
        sources := s.sources.set s.fresh { source with context := state.bind s.state? }
        sourceNames := s.sourceNames.set name s.fresh } := .beside ⟨rfl, Nat.le_refl _⟩ rfl
    exact entered.trans (install_goes _ name (free id named))

/-- A change of a source leaves textures and updaters alone. -/
theorem onSource_aloof (s : Session) (name : String) (f : Source → Source) :
    Aloof s (s.onSource name f) := by
  unfold onSource
  cases s.sourceNames.get? name with
  | none => exact .refl s
  | some id => exact .beside ⟨rfl, Nat.le_refl _⟩ rfl

/-- A post goes by moves. -/
theorem post_goes (s : Session) (n : Notifier) : Goes locked s (s.post n) := by
  cases n with
  | updater id => exact .onUpdater (fun _ _ => .callback .post) fun _ _ _ => .post
  | mailbox id => exact .beside ⟨rfl, Nat.le_refl _⟩ rfl

/-- Binding an image to the layer goes by moves. -/
theorem bind_goes (s : Session) {updater : String} (free : Free locked s updater)
    (forceFilter : Bool) (transform : TextureTransform) (crop : Rect) (image : String) :
    Goes locked s (s.bind updater forceFilter transform crop image) := by
  unfold bind
  split
  · next id t named found =>
    split
    · next there =>
      obtain ⟨h, entered⟩ := Option.isSome_iff_exists.1 there
      rw [onUpdater_eq (s := s.onWorld (·.share t)) entered]
      exact .deed entered (.bind forceFilter transform crop (held_of_image found)) fun same =>
        absurd same (free id named)
    · exact .refl locked s
  · exact .refl locked s

-- ==================================================== textures and fences

/-- An image that can be copied is one of a texture that somebody holds. -/
theorem held_of_origin {origin : Origin} (found : s.origin? origin = some t) :
    0 < s.owners.count t := by
  cases origin with
  | image name => exact held_of_image found
  | handle name => exact held_of_handle found
  | layer updater =>
    obtain ⟨u, there, shown⟩ := Option.bind_eq_some_iff.1 found
    obtain ⟨id, -, there⟩ := Option.bind_eq_some_iff.1 there
    exact held_of_shown there shown

/-- Copying an image that somebody holds moves nothing else. -/
theorem copyImage_aloof (s : Session) {o : Option TextureId} (copy : String)
    (held : ∀ t, o = some t → 0 < s.owners.count t) : Aloof s (s.copyImage o copy) := by
  cases o with
  | none => exact .refl s
  | some t => exact .copyImage copy (held t rfl)

/-- The handles in a cache are named with the cache. -/
theorem named_of_entry {name : String} {slot : SlotId} {cache : SlotCache} {entry : Slot}
    (found : s.caches.get? name = some cache) (there : cache.get? slot = some entry) :
    ∃ r, s.named = entry.owners + r := by
  obtain ⟨r, owned⟩ := (shelf_caches s).there found
  exact ⟨_, by rw [show s.named = _ from owned, SlotCache.owners_of_get? there, add_assoc]⟩

/-- A handle that is there is named. -/
theorem named_of_kept {keeper : Keeper} (found : s.keptBy? keeper = some t) :
    ∃ r, s.named = one .handle t + r := by
  have of_slot : ∀ {slot : Slot}, slot.texture = some t → (∃ r, s.named = slot.owners + r) →
      ∃ r, s.named = one .handle t + r := by
    rintro slot texture ⟨r, owned⟩
    exact ⟨r, by rw [owned, Slot.owners, texture, oneOf_some]⟩
  cases keeper with
  | handle name => exact (shelf_handles s).there found
  | slot name =>
    obtain ⟨slot, there, texture⟩ := Option.bind_eq_some_iff.1 found
    exact of_slot texture ((shelf_slots s).there there)
  | entry name slot =>
    obtain ⟨entry, there, texture⟩ := Option.bind_eq_some_iff.1 found
    obtain ⟨cache, named, there⟩ := Option.bind_eq_some_iff.1 there
    exact of_slot texture (named_of_entry named there)

/-- Handing back a named texture moves nothing else. -/
theorem handBack_aloof {o : Option TextureId}
    (there : ∀ t, o = some t → ∃ r, s.named = one .handle t + r) : Aloof s (s.handBack o) := by
  cases o with
  | none => exact .refl s
  | some t => exact .releaseQueue (there t rfl)

theorem makeFence_aloof (s : Session) (context : String) (p : Pipeline) (useSync : Bool) :
    Aloof s (s.makeFence context p useSync).1 := by
  unfold makeFence
  cases s.context? context with
  | none => exact .refl s
  | some c =>
    have made := Aloof.createFence (s := s) { gate := ⟨c, p⟩, previous := none } useSync
      ⟨_, (zero_add _).symm⟩
    unfold DequeueFences.createFence at made
    cases p <;> exact made

theorem waitFence_aloof (s : Session) (context : String) (p : Pipeline) (fd : FenceFd) :
    Aloof s (s.waitFence context p fd).1 := by
  unfold waitFence
  cases s.context? context with
  | none => exact .refl s
  | some c => exact .waitFence ⟨c, p⟩ fd

/-- Callbacks that belong to no updater and no source change the world alone, and the slot
that they know is one that has a name. -/
theorem freeScript_aloof (fences : DequeueFences) (script : List ScriptItem)
    (there : ∃ r, s.named = fences.previous.elim 0 Slot.owners + r) :
    Aloof s (s.runScript none none fences script).session := by
  induction script generalizing s fences with
  | nil => exact .refl s
  | cons item items ih =>
    cases item with
    | fence useSync => exact (Aloof.createFence fences useSync there).trans (ih _ there)
    | wait fd => exact (Aloof.waitFence fences.gate fd).trans (ih _ there)
    | notify => exact ih fences there
    | destroy => exact ih fences there
    | adjust settings =>
      exact (Aloof.adjustBackend fences.gate.context settings).trans (ih _ there)

/-- The slot that a caller names as the previous one is named. -/
theorem previous_named (s : Session) (previous : Previous) :
    ∃ r, s.named = (s.previous? previous).elim 0 Slot.owners + r := by
  unfold previous?
  cases previous with
  | none => exact ⟨_, (zero_add _).symm⟩
  | slot name =>
    dsimp only
    cases found : s.slots.get? name with
    | none => exact ⟨_, (zero_add _).symm⟩
    | some slot => exact (shelf_slots s).there found
  | cached name slot =>
    dsimp only
    cases found : s.caches.get? name with
    | none => exact ⟨_, (zero_add _).symm⟩
    | some cache =>
      rw [Option.bind_some]
      cases entry : cache.get? slot with
      | none => exact ⟨_, (zero_add _).symm⟩
      | some e => exact named_of_entry found entry

theorem dequeueFences_aloof (s : Session) (context : String) (p : Pipeline)
    (previous : Previous) (calls : List ScriptItem) :
    Aloof s (s.dequeueFences context p previous calls).1 := by
  unfold dequeueFences
  cases s.context? context with
  | none => exact .refl s
  | some c => exact freeScript_aloof _ calls (previous_named s previous)

/-- No updater is concerned when textures or fences that have names are dealt with. -/
theorem onTextures_aloof (s : Session) (change : TextureChange) :
    Aloof s (s.onTextures change) := by
  cases change with
  | copy origin copy => exact copyImage_aloof s copy fun _ => held_of_origin
  | dropImage name => exact .dropImage name
  | importTexture name context p b d => exact .importTexture name context p b d
  | releaseHandle name mode => exact .releaseHandle name mode
  | dropHandle name => exact .dropHandle name
  | newSlot name p => exact .newSlot name p
  | resolveSlot name context frame image => exact .resolveSlot name context frame image
  | clearSlot name mode => exact .clearSlot name mode
  | dropSlot name => exact .dropSlot name
  | newCache name p => exact .newCache name p
  | resolveCached name context frame image => exact .resolveCached name context frame image
  | clearCached name slot mode => exact .clearCached name slot mode
  | clearCache name mode => exact .clearCache name mode
  | dropCache name => exact .dropCache name
  | releaseQueue keeper => exact handBack_aloof fun _ => named_of_kept
  | makeFence context p useSync => exact makeFence_aloof s context p useSync
  | waitFence context p fd => exact waitFence_aloof s context p fd
  | dequeueFences context p previous calls => exact dequeueFences_aloof s context p previous calls

-- ==================================================== changes that leave updaters alone

/-- A change of a recorder leaves textures and updaters alone. -/
theorem onRecorders_aloof (s : Session) (change : RecorderChange) :
    Aloof s (s.onRecorders change) := by
  cases change with
  | new name =>
    have unnamed : Aloof s { s with recorderNames := s.recorderNames.erase name } :=
      .beside ⟨rfl, Nat.le_refl _⟩ rfl
    exact unnamed.trans (recorder_aloof _ name)
  | clone name copy =>
    unfold onRecorders
    dsimp only
    cases s.recorderNames.get? name with
    | none => exact .refl s
    | some id => exact .beside ⟨rfl, Nat.le_refl _⟩ rfl
  | clear name =>
    unfold onRecorders
    dsimp only
    cases s.recorderNames.get? name with
    | none => exact .refl s
    | some id =>
      exact (Aloof.remark (e := .cleared id) rfl rfl).trans
        (.traces (s.world.traces.clearRecorder id))

end Session

/-- The change concerns no updater, and opens or destroys no context. -/
def Change.LeavesUpdaters : Change → Prop
  | .nothing | .backend _ _ | .newObserver _ _ _ _ | .register _ _ | .dropObserver _
  | .source _ _ | .textures _ | .mail _ | .recorders _ => True
  | _ => False

namespace Session

/-- Nothing happens to any updater, nor to the names of updaters. -/
theorem change_aloof (s : Session) {change : Change} (leaves : change.LeavesUpdaters) :
    Aloof s (s.after change) := by
  cases change with
  | nothing => exact .refl s
  | backend context settings =>
    unfold Session.after
    dsimp only
    cases s.context? context with
    | none => exact .refl s
    | some c => exact .adjustBackend c settings
  | newObserver name state actions registered =>
    exact newObserver_aloof s name state actions registered
  | register name state => exact registerNamed_aloof s name state
  | dropObserver name => exact dropObserver_aloof s name
  | source name change => exact onSource_aloof s name _
  | textures change => exact onTextures_aloof s change
  | mail change => exact .beside ⟨rfl, s.desk.fresh_le change⟩ rfl
  | recorders change => exact onRecorders_aloof s change
  | newState | newContext | destroy | newUpdater | sink | setting | treatment | attach | bind
  | apply | dropUpdater | notify => exact leaves.elim

-- ==================================================== commands

/-- What is known of a session between two commands. -/
structure Kept (s : Session) : Prop where
  order : s.InOrder
  backed : ∀ i, s.Backed i 0

/-- What goes by moves keeps the invariants. -/
theorem Kept.goes {s' : Session} (kept : s.Kept) (goes : Goes none s s') : s'.Kept :=
  ⟨kept.order.steps goes.moves.steps, fun i => goes.backed i 0 (kept.backed i)⟩

/-- A session that has just started keeps them. -/
theorem kept_start (minimal : Bool) (b : Backend) : (start minimal b).Kept where
  order := (inOrder_new minimal).steps (start_steps minimal b)
  backed _ := Nat.zero_le _

end Session

-- ==================================================== what commands speak to

namespace Command

/-- The name that a command speaks to, if it speaks to an updater. -/
def addressed? : Command → Option String
  | .setSink updater _ | .setSize updater _ _ | .setBlend updater _ | .setTransform updater _
  | .setPaint updater _ | .attach updater _ _ _ | .post updater | .apply updater
  | .bind updater _ _ _ _ | .detach updater | .teardown updater _ | .contextDestroyed updater =>
    some updater
  | _ => none

/-- The command applies an updater, or destroys a context: only in these a source is asked, or
anybody told of a loss. -/
def Stirs : Command → Prop
  | .apply _ | .destroy _ => True
  | _ => False

end Command

namespace Change

/-- The name that a change speaks to, if it speaks to an updater. -/
def addressed? : Change → Option String
  | .sink updater _ | .setting updater _ | .treatment updater _ | .attach updater _ _ _
  | .apply updater | .bind updater _ _ _ _ => some updater
  | _ => none

/-- The change applies an updater, or destroys a context. -/
def Stirs : Change → Prop
  | .apply _ | .destroy _ => True
  | _ => False

end Change

namespace Command

/-- A command speaks to whom its change speaks to. -/
theorem addressed?_change (command : Command) :
    command.change.addressed? = command.addressed? := by
  cases command <;> rfl

/-- A command stirs exactly when its change does. -/
theorem stirs_change (command : Command) : command.change.Stirs ↔ command.Stirs := by
  cases command <;> exact Iff.rfl

end Command

namespace Session

/-- The updater that a command is addressed to. -/
def recipient? (s : Session) (command : Command) : Option UpdaterId :=
  command.addressed?.bind s.updaterNames.get?

/-- A change that stirs nothing, and speaks to no updater that is locked, goes under the lock. -/
theorem change_goes (sound : s.Sound) {change : Change} (calm : ¬ change.Stirs)
    (free : ∀ name, change.addressed? = some name → Free locked s name) :
    Goes locked s (s.after change) := by
  cases change with
  | nothing | backend | newObserver | register | dropObserver | source | textures | mail
  | recorders => exact .aloof (change_aloof s trivial)
  | newState name b => exact addState_goes s name b
  | newContext name b => exact addContext_goes s name b
  | destroy | apply => exact absurd trivial calm
  | newUpdater name config home sink => exact newUpdater_goes sound name config home sink
  | sink updater choice => exact setSink_goes s (free _ rfl) choice
  | setting updater setting =>
    exact setter_goes s (free _ rfl) (setting_setter setting) fun u => set_layer u setting
  | treatment updater treatment => exact treatment_goes s (free _ rfl) treatment
  | attach updater name source state => exact attach_goes s (free _ rfl) name source state
  | bind updater forceFilter transform crop image =>
    exact bind_goes s (free _ rfl) forceFilter transform crop image
  | dropUpdater name => exact dropUpdater_goes s name
  | notify notifier =>
    unfold Session.after
    dsimp only
    cases s.notifiers.get? notifier with
    | none => exact .refl locked _
    | some n => exact post_goes s n

/-- A command that stirs nothing, and speaks to no updater that is locked, goes under the lock. -/
theorem exec_calm_goes (sound : s.Sound) {command : Command} (calm : ¬ command.Stirs)
    (free : ∀ name, command.addressed? = some name → Free locked s name) :
    Goes locked s (s.exec command).1 := by
  rw [exec_change]
  exact change_goes sound (fun stirs => calm (command.stirs_change.1 stirs))
    fun name addressed => free name (command.addressed?_change.symm.trans addressed)

/-- Every command goes by moves. -/
theorem exec_goes (kept : s.Kept) (command : Command) : Goes none s (s.exec command).1 := by
  cases command with
  | destroy state =>
    unfold exec
    dsimp only
    cases s.state? state with
    | none => exact .refl none _
    | some c => exact destroyContext_goes s none c
  | apply updater =>
    unfold exec
    dsimp only
    cases s.updaterNames.get? updater with
    | none => exact .refl none _
    | some id => exact apply_goes kept.order kept.backed id
  | _ => exact exec_calm_goes kept.order.sound id fun name _ => free_of_unlocked s name

/-- A run and one command more. -/
theorem run_snoc (s : Session) (commands : List Command) (command : Command) :
    s.run (commands ++ [command]) = ((s.run commands).exec command).1 := by
  rw [run, List.foldl_append]
  rfl

/-- Every run goes by moves. -/
theorem run_goes (kept : s.Kept) (commands : List Command) : Goes none s (s.run commands) := by
  induction commands generalizing s with
  | nil => exact .refl none s
  | cons command commands ih =>
    have first := exec_goes kept command
    exact first.trans (ih (kept.goes first))

/-- Every run keeps the invariants. -/
theorem kept_run (minimal : Bool) (b : Backend) (commands : List Command) :
    ((start minimal b).run commands).Kept :=
  (kept_start minimal b).goes (run_goes (kept_start minimal b) commands)

/-- Every run leads to a reachable session. -/
theorem reachable_run (minimal : Bool) (b : Backend) (commands : List Command) :
    ((start minimal b).run commands).Reachable :=
  ⟨minimal, b, (run_goes (kept_start minimal b) commands).moves.steps⟩

end Session

end LayerFeed
