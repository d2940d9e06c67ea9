/-
Whom a command speaks to. Most commands on updaters name the one that they are addressed to,
and no other updater is changed by them, but for what any command may bring about from afar:
a post comes into its mailbox, or its context is destroyed and it is torn down (`Drift`).
While an updater's source is asked not even the latter can happen to it (`Drifts`).

So what is known of an updater between two commands need only be proved of those that are
addressed to it (`exec_drifts`), and of the one that makes it.
-/
import LayerFeed.Proofs.Session.Course

namespace LayerFeed

-- ==================================================== drift

namespace Updater

/-- What may become of an updater from afar: a post comes into its mailbox, or, where it is
`exposed`, it is torn down. -/
inductive Drift (exposed : Prop) (u : Updater) : Updater → Prop
  | untouched (mailbox : Mailbox) : Drift exposed u { u with mailbox }
  | tornDown (can : exposed) (live : ¬ u.destroyed) (mailbox : Mailbox) :
      Drift exposed u { u with
        destroyed := true, consumerAttached := false, layer := none
        cache := { u.cache with slots := ∅ }, currentSlot := none, mailbox }

variable {exposed : Prop} {u v x : Updater}

/-- Standing still is a drift. -/
theorem Drift.refl (u : Updater) : Drift exposed u u := .untouched u.mailbox

/-- A drift after a drift. -/
theorem Drift.trans (first : Drift exposed u v) (second : Drift exposed v x) :
    Drift exposed u x := by
  cases first with
  | untouched =>
    cases second with
    | untouched mailbox => exact .untouched mailbox
    | tornDown can live mailbox =>
      have live : ¬ u.destroyed := live
      exact .tornDown can live mailbox
  | tornDown can live =>
    cases second with
    | untouched mailbox => exact .tornDown can live mailbox
    | tornDown _ again => exact absurd rfl again

/-- What drifts less exposed drifts more exposed. -/
theorem Drift.mono {exposed' : Prop} (h : exposed → exposed') (drift : Drift exposed u v) :
    Drift exposed' u v := by
  cases drift with
  | untouched mailbox => exact .untouched mailbox
  | tornDown can live mailbox => exact .tornDown (h can) live mailbox

/-- A drift leaves the layer, or has just torn it down. -/
theorem Drift.layer (drift : Drift exposed u v) :
    v.layer = u.layer ∨ ¬ u.destroyed ∧ v.destroyed := by
  cases drift with
  | untouched => exact .inl rfl
  | tornDown can live => exact .inr ⟨live, rfl⟩

/-- No updater drifts to another context. -/
theorem Drift.context (drift : Drift exposed u v) : v.context = u.context := by
  cases drift <;> rfl

/-- A teardown is a drift of an exposed updater. -/
theorem teardown_drift (can : exposed) (u : Updater) (w : World) (mode : TeardownMode) :
    Drift exposed u (u.teardown w mode).2 := by
  unfold teardown
  split
  · exact .refl u
  · next live => exact .tornDown can live u.mailbox

end Updater

namespace Session

variable {s s' : Session} {i id : UpdaterId} {locked : Option UpdaterId} {u v : Updater}

/-- Updater `i` was not addressed: if it is there at the end, it was there and drifted. It is
exposed unless it is locked. -/
def Drifts (locked : Option UpdaterId) (i : UpdaterId) (s s' : Session) : Prop :=
  ∀ v, s'.updaterOf? i = some v →
    ∃ u, s.updaterOf? i = some u ∧ Updater.Drift (locked ≠ some i) u v

namespace Drifts

/-- Where the updater is the same it drifts. -/
theorem of_same (same : s'.updaterOf? i = s.updaterOf? i) : Drifts locked i s s' := by
  intro v found
  rw [same] at found
  exact ⟨v, found, .refl v⟩

/-- Where all updaters are the same each of them drifts. -/
theorem of_updaters (same : s'.updaters = s.updaters) : Drifts locked i s s' :=
  of_same (congrArg (fun updaters => (updaters.get? i).map Held.value) same)

theorem refl (s : Session) : Drifts locked i s s := of_same rfl

/-- Writing an entry moves no updater. -/
theorem record (s : Session) (e : Entry) : Drifts locked i s (s.record e) := of_updaters rfl

theorem trans {a b c : Session} (first : Drifts locked i a b) (second : Drifts locked i b c) :
    Drifts locked i a c := by
  intro v found
  obtain ⟨u', found', last⟩ := second v found
  obtain ⟨u, found, before⟩ := first u' found'
  exact ⟨u, found, before.trans last⟩

/-- A list of drifts, one by one. -/
theorem foldl {α : Type} {f : Session → α → Session} (h : ∀ s a, Drifts locked i s (f s a))
    (as : List α) (s : Session) : Drifts locked i s (as.foldl f s) := by
  induction as generalizing s with
  | nil => exact .refl s
  | cons a as ih => exact (h s a).trans (ih _)

/-- A function on an updater drifts where it does so on `i`. -/
theorem onUpdater {f : Updater → World → World × Updater}
    (h : id = i → ∀ u w, Updater.Drift (locked ≠ some i) u (f u w).2) :
    Drifts locked i s (s.onUpdater id f) := by
  intro v found
  rw [updaterOf?, onUpdater_get?] at found
  split at found
  · next same =>
    subst same
    obtain ⟨held, entered, rfl⟩ := Option.map_eq_some_iff.1 found
    obtain ⟨before, entered', rfl⟩ := Option.map_eq_some_iff.1 entered
    exact ⟨before.value, updaterOf?_of_get? entered', h rfl _ _⟩
  · exact ⟨v, found, .refl v⟩

theorem hold (s : Session) (p : Participant) : Drifts locked i s (s.hold p) :=
  of_same (updaterOf?_hold s p i)

/-- Letting go of the last share of `i` is the only way it drifts there. -/
theorem letGo (s : Session) (p : Participant) : Drifts locked i s (s.letGo p) := by
  cases p with
  | observer id => exact .of_updaters (letGo_observer_updaters s id)
  | updater id =>
    intro v found
    rw [updaterOf?, letGo_get?] at found
    split at found
    · next same =>
      subst same
      obtain ⟨left, stays, rfl⟩ := Option.map_eq_some_iff.1 found
      obtain ⟨held, entered, stays⟩ := Option.bind_eq_some_iff.1 stays
      split at stays
      · cases stays
      · cases stays
        exact ⟨held.value, updaterOf?_of_get? entered, .refl _⟩
    · exact ⟨v, found, .refl v⟩

theorem post (s : Session) (id : UpdaterId) :
    Drifts locked i s (s.onUpdater id fun u w => u.post w) :=
  onUpdater fun _ u _ => .untouched u.mailbox.raise

/-- Dropping a name drifts. -/
theorem dropUpdater (s : Session) (name : String) : Drifts locked i s (s.dropUpdater name) := by
  unfold Session.dropUpdater
  cases s.updaterNames.get? name with
  | none => exact .refl s
  | some id =>
    exact Drifts.trans (b := { s with updaterNames := _ }) (.of_updaters rfl) (.letGo _ _)

theorem dropObserver (s : Session) (name : String) : Drifts locked i s (s.dropObserver name) := by
  unfold Session.dropObserver
  cases s.observerNames.get? name with
  | none => exact .refl s
  | some id =>
    exact Drifts.trans (b := { s with observerNames := _ }) (.of_updaters rfl) (.letGo _ _)

theorem nameUpdater (s : Session) (name : String) (id : UpdaterId) :
    Drifts locked i s (s.nameUpdater name id) := by
  unfold Session.nameUpdater
  cases s.updaterNames.get? name with
  | none => exact .of_updaters rfl
  | some old =>
    exact Drifts.trans (b := { s with updaterNames := _ }) (.of_updaters rfl) (.letGo _ _)

-- ==================================================== destruction

section Destroy

variable {destroy : Destroyer} (destroys : ∀ s c, Drifts locked i s (destroy s c).1)

include destroys

/-- Every action of an observer drifts. -/
theorem act (s : Session) (o : Observer) (action : ObserverAction) :
    Drifts locked i s (act destroy s o action) := by
  cases action with
  | count => exact .record s _
  | destroy => exact (destroys s o.context).trans (.record _ _)
  | register name =>
    unfold Session.act
    dsimp only
    cases s.observerNames.get? name <;> exact .of_updaters rfl
  | letGo name =>
    exact (dropObserver s name).trans ((dropUpdater _ name).trans (.record _ _))

/-- Being told of a lost context is a teardown, and passes the locked updater over. -/
theorem notify (c : ContextId) (s : Session) (p : Participant) :
    Drifts locked i s (notify destroy locked c s p) := by
  unfold Session.notify
  split
  · exact .refl s
  · next free =>
    refine (Drifts.record s (.told c p)).trans ?_
    cases p with
    | updater id =>
      refine .onUpdater fun same u w => Updater.teardown_drift (fun lock => free ?_) u w _
      rw [lock, same, Option.map_some]
    | observer id =>
      dsimp only
      cases (s.record (.told c (.observer id))).observers.get? id with
      | none => exact .refl _
      | some h => exact (Drifts.of_updaters rfl).trans (.foldl (fun s => act destroys s _) _ _)

end Destroy

/-- The destruction of a context drifts at every depth. -/
theorem destroyWithin (locked : Option UpdaterId) (depth : Nat) (s : Session) (c : ContextId) :
    Drifts locked i s (destroyWithin locked depth s c).1 := by
  induction depth generalizing s c with
  | zero => exact .refl s
  | succ depth ih =>
    unfold Session.destroyWithin
    split
    · refine Drifts.trans ?_ (.foldl (fun s p => .letGo s p) _ _)
      refine Drifts.trans ?_ (.foldl (fun s p => .notify ih c s p) _ _)
      exact Drifts.trans (b := { s with world := _, registries := _, roll := _ })
        (.of_updaters rfl) (.foldl (fun s p => .hold s p) _ _)
    · exact .refl s

/-- The destruction of a context drifts. -/
theorem destroyContext (s : Session) (locked : Option UpdaterId) (c : ContextId) :
    Drifts locked i s (s.destroyContext locked c).1 :=
  destroyWithin locked _ s c

-- ==================================================== asking a source

/-- A script drifts, with its owner locked. -/
theorem runScript (s : Session) (owner : Option UpdaterId) (state : Option ContextId)
    (fences : DequeueFences) (script : List ScriptItem) :
    Drifts owner i s (s.runScript owner state fences script).session := by
  induction script generalizing s fences with
  | nil => exact .refl s
  | cons item items ih =>
    refine Drifts.trans ?_ (ih _ _)
    cases item with
    | fence | wait | adjust => exact .of_updaters rfl
    | notify =>
      cases owner with
      | none => exact .refl s
      | some id => exact .post s id
    | destroy =>
      cases state with
      | none => exact .refl s
      | some c => exact (Drifts.destroyContext s owner c).trans (.record _ _)

/-- An updater is not torn down while its source is asked. -/
theorem dequeue (s : Session) (id : UpdaterId) (ref : SourceRef) (fences : DequeueFences) :
    Drifts (some id) i s (s.dequeue id ref fences).session := by
  unfold Session.dequeue
  refine (Drifts.record s (.source ref .dequeueBegun)).trans ?_
  generalize s.record (.source ref .dequeueBegun) = s
  dsimp only
  cases s.sources.get? ref.id with
  | none => exact .refl s
  | some source =>
    have taken : Drifts (some id) i s { s with sources := s.sources.set ref.id source.next.2 } :=
      .of_updaters rfl
    dsimp only
    split
    · exact taken.trans ((Drifts.runScript _ (some id) source.context fences _).trans
        (.record _ _))
    · exact taken

/-- What drifts locked drifts unlocked. -/
theorem expose (drifts : Drifts locked i s s') : Drifts none i s s' := by
  intro v found
  obtain ⟨u, found, drift⟩ := drifts v found
  exact ⟨u, found, drift.mono fun _ => by simp⟩

/-- An apply of another updater. -/
theorem apply (other : id ≠ i) (s : Session) : Drifts none i s (s.apply id) := by
  have another : ∀ (s : Session) (f : Updater → World → World × Updater),
      Drifts none i s (s.onUpdater id f) := fun _ _ => .onUpdater fun same => absurd same other
  unfold Session.apply
  cases s.updaterOf? id with
  | none => exact .refl s
  | some u =>
    dsimp only
    split
    · exact .of_updaters rfl
    · refine Drifts.trans ?_ ((another _ _).trans (.letGo _ _))
      have begun : Drifts none i s _ := (Drifts.hold s (.updater id)).trans
        (another _ fun u w => ((u.beginApply w).world, (u.beginApply w).object))
      cases (u.beginApply (s.hold (.updater id)).world).answer with
      | none => exact begun
      | some ref =>
        refine begun.trans ?_
        dsimp only
        unfold Session.latchFrame
        dsimp only
        split
        · exact (Drifts.dequeue _ id ref u.fences).expose.trans (another _ _)
        · exact (Drifts.dequeue _ id ref u.fences).expose

end Drifts

-- ==================================================== recipients

/-- The commands of a run that are addressed to updater `i`. -/
def callsOf (i : UpdaterId) (s : Session) : List Command → List Command
  | [] => []
  | command :: commands =>
    let calls := callsOf i (s.exec command).1 commands
    if s.recipient? command = some i then command :: calls else calls

/-- The calls of a run and one command more. -/
theorem callsOf_snoc (i : UpdaterId) (s : Session) (commands : List Command) (command : Command) :
    callsOf i s (commands ++ [command]) = callsOf i s commands
      ++ if (s.run commands).recipient? command = some i then [command] else [] := by
  induction commands generalizing s with
  | nil => rfl
  | cons first commands ih =>
    rw [List.cons_append, callsOf, callsOf, ih]
    split <;> rfl

/-- A name leads to an updater that is there. -/
theorem Kept.named {name : String} (kept : s.Kept)
    (named : s.updaterNames.get? name = some i) : ∃ u, s.updaterOf? i = some u := by
  have counted := Table.total_erase (fun j => if i = j then 1 else 0) s.updaterNames name
  rw [named, Option.elim_some, if_pos rfl] at counted
  have backed := kept.backed i
  unfold Backed namesOf holdsOf at backed
  cases entered : s.updaters.get? i with
  | some h => exact ⟨h.value, updaterOf?_of_get? entered⟩
  | none =>
    rw [entered, Option.elim_none] at backed
    omega

/-- A command is addressed to nobody but an updater that is there. -/
theorem Kept.addressed {command : Command} (kept : s.Kept)
    (addressed : s.recipient? command = some i) : ∃ u, s.updaterOf? i = some u := by
  obtain ⟨name, -, named⟩ := Option.bind_eq_some_iff.1 addressed
  exact kept.named named

/-- Every run from a session that keeps the invariants keeps them. -/
theorem Kept.run (kept : s.Kept) (commands : List Command) : (s.run commands).Kept :=
  kept.goes (run_goes kept commands)

/-- Nothing is addressed to an updater before its number is given. -/
theorem callsOf_unborn (kept : s.Kept) {commands : List Command}
    (unborn : (s.run commands).fresh ≤ i) : callsOf i s commands = [] := by
  induction commands generalizing s with
  | nil => rfl
  | cons command commands ih =>
    have goes := exec_goes kept command
    have other : s.recipient? command ≠ some i := by
      intro addressed
      obtain ⟨u, found⟩ := kept.addressed addressed
      have later := Moves.fresh (goes.trans (run_goes (kept.goes goes) commands)).moves
      exact absurd (Nat.lt_of_lt_of_le (given_of_found kept.order found) later)
        (Nat.not_lt.2 unborn)
    rw [callsOf, if_neg other]
    exact ih (kept.goes goes) unborn

/-- Updater `i` was just made, if it is there. -/
def Comes (i : UpdaterId) (s s' : Session) : Prop :=
  i = s.fresh ∧ ∀ v, s'.updaterOf? i = some v →
    ∃ c config sink, Updater.Drift False ((Updater.new i c config).setSink sink) v

/-- A new updater comes as `i`, or leaves `i` to drift. -/
theorem newUpdater_drifts (i : UpdaterId) (s : Session) (name : String) (config : Config)
    (home : Home) (sink : SinkChoice) : Drifts none i s (s.newUpdater name config home sink).1
      ∨ s.Comes i (s.newUpdater name config home sink).1 := by
  unfold newUpdater
  cases s.homeContext? home with
  | none => exact .inl (.refl s)
  | some c =>
    dsimp only
    rw [chooseSink_keeps]
    generalize (({ s with fresh := s.fresh + 1 } : Session).chooseSink name sink).2.getD .none = k
    generalize (({ s with fresh := s.fresh + 1 } : Session).chooseSink name sink).1 = chosen
    have named : ∀ a : Session, a.updaters = s.updaters.set s.fresh
        { value := (Updater.new s.fresh c config).setSink k } →
        Drifts none i s (a.nameUpdater name s.fresh) ∨ s.Comes i (a.nameUpdater name s.fresh) := by
      intro a entered
      have given : a.updaterOf? i = if i = s.fresh
          then some ((Updater.new s.fresh c config).setSink k) else s.updaterOf? i := by
        rw [updaterOf?, entered, Table.get?_set]
        split <;> rfl
      have drifts : Drifts (some i) i a _ := .nameUpdater a name s.fresh
      by_cases new : i = s.fresh
      · refine .inr ⟨new, fun v found => ?_⟩
        obtain ⟨u, there, drift⟩ := drifts v found
        rw [given, if_pos new, ← new] at there
        cases there
        exact ⟨c, config, k, drift.mono fun free => free rfl⟩
      · rw [if_neg new] at given
        exact .inl ((Drifts.of_same given).trans drifts.expose)
    cases home <;> exact named _ rfl

/-- An operation on the updater that has a name. -/
theorem onNamed_drifts {name : String} (other : s.updaterNames.get? name ≠ some i)
    (f : Updater → World → World × Updater) : Drifts none i s (s.onNamed name f) := by
  unfold onNamed
  cases named : s.updaterNames.get? name with
  | none => exact .refl s
  | some id =>
    refine .onUpdater fun same => absurd ?_ other
    rw [named, same]

/-- A new sink for another updater. -/
theorem setSink_drifts {updater : String} (other : s.updaterNames.get? updater ≠ some i)
    (choice : SinkChoice) : Drifts none i s (s.setSink updater choice) := by
  have chosen : Drifts none i s (s.chooseSink updater choice).1 :=
    .of_updaters (chooseSink_keeps s updater choice)
  unfold setSink
  dsimp only
  split
  · exact chosen.trans (onNamed_drifts (by rwa [chooseSink_names]) _)
  · exact chosen

/-- An installation for another updater. -/
theorem attach_drifts {updater : String} (other : s.updaterNames.get? updater ≠ some i)
    (name : String) (source : Source) (state : Option String) :
    Drifts none i s (s.attach updater name source state) := by
  unfold attach
  cases named : s.updaterNames.get? updater with
  | none => exact .refl s
  | some id =>
    refine Drifts.trans (b := { s with fresh := _, sources := _, sourceNames := _ })
      (.of_updaters rfl) (.onUpdater fun same => absurd ?_ other)
    rw [named, same]

/-- An image bound to another updater's layer. -/
theorem bind_drifts {updater : String} (other : s.updaterNames.get? updater ≠ some i)
    (forceFilter : Bool) (transform : TextureTransform) (crop : Rect) (image : String) :
    Drifts none i s (s.bind updater forceFilter transform crop image) := by
  unfold bind
  split
  · next id t named _ =>
    split
    · refine Drifts.trans (b := s.onWorld (·.share t)) (.of_updaters rfl)
        (.onUpdater fun same => absurd ?_ other)
      rw [named, same]
    · exact .refl s
  · exact .refl s

/-- A change that does not speak to updater `i`, and makes no updater, leaves it to drift. -/
theorem change_drifts {change : Change}
    (other : change.addressed?.bind s.updaterNames.get? ≠ some i)
    (old : ∀ name config home sink, change ≠ .newUpdater name config home sink) :
    Drifts none i s (s.after change) := by
  cases change with
  | nothing | backend | newObserver | register | dropObserver | source | textures | mail
  | recorders => exact .of_updaters (Aloof.updaters (change_aloof s trivial))
  | newState | newContext => exact .of_updaters rfl
  | newUpdater name config home sink => exact absurd rfl (old name config home sink)
  | sink updater choice => exact setSink_drifts other choice
  | setting | treatment => exact onNamed_drifts other _
  | attach updater name source state => exact attach_drifts other name source state
  | bind updater forceFilter transform crop image => exact bind_drifts other _ _ _ image
  | apply updater =>
    unfold after
    dsimp only
    cases named : s.updaterNames.get? updater with
    | none => exact .refl s
    | some id =>
      refine .apply (fun same => other ?_) s
      rw [← same]
      exact named
  | destroy state =>
    unfold after
    dsimp only
    cases s.state? state with
    | none => exact .refl s
    | some c => exact .destroyContext s none c
  | dropUpdater name => exact .dropUpdater s name
  | notify notifier =>
    unfold after
    dsimp only
    cases s.notifiers.get? notifier with
    | none => exact .refl s
    | some n =>
      cases n with
      | updater id => exact .post s id
      | mailbox id => exact .of_updaters rfl

/-- A command that is not addressed to updater `i`, and makes no updater, leaves it to drift. -/
theorem exec_drifts_old {command : Command} (other : s.recipient? command ≠ some i)
    (old : ∀ name config home sink, command ≠ .newUpdater name config home sink) :
    Drifts none i s (s.exec command).1 := by
  rw [recipient?, ← command.addressed?_change] at other
  rw [exec_change]
  refine change_drifts other fun name config home sink same => ?_
  cases command with
  | newUpdater name config home sink => exact old name config home sink rfl
  | _ => cases same

/-- A command that is not addressed to updater `i` leaves it to drift, or makes it. -/
theorem exec_drifts {command : Command} (other : s.recipient? command ≠ some i) :
    Drifts none i s (s.exec command).1 ∨ s.Comes i (s.exec command).1 := by
  cases command with
  | newUpdater name config home sink => exact newUpdater_drifts i s name config home sink
  | _ => exact .inl (exec_drifts_old other (by simp))

end Session

end LayerFeed
