/-
How an updater that is not addressed can come to its end: it is told that its context is lost,
or its last holder lets go of it. In a destruction, or in an apply, both can happen, and both
more than once; what decides is what happens first (`Fares`). Told, it is torn down under a lost
context. Dropped without being told, it is torn down under the mode that its context asks for by
then.

Between these two an updater is not touched, but for its mailbox: this is what the moves under
its lock leave of it (`Moves.spared`), and here the lock stands for nothing but that no deed of
the updater is due.

The other half is an updater that is addressed. A command asks it for a teardown or does not
(`Command.dismissal?`): if so the updater ends in the mode that was asked for (`exec_dismissal`),
if not it is spared (`Obeys.live`).
-/
import LayerFeed.Proofs.Session.Fixtures
import LayerFeed.Proofs.Session.Routine

namespace LayerFeed

open Owners World

variable {i : UpdaterId} {e : Entry} {h es : List Entry} {w w' w'' : World}

-- ==================================================== entries of an end

/-- The context by whose loss updater `i` is told, if the entry says so. -/
def Entry.notice? (i : UpdaterId) : Entry → Option ContextId
  | .told c (.updater j) => if j = i then some c else none
  | _ => none

/-- The contexts of whose loss updater `i` was told, in order. -/
def noticesIn (i : UpdaterId) (h : List Entry) : List ContextId := h.filterMap (Entry.notice? i)

/-- The entry tells that updater `i` was torn down: the sink that heard of it, and the mode. -/
def Entry.teardown? (i : UpdaterId) : Entry → Option (Sink × TeardownMode)
  | .event j sink (.tornDown mode _ _) => if j = i then some (sink, mode) else none
  | _ => none

/-- The teardowns of updater `i`, in order. -/
def teardownsIn (i : UpdaterId) (h : List Entry) : List (Sink × TeardownMode) :=
  h.filterMap (Entry.teardown? i)

/-- The notices in a longer history are those of both parts. -/
theorem noticesIn_append (i : UpdaterId) (h es : List Entry) :
    noticesIn i (h ++ es) = noticesIn i h ++ noticesIn i es := List.filterMap_append

/-- And so for the teardowns. -/
theorem teardownsIn_append (i : UpdaterId) (h es : List Entry) :
    teardownsIn i (h ++ es) = teardownsIn i h ++ teardownsIn i es := List.filterMap_append

/-- An entry by which nobody is told of a loss is no notice. -/
theorem Entry.Untold.notice? (untold : e.Untold) : e.notice? i = none := by
  cases e with
  | told => exact untold.elim
  | _ => rfl

/-- Nor is an ordinary one. -/
theorem Entry.Ordinary.notice? (ordinary : e.Ordinary) : e.notice? i = none :=
  ordinary.aside.1.notice?

/-- By ordinary entries no context is lost. -/
theorem lostIn_ordinary {c : ContextId} (ordinary : ∀ e ∈ es, e.Ordinary) :
    LostIn c (h ++ es) ↔ LostIn c h := by
  unfold LostIn
  refine exists_congr fun n => List.mem_append.trans (or_iff_left fun mem => ?_)
  exact ordinary _ mem

/-- Updater `i` is told of no loss. -/
def Unheard (i : UpdaterId) (w w' : World) : Prop :=
  ∃ es, w'.history = w.history ++ es ∧ noticesIn i es = []

namespace Unheard

theorem of_history (same : w'.history = w.history) : Unheard i w w' :=
  ⟨[], by rw [same, List.append_nil], rfl⟩

theorem trans (first : Unheard i w w') (second : Unheard i w' w'') : Unheard i w w'' := by
  obtain ⟨es, grown, none⟩ := first
  obtain ⟨fs, grown', none'⟩ := second
  refine ⟨es ++ fs, by rw [grown', grown, List.append_assoc], ?_⟩
  rw [noticesIn_append, none, none', List.append_nil]

theorem record (other : e.notice? i = none) : Unheard i w (w.record e) :=
  ⟨[e], rfl, List.filterMap_cons_none other⟩

/-- Entries of which none is a notice. -/
theorem of_grown (grown : w'.history = w.history ++ es) (none : ∀ e ∈ es, e.notice? i = none) :
    Unheard i w w' := ⟨es, grown, List.filterMap_eq_nil_iff.2 none⟩

/-- Entries by which nobody is told of a loss. -/
theorem of_untold (untold : ∃ es, w'.history = w.history ++ es ∧ ∀ e ∈ es, e.Untold) :
    Unheard i w w' := by
  obtain ⟨es, grown, untold⟩ := untold
  exact of_grown grown fun e mem => (untold e mem).notice?

/-- Ordinary writes. -/
theorem of_writes (writes : Writes Entry.Ordinary w w') : Unheard i w w' := by
  obtain ⟨es, grown, ordinary⟩ := writes.history
  exact of_grown grown fun e mem => (ordinary e mem).notice?

end Unheard

/-- Updater `i` is torn down by mode `m`, as its sink `k` hears, after a history of which `P` is
true. -/
def Ends (i : UpdaterId) (k : Sink) (m : TeardownMode) (P : List Entry → Prop)
    (h h' : List Entry) : Prop :=
  ∃ es n layer fs, h' = h ++ es ++ .event i k (.tornDown m n layer) :: fs ∧ P (h ++ es)

namespace Ends

variable {k : Sink} {m : TeardownMode} {P : List Entry → Prop} {h' h'' : List Entry}

/-- What has ended has ended however it goes on. -/
theorem append (ends : Ends i k m P h h') (es : List Entry) : Ends i k m P h (h' ++ es) := by
  obtain ⟨before, n, layer, after, rfl, true_before⟩ := ends
  exact ⟨before, n, layer, after ++ es, by simp, true_before⟩

/-- And counting from an earlier moment. -/
theorem prepend (ends : Ends i k m P (h ++ es) h') : Ends i k m P h h' := by
  obtain ⟨before, n, layer, after, rfl, true_before⟩ := ends
  rw [List.append_assoc] at true_before
  exact ⟨es ++ before, n, layer, after, by simp, true_before⟩

/-- What ends is among the teardowns. -/
theorem mem (ends : Ends i k m P h h') : (k, m) ∈ teardownsIn i h' := by
  obtain ⟨es, n, layer, fs, rfl, -⟩ := ends
  refine List.mem_filterMap.2 ⟨.event i k (.tornDown m n layer), ?_, if_pos rfl⟩
  exact List.mem_append_right _ List.mem_cons_self

end Ends

namespace Updater

variable {u : Updater}

/-- A teardown calls backends and releases the source, and then its sink hears of it. -/
theorem teardown_ends (live : ¬ u.destroyed) (w : World) (mode : TeardownMode) :
    Ends u.id u.sink mode (fun pre => ∀ c, LostIn c pre ↔ LostIn c w.history) w.history
      (u.teardown w mode).1.history := by
  have freed := (u.releaseOwnership_writes (fun _ => trivial) w).trans
    (letGoOf_writes ordinary_calls _ u.shownImage)
  obtain ⟨es, grown, ordinary⟩ :=
    ((freed.trans (u.cache.clearAll_writes ordinary_calls _ mode)).andRecord
      (e := .note (.tornDown mode u.cache.liveTextures)) trivial).history
  refine ⟨es, u.cache.liveTextures, u.layer.isSome, [], ?_, fun c => lostIn_ordinary ordinary⟩
  rw [u.teardown_history live, ← grown]
  exact List.append_cons _ _ _

/-- Whoever goes away without having been torn down is torn down first, by the mode that the
context asks for. -/
theorem discard_ends (live : ¬ u.destroyed) (w : World) :
    Ends u.id u.sink (if w.alive u.context then .normal else .contextLost)
      (fun pre => ∀ c, LostIn c pre ↔ LostIn c w.history) w.history (u.discard w).history := by
  unfold discard
  have ends := teardown_ends live w (if w.alive u.context then .normal else .contextLost)
  generalize u.teardown w (if w.alive u.context then .normal else .contextLost) = down at ends
  obtain ⟨es, grown, -⟩ := ((down.2.dropSource_writes (fun _ => trivial) down.1).trans
    ((letGoOf_writes ordinary_calls _ down.2.shownImage).trans
      (down.2.cache.discard_writes ordinary_calls _))).history
  dsimp only
  rw [grown]
  exact ends.append es

/-- The updater is not torn down, and its context and its sink are what they were. -/
structure Spared (u v : Updater) : Prop where
  live : ¬ v.destroyed
  context : v.context = u.context
  sink : v.sink = u.sink

namespace Spared

variable {u v x : Updater}

theorem refl (live : ¬ u.destroyed) : Spared u u := ⟨live, rfl, rfl⟩

theorem trans (first : Spared u v) (second : Spared v x) : Spared u x :=
  ⟨second.live, second.context.trans first.context, second.sink.trans first.sink⟩

/-- A callback spares a living updater. -/
theorem callback (live : ¬ u.destroyed) {x : World × Updater} (callback : u.Callback w x) :
    Spared u x.2 := by
  rw [callback.untouched]
  exact ⟨live, rfl, rfl⟩

end Spared

end Updater

namespace Session

open Updater

variable {s s' s'' : Session} {j : UpdaterId} {u v : Updater} {held : Held Updater} {n k : Nat}
  {x : World × Updater} {locked : Option UpdaterId} {c : ContextId} {p : Participant}

-- ==================================================== under a lock

/-- Updater `i`, which was `u`, was torn down by the mode that its context asked for. -/
def Dropped (i : UpdaterId) (u : Updater) (s s' : Session) : Prop :=
  ∃ m, Ends i u.sink m (fun pre => m = .normal ↔ ¬ LostIn u.context pre) s.world.history
    s'.world.history

/-- A move in which a living updater is discarded is its drop. -/
theorem Move.dropped (order : s.InOrder) (entered : s.updaters.get? i = some held)
    (live : ¬ held.value.destroyed) (opened : s.Opened held.value.context)
    (world : s'.world = held.value.discard s.world) : Dropped i held.value s s' := by
  obtain ⟨es, n, layer, fs, history, lost⟩ := discard_ends live s.world
  refine ⟨if s.world.alive held.value.context then .normal else .contextLost, es, n, layer, fs,
    ?_, ?_⟩
  · rw [world, history, (order.sound.numbered.updaters i held entered).2]
  · dsimp only
    rw [lost, ← order.sound.alive_iff opened]
    split <;> simp [*]

/-- Under its lock an updater that is not torn down is spared, or dropped. -/
theorem Moves.spared (order : s.InOrder) (moves : Moves (some i) s s')
    (found : s.updaterOf? i = some u) (live : ¬ u.destroyed) (opened : s.Opened u.context) :
    (∃ v, s'.updaterOf? i = some v ∧ Spared u v)
      ∨ s'.updaterOf? i = none ∧ Dropped i u s s' := by
  induction moves with
  | refl => exact .inl ⟨u, found, .refl live⟩
  | @tail a b before move ih =>
    have order' := order.steps (Moves.steps before)
    have given := Nat.lt_of_lt_of_le (given_of_found order found) (Moves.fresh before)
    rcases ih with ⟨v, found', spared⟩ | ⟨absent, m, ends⟩
    · cases move.deal order'.sound order'.sourced i with
      | elsewhere elsewhere => exact .inl ⟨v, elsewhere.same.trans found', spared⟩
      | opens => exact .inl ⟨v, found', spared⟩
      | comes new => exact absurd new (Nat.ne_of_lt given)
      | goes entered world fresh besides gone =>
        rw [updaterOf?_of_get? entered] at found'
        cases found'
        obtain ⟨es, grown⟩ := Steps.history order.sound (Moves.steps before)
        have opened' := Steps.opened order.sound (Moves.steps before) opened
        rw [← spared.context] at opened'
        obtain ⟨m, ends⟩ := Move.dropped order' entered spared.live opened' world
        refine .inr ⟨by rw [updaterOf?, gone, Option.map_none], m, ?_⟩
        rw [grown, spared.context, spared.sink] at ends
        exact ends.prepend
      | deed entered deed free world fresh besides there =>
        rw [updaterOf?_of_get? entered] at found'
        cases found'
        exact .inl ⟨_, there, spared.trans (.callback spared.live (free rfl))⟩
    · obtain ⟨es, grown⟩ := Steps.history order'.sound move.steps
      refine .inr ⟨?_, m, by rw [grown]; exact ends.append es⟩
      rw [updaterOf?, move.absent given (Option.map_eq_none_iff.1 absent), Option.map_none]

-- ==================================================== what happens first

/-- What becomes of updater `i`, which is `u` and not torn down. -/
inductive Outcome (i : UpdaterId) (u : Updater) (s s' : Session) : Prop
  | spared {v : Updater} (found : s'.updaterOf? i = some v) (same : Spared u v)
      (unheard : Unheard i s.world s'.world)
  | told {es : List Entry} (grown : s'.world.history = s.world.history ++ es)
      (heard : noticesIn i es ≠ [])
      (ends : Ends i u.sink .contextLost (fun _ => True) s.world.history s'.world.history)
  | dropped (absent : s'.updaterOf? i = none) (unheard : Unheard i s.world s'.world)
      (dropped : Dropped i u s s')

/-- How updater `i` fares where it is not addressed. -/
structure Fares (i : UpdaterId) (s s' : Session) : Prop where
  order : s'.InOrder
  opened : ∀ c, s.Opened c → s'.Opened c
  grown : ∃ es, s'.world.history = s.world.history ++ es
  absent : s.updaterOf? i = none → s'.updaterOf? i = none ∧ Unheard i s.world s'.world
  live : ∀ u, s.updaterOf? i = some u → ¬ u.destroyed → s.Opened u.context → Outcome i u s s'

/-- An outcome after something unheard that spares the updater. -/
theorem Outcome.after (second : Outcome i v s' s'') (same : Spared u v)
    (unheard : Unheard i s.world s'.world) : Outcome i u s s'' := by
  obtain ⟨es, grown, none⟩ := unheard
  cases second with
  | spared found same' unheard' =>
    exact .spared found (same.trans same') (Unheard.trans ⟨es, grown, none⟩ unheard')
  | @told fs grown' heard ends =>
    rw [grown, same.sink] at ends
    have written : s''.world.history = s.world.history ++ (es ++ fs) := by
      rw [grown', grown, List.append_assoc]
    refine .told written ?_ ends.prepend
    rwa [noticesIn_append, none, List.nil_append]
  | dropped absent unheard' dropped =>
    obtain ⟨m, ends⟩ := dropped
    rw [grown, same.sink, same.context] at ends
    exact .dropped absent (Unheard.trans ⟨es, grown, none⟩ unheard') ⟨m, ends.prepend⟩

/-- A latch leaves the sink. -/
theorem latch_sink (u : Updater) (w : World) (frame : Frame) (issued : Option FenceClass) :
    (u.latch w frame issued).2.sink = u.sink := by
  unfold Updater.latch
  dsimp only
  split <;> rfl

namespace Fares

theorem trans (first : Fares i s s') (second : Fares i s' s'') : Fares i s s'' where
  order := second.order
  opened c opened := second.opened c (first.opened c opened)
  grown := by
    obtain ⟨es, grown⟩ := first.grown
    obtain ⟨fs, grown'⟩ := second.grown
    exact ⟨es ++ fs, by rw [grown', grown, List.append_assoc]⟩
  absent none := by
    obtain ⟨none', unheard⟩ := first.absent none
    obtain ⟨none'', unheard'⟩ := second.absent none'
    exact ⟨none'', unheard.trans unheard'⟩
  live u found live opened := by
    obtain ⟨fs, grown'⟩ := second.grown
    cases first.live u found live opened with
    | @spared v found' same unheard =>
      refine (second.live v found' same.live ?_).after same unheard
      rw [same.context]
      exact first.opened _ opened
    | @told es grown heard ends =>
      have written : s''.world.history = s.world.history ++ (es ++ fs) := by
        rw [grown', grown, List.append_assoc]
      refine .told written ?_ ?_
      · rw [noticesIn_append]
        exact List.append_ne_nil_of_left_ne_nil heard _
      · rw [grown']
        exact ends.append fs
    | dropped absent unheard dropped =>
      obtain ⟨absent', unheard'⟩ := second.absent absent
      obtain ⟨m, ends⟩ := dropped
      refine .dropped absent' (unheard.trans unheard') ⟨m, ?_⟩
      rw [grown']
      exact ends.append fs

/-- What goes under the lock of the updater, and tells it of nothing. -/
theorem of_moves (order : s.InOrder) (moves : Moves (some i) s s') (drifts : Drifts none i s s')
    (unheard : Unheard i s.world s'.world) : Fares i s s' where
  order := order.steps moves.steps
  opened _ := Steps.opened order.sound moves.steps
  grown := Steps.history order.sound moves.steps
  absent none := by
    refine ⟨?_, unheard⟩
    by_contra there
    obtain ⟨v, found⟩ := Option.ne_none_iff_exists'.1 there
    obtain ⟨u, found', -⟩ := drifts v found
    rw [none] at found'
    cases found'
  live u found live opened := by
    rcases moves.spared order found live opened with ⟨v, found', same⟩ | ⟨absent, dropped⟩
    · exact .spared found' same unheard
    · exact .dropped absent unheard dropped

theorem refl (order : s.InOrder) : Fares i s s :=
  of_moves order .refl (.refl s) (.of_history rfl)

/-- A deed that tears nobody down. -/
theorem deed (order : s.InOrder) (entered : s.updaters.get? j = some held)
    (deed : Deed s j held.value n x)
    (spared : j = i → ¬ held.value.destroyed → Spared held.value x.2)
    (unheard : Unheard i s.world x.1) :
    Fares i s { s with
      fresh := n
      world := x.1
      updaters := s.updaters.set j { held with value := x.2 } } where
  order := order.steps (deed.steps entered)
  opened _ := Steps.opened order.sound (deed.steps entered)
  grown := Steps.history order.sound (deed.steps entered)
  absent none := by
    refine ⟨?_, unheard⟩
    rw [updaterOf?, Table.get?_set_ne _ _ fun same => ?_]
    · exact none
    · rw [same, updaterOf?_of_get? entered] at none
      cases none
  live u found live opened := by
    by_cases same : j = i
    · subst same
      rw [updaterOf?_of_get? entered] at found
      cases found
      refine .spared ?_ (spared rfl live) unheard
      rw [updaterOf?, Table.get?_set_self, Option.map_some]
    · refine .spared (v := u) ?_ (.refl live) unheard
      rw [updaterOf?, Table.get?_set_ne _ _ (Ne.symm same)]
      exact found

theorem record (order : s.InOrder) (remark : e.isRemark) (plain : e.Plain)
    (other : e.notice? i = none) : Fares i s (s.record e) :=
  have told : Goes (some i) s (s.record e) := .remark remark plain
  of_moves order told.moves (.record s e) (.record other)

theorem beside (order : s.InOrder) (h : Beside s s') : Fares i s s' :=
  of_moves order (.single (.beside h)) (.of_updaters h.parts.2.1)
    (.of_history (congrArg World.history h.parts.1))

/-- What is done to all members of a list, while the holders of the updater keep it. -/
theorem foldl {α : Type} {f : Session → α → Session} {as : List α} (order : s.InOrder)
    (backed : s.Backed i k) (h : ∀ s : Session, s.InOrder → s.Backed i k → ∀ a ∈ as,
      Fares i s (f s a) ∧ (f s a).Backed i k) : Fares i s (as.foldl f s) := by
  induction as generalizing s with
  | nil => exact .refl order
  | cons a as ih =>
    obtain ⟨first, backed'⟩ := h s order backed a List.mem_cons_self
    exact first.trans (ih first.order backed' fun s order backed a mem =>
      h s order backed a (List.mem_cons_of_mem _ mem))

theorem dropUpdater (order : s.InOrder) (name : String) : Fares i s (s.dropUpdater name) :=
  of_moves order (dropUpdater_goes s name).moves (.dropUpdater s name)
    (.of_untold ((dropUpdater_affairs s name).history fun _ ordinary => ordinary.aside.1))

theorem dropObserver (order : s.InOrder) (name : String) : Fares i s (s.dropObserver name) :=
  of_moves order (.single (.aloof (dropObserver_aloof s name))) (.dropObserver s name)
    (.of_untold ((dropObserver_affairs s name).history fun _ ordinary => ordinary.aside.1))

/-- Updater `i` is told that a context is lost. -/
theorem tells (order : s.InOrder) (entered : s.updaters.get? i = some held)
    (goes : Goes locked s ((s.record (.told c (.updater i))).onUpdater i fun u w =>
      u.teardown w .contextLost)) :
    Fares i s ((s.record (.told c (.updater i))).onUpdater i fun u w =>
      u.teardown w .contextLost) where
  order := order.steps goes.moves.steps
  opened _ := Steps.opened order.sound goes.moves.steps
  grown := Steps.history order.sound goes.moves.steps
  absent none := by
    rw [updaterOf?_of_get? entered] at none
    cases none
  live u found live opened := by
    rw [updaterOf?_of_get? entered] at found
    cases found
    obtain ⟨es, n, layer, fs, history, -⟩ :=
      teardown_ends live (s.world.record (.told c (.updater i))) .contextLost
    rw [(order.sound.numbered.updaters i held entered).2] at history
    have history' : ((s.record (.told c (.updater i))).onUpdater i fun u w =>
        u.teardown w .contextLost).world.history = s.world.history
          ++ (.told c (.updater i) :: es
            ++ .event i held.value.sink (.tornDown .contextLost n layer) :: fs) := by
      rw [onUpdater_eq (s := s.record (.told c (.updater i))) entered]
      exact history.trans (by simp [World.record])
    have hears : (Entry.told c (.updater i)).notice? i = some c := if_pos rfl
    refine .told history' ?_ ⟨.told c (.updater i) :: es, n, layer, fs, ?_, trivial⟩
    · rw [noticesIn, List.cons_append, List.filterMap_cons_some hears]
      exact List.cons_ne_nil _ _
    · rw [history', List.append_assoc]

-- ==================================================== destruction

section Destroy

variable {destroy : Destroyer}
  (destroys : ∀ s c, s.InOrder → s.Backed i 0 → Fares i s (destroy s c).1)
  (goes : ∀ s c, Goes locked s (destroy s c).1)

include destroys

/-- The actions of an observer: an updater fares on, or its last share is let go. -/
theorem act (order : s.InOrder) (backed : s.Backed i 0) (o : Observer) (action : ObserverAction) :
    Fares i s (act destroy s o action) := by
  have acted : ∀ {s' r}, Fares i s s' → Fares i s (s'.record (.acted o.name action r)) :=
    fun fares => fares.trans (.record fares.order rfl rfl rfl)
  cases action with
  | count => exact acted (.refl order)
  | destroy => exact acted (destroys s o.context order backed)
  | register name =>
    refine acted ?_
    cases s.observerNames.get? name with
    | none => exact .refl order
    | some id => exact .beside order ⟨rfl, Nat.le_refl _⟩
  | letGo name =>
    have dropped := Fares.dropObserver (i := i) order name
    exact acted (dropped.trans (.dropUpdater dropped.order name))

include goes

theorem acts (order : s.InOrder) (backed : s.Backed i 0) (o : Observer)
    (actions : List ObserverAction) :
    Fares i s (actions.foldl (fun s action => Session.act destroy s o action) s) :=
  .foldl order backed fun s order backed action _ =>
    ⟨.act destroys order backed o action, (act_goes goes s o action).backed i 0 backed⟩

/-- Who is told of a loss is there. -/
theorem notify (order : s.InOrder) (backed : s.Backed i 0)
    (there : p = .updater i → ∃ h, s.updaters.get? i = some h) (c : ContextId) :
    Fares i s (notify destroy locked c s p) := by
  have notified := notify_goes goes c s p
  unfold Session.notify at notified ⊢
  split
  · exact .refl order
  · next free =>
    rw [if_neg free] at notified
    cases p with
    | updater j =>
      by_cases same : j = i
      · subst same
        obtain ⟨h, entered⟩ := there rfl
        exact .tells order entered notified
      · have told : Fares i s (s.record (.told c (.updater j))) :=
          .record order rfl rfl (if_neg same)
        have free : some i ≠ some j := fun same' => same (Option.some.inj same').symm
        have tornDown := teardown_goes (s.record (.told c (.updater j))) .contextLost free
        refine told.trans (.of_moves told.order tornDown.moves
          (.onUpdater fun same' => absurd same' same) ?_)
        exact .of_untold ((Affairs.apart (.onUpdater fun u w =>
          (u.teardown_writes w .contextLost).mono fun _ ordinary => ordinary.aside.1)).history
            fun _ ordinary => ordinary.aside.1)
    | observer id =>
      have told : Fares i s (s.record (.told c (.observer id))) := .record order rfl rfl rfl
      have backed' : (s.record (.told c (.observer id))).Backed i 0 := backed
      refine told.trans ?_
      generalize s.record (.told c (.observer id)) = s at told backed'
      dsimp only
      cases s.observers.get? id with
      | none => exact .refl told.order
      | some h =>
        dsimp only
        have counted : Fares i s { s with
            observers := s.observers.set id
              { h with value := { h.value with notified := h.value.notified + 1 } } } :=
          .beside told.order ⟨rfl, Nat.le_refl _⟩
        have noted := Fares.record (i := i) (e := .notified h.value.name (h.value.notified + 1)
          (s.world.alive h.value.context)) counted.order rfl rfl rfl
        exact counted.trans (noted.trans (.acts destroys goes noted.order backed' _ _))

/-- All who are told are held for that time. -/
theorem notifyAll {ps : List Participant} (order : s.InOrder)
    (backed : s.Backed i (ps.count (.updater i))) (c : ContextId) :
    Fares i s (ps.foldl (Session.notify destroy locked c) s) := by
  refine .foldl order backed fun s order backed p mem => ⟨?_, (notify_goes goes c s p).backed i _
    backed⟩
  refine .notify destroys goes order (Nat.le_trans (Nat.le_add_right _ _) backed) ?_ c
  rintro rfl
  obtain ⟨m, some⟩ := Nat.exists_eq_succ_of_ne_zero (List.count_pos_iff.2 mem).ne'
  rw [some] at backed
  exact backed.there

end Destroy

/-- Holders that come or go, one after the other. -/
theorem holders {f : Session → Participant → Session} (order : s.InOrder)
    (moves : ∀ s p, Moves (some i) s (f s p)) (drifts : ∀ s p, Drifts none i s (f s p))
    (writes : ∀ s p, Writes Entry.Ordinary s.world (f s p).world) (ps : List Participant) :
    Fares i s (ps.foldl f s) := by
  induction ps generalizing s with
  | nil => exact .refl order
  | cons p ps ih =>
    have first := of_moves order (moves s p) (drifts s p) (.of_writes (writes s p))
    exact first.trans (ih first.order)

/-- The destruction of a context at every depth, by induction on the depth. -/
theorem destroyWithin (locked : Option UpdaterId) (depth : Nat) (s : Session) (c : ContextId)
    (order : s.InOrder) (backed : s.Backed i 0) : Fares i s (destroyWithin locked depth s c).1 := by
  induction depth generalizing s c with
  | zero => exact .refl order
  | succ depth ih =>
    by_cases alive : s.world.alive c
    · rw [destroyWithin_alive alive]
      have lost : Fares i s (s.loses locked c) := by
        have goes : Goes (some i) s (s.loses locked c) := loses_goes alive
        exact of_moves order goes.moves (.of_updaters rfl) ⟨[_], rfl, rfl⟩
      have live : ∀ p ∈ s.attending c, (s.loses locked c).isLive p := by
        intro p mem
        have held := (List.mem_filter.1 mem).2
        cases p <;> exact held
      have backed' : (s.loses locked c).Backed i 0 := backed
      have held := Fares.holders (i := i) lost.order (fun s p => hold_moves s p)
        (fun s p => .hold s p) (fun s p => by cases p <;> exact .refl _) (s.attending c)
      have backed'' := backed'.holdAll live
      rw [Nat.zero_add] at backed''
      have told := Fares.notifyAll (fun s c order backed => ih s c order backed)
        (destroyWithin_goes locked depth) held.order backed'' c
      exact lost.trans (held.trans (told.trans (.holders told.order (fun s p => letGo_moves s p)
        (fun s p => .letGo s p) letGo_history _)))
    · rw [destroyWithin_lost alive]
      exact .refl order

-- ==================================================== applying

variable {fences : DequeueFences} {ref : SourceRef}

/-- An operation on an updater that is there. -/
theorem onUpdater {f : Updater → World → World × Updater} (order : s.InOrder)
    (entered : s.updaters.get? j = some held)
    (deed : Deed s j held.value s.fresh (f held.value s.world))
    (spared : j = i → ¬ held.value.destroyed → Spared held.value (f held.value s.world).2)
    (unheard : Unheard i s.world (f held.value s.world).1) : Fares i s (s.onUpdater j f) := by
  rw [onUpdater_eq entered]
  exact .deed order entered deed spared unheard

theorem callback (asked : s.Asked j held fences) (backed : s.Backed i 0)
    (state : Option ContextId) (item : ScriptItem) :
    Fares i s (s.callback (some j) state fences item).session := by
  have order := asked.order
  cases item with
  | fence useSync =>
    have fenced := Fares.deed (i := i) order asked.entered
      (.callback (.fence fences useSync asked.gate asked.previous)) (fun _ live => .refl live)
      (.of_writes (fences.createFence_writes s.world useSync))
    rwa [updaters_set_self asked.entered] at fenced
  | wait fd =>
    have waited : Goes (some i) s _ := .aloof (.waitFence fences.gate fd)
    exact of_moves order waited.moves (.of_updaters rfl)
      (.of_writes (fences.gate.wait_writes s.world fd))
  | notify =>
    exact .onUpdater order asked.entered (.callback .post) (fun _ live => .callback live .post)
      (.record rfl)
  | destroy =>
    cases state with
    | none => exact .refl order
    | some c =>
      have destroyed := Fares.destroyWithin (some j) s.world.contexts.size s c order backed
      exact destroyed.trans (.record destroyed.order rfl rfl rfl)
  | adjust settings =>
    have adjusted : Goes (some i) s _ := .aloof (.adjustBackend fences.gate.context settings)
    exact of_moves order adjusted.moves (.of_updaters rfl) (.of_history rfl)

/-- A script, item by item. -/
theorem runScript (asked : s.Asked j held fences) (backed : s.Backed i 0)
    (state : Option ContextId) (script : List ScriptItem) :
    Fares i s (s.runScript (some j) state fences script).session := by
  induction script generalizing s held fences with
  | nil => exact .refl asked.order
  | cons item items ih =>
    obtain ⟨called, gate, previous, -⟩ := callback_goes asked state item
    obtain ⟨h', asked', -⟩ := asked.goes called gate previous
    exact (Fares.callback asked backed state item).trans (ih asked' (called.backed i 0 backed))

/-- Noting what a dequeue answered. -/
theorem answer (order : s.InOrder) (entered : s.updaters.get? j = some held)
    (has : held.value.source = some ref) (results : List CallbackResult) :
    Fares i s (s.record (.source ref (.dequeued results))) := by
  have answered : Fares i s _ := .deed order entered (.answer results has)
    (fun _ live => .refl live) (.record rfl)
  rwa [updaters_set_self entered] at answered

/-- A dequeue of an updater that asked. -/
theorem dequeue (asked : (s.record (.source ref .dequeueBegun)).Asked j held fences)
    (backed : (s.record (.source ref .dequeueBegun)).Backed i 0)
    (has : held.value.source = some ref) :
    Fares i (s.record (.source ref .dequeueBegun)) (s.dequeue j ref fences).session := by
  unfold Session.dequeue
  dsimp only
  generalize s.record (.source ref .dequeueBegun) = s at asked backed
  cases s.sources.get? ref.id with
  | none => exact .refl asked.order
  | some source =>
    dsimp only
    have taken : Goes (some j) s { s with sources := s.sources.set ref.id source.next.2 } :=
      .beside ⟨rfl, Nat.le_refl _⟩ rfl
    have first : Fares i s { s with sources := s.sources.set ref.id source.next.2 } :=
      .beside asked.order ⟨rfl, Nat.le_refl _⟩
    obtain ⟨h₁, asked₁, same₁⟩ := asked.goes taken rfl rfl
    split
    · obtain ⟨-, h₂, asked₂, same₂, -⟩ := runScript_goes asked₁ source.context source.script
      have ran := Fares.runScript asked₁ (taken.backed i 0 backed) source.context source.script
      have source' : h₂.value.source = some ref := by
        rw [same₁.trans same₂]
        exact has
      exact first.trans (ran.trans (.answer asked₂.order asked₂.entered source' _))
    · exact first

/-- A dequeue and the latch after it. -/
theorem latchFrame (asked : (s.record (.source ref .dequeueBegun)).Asked j held fences)
    (backed : (s.record (.source ref .dequeueBegun)).Backed i 0)
    (has : held.value.source = some ref) (live : ¬ held.value.destroyed) :
    Fares i (s.record (.source ref .dequeueBegun)) (s.latchFrame j ref fences) := by
  obtain ⟨-, h', there, live', answered⟩ := dequeue_goes asked has live
  have dequeued := Fares.dequeue asked backed has
  unfold Session.latchFrame
  dsimp only
  cases answer : (s.dequeue j ref fences).answer with
  | none => exact dequeued
  | some frame =>
    refine dequeued.trans (.onUpdater dequeued.order there
      (.latch frame _ live' (answered (by rw [answer]; rfl))) (fun _ live => ?_)
      (.of_writes (h'.value.latch_writes _ _ _)))
    exact ⟨by rwa [latch_destroyed], latch_context _ _ _ _, latch_sink _ _ _ _⟩

/-- The end of an apply: the transform is committed, and the updater is held no longer. -/
theorem commit (order : s.InOrder) (live : ∀ h, s.updaters.get? j = some h → ¬ h.value.destroyed) :
    Fares i s ((s.onUpdater j fun u w => (w, u.commitTransform)).letGo (.updater j)) := by
  have committed : Fares i s (s.onUpdater j fun u w => (w, u.commitTransform)) := by
    cases entered : s.updaters.get? j with
    | none =>
      simp only [Session.onUpdater, entered]
      exact .refl order
    | some h =>
      refine .onUpdater order entered (.setter .commitTransform (.inl (live h entered)))
        (fun _ live => ?_) (.of_history rfl)
      unfold Updater.commitTransform
      split <;> exact ⟨live, rfl, rfl⟩
  exact committed.trans (of_moves committed.order (letGo_moves _ _) (.letGo _ _)
    (.of_writes (letGo_history _ _)))

/-- The start of an apply spares a living updater. -/
theorem beginApply_spared (u : Updater) (w : World) (live : ¬ u.destroyed) :
    Spared u (u.beginApply w).object := by
  obtain ⟨attached, mailbox, same⟩ := beginApply_object u w
  rw [same]
  exact ⟨live, rfl, rfl⟩

/-- And nobody hears of it. -/
theorem beginApply_unheard (u : Updater) (w : World) : Unheard i w (u.beginApply w).world :=
  .of_untold (u.beginApply_writes (fun _ => trivial) w).history

/-- How an updater fares over any apply. -/
theorem apply (kept : s.Kept) (j : UpdaterId) : Fares i s (s.apply j) := by
  unfold Session.apply
  cases found : s.updaterOf? j with
  | none => exact .refl kept.order
  | some u =>
    dsimp only
    split
    · exact .record kept.order rfl rfl rfl
    · next live =>
      obtain ⟨h, entered, rfl⟩ := Option.map_eq_some_iff.1 found
      have here : s.isLive (.updater j) := by
        show (s.updaters.get? j).isSome
        rw [entered]
        rfl
      have holding : Fares i s (s.hold (.updater j)) :=
        of_moves kept.order (hold_moves s _) (.hold s _) (.of_history rfl)
      have owed := (kept.backed j).hold here
      rw [count_updater, if_pos rfl] at owed
      have backed := Nat.le_trans (Nat.add_le_add_left (Nat.zero_le _) _)
        ((kept.backed i).hold here)
      have held : (s.hold (.updater j)).updaters.get? j = some { h with holds := h.holds + 1 } := by
        rw [hold_get?, if_pos rfl, entered, Option.map_some]
      refine holding.trans ?_
      have order := holding.order
      generalize s.hold (.updater j) = s at held owed backed order
      cases asked : (h.value.beginApply s.world).answer with
      | none =>
        have begun := Fares.onUpdater (i := i)
          (f := fun u w => ((u.beginApply w).world, (u.beginApply w).object)) order held
          (.idle live asked) (fun _ live => beginApply_spared _ _ live) (beginApply_unheard _ _)
        refine begun.trans (.commit begun.order fun v there => ?_)
        rw [onUpdater_get?, if_pos rfl, held] at there
        cases there
        exact (beginApply_spared _ _ live).live
      | some ref =>
        obtain ⟨asks, waits⟩ := ask_goes order held live asked owed
        obtain ⟨-, -, has, -, same⟩ := Updater.beginApply_asks asked
        have begun : Fares i s _ := .deed order held (.ask live asked)
          (fun _ live => beginApply_spared _ _ live)
          ((beginApply_unheard _ _).trans (.record rfl))
        have latches := Fares.latchFrame waits (asks.backed i 0 backed) has (by rwa [same])
        have live' := (latchFrame_goes waits has (by rwa [same])).2
        rw [onUpdater_eq held] at latches live'
        dsimp only
        rw [onUpdater_eq held]
        exact begun.trans (latches.trans (.commit latches.order live'))

end Fares

-- ==================================================== commands

/-- In a command that stirs nothing nobody is told of a loss. -/
theorem exec_calm_unheard {command : Command} (calm : ¬ command.Stirs) :
    Unheard i s.world (s.exec command).1.world := by
  have course : Course (fun a b => b.world.history = a.world.history) s (s.exec command).1 :=
    exec_calm_course (fun _ _ => rfl) calm
  refine course.kept (I := fun t => Unheard i s.world t.world) (.of_history rfl)
    (fun a b affair unheard => unheard.trans ?_) fun a b same unheard =>
      unheard.trans (.of_history same)
  obtain ⟨es, grown, aside⟩ := affair.history fun _ => Entry.Ordinary.aside
  exact .of_grown grown fun e mem => (aside e mem).1.notice?

/-- How an updater fares in a command that is not addressed to it, or that applies it. -/
theorem exec_fares (kept : s.Kept) (given : i < s.fresh) {command : Command}
    (other : command.Stirs ∨ s.recipient? command ≠ some i) : Fares i s (s.exec command).1 := by
  by_cases stirs : command.Stirs
  · cases command with
    | apply name =>
      unfold exec
      dsimp only
      cases s.updaterNames.get? name with
      | none => exact .refl kept.order
      | some id => exact .apply kept id
    | destroy state =>
      unfold exec
      dsimp only
      cases s.state? state with
      | none => exact .refl kept.order
      | some c => exact .destroyWithin none _ s c kept.order (kept.backed i)
    | _ => exact stirs.elim
  · have other := other.resolve_left stirs
    have goes : Goes (some i) s (s.exec command).1 := by
      refine exec_calm_goes kept.order.sound stirs fun name addressed id named same => other ?_
      rw [recipient?, addressed, Option.bind_some, named, same]
    rcases exec_drifts other with drifts | ⟨new, -⟩
    · exact .of_moves kept.order goes.moves drifts (exec_calm_unheard stirs)
    · exact absurd new (Nat.ne_of_lt given)

theorem onUpdater_names (s : Session) (id : UpdaterId)
    (f : Updater → World → World × Updater) :
    (s.onUpdater id f).updaterNames = s.updaterNames := by
  unfold Session.onUpdater
  cases s.updaters.get? id <;> rfl

/-- Names stay in a change that speaks to an updater, but for an apply, whose source may have
more to say. -/
theorem change_addressed_names {change : Change} (addressed : change.addressed?.isSome)
    (calm : ¬ change.Stirs) : (s.after change).updaterNames = s.updaterNames := by
  have onNamed : ∀ (s : Session) name f, (s.onNamed name f).updaterNames = s.updaterNames := by
    intro s name f
    unfold Session.onNamed
    cases s.updaterNames.get? name with
    | none => rfl
    | some id => exact onUpdater_names s id f
  cases change with
  | apply => exact absurd trivial calm
  | sink updater choice =>
    have chosen := chooseSink_names s updater choice
    unfold after setSink
    dsimp only
    split
    · exact (onNamed _ updater _).trans chosen
    · exact chosen
  | setting | treatment => exact onNamed s _ _
  | attach updater name source state =>
    unfold after attach
    dsimp only
    split
    · rfl
    · exact onUpdater_names _ _ _
  | bind updater forceFilter transform crop image =>
    unfold after bind
    dsimp only
    split
    · split
      · exact onUpdater_names _ _ _
      · rfl
    · rfl
  | _ => cases addressed

/-- And so when a command speaks to it. -/
theorem exec_addressed_names {command : Command} (addressed : s.recipient? command = some i)
    (calm : ¬ command.Stirs) : (s.exec command).1.updaterNames = s.updaterNames := by
  rw [exec_change]
  refine change_addressed_names ?_ fun stirs => calm (command.stirs_change.1 stirs)
  obtain ⟨name, spoken, -⟩ := Option.bind_eq_some_iff.1 addressed
  rw [command.addressed?_change, spoken]
  rfl

/-- An updater that a calm command speaks to is there afterwards. -/
theorem exec_addressed_there (kept : s.Kept) {command : Command}
    (addressed : s.recipient? command = some i) (calm : ¬ command.Stirs) :
    ∃ v, (s.exec command).1.updaterOf? i = some v := by
  obtain ⟨name, -, named⟩ := Option.bind_eq_some_iff.1 addressed
  rw [← exec_addressed_names addressed calm] at named
  exact (kept.goes (exec_goes kept command)).named named

end Session

/-- The mode of the teardown that a command asks for. -/
def Command.dismissal? : Command → Option TeardownMode
  | .teardown _ mode => some mode
  | .contextDestroyed _ => some .contextLost
  | _ => none

namespace Session

variable {s s' : Session} {u v : Updater} {command : Command} {m : TeardownMode}

/-- A command that asks for no teardown spares the updater that obeys it, and its sink unless it
sets that. -/
theorem Obeys.live (obeys : Obeys s i u command v) (calm : ¬ command.Stirs)
    (none : command.dismissal? = none) (live : ¬ u.destroyed) :
    ¬ v.destroyed ∧ ((∀ name choice, command ≠ .setSink name choice) → v.sink = u.sink) := by
  cases obeys with
  | setSink name choice => exact ⟨live, fun still => absurd rfl (still name choice)⟩
  | setTransform | setPaint | post | bind | misses => exact ⟨live, fun _ => rfl⟩
  | setSize name width height =>
    unfold Updater.setSize
    split <;> exact ⟨live, fun _ => rfl⟩
  | setBlend name blend =>
    unfold Updater.setBlend
    split <;> exact ⟨live, fun _ => rfl⟩
  | attach name source queue state w ref =>
    obtain ⟨cache, -, same⟩ := u.attach_object w ref
    rw [same]
    exact ⟨live, fun _ => rfl⟩
  | detach name w =>
    obtain ⟨cache, same⟩ := u.detach_object w
    rw [same]
    exact ⟨live, fun _ => rfl⟩
  | ignores | apply => exact absurd trivial calm
  | teardown | contextDestroyed => cases none

/-- An updater is torn down by the first command that asks it for that, in the mode that it asks
for. -/
theorem exec_dismissal (kept : s.Kept) (addressed : s.recipient? command = some i)
    (asks : command.dismissal? = some m) (found : s.updaterOf? i = some u)
    (live : ¬ u.destroyed) :
    Ends i u.sink m (fun _ => True) s.world.history (s.exec command).1.world.history := by
  obtain ⟨held, entered, rfl⟩ := Option.map_eq_some_iff.1 found
  have tornDown : ∀ name, s.updaterNames.get? name = some i → Ends i held.value.sink m
      (fun _ => True) s.world.history (s.onNamed name fun u w => u.teardown w m).world.history := by
    intro name named
    obtain ⟨es, n, layer, fs, history, -⟩ := Updater.teardown_ends live s.world m
    rw [(kept.order.sound.numbered.updaters i held entered).2] at history
    unfold onNamed
    rw [named]
    dsimp only
    rw [onUpdater_eq entered]
    exact ⟨es, n, layer, fs, history, trivial⟩
  cases command with
  | teardown name mode =>
    cases asks
    exact tornDown name addressed
  | contextDestroyed name =>
    cases asks
    exact tornDown name addressed
  | _ => cases asks

end Session

end LayerFeed
