/-
What a session does with one updater alone. `Within i s s'` says that from `s` to `s'` only
updater `i` acted: its footprint is what it holds itself, so all that stands besides it is the
frame, and no context was lost. An apply is of this kind unless its source destroys a context
that was alive; then it is told that one was (`Loses`), and nothing else is known.

A command deals with one updater if it is addressed to it, posts to it by a notifier, or ends
the session's hold on it (`dealtWith?`).
-/
import LayerFeed.Proofs.Session.Applied
import LayerFeed.Proofs.Session.Routine

namespace LayerFeed

open Owners World

namespace Session

variable {s s' s'' : Session} {i j id : UpdaterId} {u : Updater} {h : Held Updater} {t : TextureId}
  {fences : DequeueFences} {e : Entry}

/-- From `s` to `s'` only updater `i` acted, with what it holds, and no context was lost. -/
structure Within (i : UpdaterId) (s s' : Session) : Prop where
  passes : ∀ r, Passes Entry.Any .loose s.world (s.holdings i + r) s'.world (s'.holdings i + r)
  others : ∀ j, j ≠ i → s'.updaterOf? j = s.updaterOf? j
  besides : s'.besides i = s.besides i
  alive : ∀ c, s'.world.alive c = s.world.alive c

namespace Within

theorem refl (i : UpdaterId) (s : Session) : Within i s s :=
  ⟨fun _ => .refl _ _ _ _, fun _ _ => rfl, rfl, fun _ => rfl⟩

/-- One after the other. -/
theorem trans (first : Within i s s') (second : Within i s' s'') : Within i s s'' where
  passes r := (first.passes r).trans (second.passes r)
  others j ne := (second.others j ne).trans (first.others j ne)
  besides := second.besides.trans first.besides
  alive c := (second.alive c).trans (first.alive c)

/-- All updaters stay, and so does all that is named. -/
theorem of_same (updaters : s'.updaters = s.updaters) (named : s'.named = s.named)
    (passes : ∀ r, Passes Entry.Any .loose s.world (s.holdings i + r) s'.world (s.holdings i + r))
    (alive : ∀ c, s'.world.alive c = s.world.alive c) : Within i s s' where
  passes r := by
    have same : s'.holdings i = s.holdings i := by
      unfold holdings updaterOf?
      rw [updaters]
    rw [same]
    exact passes r
  others j _ := by
    unfold updaterOf?
    rw [updaters]
  besides := by
    unfold Session.besides
    rw [updaters, named]
  alive := alive

/-- Nothing changes that a texture, an updater or a name of either could tell. -/
theorem of_world (updaters : s'.updaters = s.updaters) (named : s'.named = s.named)
    (world : s'.world = s.world) : Within i s s' :=
  of_same updaters named (fun _ => by rw [world]; exact .refl _ _ _ _) fun _ => by rw [world]

/-- Writing a remark stays within any updater, if nothing is redelivered by it. -/
theorem record (remark : e.isRemark) (plain : e.redelivered? = none) : Within i s (s.record e) :=
  of_same rfl rfl (fun _ => .remark e remark plain trivial) fun _ => rfl

theorem traces (traces : Traces) : Within i s { s with world.traces := traces } :=
  of_same rfl rfl (fun _ => .aside _ _ _) fun _ => rfl

/-- New settings of a backend touch no updater. -/
theorem adjustBackend (c : ContextId) (settings : List BackendSetting) :
    Within i s (s.onWorld (·.adjustBackend c settings)) :=
  of_same rfl rfl (fun _ => .single (.adjustBackend c settings))
    (Apart.adjustBackend (P := Entry.Any) c settings).alive

-- ==================================================== the updater itself

/-- What the updater does with what it holds. -/
theorem set_updater (entered : s.updaters.get? i = some h) {h' : Held Updater} {w : World}
    (passes : ∀ r, Passes Entry.Any .loose s.world (h.value.owners + r) w (h'.value.owners + r))
    (alive : ∀ c, w.alive c = s.world.alive c) :
    Within i s { s with world := w, updaters := s.updaters.set i h' } where
  passes r := by
    unfold holdings updaterOf?
    dsimp only
    rw [entered, Table.get?_set_self]
    exact passes r
  others j ne := by
    unfold updaterOf?
    rw [Table.get?_set_ne _ _ ne]
  besides := besides_set_self s i h' s.fresh w
  alive := alive

/-- A function on `i` stays within it if it passes textures on loosely, and loses no context. -/
theorem onUpdater {f : Updater → World → World × Updater}
    (passes : ∀ u r, s.updaterOf? i = some u →
      Passes Entry.Any .loose s.world (u.owners + r) (f u s.world).1 ((f u s.world).2.owners + r))
    (alive : ∀ u c, (f u s.world).1.alive c = s.world.alive c) :
    Within i s (s.onUpdater i f) := by
  cases entered : s.updaters.get? i with
  | none =>
    simp only [Session.onUpdater, entered]
    exact refl i s
  | some h =>
    rw [onUpdater_eq entered]
    exact set_updater entered (passes h.value · (updaterOf?_of_get? entered)) (alive h.value)

/-- A setter stays within its updater. -/
theorem setter {f : Updater → Updater} (setter : Updater.Setter f) :
    Within i s (s.onUpdater i fun u w => (w, f u)) :=
  onUpdater (fun u r _ => by rw [setter_owners setter]; exact .refl _ _ _ _) fun _ _ => rfl

/-- And so does a post. -/
theorem post : Within i s (s.onUpdater i fun u w => u.post w) :=
  onUpdater (fun u _ _ => u.post_passes fun _ _ => trivial) fun _ _ => rfl

theorem hold (i : UpdaterId) (s : Session) : Within i s (s.hold (.updater i)) := by
  cases entered : s.updaters.get? i with
  | none =>
    simp only [Session.hold, Table.modify, entered]
    exact refl i s
  | some h =>
    simp only [Session.hold, Table.modify, entered]
    exact set_updater entered (fun _ => .refl _ _ _ _) fun _ => rfl

/-- The updater goes away when its last holder lets go. -/
theorem letGo (i : UpdaterId) (s : Session) : Within i s (s.letGo (.updater i)) := by
  have alive := (letGo_history s (.updater i)).alive
  unfold Session.letGo at alive ⊢
  dsimp only at alive ⊢
  cases entered : s.updaters.get? i with
  | none => exact refl i s
  | some h =>
    rw [entered] at alive
    dsimp only at alive ⊢
    split
    · next last =>
      rw [if_pos last] at alive
      refine ⟨fun r => ?_, fun j ne => ?_, ?_, alive⟩
      · unfold holdings updaterOf?
        dsimp only
        rw [entered, Table.get?_erase_self]
        exact (h.value.discard_passes (fun _ _ _ => trivial) (fun _ _ => trivial) (by decide)
          (.inl rfl) fun _ _ _ => trivial).of_eq rfl (zero_add r)
      · unfold updaterOf?
        rw [Table.get?_erase_ne _ ne]
      · refine (besides_erase s i i s.world).trans ?_
        have rest := Table.owners_erase (f := fun h : Held Updater => h.value.owners)
          (s.updaters.erase i) i
        rw [Table.get?_erase_self] at rest
        exact congrArg (s.named + ·) ((zero_add _).symm.trans rest.symm)
    · exact set_updater entered (fun _ => .refl _ _ _ _) fun _ => rfl

end Within

-- ==================================================== the source is asked

/-- A context that was alive is lost. -/
def Loses (s s' : Session) : Prop := ∃ c, s.world.alive c ∧ ¬ s'.world.alive c

/-- What follows brings no context to life again. -/
theorem Loses.then (loses : Loses s s')
    (alive : ∀ c, s''.world.alive c → s'.world.alive c) : Loses s s'' := by
  obtain ⟨c, living, lost⟩ := loses
  exact ⟨c, living, fun again => lost (alive c again)⟩

/-- A context lost after something within `i`. -/
theorem Loses.after (loses : Loses s' s'') (within : Within i s s') : Loses s s'' := by
  obtain ⟨c, living, lost⟩ := loses
  exact ⟨c, by rwa [within.alive] at living, lost⟩

/-- A context that is destroyed was lost before, or it is lost now. -/
theorem destroyContext_loses (s : Session) (locked : Option UpdaterId) (c : ContextId) :
    (s.destroyContext locked c).1 = s ∨ Loses s (s.destroyContext locked c).1 := by
  unfold destroyContext
  by_cases alive : s.world.alive c
  · right
    obtain ⟨depth, size⟩ := exists_depth alive
    rw [size]
    refine ⟨c, alive, fun again => ?_⟩
    have told := (told_affairs (destroyWithin_affairs locked depth) alive).alive again
    rw [loses_alive] at told
    simp at told
  · exact .inl (congrArg Prod.fst (destroyWithin_lost alive _))

/-- Updater `i` is asked for by fences that were made with a slot of its cache. -/
def AsksFor (i : UpdaterId) (s : Session) (fences : DequeueFences) : Prop :=
  ∃ u, s.updaterOf? i = some u ∧ fences.previous = u.fences.previous

/-- A callback revives no context. -/
theorem callback_alive (s : Session) (state : Option ContextId) (fences : DequeueFences)
    (item : ScriptItem) (c : ContextId)
    (alive : (s.callback (some i) state fences item).session.world.alive c) :
    s.world.alive c :=
  have destroys (c : ContextId) (a : Session) :
      Affairs Entry.Unasked a (a.destroyContext (some i) c).1 := destroyWithin_affairs _ _ a c
  Affairs.alive (Doings.affairs (fun _ aside => aside.2)
    (callback_course (fun c _ => destroys c) s fences item)) alive

/-- A callback is the updater's business, or a context is lost in it. -/
theorem callback_within (asks : AsksFor i s fences) (state : Option ContextId)
    (item : ScriptItem) :
    let called := s.callback (some i) state fences item
    Within i s called.session ∧ AsksFor i called.session called.fences
      ∨ Loses s called.session := by
  obtain ⟨u, found, previous⟩ := asks
  cases item with
  | fence useSync =>
    refine .inl ⟨.of_same rfl rfl (fun r => ?_) ?_, u, found, previous⟩
    · obtain ⟨others, owners⟩ := previous_owners u
      have holdings : s.holdings i = fences.previous.elim 0 Slot.owners + others := by
        rw [previous, ← owners, Session.holdings, found]
        rfl
      rw [holdings, add_assoc]
      exact fences.createFence_passes (fun _ => trivial) useSync
    · exact (fences.createFence_writes s.world useSync).alive
  | wait fd =>
    exact .inl ⟨.of_same rfl rfl (fun r => fences.gate.wait_passes (fun _ => trivial) fd)
      (fences.gate.wait_writes s.world fd).alive, u, found, previous⟩
  | notify =>
    refine .inl ⟨.post, { u with mailbox := u.mailbox.raise }, ?_, previous⟩
    obtain ⟨h, entered, rfl⟩ := Option.map_eq_some_iff.1 found
    show (s.onUpdater i fun u w => u.post w).updaterOf? i = _
    rw [onUpdater_eq entered, updaterOf?, Table.get?_set_self]
    rfl
  | destroy =>
    cases state with
    | none => exact .inl ⟨.refl i s, u, found, previous⟩
    | some c =>
      rcases destroyContext_loses s (some i) c with same | loses
      · refine .inl ⟨?_, u, ?_, previous⟩
        · show Within i s ((s.destroyContext (some i) c).1.record _)
          rw [same]
          exact .record rfl rfl
        · show ((s.destroyContext (some i) c).1.record _).updaterOf? i = some u
          rw [same]
          exact found
      · exact .inr (loses.then fun _ alive => alive)
  | adjust settings => exact .inl ⟨.adjustBackend _ settings, u, found, previous⟩

/-- Nor does a script. -/
theorem runScript_alive (state : Option ContextId) (script : List ScriptItem) (s : Session)
    (fences : DequeueFences) (c : ContextId)
    (alive : (s.runScript (some i) state fences script).session.world.alive c) :
    s.world.alive c := by
  induction script generalizing s fences with
  | nil => exact alive
  | cons item items ih => exact callback_alive s state fences item c (ih _ _ alive)

/-- All callbacks of a script. -/
theorem runScript_within (asks : AsksFor i s fences) (state : Option ContextId)
    (script : List ScriptItem) :
    let ran := s.runScript (some i) state fences script
    Within i s ran.session ∨ Loses s ran.session := by
  induction script generalizing s fences with
  | nil => exact .inl (.refl i s)
  | cons item items ih =>
    rcases callback_within asks state item with ⟨first, asks⟩ | loses
    · exact (ih asks).imp first.trans fun loses => loses.after first
    · exact .inr (loses.then fun c => runScript_alive state items _ _ c)

/-- A dequeue stays within its updater, unless the script loses a context. -/
theorem dequeue_within (asks : AsksFor i s fences) (ref : SourceRef) :
    Within i s (s.dequeue i ref fences).session ∨ Loses s (s.dequeue i ref fences).session := by
  have begun : Within i s (s.record (.source ref .dequeueBegun)) := .record rfl rfl
  have asks : AsksFor i (s.record (.source ref .dequeueBegun)) fences := asks
  unfold dequeue
  dsimp only
  generalize s.record (.source ref .dequeueBegun) = a at begun asks
  cases a.sources.get? ref.id with
  | none => exact .inl begun
  | some source =>
    have taken : Within i a { a with sources := a.sources.set ref.id source.next.2 } :=
      .of_world rfl rfl rfl
    dsimp only
    split
    · have asks : AsksFor i { a with sources := a.sources.set ref.id source.next.2 } fences := asks
      rcases runScript_within asks source.context source.script with ran | loses
      · exact .inl (begun.trans (taken.trans (ran.trans (.record rfl rfl))))
      · exact .inr ((loses.after (begun.trans taken)).then fun _ alive => alive)
    · exact .inl (begun.trans taken)

-- ==================================================== applying

/-- A latch stays within its updater. -/
theorem latch_within (frame : Frame) (issued : Option FenceClass) :
    Within i s (s.onUpdater i fun u w => u.latch w frame issued) :=
  .onUpdater (fun u _ _ => u.latch_passes (fun _ _ => trivial) frame issued trivial
    fun _ _ _ _ => trivial) fun u => (u.latch_writes s.world frame issued).alive

/-- And so do both together, up to such a loss. -/
theorem latchFrame_within (asks : AsksFor i s fences) (ref : SourceRef) :
    Within i s (s.latchFrame i ref fences) ∨ Loses s (s.latchFrame i ref fences) := by
  unfold latchFrame
  dsimp only
  rcases dequeue_within asks ref with dequeued | loses
  · left
    split
    · exact dequeued.trans (latch_within _ _)
    · exact dequeued
  · right
    split
    · refine loses.then fun c => ?_
      rw [(latch_within _ _).alive]
      exact id
    · exact loses

/-- The start of an apply stays within its updater. -/
theorem beginApply_within :
    Within i s (s.onUpdater i fun u w => ((u.beginApply w).world, (u.beginApply w).object)) :=
  .onUpdater (fun u r _ => by
      rw [u.beginApply_owners]
      exact u.beginApply_passes fun _ _ _ => trivial)
    fun u => (u.beginApply_writes (P := Entry.Any) (fun _ => trivial) s.world).alive

/-- An apply stays within its updater, unless its script loses a context. -/
theorem apply_within (i : UpdaterId) (s : Session) :
    Within i s (s.apply i) ∨ Loses s (s.apply i) := by
  have done (a : Session) :
      Within i a ((a.onUpdater i fun u w => (w, u.commitTransform)).letGo (.updater i)) :=
    (Within.setter .commitTransform).trans (.letGo i _)
  unfold apply
  cases found : s.updaterOf? i with
  | none => exact .inl (.refl i s)
  | some u =>
    dsimp only
    split
    · exact .inl (.record rfl rfl)
    · have begun := (Within.hold i s).trans beginApply_within
      cases asked : (u.beginApply (s.hold (.updater i)).world).answer with
      | none => exact .inl (begun.trans (done _))
      | some ref =>
        have asks : AsksFor i ((s.hold (.updater i)).onUpdater i fun u w =>
            ((u.beginApply w).world, (u.beginApply w).object)) u.fences := by
          have there := (updaterOf?_hold s (.updater i) i).trans found
          obtain ⟨h, entered, rfl⟩ := Option.map_eq_some_iff.1 there
          refine ⟨(h.value.beginApply (s.hold (.updater i)).world).object, ?_, ?_⟩
          · rw [onUpdater_eq entered, updaterOf?, Table.get?_set_self]
            rfl
          · obtain ⟨attached, mailbox, object⟩ := beginApply_object h.value
              (s.hold (.updater i)).world
            rw [object]
            rfl
        rcases latchFrame_within asks ref with latched | loses
        · exact .inl (begun.trans (latched.trans (done _)))
        · refine .inr ((loses.after begun).then fun c => ?_)
          rw [(done _).alive]
          exact id

end Session

end LayerFeed
