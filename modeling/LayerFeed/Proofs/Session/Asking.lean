/-
An apply in three parts: it begins (`begun`), the source is asked and answers, and the pending
transform is committed (`finish`). A source that has a frame, or always runs its script, is heard:
it runs the script before it answers, and then its frame is latched (`apply_heard`). Nothing comes
of asking another source (`apply_unheard`).

The updater stays locked until the answer is there, and is held up to the end (`begun_asked`).
-/
import LayerFeed.Proofs.Session.Applied
import LayerFeed.Proofs.Session.Notice
import LayerFeed.Proofs.Session.Routine

namespace LayerFeed

open World

/-- A source is heard if it has a frame or always runs its script. -/
def Source.isHeard (source : Source) : Bool := source.next.1.isSome || source.always

namespace Session

variable {s : Session} {i : UpdaterId} {u : Updater} {h : Held Updater} {ref : SourceRef}
  {source : Source}

/-- An apply under way whose source was just asked. The frames that are delivered or lost by this
are out of its queue. -/
def asking (s : Session) (i : UpdaterId) (u : Updater) (ref : SourceRef) (source : Source) :
    Session :=
  { s.begun i u with sources := s.sources.set ref.id source.next.2 }

/-- What comes of the script of a source that was asked. -/
def heard (s : Session) (i : UpdaterId) (u : Updater) (ref : SourceRef) (source : Source) :
    Called (List CallbackResult) :=
  (s.asking i u ref source).runScript (some i) source.context u.fences source.script

/-- A source was asked and has replied. -/
def replied (s : Session) (i : UpdaterId) (u : Updater) (ref : SourceRef) (source : Source) :
    Session :=
  (s.heard i u ref source).session.record
    (.source ref (.dequeued (s.heard i u ref source).answer))

/-- The end of an apply. -/
def finish (s : Session) (i : UpdaterId) : Session :=
  (s.onUpdater i fun u w => (w, u.commitTransform)).letGo (.updater i)

theorem onUpdater_sources (s : Session) (i : UpdaterId) (f : Updater → World → World × Updater) :
    (s.onUpdater i f).sources = s.sources := by
  unfold onUpdater
  cases s.updaters.get? i <;> rfl

/-- A dequeue by a source that is heard runs its script. -/
theorem dequeue_heard {id : UpdaterId} {fences : DequeueFences}
    (there : s.sources.get? ref.id = some source) (heard : source.isHeard) :
    let asked := { s.record (.source ref .dequeueBegun) with
      sources := s.sources.set ref.id source.next.2 }
    let ran := asked.runScript (some id) source.context fences source.script
    s.dequeue id ref fences
      = ⟨ran.session.record (.source ref (.dequeued ran.answer)), ran.fences, source.next.1⟩ := by
  have heard : (source.next.1.isSome || source.always) := heard
  unfold dequeue
  dsimp only
  rw [show (s.record _).sources = s.sources from rfl, there]
  dsimp only
  rw [if_pos heard]

section

variable (found : s.updaterOf? i = some u) (live : ¬ u.destroyed)

include found live

/-- An apply of an updater without a post asks nobody. -/
theorem apply_unasked (idle : (u.beginApply s.world).answer = none) :
    s.apply i = (s.begun i u).finish i := by
  unfold apply begun
  rw [found]
  dsimp only
  rw [if_neg live, show (s.hold (.updater i)).world = s.world from rfl, idle]
  rfl

variable (asks : (u.beginApply s.world).answer = some ref)

include asks

/-- An apply that asks a source ends as soon as the answer is there and the frame latched. -/
theorem apply_latches : ∃ taken : Session, taken.record (.source ref .dequeueBegun) = s.begun i u
    ∧ taken.sources = s.sources ∧ s.apply i = (taken.latchFrame i ref u.fences).finish i := by
  refine ⟨(s.hold (.updater i)).onUpdater i fun u w =>
    ((u.beginApply w).world, (u.beginApply w).object), ?_, onUpdater_sources _ _ _, ?_⟩
  · unfold begun
    rw [asks]
    rfl
  · unfold apply
    rw [found]
    dsimp only
    rw [if_neg live, show (s.hold (.updater i)).world = s.world from rfl, asks]
    rfl

/-- An apply whose source is not heard delivers nothing. -/
theorem apply_unheard
    (unheard : ∀ source, s.sources.get? ref.id = some source → ¬ source.isHeard) :
    ∃ sources, s.apply i = { s.begun i u with sources }.finish i := by
  obtain ⟨taken, begun, sources, same⟩ := apply_latches found live asks
  rw [same, ← begun]
  unfold latchFrame dequeue
  dsimp only
  rw [show (taken.record _).sources = _ from sources]
  cases there : s.sources.get? ref.id with
  | none => exact ⟨_, rfl⟩
  | some source =>
    dsimp only
    have silent : ¬ (source.next.1.isSome || source.always) := unheard source there
    rw [if_neg silent]
    exact ⟨_, rfl⟩

/-- An apply whose source is heard latches what it delivers. -/
theorem apply_heard (there : s.sources.get? ref.id = some source) (heard : source.isHeard) :
    s.apply i = (source.next.1.elim (s.replied i u ref source) fun frame =>
      (s.replied i u ref source).onUpdater i fun v w =>
        v.latch w frame (s.heard i u ref source).fences.issued).finish i := by
  obtain ⟨taken, begun, sources, same⟩ := apply_latches found live asks
  have asked : { taken.record (.source ref .dequeueBegun) with
      sources := taken.sources.set ref.id source.next.2 } = s.asking i u ref source := by
    unfold asking
    rw [begun, sources]
  rw [← sources] at there
  rw [same, latchFrame, dequeue_heard there heard, asked]
  dsimp only
  cases source.next.1 <;> rfl

end

/-- A source that was heard has replied, whatever follows in the apply. -/
theorem apply_heard_history (found : s.updaterOf? i = some u) (live : ¬ u.destroyed)
    (asks : (u.beginApply s.world).answer = some ref)
    (there : s.sources.get? ref.id = some source) (heard : source.isHeard) :
    ∃ es, (s.apply i).world.history = (s.replied i u ref source).world.history ++ es := by
  have finished : ∀ a : Session, Course Upheaval a (a.finish i) := fun a =>
    (Course.onUpdater fun _ w => .refl w).trans (.affair (.letGo _))
  have course : Course Upheaval (s.replied i u ref source) (s.apply i) := by
    rw [apply_heard found live asks there heard]
    cases source.next.1 with
    | none => exact finished _
    | some frame =>
      exact (Course.onUpdater fun v w => v.latch_writes w frame _).trans (finished _)
  obtain ⟨es, grown, -⟩ := course.history
  exact ⟨es, grown⟩

/-- While its source is asked an updater is locked, and the apply holds it. -/
theorem begun_asked (kept : s.Kept) (entered : s.updaters.get? i = some h)
    (live : ¬ h.value.destroyed) (asks : (h.value.beginApply s.world).answer = some ref) :
    Moves none s (s.begun i h.value)
      ∧ (s.begun i h.value).Asked i
        { value := (h.value.beginApply s.world).object, holds := h.holds + 1 } h.value.fences := by
  have here : s.isLive (.updater i) := by
    show (s.updaters.get? i).isSome
    rw [entered]
    rfl
  have holding : Moves none s (s.hold (.updater i)) := hold_moves s (.updater i)
  have owed := (kept.backed i).hold here
  rw [count_updater, if_pos rfl] at owed
  have held : (s.hold (.updater i)).updaters.get? i = some { h with holds := h.holds + 1 } := by
    rw [hold_get?, if_pos rfl, entered, Option.map_some]
  obtain ⟨goes, asked⟩ := ask_goes (kept.order.steps holding.steps) held live asks owed
  have begun : s.begun i h.value = ((s.hold (.updater i)).onUpdater i fun u w =>
      ((u.beginApply w).world, (u.beginApply w).object)).record (.source ref .dequeueBegun) := by
    unfold Session.begun
    rw [asks]
    rfl
  rw [begun]
  exact ⟨holding.trans goes.moves, asked⟩

/-- So it is as its script begins. -/
theorem asking_asked (kept : s.Kept) (entered : s.updaters.get? i = some h)
    (live : ¬ h.value.destroyed) (asks : (h.value.beginApply s.world).answer = some ref)
    (source : Source) :
    Moves none s (s.asking i h.value ref source) ∧ ∃ h',
      (s.asking i h.value ref source).Asked i h' h.value.fences
        ∧ Untouched { value := (h.value.beginApply s.world).object, holds := h.holds + 1 } h' := by
  obtain ⟨moves, asked⟩ := begun_asked kept entered live asks
  have taken : Goes (some i) (s.begun i h.value) (s.asking i h.value ref source) :=
    .beside ⟨rfl, Nat.le_refl _⟩ rfl
  exact ⟨moves.trans taken.moves.unlock, asked.goes taken rfl rfl⟩

end Session

end LayerFeed
