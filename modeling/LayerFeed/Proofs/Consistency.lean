/-
What the fields of one updater say of each other, wherever a run leads to.

They change apart. A source comes with an attach and goes with a detach, its ownership is taken by
an apply and ends with the source or with a teardown, a slot becomes current by a frame and is
severed by either, and the cache is emptied under all of them. That they agree at every moment
(`run_consistent`) has four reasons, each with an induction of its own: the calls that the
source saw say how far it is taken (`Updater.Stands`), whatever takes off the source takes off the
current slot (`Updater.Seated`), an updater that is torn down takes over no frame
(`Updater.Bare`), and slots are only filled through the pipeline they were made for
(`Updater.Lined`, `Lineage`).
-/
import LayerFeed.Proofs.Detachment
import LayerFeed.Proofs.Session.Homed

namespace LayerFeed

variable {i : UpdaterId} {u : Updater}

/-- Consumer ownership is taken only of a source that is installed, and by an updater that is not
destroyed. -/
theorem Updater.Stands.attached {k : Option (SourceRef × Phase)} (stands : u.Stands k)
    (attached : u.consumerAttached) : u.source.isSome ∧ ¬ u.destroyed := by
  match k, stands with
  | none, ⟨_, free⟩ | some (_, .idle), ⟨_, free⟩ | some (_, .parted), ⟨_, free, _⟩ =>
    rw [free] at attached
    cases attached
  | some (ref, .asked), ⟨source, _, live⟩ =>
    rw [source, live]
    exact ⟨rfl, Bool.false_ne_true⟩

namespace Session

variable {s : Session}

/-- The fields of updater `i`, which is `u`, agree with each other, and with the textures that it
imported. -/
structure Consistent (s : Session) (i : UpdaterId) (u : Updater) : Prop where
  /-- Ownership is of a source, and of no destroyed updater. -/
  owned : u.consumerAttached → u.source.isSome ∧ ¬ u.destroyed
  /-- The current slot has an entry, which may be empty, and belongs to a source. -/
  current : ∀ slot, u.currentSlot = some slot →
    u.source.isSome ∧ ¬ u.destroyed ∧ (u.cache.get? slot).isSome
  gone : u.destroyed → u.cache.slots = ∅ ∧ u.currentSlot = none ∧ ¬ u.consumerAttached
  cache : u.cache.pipeline = u.config.pipeline
  entries : ∀ slot entry, u.cache.get? slot = some entry → entry.pipeline = u.config.pipeline
  /-- A texture has the pipeline wherever it is, also when its slot let it go. -/
  imported : ∀ t, CreatedBy i t s.world.history →
    ∃ x, s.world.texture? t = some x ∧ x.pipeline = u.config.pipeline
  contents : ∀ slot entry t, u.cache.get? slot = some entry → entry.texture = some t →
    ∃ x, s.world.texture? t = some x ∧ x.pipeline = u.config.pipeline

/-- Ownership is taken as custody says, wherever moves lead to. -/
theorem Occurs.attached (occurs : s.Occurs) (found : s.updaterOf? i = some u)
    (attached : u.consumerAttached) : u.source.isSome ∧ ¬ u.destroyed := by
  obtain ⟨h, entered, rfl⟩ := Option.map_eq_some_iff.1 found
  obtain ⟨k, -, stands⟩ := occurs.inOrder.sourced.custody i
  rw [entered] at stands
  exact Updater.Stands.attached stands attached

/-- In every run the fields of every updater agree. -/
theorem run_consistent (minimal : Bool) (b : Backend) (commands : List Command)
    (found : ((start minimal b).run commands).updaterOf? i = some u) :
    ((start minimal b).run commands).Consistent i u := by
  have occurs := occurs_run minimal b commands
  have bare := occurs.bare found
  have homed := occurs.homed found
  have line := run_lineage minimal b commands [] found
  refine ⟨occurs.attached found, fun slot current => ?_, fun gone => ?_, homed.lined.cache.own,
    homed.lined.cache.slots, line.known, fun slot entry t there texture => ?_⟩
  · obtain ⟨source, entered⟩ := occurs.seated found slot current
    refine ⟨source, fun gone => ?_, entered⟩
    obtain ⟨-, none⟩ := bare gone
    rw [none] at current
    cases current
  · obtain ⟨empty, none⟩ := bare gone
    exact ⟨empty, none, fun attached => (occurs.attached found attached).2 gone⟩
  · obtain ⟨x, known, -, pipeline⟩ := homed.homes slot entry t there texture
    exact ⟨x, known, pipeline⟩

/-- After two frames the source is taken, the second slot is current, and both textures are on
Vulkan; after a teardown the source is still installed, and not taken. -/
theorem twoSlots_consistent :
    let s := (start false {}).run twoSlots
    let s' := (start false {}).run (twoSlots ++ [.teardown "u" .normal])
    (∃ u, s.updaterOf? 1 = some u ∧ u.consumerAttached ∧ u.currentSlot = some ⟨1⟩
        ∧ CreatedBy 1 2 s.world.history ∧ s.Consistent 1 u)
      ∧ ∃ u, s'.updaterOf? 1 = some u ∧ u.source.isSome ∧ u.destroyed ∧ s'.Consistent 1 u := by
  intro s s'
  obtain ⟨u, found⟩ := Option.isSome_iff_exists.1 (show (s.updaterOf? 1).isSome by decide)
  obtain ⟨v, found'⟩ := Option.isSome_iff_exists.1 (show (s'.updaterOf? 1).isSome by decide)
  have live : (s.updaterOf? 1).map (fun u => (u.consumerAttached, u.currentSlot))
      = some (true, some ⟨1⟩) := by decide
  have torn : (s'.updaterOf? 1).map (fun u => (u.source.isSome, u.destroyed))
      = some (true, true) := by decide
  rw [found, Option.map_some, Option.some_inj, Prod.mk.injEq] at live
  rw [found', Option.map_some, Option.some_inj, Prod.mk.injEq] at torn
  have created : CreatedBy 1 2 s.world.history :=
    ⟨.ofBuffer ⟨1⟩ ⟨⟨2⟩, ⟨64, 32, 1⟩, none⟩ .srgb, by decide⟩
  exact ⟨⟨u, found, live.1, live.2, created, run_consistent false {} twoSlots found⟩,
    v, found', torn.1, torn.2, run_consistent false {} _ found'⟩

end Session

end LayerFeed
