/-
Where the textures of an updater live. Whatever stands in a slot of an updater was imported into
the updater's own context, through the pipeline of its configuration (`Updater.Homed`): a slot is
filled by nothing but a frame that the updater takes over, and neither context nor configuration
of an updater ever change.
-/
import LayerFeed.Proofs.Session.Applied
import LayerFeed.Proofs.Session.Notice
import LayerFeed.Proofs.WithheldBuffers

namespace LayerFeed

open Owners World

variable {i : UpdaterId} {t : TextureId} {u v : Updater} {w w' : World}

namespace Updater

/-- A setter leaves the context. -/
theorem setter_context {f : Updater → Updater} (setter : Setter f) (u : Updater) :
    (f u).context = u.context := by
  cases setter with
  | size width height =>
    unfold setSize
    dsimp only
    split <;> rfl
  | blend blend =>
    unfold setBlend
    dsimp only
    split <;> rfl
  | transform | paint | sink => rfl
  | commitTransform =>
    unfold commitTransform
    split <;> rfl

/-- The slots of an updater import through its pipeline, and what stands in them was imported
into its context. -/
structure Homed (u : Updater) (w : World) : Prop where
  lined : u.Lined u.config.pipeline
  homes : ∀ slot entry t, u.cache.get? slot = some entry → entry.texture = some t →
    ∃ x, w.texture? t = some x ∧ x.context = u.context ∧ x.pipeline = u.config.pipeline

/-- A home is kept where the textures stay. -/
theorem Homed.stays (homed : u.Homed w) (context : v.context = u.context)
    (config : v.config = u.config) (cache : v.cache = u.cache)
    (stays : ∀ t x, w.texture? t = some x → ∃ y, w'.texture? t = some y ∧ Stays x y) :
    v.Homed w' where
  lined := by
    rw [config]
    exact homed.lined.congr config cache
  homes slot entry t found texture := by
    rw [cache] at found
    obtain ⟨x, known, home, pipeline⟩ := homed.homes slot entry t found texture
    obtain ⟨y, known', same⟩ := stays t x known
    rw [context, config]
    exact ⟨y, known', same.context.trans home, same.pipeline.trans pipeline⟩

end Updater

namespace Session

variable {s s' : Session} {n : Nat} {x : World × Updater} {h : Held Updater}

/-- No deed takes an updater to another context, or configures it anew. -/
theorem Deed.home (deed : Deed s i u n x) : x.2.context = u.context ∧ x.2.config = u.config := by
  cases deed with
  | callback callback =>
    rw [callback.untouched]
    exact ⟨rfl, rfl⟩
  | setter f_setter proper =>
    exact ⟨Updater.setter_context f_setter u, Updater.setter_config f_setter u⟩
  | bind | answer => exact ⟨rfl, rfl⟩
  | idle | ask =>
    obtain ⟨attached, mailbox, same⟩ := beginApply_object u s.world
    dsimp only
    rw [same]
    exact ⟨rfl, rfl⟩
  | latch frame issued live answered =>
    unfold Updater.latch
    dsimp only
    split <;> exact ⟨rfl, rfl⟩
  | attach name =>
    obtain ⟨cache, -, same⟩ := u.attach_object s.world ⟨s.fresh, name, i⟩
    rw [same]
    exact ⟨rfl, rfl⟩
  | detach =>
    obtain ⟨cache, same⟩ := u.detach_object s.world
    rw [same]
    exact ⟨rfl, rfl⟩
  | teardown mode =>
    unfold Updater.teardown
    split <;> exact ⟨rfl, rfl⟩

/-- Every deed keeps its updater homed. -/
theorem Deed.homed (order : s.InOrder) (entered : s.updaters.get? i = some h)
    (deed : Deed s i h.value n x) (homed : h.value.Homed s.world) : x.2.Homed x.1 := by
  obtain ⟨context, config⟩ := deed.home
  have lined : x.2.Lined x.2.config.pipeline := by
    rw [config]
    exact deed.lined homed.lined
  have stays : ∀ t a, s.world.texture? t = some a → ∃ b, x.1.texture? t = some b ∧ Stays a b :=
    fun t a found => (deed.worldSteps order.sound order.sourced entered).stays order.sound.ledger
      found
  -- what was in a slot before is at home still
  have before : ∀ slot entry t, h.value.cache.get? slot = some entry → entry.texture = some t →
      ∃ b, x.1.texture? t = some b ∧ b.context = x.2.context
        ∧ b.pipeline = x.2.config.pipeline := by
    intro slot entry t found texture
    obtain ⟨a, known, home, pipeline⟩ := homed.homes slot entry t found texture
    obtain ⟨b, known', same⟩ := stays t a known
    rw [context, config]
    exact ⟨b, known', same.context.trans home, same.pipeline.trans pipeline⟩
  refine ⟨lined, fun slot entry t found texture => ?_⟩
  rcases deed.slots with ⟨cache, -⟩ | empty | detached | ⟨frame, latches⟩
  · rw [cache] at found
    exact before slot entry t found texture
  · rw [SlotCache.get?, empty] at found
    cases found
  · rw [detached] at found
    exact before slot entry t (Updater.detach_get? found texture).2 texture
  · obtain ⟨issued, rfl⟩ := latches.latched
    rw [(h.value.latch_slots s.world frame issued).2] at found
    rcases h.value.resolution_get? found texture with ⟨found, -⟩ | ⟨-, -, created⟩
    · exact before slot entry t found texture
    · obtain ⟨-, known⟩ := Slot.resolve_created created
      obtain ⟨k, known'⟩ := h.value.latch_spares s.world frame issued t _ known
      rw [context, config]
      exact ⟨_, known', rfl, homed.lined.cache.entry frame.slot⟩

/-- The textures of updater `i` are at home, if it is there. -/
def Homed (s : Session) (i : UpdaterId) : Prop := ∀ u, s.updaterOf? i = some u → u.Homed s.world

/-- A newborn updater is homed: it has no texture yet. -/
theorem Newborn.homed (newborn : s.Newborn i) : s.Homed i := by
  intro u there
  obtain ⟨c, config, sink, rfl⟩ := newborn.new u there
  refine ⟨⟨rfl, rfl, fun slot entry found => ?_⟩, fun slot entry t found => ?_⟩
  · cases found
  · cases found

/-- And stays so over a deal. -/
theorem Deal.homed (order : s.InOrder) (given : i < s.fresh) (deal : Deal i none s s')
    (homed : s.Homed i) : s'.Homed i := by
  intro v there'
  cases deal with
  | elsewhere elsewhere =>
    rw [elsewhere.same] at there'
    have owned := order.sound.owned
    rw [owners_eq_holdings s i, add_comm] at owned
    exact (homed v there').stays rfl rfl rfl fun t a known =>
      ((elsewhere.passes.frame _).transfer owned).1.stays order.sound.ledger known
  | opens b => exact (homed v there').stays rfl rfl rfl fun t a known => ⟨a, known, .refl a⟩
  | comes new => exact absurd new (Nat.ne_of_lt given)
  | goes entered world fresh besides gone =>
    rw [updaterOf?, gone] at there'
    cases there'
  | deed entered deed free world fresh besides there =>
    rw [there] at there'
    cases there'
    rw [world]
    exact deed.homed order entered (homed _ (updaterOf?_of_get? entered))

/-- Wherever moves lead to, the textures of an updater are at home. -/
theorem Occurs.homed (occurs : s.Occurs) (found : s.updaterOf? i = some u) : u.Homed s.world := by
  have given := given_of_found occurs.inOrder found
  obtain ⟨minimal, b, moves⟩ := occurs
  exact Moves.life (I := fun s => s.Homed i) (inOrder_new minimal) (born_new minimal)
    ((start_moves minimal b).trans moves) (Nat.zero_le i) given (fun _ => Newborn.homed)
    (fun _ _ order given deal => deal.homed order given) u found

end Session

end LayerFeed
