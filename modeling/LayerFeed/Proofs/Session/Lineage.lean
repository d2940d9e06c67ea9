/-
The textures that one updater imports for the frames that it takes over. While the updater
is there its cache is the only place for their handles, and when it goes it gives them up;
so nobody else ever has the handle of such a texture, and it is dealt with in turn
(`run_lineage`), whatever callers do with handles, slots and caches of their own.
-/
import LayerFeed.Proofs.Object.Resolution
import LayerFeed.Proofs.Session.Course

namespace LayerFeed

open Owners World

variable {w : World} {c : ContextId} {t : TextureId} {p : Pipeline}

-- ==================================================== slots of a cache

namespace SlotCache

/-- All slots of a cache, those to come as well, import through one pipeline. -/
structure Lined (p : Pipeline) (cache : SlotCache) : Prop where
  own : cache.pipeline = p
  slots : ∀ slot entry, cache.get? slot = some entry → entry.pipeline = p

variable {cache : SlotCache}

/-- The slot that a number opens is of the cache's pipeline, whether it was there or not. -/
theorem Lined.entry (lined : cache.Lined p) (slot : SlotId) :
    (cache.entry slot).pipeline = p := by
  unfold SlotCache.entry
  cases found : cache.get? slot with
  | none => exact lined.own
  | some entry => exact lined.slots slot entry found

/-- A slot of the same pipeline may be stored. -/
theorem Lined.set (lined : cache.Lined p) (slot : SlotId) {entry : Slot}
    (same : entry.pipeline = p) :
    ({ cache with slots := cache.slots.set slot entry } : SlotCache).Lined p where
  own := lined.own
  slots slot' entry' found := by
    rw [get?, Table.get?_set] at found
    split at found
    · cases found
      exact same
    · exact lined.slots slot' entry' found

/-- A resolution keeps every slot on the pipeline. -/
theorem Lined.resolve (lined : cache.Lined p) (slot : SlotId) (b : HardwareBuffer)
    (d : Dataspace) (force : Bool) : (cache.resolve w c slot b d force).object.Lined p :=
  lined.set slot ((Slot.resolve_pipeline _ _ _ _ _ _).trans (lined.entry slot))

/-- Clearing one slot keeps the rest on the pipeline. -/
theorem Lined.clear (lined : cache.Lined p) (slot : SlotId) (mode : TeardownMode) :
    (cache.clear w slot mode).object.Lined p := by
  unfold SlotCache.clear
  cases found : cache.get? slot with
  | none => exact lined
  | some entry =>
    refine lined.set slot (Eq.trans ?_ (lined.slots slot entry found))
    rw [Slot.clear_object]

/-- A cache without slots is of its pipeline. -/
theorem Lined.emptied (lined : cache.Lined p) : ({ cache with slots := ∅ } : SlotCache).Lined p :=
  ⟨lined.own, fun slot entry found => by cases found⟩

end SlotCache

-- ==================================================== updaters

namespace Updater

variable {u : Updater}

/-- All slots of an updater import through the pipeline of its configuration. -/
structure Lined (p : Pipeline) (u : Updater) : Prop where
  config : u.config.pipeline = p
  cache : u.cache.Lined p

/-- The line is read off the configuration, the cache and the current slot. -/
theorem Lined.congr {v : Updater} (lined : u.Lined p) (config : v.config = u.config)
    (cache : v.cache = u.cache) : v.Lined p :=
  ⟨by rw [config]; exact lined.config, by rw [cache]; exact lined.cache⟩

theorem Lined.releaseSource (lined : u.Lined p) (w : World) :
    (u.releaseSource w).object.Lined p := by
  unfold Updater.releaseSource
  split
  · exact lined
  · exact lined.congr rfl rfl

/-- Severing the active slot keeps the line. -/
theorem Lined.severActiveSlot (lined : u.Lined p) (w : World) :
    (u.severActiveSlot w).object.Lined p := by
  unfold Updater.severActiveSlot
  split
  · exact lined
  · exact ⟨lined.config, lined.cache.clear _ _⟩

/-- So does a detach. -/
theorem Lined.detach (lined : u.Lined p) (w : World) : (u.detach w).2.Lined p := by
  have severed := (lined.releaseSource w).severActiveSlot (u.releaseSource w).world
  rwa [Updater.detach_eq]

/-- So does attaching a source. -/
theorem Lined.attach (lined : u.Lined p) (w : World) (ref : SourceRef) :
    (u.attach w ref).2.Lined p := by
  have severed := (lined.releaseSource w).severActiveSlot (u.releaseSource w).world
  exact ⟨severed.config, severed.cache.emptied⟩

/-- A latch takes its slot from the cache, and keeps the line. -/
theorem Lined.latch (lined : u.Lined p) (w : World) (frame : Frame)
    (issued : Option FenceClass) : (u.latch w frame issued).2.Lined p := by
  have resolved : ({ u with cache := (u.resolution w frame).object } : Updater).Lined p :=
    ⟨lined.config, lined.cache.resolve _ _ _ _⟩
  unfold Updater.latch
  dsimp only
  split <;> exact resolved.congr rfl rfl

/-- A teardown leaves no slot, or leaves all as it was. -/
theorem Lined.teardown (lined : u.Lined p) (w : World) (mode : TeardownMode) :
    (u.teardown w mode).2.Lined p := by
  unfold Updater.teardown
  split
  · exact lined
  · exact ⟨lined.config, lined.cache.emptied⟩

/-- The start of an apply changes no slot. -/
theorem beginApply_slots (u : Updater) (w : World) :
    (u.beginApply w).object.config = u.config ∧ (u.beginApply w).object.cache = u.cache
      ∧ (u.beginApply w).object.currentSlot = u.currentSlot := by
  unfold beginApply takeOwnership
  dsimp only
  split
  · exact ⟨rfl, rfl, rfl⟩
  · split <;> exact ⟨rfl, rfl, rfl⟩

/-- The texture that a latched frame created is new, and on the updater's pipeline. -/
theorem latch_created (lined : u.Lined p) {frame : Frame}
    (created : (u.resolution w frame).answer = .created t) (issued : Option FenceClass) :
    t = w.imported + 1
      ∧ ∃ a, (u.latch w frame issued).1.texture? t = some a ∧ a.pipeline = p := by
  obtain ⟨new, found⟩ := Slot.resolve_created created
  obtain ⟨n, found'⟩ := u.latch_spares w frame issued t _ found
  exact ⟨new, _, found', lined.cache.entry frame.slot⟩

end Updater

-- ==================================================== a session

/-- Updater `i` imported a texture for a frame that it took over. -/
def CreatedBy (i : UpdaterId) (t : TextureId) (h : List Entry) : Prop :=
  ∃ frame, .latched i frame (.created t) ∈ h

namespace Session

variable {s s' : Session} {i : UpdaterId} {u : Updater} {n : Nat} {x : World × Updater}
  {h : Held Updater} {m : Manner}

/-- Every deed keeps the line of its updater. -/
theorem Deed.lined (deed : Deed s i u n x) (lined : u.Lined p) : x.2.Lined p := by
  cases deed with
  | callback callback =>
    rw [callback.untouched]
    exact lined.congr rfl rfl
  | setter f_setter proper =>
    exact lined.congr (Updater.setter_config f_setter u) (Updater.setter_slots f_setter u).1
  | bind => exact lined.congr rfl rfl
  | answer => exact lined
  | idle | ask =>
    exact lined.congr (u.beginApply_slots s.world).1 (u.beginApply_slots s.world).2.1
  | latch frame issued live answered => exact lined.latch s.world frame issued
  | attach name => exact lined.attach s.world _
  | detach => exact lined.detach s.world
  | teardown mode => exact lined.teardown s.world mode

/-- A texture that a deed creates is new. -/
theorem Deed.created (sound : s.Sound) (sourced : s.Sourced)
    (entered : s.updaters.get? i = some h) (deed : Deed s i h.value n x)
    (created : CreatedBy i t x.1.history) :
    CreatedBy i t s.world.history
      ∨ ∃ frame, Latches s.world h.value x frame
        ∧ (h.value.resolution s.world frame).answer = .created t := by
  obtain ⟨frame, mem⟩ := created
  obtain ⟨es, grown, tells⟩ := deed.history sound sourced entered
  rw [grown] at mem
  rcases List.mem_append.1 mem with mem | mem
  · exact .inl ⟨frame, mem⟩
  · obtain ⟨latches, answer⟩ := (tells _ mem rfl).taken frame (.created t) rfl
    exact .inr ⟨frame, latches, answer.symm⟩

/-- What is known of the textures that updater `i` imports through pipeline `p`. -/
structure Lineage (i : UpdaterId) (p : Pipeline) (s : Session) : Prop where
  given : i < s.fresh
  lined : ∀ u, s.updaterOf? i = some u → u.Lined p
  known : ∀ t, CreatedBy i t s.world.history → ∃ a, s.world.texture? t = some a ∧ a.pipeline = p
  /-- Nobody else has the handle. -/
  handle : ∀ t, CreatedBy i t s.world.history → s.besides i .handle t = 0
  guarded : ∀ t, CreatedBy i t s.world.history → Guarded s.world t s.owners

-- ==================================================== what moves keep

/-- A deed steps from the world of its session. -/
theorem Deed.worldSteps (sound : s.Sound) (sourced : s.Sourced)
    (entered : s.updaters.get? i = some h) (deed : Deed s i h.value n x) :
    World.Steps Entry.Any s.world x.1 := by
  have passes := (deed.passes sound sourced entered (m := .loose) (.inl (by decide))
    (s.besides i)).mono (Q := Entry.Any) fun _ _ => trivial
  have owned := sound.owned
  rw [owners_eq_besides entered] at owned
  exact (passes.transfer owned).1

/-- The deeds of updaters keep every texture guarded. -/
theorem Deed.guarded (order : s.InOrder) (entered : s.updaters.get? i = some h)
    (deed : Deed s i h.value n x) (guard : Guarded s.world t s.owners) :
    Guarded x.1 t (x.2.owners + s.besides i) := by
  have owned := order.sound.owned
  rw [owners_eq_besides entered] at owned guard
  have passes := deed.passes order.sound order.sourced entered (m := .harsh) (.inl (by decide)) 0
  rw [add_zero, add_zero] at passes
  exact passes.guarded owned order.sound.ledger order.handBacks
    (fun loose => absurd loose (by decide)) guard

/-- A texture that is nobody else's keeps its guard while something happens elsewhere. -/
theorem Elsewhere.guarded (elsewhere : Elsewhere i s s') (order : s.InOrder)
    (known : (s.world.texture? t).isSome) (none : s.besides i .handle t = 0)
    (guard : Guarded s.world t s.owners) : Guarded s'.world t s'.owners := by
  have owned := order.sound.owned
  have same : s'.holdings i = s.holdings i := by
    unfold holdings
    rw [elsewhere.same]
  rw [owners_eq_holdings s i, add_comm] at owned guard
  rw [owners_eq_holdings s' i, same, add_comm]
  exact elsewhere.passes.guarded owned order.sound.ledger order.handBacks
    (fun _ => ⟨known, none⟩) guard

/-- A context that is opened has none of the textures that there are. -/
theorem guarded_openContext (sound : s.Sound) (b : Backend)
    (guard : Guarded s.world t s.owners) :
    Guarded (s.makeContext b).1.world t (s.makeContext b).1.owners := by
  intro a found vulkan
  have upkeep := guard a found vulkan
  refine ⟨upkeep.turns, upkeep.withheld, fun back alive => upkeep.back back ?_⟩
  have home := sound.ledger.home t a found
  have other : a.context ≠ s.fresh := by
    intro same
    rw [same, sound.numbered.unused] at home
    cases home
  unfold World.alive at alive ⊢
  rwa [show (s.makeContext b).1.world.contexts.get? a.context = s.world.contexts.get? a.context
    from Table.get?_set_ne _ _ other] at alive

/-- Of a texture that is not there nobody has the handle. -/
theorem Sound.besides_of_none (sound : s.Sound) (unknown : s.world.texture? t = none)
    (i : UpdaterId) : s.besides i .handle t = 0 := by
  have held := sound.owned.held t
  have none : s.world.holders t = 0 := by
    unfold World.holders
    rw [unknown]
    rfl
  rw [none, owners_eq_holdings s i, count_add] at held
  unfold Owners.count at held
  omega

/-- What happens elsewhere imports nothing for an updater. -/
theorem Elsewhere.created (elsewhere : Elsewhere i s s') (sound : s.Sound)
    (created : CreatedBy i t s'.world.history) : CreatedBy i t s.world.history := by
  obtain ⟨es, grown, others⟩ := elsewhere.history sound
  obtain ⟨frame, mem⟩ := created
  rw [grown] at mem
  rcases List.mem_append.1 mem with mem | mem
  · exact ⟨frame, mem⟩
  · exact absurd rfl (others _ mem)

/-- What happens elsewhere keeps the lineage of `i`. -/
theorem Elsewhere.lineage (elsewhere : Elsewhere i s s') (order : s.InOrder)
    (line : s.Lineage i p) : s'.Lineage i p := by
  have sound := order.sound
  have spares : ∀ t, CreatedBy i t s.world.history →
      (s.world.texture? t).isSome ∧ Spares t s.world s'.world ∧ s'.besides i .handle t = 0 := by
    intro t created
    obtain ⟨a, found, -⟩ := line.known t created
    have known : (s.world.texture? t).isSome := by rw [found]; rfl
    exact ⟨known, elsewhere.spares sound known (line.handle t created)⟩
  refine ⟨Nat.lt_of_lt_of_le line.given elsewhere.fresh, ?_, ?_, ?_, ?_⟩
  · rw [elsewhere.same]
    exact line.lined
  · intro t created
    have created := elsewhere.created sound created
    obtain ⟨a, found, pipeline⟩ := line.known t created
    obtain ⟨k, found'⟩ := (spares t created).2.1 a found
    exact ⟨_, found', pipeline⟩
  · exact fun t created => (spares t (elsewhere.created sound created)).2.2
  · intro t created
    have created := elsewhere.created sound created
    exact elsewhere.guarded order (spares t created).1 (line.handle t created)
      (line.guarded t created)

/-- What an updater imported is known and guarded when it is gone. -/
theorem Lineage.gone (line : s.Lineage i p) (order : s.InOrder)
    (entered : s.updaters.get? i = some h) (bare : h.value.Bare)
    (world : s'.world = h.value.discard s.world) (fresh : s'.fresh = s.fresh)
    (besides : s'.besides i = s.besides i) (gone : s'.updaters.get? i = none) :
    s'.Lineage i p := by
  have sound := order.sound
  have owned := sound.owned
  rw [owners_eq_besides entered] at owned
  have passes := discard_passes_of_sound sound order.sourced entered (m := .harsh) (by decide)
    (.inr fun torn => (bare torn).1) 0
  rw [add_zero] at passes
  obtain ⟨es, grown, told⟩ := passes.history owned
  have steps := ((passes.frame _).transfer owned).1
  have before : ∀ t, CreatedBy i t s'.world.history → CreatedBy i t s.world.history := by
    rintro t ⟨frame, mem⟩
    rw [world, grown] at mem
    rcases List.mem_append.1 mem with mem | mem
    · exact ⟨frame, mem⟩
    · cases (told _ mem rfl).2
  refine ⟨by rw [fresh]; exact line.given, ?_, ?_, ?_, ?_⟩
  · intro u there
    rw [updaterOf?, gone] at there
    cases there
  · intro t created
    obtain ⟨a, found, pipeline⟩ := line.known t (before t created)
    obtain ⟨a', found', stays⟩ := World.Steps.stays steps sound.ledger found
    rw [world]
    exact ⟨a', found', stays.pipeline.trans pipeline⟩
  · intro t created
    rw [besides]
    exact line.handle t (before t created)
  · intro t created
    have guard := line.guarded t (before t created)
    rw [owners_eq_besides entered] at guard
    rw [world, owners_eq_besides_of_none gone, besides, ← zero_add (s.besides i)]
    exact passes.guarded owned sound.ledger order.handBacks
      (fun loose => absurd loose (by decide)) guard

/-- What a deed leaves created was created before, or is a new texture of the pipeline. -/
theorem Deed.created_cases (order : s.InOrder) (entered : s.updaters.get? i = some h)
    (deed : Deed s i h.value n x) (lined : h.value.Lined p)
    (created : CreatedBy i t x.1.history) :
    CreatedBy i t s.world.history
      ∨ s.world.texture? t = none ∧ ∃ a, x.1.texture? t = some a ∧ a.pipeline = p := by
  rcases deed.created order.sound order.sourced entered created with old | ⟨frame, latches, answer⟩
  · exact .inl old
  · right
    obtain ⟨issued, latched⟩ := latches.latched
    obtain ⟨new, found⟩ := Updater.latch_created lined answer issued
    rw [latched]
    refine ⟨?_, found⟩
    cases unknown : s.world.texture? t with
    | none => rfl
    | some a =>
      have counted := (order.sound.owned.numbered t).1 (by rw [unknown]; rfl)
      rw [new] at counted
      exact absurd counted.2 (Nat.not_succ_le_self _)

/-- A deed of `i` keeps its lineage. -/
theorem Deed.lineage (order : s.InOrder) (entered : s.updaters.get? i = some h)
    (deed : Deed s i h.value n x) (world : s'.world = x.1) (fresh : s'.fresh = n)
    (besides : s'.besides i = s.besides i) (there : s'.updaterOf? i = some x.2)
    (line : s.Lineage i p) : s'.Lineage i p := by
  have sound := order.sound
  have lined := line.lined h.value (updaterOf?_of_get? entered)
  have before : ∀ t, CreatedBy i t s'.world.history → CreatedBy i t s.world.history
      ∨ s.world.texture? t = none ∧ ∃ a, s'.world.texture? t = some a ∧ a.pipeline = p := by
    rw [world]
    exact fun t created => deed.created_cases order entered lined created
  refine ⟨by rw [fresh]; exact Nat.lt_of_lt_of_le line.given deed.fresh, ?_, ?_, ?_, ?_⟩
  · intro u there'
    rw [there] at there'
    cases there'
    exact deed.lined lined
  · intro t created
    rcases before t created with old | ⟨-, new⟩
    · obtain ⟨a, found, pipeline⟩ := line.known t old
      obtain ⟨a', found', stays⟩ :=
        (deed.worldSteps sound order.sourced entered).stays sound.ledger found
      rw [world]
      exact ⟨a', found', stays.pipeline.trans pipeline⟩
    · exact new
  · intro t created
    rw [besides]
    rcases before t created with old | ⟨unknown, -⟩
    · exact line.handle t old
    · exact sound.besides_of_none unknown i
  · intro t created
    have guard : Guarded s.world t s.owners := by
      rcases before t created with old | ⟨unknown, -⟩
      · exact line.guarded t old
      · intro a found
        rw [unknown] at found
        cases found
    have holdings : s'.holdings i = x.2.owners := by
      unfold Session.holdings
      rw [there]
      rfl
    rw [owners_eq_holdings s' i, holdings, besides, world]
    exact deed.guarded order entered guard

/-- A deal between `i` and the rest keeps it. -/
theorem Deal.lineage (order : s.InOrder) (bare : s.Bare i) (deal : Deal i none s s')
    (line : s.Lineage i p) : s'.Lineage i p := by
  cases deal with
  | elsewhere elsewhere => exact elsewhere.lineage order line
  | opens b =>
    exact ⟨Nat.lt_succ_of_lt line.given, line.lined, line.known, line.handle,
      fun t created => guarded_openContext order.sound b (line.guarded t created)⟩
  | comes new => exact absurd new (Nat.ne_of_lt line.given)
  | goes entered world fresh besides gone =>
    exact line.gone order entered (bare _ (updaterOf?_of_get? entered)) world fresh besides gone
  | deed entered deed free world fresh besides there =>
    exact deed.lineage order entered world fresh besides there line

-- ==================================================== runs

/-- A newborn updater has imported nothing. -/
theorem Newborn.not_created (newborn : s.Newborn i) (t : TextureId) :
    ¬ CreatedBy i t s.world.history :=
  fun ⟨_, mem⟩ => newborn.silent _ mem rfl

/-- A newborn updater starts its lineage on the pipeline that it is given. -/
theorem Newborn.lineage (newborn : s.Newborn i) : ∃ p, s.Lineage i p := by
  have none := newborn.not_created
  have lineage : ∀ p, (∀ u, s.updaterOf? i = some u → u.Lined p) → s.Lineage i p := fun p lined =>
    ⟨newborn.given, lined, fun t created => absurd created (none t),
      fun t created => absurd created (none t), fun t created => absurd created (none t)⟩
  cases there : s.updaterOf? i with
  | none => exact ⟨.gl, lineage .gl fun u there' => by rw [there] at there'; cases there'⟩
  | some v =>
    obtain ⟨c, config, sink, rfl⟩ := newborn.new v there
    refine ⟨config.pipeline, lineage config.pipeline fun u there' => ?_⟩
    rw [there] at there'
    cases there'
    exact ⟨rfl, rfl, fun slot entry found => by cases found⟩

/-- The textures that an updater imports, in all that follows after it is there. -/
theorem run_lineage (minimal : Bool) (b : Backend) (before after : List Command)
    (found : ((start minimal b).run before).updaterOf? i = some u) :
    (((start minimal b).run before).run after).Lineage i u.config.pipeline := by
  have kept := kept_run minimal b before
  have given := given_of_found kept.order found
  obtain ⟨⟨p, line⟩, bare⟩ := run_life (I := fun s => (∃ p, s.Lineage i p) ∧ s.Bare i) (i := i)
    (fun s newborn => ⟨newborn.lineage, newborn.bare⟩)
    (fun s s' order _ deal ⟨⟨p, line⟩, bare⟩ =>
      ⟨⟨p, deal.lineage order bare line⟩, deal.bare bare⟩) minimal b before given
  rw [(line.lined u found).config]
  have along := Moves.course (I := fun s => s.Lineage i p ∧ s.Bare i) (i := i) kept.order
    (run_goes kept after).moves given ⟨line, bare⟩
    fun s s' order _ deal ⟨line, bare⟩ => ⟨deal.lineage order bare line, deal.bare bare⟩
  exact along.1

end Session

end LayerFeed
