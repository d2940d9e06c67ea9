/-
What an updater on Vulkan withholds from the producer's queue. If its source makes a fence
each time before it brings a frame, the updater withholds the buffer of its current slot
and no other (`Updater.Rests`): the fence hands the buffer of the slot shown before back,
and only then another slot becomes current. And as long as the updater was not torn down
under a lost context, whatever it imported and still withholds is in its cache. So once it
has no current slot it withholds nothing, not even textures that live on as images only.

A deed either leaves the slots as they are, or empties them, or is a detach or a latch
(`Deed.slots`), and the invariant is kept for a different reason in each of the four.
-/
import LayerFeed.Proofs.Session.Lineage

namespace LayerFeed

open Owners World

variable {w : World} {c : ContextId} {t : TextureId} {i : UpdaterId}

-- ==================================================== one slot for each texture

namespace Table

variable {κ α : Type} [DecidableEq κ] {f : α → Owners} {T : Table κ α} {key key' : κ} {v v' : α}
  {k : Holder}

/-- What one of its values holds, a table holds. -/
theorem le_owners (found : T.get? key = some v) (k : Holder) (t : TextureId) :
    f v k t ≤ T.owners f k t := by
  rw [owners_of_get? found, Pi.add_apply, Pi.add_apply]
  exact Nat.le_add_right _ _

/-- What a table holds once stands under one key. -/
theorem key_unique (single : T.owners f k t ≤ 1) (found : T.get? key = some v)
    (has : 0 < f v k t) (found' : T.get? key' = some v') (has' : 0 < f v' k t) : key' = key := by
  by_contra ne
  have there : (T.erase key).get? key' = some v' := by rw [get?_erase_ne _ ne, found']
  have rest : f v' k t ≤ (T.erase key).owners f k t := le_owners there k t
  rw [owners_of_get? found, Pi.add_apply, Pi.add_apply] at single
  omega

/-- What a table holds, one of its values holds. -/
theorem exists_of_owners_pos (pos : 0 < T.owners f k t) :
    ∃ key v, T.get? key = some v ∧ 0 < f v k t := by
  suffices mem : ∀ rows : List (κ × α), 0 < sumRows (fun a => f a k t) rows →
      ∃ row ∈ rows, 0 < f row.2 k t by
    obtain ⟨row, mem, held⟩ := mem T.entries pos
    obtain ⟨key, found⟩ := exists_get?_of_mem (List.mem_map_of_mem (f := Prod.snd) mem)
    exact ⟨key, row.2, found, held⟩
  intro rows pos
  induction rows with
  | nil => exact absurd pos (Nat.lt_irrefl 0)
  | cons row rows ih =>
    obtain ⟨key, a⟩ := row
    rw [sumRows] at pos
    by_cases here : 0 < f a k t
    · exact ⟨(key, a), List.mem_cons_self, here⟩
    · obtain ⟨row, mem, held⟩ := ih (by omega)
      exact ⟨row, List.mem_cons_of_mem _ mem, held⟩

end Table

/-- A slot has the handle of the texture that it holds. -/
theorem Slot.handle_of_texture {s : Slot} (texture : s.texture = some t) :
    s.owners .handle t = 1 := by
  rw [owners, texture, oneOf_some, one_handle_apply, if_pos rfl]

/-- A slot with a texture has a handle of it. -/
theorem Slot.has_handle {s : Slot} (texture : s.texture = some t) : 0 < s.owners .handle t := by
  rw [handle_of_texture texture]
  exact Nat.one_pos

/-- A slot has handles of its texture only. -/
theorem Slot.texture_of_handle {s : Slot} (held : 0 < s.owners .handle t) : s.texture = some t := by
  unfold owners at held
  cases texture : s.texture with
  | none =>
    rw [texture] at held
    exact absurd held (Nat.lt_irrefl 0)
  | some u =>
    rw [texture, oneOf_some, one_handle_apply] at held
    split at held
    · next same => rw [same]
    · exact absurd held (Nat.lt_irrefl 0)

namespace SlotCache

variable {cache : SlotCache} {slot slot' : SlotId} {entry entry' : Slot}

/-- A cache has the handles of its slots only. -/
theorem exists_slot (held : 0 < cache.owners .handle t) :
    ∃ slot entry, cache.get? slot = some entry ∧ entry.texture = some t := by
  obtain ⟨slot, entry, found, held⟩ := Table.exists_of_owners_pos held
  exact ⟨slot, entry, found, Slot.texture_of_handle held⟩

/-- A texture with one handle stands in one slot. -/
theorem slot_unique (single : cache.owners .handle t ≤ 1) (found : cache.get? slot = some entry)
    (texture : entry.texture = some t) (found' : cache.get? slot' = some entry')
    (texture' : entry'.texture = some t) : slot = slot' :=
  Table.key_unique (f := Slot.owners) single found' (Slot.has_handle texture') found
    (Slot.has_handle texture)

/-- A slot that is cleared holds no texture, and the others are as they were. -/
theorem clear_get? (mode : TeardownMode)
    (found : (cache.clear w slot mode).object.get? slot' = some entry)
    (texture : entry.texture = some t) : slot' ≠ slot ∧ cache.get? slot' = some entry := by
  unfold clear at found
  cases there : cache.get? slot with
  | none =>
    rw [there] at found
    refine ⟨?_, found⟩
    rintro rfl
    rw [there] at found
    cases found
  | some old =>
    rw [there] at found
    have found : (cache.slots.set slot (old.clear w mode).object).get? slot' = some entry := found
    rw [Table.get?_set] at found
    split at found
    · cases found
      rw [Slot.clear_object] at texture
      cases texture
    · next ne => exact ⟨ne, found⟩

end SlotCache

-- ==================================================== deeds and slots

namespace Updater

variable {u : Updater}

/-- A slot that still holds a texture after a detach held it before, and was not current. -/
theorem detach_get? {slot : SlotId} {entry : Slot}
    (found : (u.detach w).2.cache.get? slot = some entry) (texture : entry.texture = some t) :
    u.currentSlot ≠ some slot ∧ u.cache.get? slot = some entry := by
  rw [detach_eq, releaseSource_object] at found
  unfold severActiveSlot at found
  dsimp only at found
  cases current : u.currentSlot with
  | none =>
    rw [current] at found
    exact ⟨nofun, found⟩
  | some active =>
    rw [current] at found
    obtain ⟨ne, found⟩ := SlotCache.clear_get? .normal found texture
    exact ⟨fun h => ne (Option.some.inj h).symm, found⟩

end Updater

namespace Session

variable {s s' : Session} {u : Updater} {n : Nat} {x : World × Updater} {h : Held Updater}

/-- What becomes of the slots in a deed. -/
theorem Deed.slots (deed : Deed s i u n x) :
    (x.2.cache = u.cache ∧ x.2.currentSlot = u.currentSlot) ∨ x.2.cache.slots = ∅
      ∨ x = u.detach s.world ∨ ∃ frame, Latches s.world u x frame := by
  cases deed with
  | callback callback =>
    rw [callback.untouched]
    exact .inl ⟨rfl, rfl⟩
  | setter f_setter proper => exact .inl (Updater.setter_slots f_setter u)
  | bind | answer => exact .inl ⟨rfl, rfl⟩
  | idle | ask => exact .inl (u.beginApply_slots s.world).2
  | latch frame issued live answered =>
    exact .inr (.inr (.inr ⟨frame, ⟨issued, rfl⟩, answered⟩))
  | attach name => exact .inr (.inl rfl)
  | detach => exact .inr (.inr (.inl rfl))
  | teardown mode =>
    unfold Updater.teardown
    split
    · exact .inl ⟨rfl, rfl⟩
    · exact .inr (.inl rfl)

/-- A texture that is withheld after a deed was withheld before, or is the one that the deed
found for a frame. -/
theorem Deed.withheld (order : s.InOrder) (entered : s.updaters.get? i = some h)
    (deed : Deed s i h.value n x) (known : (s.world.texture? t).isSome)
    (held : x.1.queueHeld t) : s.world.queueHeld t
      ∨ ∃ frame, Latches s.world h.value x frame
        ∧ (h.value.resolution s.world frame).answer = .cached t := by
  have owned := order.sound.owned
  rw [owners_eq_besides entered] at owned
  have passes := deed.passes order.sound order.sourced entered (m := .harsh) (.inl (by decide)) 0
  rw [add_zero, add_zero] at passes
  unfold World.queueHeld at held ⊢
  cases found : x.1.texture? t with
  | none =>
    rw [found] at held
    cases held
  | some b =>
    rw [found] at held
    rcases passes.continues owned order.sound.ledger found with ⟨a, found', change⟩ | ⟨none, -⟩
    · rcases change.withheld held with before | loose | ⟨id, frame, tells⟩
      · left
        rw [found']
        exact before
      · cases loose
      · obtain ⟨latches, answer⟩ := tells.taken frame (.cached t) rfl
        exact .inr ⟨frame, latches, answer.symm⟩
    · rw [none] at known
      cases known

-- ==================================================== one withheld buffer

end Session

/-- Of the textures in its cache, an updater withholds no other than the one of its current
slot. -/
def Updater.Rests (u : Updater) (w : World) : Prop :=
  ∀ slot entry t, u.cache.get? slot = some entry → entry.texture = some t → w.queueHeld t →
    u.currentSlot = some slot

namespace Session

variable {s s' : Session} {u : Updater} {n : Nat} {x : World × Updater} {h : Held Updater}

/-- The texture of a slot has its one handle there. -/
theorem slot_handle {slot : SlotId} {entry : Slot} (found : u.cache.get? slot = some entry)
    (texture : entry.texture = some t) : 0 < u.owners .handle t := by
  rw [Updater.owners, SlotCache.owners_of_get? found, Pi.add_apply, Pi.add_apply, Pi.add_apply,
    Pi.add_apply, Slot.handle_of_texture texture]
  omega

/-- Two slots of an updater do not hold the same texture. -/
theorem Sound.slot_unique (sound : s.Sound) (entered : s.updaters.get? i = some h)
    {slot slot' : SlotId} {entry entry' : Slot} (found : h.value.cache.get? slot = some entry)
    (texture : entry.texture = some t) (found' : h.value.cache.get? slot' = some entry')
    (texture' : entry'.texture = some t) : slot = slot' := by
  refine SlotCache.slot_unique ?_ found texture found' texture'
  have single := sound.owned.single t
  rw [owners_eq_besides entered, Updater.owners, Pi.add_apply, Pi.add_apply, Pi.add_apply,
    Pi.add_apply] at single
  omega

/-- Deeds keep an updater at rest, if a frame is taken over only after the buffer shown before
was handed back. -/
theorem Deed.rests (order : s.InOrder) (entered : s.updaters.get? i = some h)
    (deed : Deed s i h.value n x) (vulkan : h.value.config.pipeline = .vulkan)
    (rests : h.value.Rests s.world)
    (handedBack : ∀ frame, Latches s.world h.value x frame → h.value.HandedBack s.world) :
    x.2.Rests x.1 := by
  -- a texture that is found for a frame stands in the slot that becomes current
  have found_again : ∀ {slot entry t}, h.value.cache.get? slot = some entry →
      entry.texture = some t → x.1.queueHeld t →
      s.world.queueHeld t ∨ x.2.currentSlot = some slot := by
    intro slot entry t found texture held
    have known := (order.sound.own_handle entered (slot_handle found texture)).1
    refine (deed.withheld order entered known held).imp_right ?_
    rintro ⟨frame, latches, cached⟩
    obtain ⟨entry', -, found', texture', -⟩ := SlotCache.resolve_cached cached
    obtain ⟨issued, rfl⟩ := latches.latched
    rw [(h.value.latch_slots s.world frame issued).1,
      order.sound.slot_unique entered found' texture' found texture]
  intro slot entry t found texture held
  rcases deed.slots with ⟨cache, current⟩ | empty | detached | ⟨frame, latches⟩
  · rw [cache] at found
    rcases found_again found texture held with before | now
    · rw [current]
      exact rests slot entry t found texture before
    · exact now
  · rw [SlotCache.get?, empty] at found
    cases found
  · rw [detached] at found
    obtain ⟨ne, found⟩ := Updater.detach_get? found texture
    rcases found_again found texture held with before | now
    · exact absurd (rests slot entry t found texture before) ne
    · exact now
  · have back := handedBack frame latches
    obtain ⟨issued, latched⟩ := latches.latched
    obtain ⟨current, cache⟩ := h.value.latch_slots s.world frame issued
    rw [latched, cache] at found
    by_cases same : slot = frame.slot
    · rw [latched, current, same]
    · rw [Updater.resolution, SlotCache.resolve_get?_ne same] at found
      rcases found_again found texture held with before | now
      · -- the slot was current, and its buffer was handed back
        have shown := rests slot entry t found texture before
        refine absurd before (back vulkan entry t ?_ texture)
        rw [Updater.fences, shown]
        exact found
      · exact now

end Session

-- ==================================================== fences before frames

/-- What the source of an updater answered. -/
def Entry.answered? (i : UpdaterId) : Entry → Option (List CallbackResult)
  | .source ref (.dequeued results) => if ref.owner = i then some results else none
  | _ => none

theorem Entry.Minor.not_answered {e : Entry} (minor : e.Minor) (i : UpdaterId) :
    e.answered? i = none := by
  cases e with
  | source => cases minor
  | _ => rfl

def CallbackResult.isFence : CallbackResult → Bool
  | fence _ => true
  | _ => false

/-- A fence among the results is one of them. -/
theorem CallbackResult.exists_fence {results : List CallbackResult}
    (fenced : results.any isFence) : ∃ f, .fence f ∈ results := by
  obtain ⟨result, mem, isFence⟩ := List.any_eq_true.1 fenced
  cases result with
  | fence f => exact ⟨f, mem⟩
  | _ => cases isFence

/-- Before every frame that updater `i` took over, its source made a fence: there is one in
what the source answered last. -/
def Fenced (i : UpdaterId) (h : List Entry) : Prop :=
  Throughout (fun pre e => e.by? = some i → e.taken?.isSome →
    ∃ results ∈ (pre.filterMap (Entry.answered? i)).getLast?, results.any CallbackResult.isFence) h

instance (i : UpdaterId) (h : List Entry) : Decidable (Fenced i h) :=
  inferInstanceAs (Decidable (Throughout _ h))

/-- What is fenced was so before. -/
theorem Fenced.before {h es : List Entry} (fenced : Fenced i (h ++ es)) : Fenced i h := by
  intro pre e post split
  refine fenced pre e (post ++ es) ?_
  rw [split, List.append_assoc, List.cons_append]

namespace Session

variable {s s' : Session} {u : Updater} {n : Nat} {x : World × Updater} {h : Held Updater}
  {p : Pipeline}

/-- A frame that is taken over after a fence was made is taken over after the buffer shown
before was handed back. -/
theorem Latches.handedBack (order : s.InOrder) (entered : s.updaters.get? i = some h)
    {frame : Frame} (latches : Latches s.world h.value x frame) (fenced : Fenced i x.1.history) :
    h.value.HandedBack s.world := by
  obtain ⟨-, own⟩ := order.sound.numbered.updaters i h entered
  obtain ⟨issued, rfl⟩ := latches.latched
  obtain ⟨pre, ref, results, answered, has, back⟩ := latches.answered
  obtain ⟨told, rest, history, -⟩ := h.value.latch_history s.world frame issued
  obtain ⟨es, grown, minor⟩ := (h.value.resolution_minor s.world frame).history
  have silent : ∀ e ∈ es, e.answered? i = none := fun e mem => (minor e mem).not_answered i
  rw [own, grown] at history
  obtain ⟨results', last, made⟩ := fenced _ _ _ history rfl rfl
  have owner : (Entry.source ref (.dequeued results)).answered? i = some results :=
    if_pos (order.sourced.own entered has).1
  rw [List.filterMap_append, List.filterMap_eq_nil_iff.2 silent, List.append_nil, answered,
    List.filterMap_append, List.filterMap_cons_some owner, List.filterMap_nil,
    List.getLast?_concat] at last
  cases last
  exact back (CallbackResult.exists_fence made)

/-- If fences were made before its frames, updater `i` is at rest, if it is there. -/
def Rests (s : Session) (i : UpdaterId) : Prop :=
  Fenced i s.world.history → ∀ u, s.updaterOf? i = some u → u.config.pipeline = .vulkan →
    u.Rests s.world

/-- A newborn updater rests. -/
theorem Newborn.rests (newborn : s.Newborn i) : s.Rests i := by
  intro _ u there _
  obtain ⟨c, config, sink, rfl⟩ := newborn.new u there
  intro slot entry t found
  cases found

/-- A deal keeps an updater at rest. -/
theorem Deal.rests (order : s.InOrder) (given : i < s.fresh) (line : s.Lineage i p)
    (deal : Deal i none s s') (rests : s.Rests i) : s'.Rests i := by
  intro fenced u there' vulkan
  cases deal with
  | elsewhere elsewhere =>
    obtain ⟨es, grown, -⟩ := elsewhere.history order.sound
    rw [elsewhere.same] at there'
    obtain ⟨h, entered, rfl⟩ := Option.map_eq_some_iff.1 there'
    rw [grown] at fenced
    intro slot entry t found texture held
    obtain ⟨known, none⟩ := order.sound.own_handle entered (slot_handle found texture)
    rw [(elsewhere.spares order.sound known none).1.queueHeld known] at held
    exact rests fenced.before h.value there' vulkan slot entry t found texture held
  | opens b => exact rests fenced u there' vulkan
  | comes new => exact absurd new (Nat.ne_of_lt given)
  | goes entered world fresh besides gone =>
    rw [updaterOf?, gone] at there'
    cases there'
  | @deed _ h n x entered deed free world fresh besides there =>
    rw [there] at there'
    cases there'
    obtain ⟨es, grown, -⟩ := deed.history order.sound order.sourced entered
    have found := updaterOf?_of_get? entered
    have pipeline : h.value.config.pipeline = .vulkan := by
      rw [(line.lined h.value found).config, ← (deed.lined (line.lined h.value found)).config]
      exact vulkan
    rw [world] at fenced ⊢
    refine deed.rests order entered pipeline (rests ?_ h.value found pipeline)
      fun frame latches => latches.handedBack order entered fenced
    rw [grown] at fenced
    exact fenced.before

-- ==================================================== condemned textures

/-- A teardown of updater `i` under a lost context. -/
def LostTeardownOf (i : UpdaterId) (h : List Entry) : Prop :=
  ∃ e ∈ h, e.mark? i = some (.tornDown .contextLost)

instance (i : UpdaterId) (h : List Entry) : Decidable (LostTeardownOf i h) :=
  inferInstanceAs (Decidable (∃ e ∈ h, _))

/-- While updater `i` is there, the textures that it imported are condemned only by a teardown
under a lost context. -/
def Mourns (s : Session) (i : UpdaterId) : Prop :=
  ∀ u, s.updaterOf? i = some u → ∀ t a, CreatedBy i t s.world.history →
    s.world.texture? t = some a → a.condemned → LostTeardownOf i s.world.history

/-- A newborn updater has no texture to mourn. -/
theorem Newborn.mourns (newborn : s.Newborn i) : s.Mourns i :=
  fun _ _ t _ created => absurd created (newborn.not_created t)

/-- A deed condemns no texture, if it is no teardown under a lost context. -/
theorem Deed.condemned (order : s.InOrder) (entered : s.updaters.get? i = some h)
    (deed : Deed s i h.value n x) (mild : x ≠ h.value.teardown s.world .contextLost) {b : Texture}
    (found : x.1.texture? t = some b) (condemned : b.condemned) :
    ∃ a, s.world.texture? t = some a ∧ a.condemned := by
  have owned := order.sound.owned
  rw [owners_eq_besides entered] at owned
  have passes := deed.passes order.sound order.sourced entered (m := .gentle) (.inr mild) 0
  rw [add_zero, add_zero] at passes
  rcases passes.continues owned order.sound.ledger found with ⟨a, found', change⟩ | ⟨-, harsh⟩
  · exact ⟨a, found', (change.condemned condemned).resolve_right fun ne => ne rfl⟩
  · exact absurd rfl (harsh condemned)

theorem LostTeardownOf.grows {h es : List Entry} (lost : LostTeardownOf i h) :
    LostTeardownOf i (h ++ es) := by
  obtain ⟨e, mem, mark⟩ := lost
  exact ⟨e, List.mem_append_left _ mem, mark⟩

/-- A deal condemns no texture of `i`, if it is no teardown under a lost context. -/
theorem Deal.mourns (order : s.InOrder) (given : i < s.fresh) (line : s.Lineage i p)
    (deal : Deal i none s s') (mourns : s.Mourns i) : s'.Mourns i := by
  intro u there' t b created found condemned
  cases deal with
  | elsewhere elsewhere =>
    obtain ⟨es, grown, -⟩ := elsewhere.history order.sound
    rw [elsewhere.same] at there'
    have before := elsewhere.created order.sound created
    obtain ⟨a, found₀, -⟩ := line.known t before
    obtain ⟨k, found'⟩ := (elsewhere.spares order.sound (by rw [found₀]; rfl)
      (line.handle t before)).1 a found₀
    rw [found] at found'
    cases found'
    rw [grown]
    exact (mourns u there' t a before found₀ condemned).grows
  | opens b => exact mourns u there' t _ created found condemned
  | comes new => exact absurd new (Nat.ne_of_lt given)
  | goes entered world fresh besides gone =>
    rw [updaterOf?, gone] at there'
    cases there'
  | @deed _ h n x entered deed free world fresh besides there =>
    rw [world] at created found ⊢
    have there₀ := updaterOf?_of_get? entered
    obtain ⟨es, grown, -⟩ := deed.history order.sound order.sourced entered
    -- what was condemned before was so after a teardown
    have before : ∀ a, s.world.texture? t = some a → a.condemned →
        LostTeardownOf i x.1.history := by
      intro a found₀ condemned₀
      rcases deed.created_cases order entered (line.lined h.value there₀) created with
        old | ⟨unknown, -⟩
      · rw [grown]
        exact (mourns h.value there₀ t a old found₀ condemned₀).grows
      · rw [unknown] at found₀
        cases found₀
    by_cases lost : x = h.value.teardown s.world .contextLost
    · by_cases gone : h.value.destroyed
      · rw [lost, Updater.teardown, if_pos gone] at found
        exact before b found condemned
      · obtain ⟨-, own⟩ := order.sound.numbered.updaters i h entered
        rw [lost, Updater.teardown, if_neg gone]
        exact ⟨_, List.mem_append_right _ (List.mem_singleton.2 rfl), if_pos own⟩
    · obtain ⟨a, found₀, condemned₀⟩ := deed.condemned order entered lost found condemned
      exact before a found₀ condemned₀

-- ==================================================== runs

/-- What an updater withholds of all that it imported is in its cache, unless it was torn down
under a lost context. -/
theorem Lineage.withheld_in_cache (line : s.Lineage i .vulkan) (mourns : s.Mourns i)
    (there : s.updaterOf? i = some u) (kept : ¬ LostTeardownOf i s.world.history)
    (created : CreatedBy i t s.world.history) (held : s.world.queueHeld t) :
    ∃ slot entry, u.cache.get? slot = some entry ∧ entry.texture = some t := by
  obtain ⟨a, found, vulkan⟩ := line.known t created
  unfold World.queueHeld at held
  rw [found] at held
  rcases ((line.guarded t created a found vulkan).withheld held).2 with condemned | handle
  · exact absurd (mourns u there t a created found condemned) kept
  · have holdings : s.holdings i = u.owners := by
      unfold Session.holdings
      rw [there]
      rfl
    rw [owners_eq_holdings s i, holdings, Pi.add_apply, Pi.add_apply,
      line.handle t created] at handle
    refine SlotCache.exists_slot ?_
    rw [Updater.owners, Pi.add_apply, Pi.add_apply] at handle
    cases shown : u.shownImage with
    | none =>
      rw [shown] at handle
      rwa [oneOf_none, Pi.zero_apply, Pi.zero_apply, Nat.zero_add] at handle
    | some image =>
      rw [shown, oneOf_some, one_image_handle, Nat.zero_add] at handle
      exact handle

/-- All that is known of what updater `i` withholds. -/
structure Withholding (i : UpdaterId) (p : Pipeline) (s : Session) : Prop where
  line : s.Lineage i p
  bare : s.Bare i
  rests : s.Rests i
  mourns : s.Mourns i

/-- A deal keeps what the updater withholds. -/
theorem Deal.withholding (order : s.InOrder) (deal : Deal i none s s')
    (before : s.Withholding i p) : s'.Withholding i p where
  line := deal.lineage order before.bare before.line
  bare := deal.bare before.bare
  rests := deal.rests order before.line.given before.line before.rests
  mourns := deal.mourns order before.line.given before.line before.mourns

/-- Every run does. -/
theorem run_withholding (minimal : Bool) (b : Backend) (commands : List Command)
    (found : ((start minimal b).run commands).updaterOf? i = some u) :
    ((start minimal b).run commands).Withholding i u.config.pipeline := by
  have given := given_of_found (kept_run minimal b commands).order found
  obtain ⟨p, withholding⟩ := run_life (I := fun s => ∃ p, s.Withholding i p) (i := i)
    (fun s newborn => by
      obtain ⟨p, line⟩ := newborn.lineage
      exact ⟨p, line, newborn.bare, newborn.rests, newborn.mourns⟩)
    (fun s s' order _ deal ⟨p, before⟩ => ⟨p, deal.withholding order before⟩)
    minimal b commands given
  rwa [(withholding.line.lined u found).config]

-- ==================================================== commands that leave no current slot

/-- A command by which updater `i` loses its current slot: its source is taken off or
replaced, or it is torn down in normal mode. -/
inductive Vacates (s : Session) (i : UpdaterId) : Command → Prop
  | detach {name : String} (named : s.updaterNames.get? name = some i) : Vacates s i (.detach name)
  | attach {name : String} (named : s.updaterNames.get? name = some i) (source : String)
      (queue : Source) (state : Option String) : Vacates s i (.attach name source queue state)
  | teardown {name : String} (named : s.updaterNames.get? name = some i) :
      Vacates s i (.teardown name .normal)

/-- By an entry no frame is taken over, and updater `i` is not torn down under a lost
context. -/
def Placid (i : UpdaterId) (e : Entry) : Prop :=
  e.taken? = none ∧ e.mark? i ≠ some (.tornDown .contextLost)

/-- An entry that takes no frame over and marks nothing is placid. -/
theorem Placid.of_unmarked {e : Entry} (untaken : e.taken? = none) (unmarked : e.mark? i = none) :
    Placid i e := by
  refine ⟨untaken, ?_⟩
  rw [unmarked]
  nofun

/-- A teardown in normal mode is not one under a lost context. -/
theorem placid_tornDown (j : UpdaterId) (sink : Sink) (n : Nat) (released : Bool) :
    Placid i (.event j sink (.tornDown .normal n released)) := by
  refine ⟨rfl, ?_⟩
  rw [Entry.mark?]
  split <;> nofun

/-- Such a command is a deed of its updater, after which there is no current slot, and it puts
down nothing that would matter to what the updater withholds. -/
theorem Vacates.deed {command : Command} (vacates : s.Vacates i command) (order : s.InOrder)
    (entered : s.updaters.get? i = some h) (bare : h.value.Bare) :
    ∃ v es, (s.exec command).1.updaterOf? i = some v ∧ v.currentSlot = none
      ∧ (s.exec command).1.world.history = s.world.history ++ es ∧ ∀ e ∈ es, Placid i e := by
  obtain ⟨-, own⟩ := order.sound.numbered.updaters i h entered
  have owned := order.sound.owned
  rw [owners_eq_besides entered] at owned
  have still : ∀ e : Entry, e.Still h.value.id → Placid i e := fun _ still =>
    .of_unmarked still.untaken (still.unmarked i)
  have calls : ∀ ref call, h.value.source = some ref → Placid i (.source ref call) :=
    fun _ _ _ => .of_unmarked rfl rfl
  -- what passes put down, and nothing else
  have placid : ∀ {w : World} {g : Owners},
      Passes (Placid i) .loose s.world (h.value.owners + 0) w g →
      ∃ es, w.history = s.world.history ++ es ∧ ∀ e ∈ es, Placid i e := by
    intro w g passes
    obtain ⟨es, grown, told⟩ := passes.history (r := s.besides i) (by rwa [add_zero])
    refine ⟨es, grown, fun e mem => ?_⟩
    by_cases remark : e.isRemark
    · exact told e mem remark
    · exact .of_unmarked (e.taken?_of_not_remark remark) (e.mark?_of_not_remark remark i)
  cases vacates with
  | @detach name named =>
    obtain ⟨es, grown, told⟩ := placid (h.value.detach_passes calls still)
    obtain ⟨cache, same⟩ := h.value.detach_object s.world
    refine ⟨(h.value.detach s.world).2, es, ?_, by rw [same], ?_, told⟩
    · simp only [exec, onNamed, named, onUpdater_eq entered, updaterOf?, Table.get?_set_self,
        Option.map_some]
    · simpa only [exec, onNamed, named, onUpdater_eq entered] using grown
  | @attach name named source queue state =>
    obtain ⟨es, grown, told⟩ := placid (h.value.attach_passes calls still
      ⟨s.fresh, source, i⟩ (.of_unmarked rfl rfl))
    obtain ⟨cache, -, same⟩ := h.value.attach_object s.world ⟨s.fresh, source, i⟩
    refine ⟨(h.value.attach s.world ⟨s.fresh, source, i⟩).2, es, ?_, by rw [same], ?_, told⟩
    · simp only [exec, Session.attach, named, onUpdater, entered, updaterOf?, Table.get?_set_self,
        Option.map_some]
    · simpa only [exec, Session.attach, named, onUpdater, entered] using grown
  | @teardown name named =>
    obtain ⟨es, grown, told⟩ := placid (h.value.teardown_passes calls still .normal (.inl rfl)
      fun n released => placid_tornDown h.value.id h.value.sink n released)
    refine ⟨(h.value.teardown s.world .normal).2, es, ?_,
      (h.value.teardown_bare bare s.world .normal).2, ?_, told⟩
    · simp only [exec, onNamed, named, onUpdater_eq entered, updaterOf?, Table.get?_set_self,
        Option.map_some]
    · simpa only [exec, onNamed, named, onUpdater_eq entered] using grown

/-- Placid entries keep fenced what was. -/
theorem Fenced.append {hist es : List Entry} (fenced : Fenced i hist)
    (placid : ∀ e ∈ es, Placid i e) : Fenced i (hist ++ es) := by
  refine Throughout.extend fenced fun e mem pre _ takes => ?_
  rw [(placid e mem).1] at takes
  cases takes

/-- And bring no lost teardown. -/
theorem not_lostTeardownOf_append {hist es : List Entry} (kept : ¬ LostTeardownOf i hist)
    (placid : ∀ e ∈ es, Placid i e) : ¬ LostTeardownOf i (hist ++ es) := by
  rintro ⟨e, mem, mark⟩
  rcases List.mem_append.1 mem with mem | mem
  · exact kept ⟨e, mem, mark⟩
  · exact (placid e mem).2 mark

/-- In every run of an updater on Vulkan whose source makes a fence before each frame, the
updater withholds of the textures in its cache at most the one of its current slot. And right
after it has lost its current slot, it withholds nothing that it ever imported, unless it was
torn down under a lost context. -/
theorem run_withheld (minimal : Bool) (b : Backend) (commands : List Command)
    (found : ((start minimal b).run commands).updaterOf? i = some u)
    (vulkan : u.config.pipeline = .vulkan)
    (fenced : Fenced i ((start minimal b).run commands).world.history) :
    let s := (start minimal b).run commands
    (∀ slot entry t, u.cache.get? slot = some entry → entry.texture = some t →
      s.world.queueHeld t → u.currentSlot = some slot)
    ∧ ∀ command, s.Vacates i command → ¬ LostTeardownOf i s.world.history →
      ∀ t, CreatedBy i t (s.exec command).1.world.history →
        ¬ (s.exec command).1.world.queueHeld t := by
  intro s
  have kept : s.Kept := kept_run minimal b commands
  have withholding : s.Withholding i u.config.pipeline := run_withholding minimal b commands found
  rw [vulkan] at withholding
  refine ⟨withholding.rests fenced u found vulkan, ?_⟩
  intro command vacates none t created held
  obtain ⟨h, entered, rfl⟩ := Option.map_eq_some_iff.1 found
  obtain ⟨v, es, there, vacant, grown, placid⟩ :=
    vacates.deed kept.order entered (withholding.bare h.value found)
  have moves := (exec_goes kept command).moves
  have after := Moves.course (I := fun s => s.Withholding i .vulkan) (i := i) kept.order moves
    withholding.line.given withholding fun s s' order _ deal before => deal.withholding order before
  rw [grown] at created
  obtain ⟨slot, entry, stands, texture⟩ := after.line.withheld_in_cache after.mourns there
    (by rw [grown]; exact not_lostTeardownOf_append none placid) (by rwa [grown]) held
  have current := after.rests (by rw [grown]; exact Fenced.append fenced placid) v there
    (after.line.lined v there).config slot entry t stands texture held
  rw [vacant] at current
  cases current

/-- Two frames for two slots of an updater on Vulkan, whose source makes a fence for each. -/
def twoSlots : List Command :=
  let frame := fun (slot : Int32) (buffer : UInt64) =>
    Frame.ofBuffer ⟨slot⟩ ⟨⟨buffer⟩, ⟨64, 32, 1⟩, none⟩ .srgb
  [.newUpdater "u" { pipeline := .vulkan } (.registered "s") .unchanged,
    .attach "u" "q" { frames := [frame 0 1, frame 1 2], script := [.fence true], fifo := true }
      none,
    .apply "u", .post "u", .apply "u"]

theorem twoSlots_withheld :
    let s := (start false {}).run twoSlots
    [1, 2].map s.world.queueHeld = [false, true] ∧ (s.updaterOf? 1).bind (·.currentSlot) = some ⟨1⟩
      ∧ ∀ t, CreatedBy 1 t (s.exec (.detach "u")).1.world.history →
        ¬ (s.exec (.detach "u")).1.world.queueHeld t := by
  intro s
  have vulkan : (s.updaterOf? 1).map (·.config.pipeline) = some .vulkan := by decide
  obtain ⟨u, found, vulkan⟩ := Option.map_eq_some_iff.1 vulkan
  have fenced : Fenced 1 s.world.history := by decide
  have kept : ¬ LostTeardownOf 1 s.world.history := by decide
  have withheld := run_withheld false {} twoSlots found vulkan fenced
  exact ⟨by decide, by decide, withheld.2 (.detach "u") (.detach (by decide)) kept⟩

end Session

end LayerFeed
