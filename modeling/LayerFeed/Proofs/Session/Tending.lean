/-
How a session deals with handles. The handle of a texture stands in a slot, in a cache, in an
updater, or under a name of its own. Whatever a session does, it tends every texture
(`Step.tends`), so a texture whose handle is still there was not released yet
(`Reachable.tended`). A handle that never got a name, as all those do not that slots have
imported, is dealt with in order besides: only a slot can give it up, and it does so after its
buffer was handed back, or under a lost context.
-/
import LayerFeed.Proofs.Object.Tending
import LayerFeed.Proofs.WithheldBuffers

namespace LayerFeed.Session

open Owners World

variable {s s' s'' : Session} {t : TextureId} {id : UpdaterId} {g : Owners}
  {orderly : Prop} {n : Nat}

/-- No name leads to the handle of a texture. -/
def Unnamed (s : Session) (t : TextureId) : Prop := ∀ name, s.handles.get? name ≠ some t

/-- What a session does tends a texture, of which it has as many handles as its owners say. -/
def Tends (orderly : Prop) (t : TextureId) (s s' : Session) : Prop :=
  World.Tends orderly t s.world (s.owners .handle t) s'.world (s'.owners .handle t)

theorem Tends.trans (first : Tends orderly t s s') (second : Tends orderly t s' s'') :
    Tends orderly t s s'' := World.Tends.trans first second

theorem Tends.refl (s : Session) : Tends orderly t s s := .of_record rfl (Nat.le_refl _)

-- ==================================================== images

/-- Images are no handles. -/
theorem images_handle (T : Table String TextureId) (t : TextureId) :
    T.owners (one .image) .handle t = 0 := by
  by_contra held
  obtain ⟨name, u, -, pos⟩ := Table.exists_of_owners_pos (Nat.pos_of_ne_zero held)
  rw [one_image_handle] at pos
  exact absurd pos (Nat.lt_irrefl 0)

theorem handle_images (s : Session) (images : Table String TextureId) :
    ({ s with images } : Session).owners .handle t = s.owners .handle t := by
  unfold owners
  simp only [Pi.add_apply, images_handle]

/-- Images come and go without a change to the handles. -/
theorem letGoImage_tends (s : Session) (images : Table String TextureId)
    (o : Option TextureId) : Tends orderly t s ({ s with images }.letGoTexture o) :=
  .letGoOf o s.world (Nat.le_of_eq (handle_images s images))

/-- Keeping an image tends every texture. -/
theorem keepOrDropImage_tends (s : Session) (image : Option String) (o : Option TextureId) :
    Tends orderly t s (s.keepOrDropImage image o) := by
  cases o with
  | none => cases image <;> exact .refl s
  | some u =>
    cases image with
    | some name => exact letGoImage_tends s _ _
    | none => exact letGoImage_tends s s.images (some u)

-- ==================================================== one entry of a shelf

section Shelf

variable {κ α : Type} {μ : Session → Owners} {f : α → Owners} {put : Table κ α → Session}

/-- What is named is held among all the rest. -/
theorem Shelf.all (shelf : Shelf named f put) (same : ∀ T, (put T).updaters = s.updaters) :
    Shelf owners f put := by
  obtain ⟨r, held⟩ := shelf
  refine ⟨r + s.updaters.owners (·.value.owners), fun T => ?_⟩
  rw [owners_eq_named, held, same, add_assoc]

variable [DecidableEq κ] {T : Table κ α} {k : κ} {a a' : α} {w w' : World}

/-- An operation on one entry tends a texture if it does so among all other owners. -/
theorem Shelf.tends (shelf : Shelf owners f put) (found : T.get? k = some a)
    (owned : w.Owned (owners (put T)))
    (law : ∀ r, w.Owned (f a + r) →
      World.Tends orderly t w ((f a + r) .handle t) w' ((f a' + r) .handle t)) :
    World.Tends orderly t w (owners (put T) .handle t) w'
      (owners (put (T.set k a')) .handle t) := by
  obtain ⟨r, held⟩ := shelf
  rw [held, Table.owners_of_get? found, add_assoc] at owned ⊢
  rw [held, Table.owners_set, add_assoc]
  exact law _ owned

/-- Without an entry there are no more handles than with it. -/
theorem Shelf.erase_le (shelf : Shelf μ f put) (T : Table κ α) (k : κ) (t : TextureId) :
    μ (put (T.erase k)) .handle t ≤ μ (put T) .handle t := by
  have split := shelf.erase T k
  rw [← split, Pi.add_apply, Pi.add_apply]
  exact Nat.le_add_left _ _

/-- Nor are there more with an entry that holds nothing. -/
theorem Shelf.set_le (shelf : Shelf μ f put) (T : Table κ α) (k : κ) (bare : f a = 0)
    (t : TextureId) : μ (put (T.set k a)) .handle t ≤ μ (put T) .handle t := by
  have split := shelf.set T k a
  rw [bare, zero_add] at split
  rw [← split, Pi.add_apply, Pi.add_apply]
  exact Nat.le_add_left _ _

end Shelf

/-- The named handles are a shelf. -/
theorem owners_handles (s : Session) :
    Shelf owners (one .handle) fun handles => { s with handles } :=
  (shelf_handles s).all fun _ => rfl

/-- So are the named slots. -/
theorem owners_slots (s : Session) : Shelf owners Slot.owners fun slots => { s with slots } :=
  (shelf_slots s).all fun _ => rfl

/-- So are the named caches. -/
theorem owners_caches (s : Session) :
    Shelf owners SlotCache.owners fun caches => { s with caches } :=
  (shelf_caches s).all fun _ => rfl

-- ==================================================== handles with names

/-- Dropping a named handle tends every texture. -/
theorem letGoHandle_tends {handles : Table String TextureId} (o : Option TextureId)
    (fewer : ({ s with handles } : Session).owners .handle t ≤ n) :
    World.Tends orderly t s.world n ({ s with handles }.letGoTexture o).world
      (({ s with handles }.letGoTexture o).owners .handle t) := .letGoOf o s.world fewer

/-- A texture that a caller imports gets a name. -/
theorem importTexture_tends (owned : s.world.Owned s.owners) (name context : String)
    (p : Pipeline) (b : HardwareBuffer) (d : Dataspace) :
    Tends orderly t s (s.importTexture name context p b d).1 := by
  unfold Session.importTexture
  cases s.context? context with
  | none => exact .refl s
  | some c =>
    dsimp only
    by_cases alive : s.world.alive c
    · cases works : (s.world.backend c).importError with
      | some e =>
        simp only [World.importTexture, if_pos alive, works]
        exact .of_textures rfl (Nat.le_refl _)
      | none =>
        rw [importTexture_answer p b d alive works]
        refine World.Tends.trans (World.Tends.importTexture owned alive works fun ne => ?_)
          (letGoHandle_tends (s := { s with world := _ }) _ (Nat.le_refl _))
        have split := (owners_handles s).set s.handles name (s.world.imported + 1)
        have counted := congrFun (congrFun split .handle) t
        rw [handle_add_handle_of_ne ne, Pi.add_apply, Pi.add_apply] at counted
        exact Nat.le_of_add_left_le (Nat.le_of_eq counted)
    · simp only [World.importTexture, if_neg alive]
      exact .refl s

/-- A caller who releases a handle had a name for it. -/
theorem releaseHandle_tends (owned : s.world.Owned s.owners) (unnamed : orderly → s.Unnamed t)
    (name : String) (mode : TeardownMode) :
    Tends orderly t s (s.releaseHandle name mode).1 := by
  unfold Session.releaseHandle
  cases found : s.handles.get? name with
  | none => exact .refl s
  | some u =>
    have split := (owners_handles s).erase s.handles name
    rw [found] at split
    refine World.Tends.release mode ?_ fun _ => (owners_handles s).erase_le s.handles name t
    rintro rfl
    rw [show s.owners = _ from split.symm] at owned ⊢
    exact ⟨fun order => unnamed order name found, handle_pos t _, owned.last⟩

-- ==================================================== updaters

/-- An operation on one updater that is not loose tends every texture; `g` is in hand. -/
theorem onUpdater_tends {f : Updater → World → World × Updater}
    (owned : s.world.Owned (g + s.owners))
    (passes : ∀ u : Updater, ∀ r, Passes Entry.Any .harsh s.world (g + (u.owners + r))
      (f u s.world).1 ((f u s.world).2.owners + r)) :
    World.Tends orderly t s.world ((g + s.owners) .handle t) (s.onUpdater id f).world
      ((s.onUpdater id f).owners .handle t) := by
  cases entered : s.updaters.get? id with
  | none =>
    simp only [onUpdater, entered]
    exact .refl s.world (Nat.le_add_left _ _)
  | some h =>
    have held : (s.onUpdater id f).owners = (f h.value s.world).2.owners + s.besides id := by
      rw [onUpdater_eq entered]
      exact owners_set_updater s id _
    rw [onUpdater_eq entered] at held ⊢
    rw [held]
    rw [owners_eq_besides entered] at owned ⊢
    exact (passes h.value (s.besides id)).tends (by decide) owned t

/-- A function on an updater tends every texture if it passes them on. -/
theorem updater_tends {f : Updater → World → World × Updater} (owned : s.world.Owned s.owners)
    (passes : ∀ u : Updater, ∀ r, Passes Entry.Any .harsh s.world (u.owners + r) (f u s.world).1
      ((f u s.world).2.owners + r)) : Tends orderly t s (s.onUpdater id f) := by
  unfold Tends
  rw [← zero_add s.owners] at owned ⊢
  refine onUpdater_tends owned fun u r => ?_
  rw [zero_add]
  exact passes u r

-- ==================================================== steps

/-- What is calm tends every texture. -/
theorem Calm.tends (sound : s.Sound) (unnamed : orderly → s.Unnamed t) (calm : Calm s s') :
    Tends orderly t s s' := by
  have owned := sound.owned
  have always : ∀ e : Entry, Entry.Any e := fun _ => trivial
  cases calm with
  | aside h =>
    obtain ⟨world, updaters, images, handles, slots, caches⟩ := h.parts
    unfold Tends owners
    rw [world, updaters, images, handles, slots, caches]
    exact World.Tends.refl s.world (Nat.le_refl _)
  | remark | traces | adjustBackend | loseContext => exact .of_textures rfl (Nat.le_refl _)
  | createFence f useSync =>
    refine World.Tends.trans ?_ (.of_textures (createFence_textures f.gate _ useSync)
      (Nat.le_refl (s.owners .handle t)))
    split
    · unfold Slot.releaseQueue
      split
      · exact .releaseQueue _ _
      · exact .refl _ (Nat.le_refl _)
    · exact .refl _ (Nat.le_refl _)
  | waitFence g fd =>
    exact (g.wait_passes (P := Entry.Any) (m := .harsh) (fun _ => trivial) fd).tends (by decide)
      owned t
  | releaseQueue u => exact World.Tends.releaseQueue u s.world
  | @copyImage u copy held =>
    refine World.Tends.trans (.share u s.world (Nat.le_refl _)) ?_
    exact letGoImage_tends (s.onWorld (·.share u)) _ _
  | dropImage name => exact letGoImage_tends s _ _
  | importTexture name context p b d => exact importTexture_tends owned name context p b d
  | releaseHandle name mode => exact releaseHandle_tends owned unnamed name mode
  | dropHandle name =>
    exact letGoHandle_tends _ ((owners_handles s).erase_le s.handles name t)
  | newSlot name p =>
    have fewer := (owners_slots s).set_le s.slots name (a := .empty p) rfl t
    unfold Session.keepSlot discardSlot
    split
    · exact Slot.discard_tends _ s.world fewer
    · exact World.Tends.refl s.world fewer
  | dropSlot name =>
    have fewer := (owners_slots s).erase_le s.slots name t
    unfold Session.dropSlot discardSlot
    split
    · exact Slot.discard_tends _ s.world fewer
    · exact World.Tends.refl s.world fewer
  | resolveSlot name context frame image =>
    unfold Session.resolveSlot
    split
    · next slot c found context =>
      refine Tends.trans ?_ (keepOrDropImage_tends _ image _)
      exact (owners_slots s).tends found owned fun r owned =>
        slot.resolve_tends owned frame.buffer frame.dataspace frame.forceRecreate t
    · exact .refl s
  | clearSlot name mode =>
    unfold Session.clearSlot
    split
    · next slot found =>
      refine (owners_slots s).tends found owned fun r owned => ?_
      rw [Slot.clear_owners, zero_add]
      exact (slot.clear_passes (P := Entry.Any) (m := .harsh) mode (.inr (by decide))).tends
        (by decide) owned t
    · exact .refl s
  | newCache name p =>
    have fewer := (owners_caches s).set_le s.caches name (a := .empty p) rfl t
    unfold Session.keepCache discardCache
    split
    · exact SlotCache.discard_tends _ s.world fewer
    · exact World.Tends.refl s.world fewer
  | dropCache name =>
    have fewer := (owners_caches s).erase_le s.caches name t
    unfold Session.dropCache discardCache
    split
    · exact SlotCache.discard_tends _ s.world fewer
    · exact World.Tends.refl s.world fewer
  | resolveCached name context frame image =>
    unfold Session.resolveCached
    split
    · next cache c found context =>
      refine Tends.trans ?_ (keepOrDropImage_tends _ image _)
      exact (owners_caches s).tends found owned fun r owned =>
        cache.resolve_tends owned frame.slot frame.buffer frame.dataspace frame.forceRecreate t
    · exact .refl s
  | clearCached name slot mode =>
    unfold Session.clearCached
    split
    · next cache found =>
      exact (owners_caches s).tends found owned fun r owned =>
        (cache.clear_passes (P := Entry.Any) (m := .harsh) slot mode (.inr (by decide))).tends
          (by decide) owned t
    · exact .refl s
  | clearCache name mode =>
    unfold Session.clearCache
    split
    · next cache found =>
      refine (owners_caches s).tends found owned fun r owned => ?_
      rw [SlotCache.clearAll_owners, zero_add]
      exact (cache.clearAll_passes (P := Entry.Any) (m := .harsh) mode (.inr (by decide))).tends
        (by decide) owned t
    · exact .refl s
  | newUpdater c config sink =>
    have entered := owners_set_updater s s.fresh ⟨(Updater.new s.fresh c config).setSink sink, 1⟩
    have same := entered.trans ((zero_add _).trans
      (owners_eq_besides_of_none sound.numbered.unnamed).symm)
    exact World.Tends.refl s.world (Nat.le_of_eq (congrFun (congrFun same .handle) t))
  | hold id =>
    unfold Tends
    rw [hold_owners]
    exact World.Tends.refl s.world (Nat.le_refl _)
  | setter id setter =>
    refine updater_tends owned fun u r => ?_
    rw [setter_owners setter]
    exact .refl _ _ _ _
  | post id => exact updater_tends owned fun u r => u.post_passes fun e _ => always e
  | latch id frame issued =>
    exact updater_tends owned fun u r =>
      u.latch_passes (fun e _ => always e) frame issued trivial fun _ _ _ _ => trivial
  | @bind id u forceFilter transform crop held there =>
    have shared := (Transfer.share_of_held (P := Entry.Any) held owned).2
    refine World.Tends.trans (.share u s.world (Nat.le_of_eq (image_add_handle u t s.owners))) ?_
    exact onUpdater_tends (s := s.onWorld (·.share u)) shared fun v r =>
      v.bind_passes forceFilter transform crop trivial

/-- Whatever a session does, it tends every texture. -/
theorem Step.tends (sound : s.Sound) (unnamed : orderly → s.Unnamed t) (step : Step s s') :
    Tends orderly t s s' := by
  have owned := sound.owned
  have begun : ∀ id, Tends orderly t s
      (s.onUpdater id fun u w => ((u.beginApply w).world, (u.beginApply w).object)) := by
    refine fun id => updater_tends owned fun u r => ?_
    rw [u.beginApply_owners]
    exact u.beginApply_passes fun _ _ _ => trivial
  cases step with
  | calm h => exact h.tends sound unnamed
  | makeContext b => exact .of_textures rfl (Nat.le_refl _)
  | idle found live idle => exact begun _
  | ask found live asked => exact (begun _).trans (.of_textures rfl (Nat.le_refl _))
  | attach id name =>
    exact updater_tends (s := { s with fresh := s.fresh + 1 }) owned fun u r =>
      u.attach_passes (fun _ _ _ => trivial) (fun _ _ => trivial) _ trivial
  | detach id =>
    exact updater_tends owned fun u r =>
      u.detach_passes (fun _ _ _ => trivial) fun _ _ => trivial
  | teardown id mode =>
    exact updater_tends owned fun u r =>
      u.teardown_passes (fun _ _ _ => trivial) (fun _ _ => trivial) mode (.inr (by decide))
        fun _ _ => trivial
  | letGo id =>
    unfold Tends Session.letGo
    dsimp only
    cases entered : s.updaters.get? id with
    | none => exact World.Tends.refl s.world (Nat.le_refl _)
    | some h =>
      dsimp only
      split
      · rw [owners_eq_besides entered] at owned ⊢
        exact h.value.discard_tends owned t
      · rw [owners_set_updater, owners_eq_besides entered]
        exact .of_record rfl (Nat.le_refl _)

-- ==================================================== names of handles

/-- A texture without a name stays so while the names stay. -/
theorem Unnamed.of_handles (unnamed : s.Unnamed t) (same : s'.handles = s.handles) :
    s'.Unnamed t := by
  unfold Unnamed
  rw [same]
  exact unnamed

/-- And when a name is erased. -/
theorem Unnamed.erase (unnamed : s.Unnamed t) (name : String)
    (same : s'.handles = s.handles.erase name) : s'.Unnamed t := by
  intro name' found
  rw [same, Table.get?_erase] at found
  split at found
  · cases found
  · exact unnamed name' found

theorem onUpdater_handles (s : Session) (id : UpdaterId) (f : Updater → World → World × Updater) :
    (s.onUpdater id f).handles = s.handles := by
  unfold onUpdater
  cases s.updaters.get? id <;> rfl

theorem keepOrDropImage_handles (s : Session) (image : Option String) (o : Option TextureId) :
    (s.keepOrDropImage image o).handles = s.handles := by
  cases image <;> cases o <;> rfl

/-- A texture that an import answers is a new one. -/
theorem importTexture_new {w : World} {c : ContextId} {p : Pipeline} {b : HardwareBuffer}
    {d : Dataspace} (imported : (w.importTexture c p b d).2 = .ok t) : t = w.imported + 1 := by
  unfold World.importTexture at imported
  split at imported
  · split at imported
    · cases imported
    · exact (Except.ok.inj imported).symm
  · cases imported

/-- Only a handle that a caller imports gets a name, and that is a new one. -/
theorem Calm.unnamed (owned : s.world.Owned s.owners) (known : (s.world.texture? t).isSome)
    (calm : Calm s s') (unnamed : s.Unnamed t) : s'.Unnamed t := by
  have same : s'.handles = s.handles → s'.Unnamed t := unnamed.of_handles
  cases calm with
  | aside h => exact same h.parts.2.2.2.1
  | remark | traces | adjustBackend | loseContext | createFence | waitFence | releaseQueue
  | copyImage | dropImage | newUpdater | hold => exact same rfl
  | importTexture name context p b d =>
    unfold Session.importTexture
    cases s.context? context with
    | none => exact unnamed
    | some c =>
      dsimp only
      split
      · next u imported =>
        intro name' found
        have found : (s.handles.set name u).get? name' = some t := found
        rw [Table.get?_set] at found
        split at found
        · have new := importTexture_new imported
          cases found
          have counted := ((owned.numbered t).1 known).2
          exact absurd new (Nat.ne_of_lt (Nat.lt_succ_of_le counted))
        · exact unnamed name' found
      · exact unnamed
  | releaseHandle name mode =>
    unfold Session.releaseHandle
    split
    · exact unnamed
    · exact unnamed.erase name rfl
  | dropHandle name => exact unnamed.erase name rfl
  | newSlot name p =>
    refine same ?_
    unfold Session.keepSlot discardSlot
    split <;> rfl
  | dropSlot name =>
    refine same ?_
    unfold Session.dropSlot discardSlot
    split <;> rfl
  | resolveSlot name context frame image =>
    refine same ?_
    unfold Session.resolveSlot
    split
    · exact keepOrDropImage_handles _ _ _
    · rfl
  | clearSlot name mode =>
    refine same ?_
    unfold Session.clearSlot
    split <;> rfl
  | newCache name p =>
    refine same ?_
    unfold Session.keepCache discardCache
    split <;> rfl
  | dropCache name =>
    refine same ?_
    unfold Session.dropCache discardCache
    split <;> rfl
  | resolveCached name context frame image =>
    refine same ?_
    unfold Session.resolveCached
    split
    · exact keepOrDropImage_handles _ _ _
    · rfl
  | clearCached name slot mode =>
    refine same ?_
    unfold Session.clearCached
    split <;> rfl
  | clearCache name mode =>
    refine same ?_
    unfold Session.clearCache
    split <;> rfl
  | setter | post | latch => exact same (onUpdater_handles _ _ _)
  | bind => exact same (onUpdater_handles _ _ _)

/-- No step names a texture again. -/
theorem Step.unnamed (sound : s.Sound) (known : (s.world.texture? t).isSome) (step : Step s s')
    (unnamed : s.Unnamed t) : s'.Unnamed t := by
  have same : s'.handles = s.handles → s'.Unnamed t := unnamed.of_handles
  cases step with
  | calm h => exact h.unnamed sound.owned known unnamed
  | makeContext b => exact unnamed
  | idle | ask | attach | detach | teardown => exact same (onUpdater_handles _ _ _)
  | letGo id =>
    refine same ?_
    unfold Session.letGo
    dsimp only
    split
    · split <;> rfl
    · rfl

-- ==================================================== runs

/-- A texture whose handle has no name, and was dealt with in order so far. -/
structure Tidy (s : Session) (t : TextureId) : Prop where
  known : (s.world.texture? t).isSome
  unnamed : s.Unnamed t
  tended : s.world.Tended True t (s.owners .handle t)

/-- A step keeps a texture tidy, and what was released released. -/
theorem Tidy.step (sound : s.Sound) (tidy : s.Tidy t) (step : Step s s') :
    s'.Tidy t ∧ ∀ mode, s.world.released? t = some mode → s'.world.released? t = some mode := by
  obtain ⟨x, found⟩ := Option.isSome_iff_exists.1 tidy.known
  obtain ⟨y, found', -⟩ := step.stays sound found
  obtain ⟨tended, stays⟩ := step.tends sound (fun _ => tidy.unnamed) tidy.tended
  exact ⟨⟨by rw [found']; rfl, step.unnamed sound tidy.known tidy.unnamed, tended⟩, stays⟩

/-- It is dealt with in order from then on, and once it is released it stays so. -/
theorem Tidy.steps (sound : s.Sound) (tidy : s.Tidy t) (steps : Steps s s') :
    s'.Tidy t ∧ ∀ mode, s.world.released? t = some mode → s'.world.released? t = some mode := by
  induction steps with
  | refl => exact ⟨tidy, fun _ released => released⟩
  | tail before step ih =>
    obtain ⟨tidy, stays⟩ := ih
    obtain ⟨tidy', stays'⟩ := tidy.step (Steps.sound sound before) step
    exact ⟨tidy', fun mode released => stays' mode (stays mode released)⟩

/-- What was released in normal mode keeps nothing from the producer's queue. -/
theorem Tidy.returned (tidy : s.Tidy t) (normal : s.world.released? t = some .normal) :
    ¬ s.world.queueHeld t := by
  obtain ⟨x, found, released⟩ := Option.bind_eq_some_iff.1 normal
  unfold World.queueHeld
  rw [found]
  exact (tidy.tended x found).returned trivial released

/-- A texture whose handle is still there, wherever it is, was not released. -/
theorem Reachable.tended (reachable : s.Reachable) (t : TextureId) :
    s.world.Tended False t (s.owners .handle t) := by
  obtain ⟨minimal, b, steps⟩ := reachable
  replace steps : Steps { minimal } s := (start_steps minimal b).trans steps
  have tends : Tends False t { minimal } s := by
    induction steps with
    | refl => exact .refl _
    | tail before step ih =>
      exact ih.trans (step.tends (Steps.sound (sound_new minimal) before) False.elim)
  refine (tends ?_).1
  intro x found
  cases found

/-- While its handle is there, a texture was dealt with in order, if no name leads to it. -/
theorem Reachable.tidy (reachable : s.Reachable) (has : 0 < s.owners .handle t)
    (unnamed : s.Unnamed t) : s.Tidy t := by
  have counted : 0 < s.owners.count t := Nat.add_pos_left has _
  obtain ⟨x, found, -⟩ := reachable.sound.owned.found counted
  exact ⟨by rw [found]; rfl, unnamed, fun y found => (reachable.tended t y found).of_handle has⟩

end LayerFeed.Session
