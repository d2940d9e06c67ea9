/-
Operations that leave all updaters alone: those on images, handles, slots and caches
that have names, on contexts, fences, observers, sources and recorders. They are calm
steps, and they deal with what is named in any way they like, as one loose operation
on the world; no updater is in its footprint, and no entry tells of one.
-/
import LayerFeed.Proofs.Session.Step

namespace LayerFeed

open Owners World

/-- An entry that tells of no updater's doing. -/
def Entry.Plain (e : Entry) : Prop := e.by? = none

/-- An entry that is nobody's doing calls no source. -/
theorem Entry.Plain.quiet {e : Entry} (h : e.Plain) : e.Quiet := by
  cases e with
  | source => cases h
  | _ => rfl

theorem Entry.Plain.of_note (d : Diagnostic) : (Entry.note d).Plain := rfl

namespace Session

variable {s s' : Session} {t : TextureId} {g : Owners} {P : Entry → Prop} {m : Manner}

/-- A session with other updaters, or with other names for them, or with other numbers to
be given, has another roster. -/
def roster (s : Session) : Nat × Table UpdaterId (Held Updater) × Table String UpdaterId :=
  (s.fresh, s.updaters, s.updaterNames)

/-- An operation that leaves all updaters alone. -/
structure Aloof (s s' : Session) : Prop where
  steps : Steps s s'
  fresh : s.fresh ≤ s'.fresh
  updaters : s'.updaters = s.updaters
  names : s'.updaterNames = s.updaterNames
  passes : s.world.Owned s.owners →
    Passes Entry.Plain .loose s.world s.named s'.world s'.named

/-- What stands beside holds no textures. -/
theorem Beside.named (h : Beside s s') : s'.named = s.named := by
  obtain ⟨-, -, images, handles, slots, caches⟩ := h.parts
  unfold Session.named
  rw [images, handles, slots, caches]

namespace Aloof

/-- A calm change that leaves the roster alone is aloof. -/
theorem of_calm (calm : Calm s s') (same : s'.roster = s.roster)
    (passes : s.world.Owned s.owners →
      Passes Entry.Plain .loose s.world s.named s'.world s'.named) : Aloof s s' := by
  unfold roster at same
  rw [Prod.mk.injEq, Prod.mk.injEq] at same
  exact ⟨calm.steps, Nat.le_of_eq same.1.symm, same.2.1, same.2.2, passes⟩

theorem refl (s : Session) : Aloof s s :=
  ⟨.refl, Nat.le_refl _, rfl, rfl, fun _ => .refl _ _ _ _⟩

/-- Nothing that holds a texture changes. -/
theorem beside (h : Beside s s') (names : s'.updaterNames = s.updaterNames) : Aloof s s' := by
  refine ⟨h.steps, h.fresh, h.parts.2.1, names, fun _ => ?_⟩
  rw [h.parts.1]
  exact (Passes.refl _ _ _ _).of_eq rfl h.named

/-- An operation that leaves updaters alone passes on what is named. -/
theorem transfer (h : Aloof s s') :
    Transfer Entry.Quiet s.world s.owners s'.world s'.owners := by
  intro owned
  have passes := (h.passes owned).mono fun _ plain => plain.quiet
  rw [owners_eq_named] at owned ⊢
  rw [h.updaters]
  exact (passes.frame _).transfer owned

/-- One aloof operation follows another. -/
theorem trans {s'' : Session} (first : Aloof s s') (second : Aloof s' s'') : Aloof s s'' where
  steps := Relation.ReflTransGen.trans first.steps second.steps
  fresh := Nat.le_trans first.fresh second.fresh
  updaters := second.updaters.trans first.updaters
  names := second.names.trans first.names
  passes owned := (first.passes owned).trans (second.passes (first.transfer owned).2)

/-- An entry that tells of no updater. -/
theorem remark {e : Entry} (remark : e.isRemark) (plain : e.Plain) : Aloof s (s.record e) := by
  refine of_calm (.remark e remark plain.quiet) rfl fun _ => .remark e remark ?_ plain
  cases e with
  | latched => cases plain
  | _ => rfl

theorem traces (traces : Traces) : Aloof s { s with world.traces := traces } :=
  of_calm (.traces traces) rfl fun _ => .aside _ _ traces

/-- No updater is touched where the backend of a context changes. -/
theorem adjustBackend (c : ContextId) (settings : List BackendSetting) :
    Aloof s (s.onWorld (·.adjustBackend c settings)) :=
  of_calm (.adjustBackend c settings) rfl fun _ => .single (.adjustBackend c settings)

/-- No updater is touched where a context is marked as lost. -/
theorem loseContext {c : ContextId} (observers : Nat) (alive : s.world.alive c) :
    Aloof s (s.onWorld (·.loseContext c observers)) :=
  of_calm (.loseContext observers alive) rfl fun _ => .single (.loseContext observers alive)

/-- A fence callback whose previous slot is named. -/
theorem createFence (f : DequeueFences) (useSync : Bool)
    (there : ∃ r, s.named = f.previous.elim 0 Slot.owners + r) :
    Aloof s { s with world := (f.createFence s.world useSync).world } := by
  refine of_calm (.createFence f useSync) rfl fun _ => ?_
  obtain ⟨r, owned⟩ := there
  exact (f.createFence_passes Entry.Plain.of_note useSync).of_eq owned owned

theorem waitFence (g : FenceGate) (fd : FenceFd) :
    Aloof s { s with world := (g.wait s.world fd).1 } :=
  of_calm (.waitFence g fd) rfl fun _ => g.wait_passes Entry.Plain.of_note fd

end Aloof

-- ==================================================== one entry of a shelf

section Shelf

variable {κ α : Type} [DecidableEq κ] {μ : Session → Owners} {f : α → Owners}
  {put : Table κ α → Session} {T : Table κ α} {k : κ} {a a' : α} {w w' : World}

/-- An operation on one entry hands out `g`, with the rest as its frame. -/
theorem Shelf.give (shelf : Shelf μ f put) (found : T.get? k = some a)
    (law : ∀ r, Passes P m w (f a + r) w' (g + (f a' + r))) :
    Passes P m w (μ (put T)) w' (g + μ (put (T.set k a'))) := by
  obtain ⟨r, held⟩ := shelf
  rw [held, held, Table.owners_of_get? found, Table.owners_set, add_assoc, add_assoc]
  exact law _

/-- An entry that is there is held beside a rest. -/
theorem Shelf.there (shelf : Shelf μ f put) (found : T.get? k = some a) :
    ∃ r, μ (put T) = f a + r := by
  obtain ⟨r, held⟩ := shelf
  exact ⟨_, by rw [held, Table.owners_of_get? found, add_assoc]⟩

end Shelf

-- ==================================================== images and handles

/-- An image in hand gets a name, and the image that had it goes. -/
theorem keepImage_passes (name : String) :
    Passes P m s.world (one .image t + s.named) (s.keepImage name t).world
      (s.keepImage name t).named :=
  (Passes.letGoOf (s.images.get? name)).of_eq ((shelf_images s).set s.images name t).symm rfl

/-- An image gets a name or goes away. -/
theorem keepOrDropImage_passes (name : Option String) (o : Option TextureId) :
    Passes P m s.world (oneOf .image o + s.named) (s.keepOrDropImage name o).world
      (s.keepOrDropImage name o).named := by
  cases o with
  | none => cases name <;> exact (Passes.refl P _ _ _).of_eq (zero_add _) rfl
  | some t =>
    cases name with
    | some name => exact keepImage_passes name
    | none => exact .letGo

/-- A handle that may be there is dropped. -/
theorem dropped_passes (o : Option TextureId) :
    Passes P .loose s.world (oneOf .handle o + g) (s.letGoTexture o).world g := by
  cases o with
  | none => exact (Passes.refl P _ _ _).of_eq (zero_add _) rfl
  | some t => exact .single (.discard rfl)

/-- A handle gets a name, and the one that had it goes away. -/
theorem keepHandle_passes (name : String) :
    Passes P .loose s.world (one .handle t + s.named) (s.keepHandle name t).world
      (s.keepHandle name t).named :=
  (dropped_passes (s := { s with handles := _ }) (s.handles.get? name)).of_eq
    ((shelf_handles s).set s.handles name t).symm rfl

namespace Aloof

/-- An image of a texture that somebody holds gets a name. -/
theorem copyImage (copy : String) (held : 0 < s.owners.count t) :
    Aloof s ((s.onWorld (·.share t)).keepImage copy t) := by
  refine of_calm (.copyImage copy held) rfl fun owned => ?_
  have counted : 0 < s.world.holders t := by rwa [owned.held]
  exact Relation.ReflTransGen.trans (.single (.share (.inr counted)))
    (keepImage_passes (s := s.onWorld (·.share t)) copy)

theorem dropImage (name : String) : Aloof s (s.dropImage name) := by
  refine of_calm (.dropImage name) rfl fun _ => ?_
  exact (Passes.letGoOf (s.images.get? name)).of_eq
    ((shelf_images s).erase s.images name).symm rfl

/-- An import that works leaves a handle that has a name. -/
theorem importTexture (name context : String) (p : Pipeline) (b : HardwareBuffer)
    (d : Dataspace) : Aloof s (s.importTexture name context p b d).1 := by
  refine of_calm (.importTexture name context p b d) ?_ fun _ => ?_
  · unfold Session.importTexture
    split
    · rfl
    · dsimp only
      split <;> rfl
  · unfold Session.importTexture
    cases s.context? context with
    | none => exact .refl _ _ _ _
    | some c =>
      have imported := Passes.importing (P := Entry.Plain) (m := .loose) (w := s.world) (c := c)
        (p := p) (b := b) (d := d) (f := s.named)
      dsimp only
      generalize s.world.importTexture c p b d = after at imported
      cases answer : after.2 with
      | ok t =>
        rw [answer] at imported
        exact imported.trans (keepHandle_passes (s := { s with world := after.1 }) name)
      | error e =>
        rw [answer] at imported
        exact imported.of_eq rfl (zero_add _).symm

/-- A handle is released, and its name with it. -/
theorem releaseHandle (name : String) (mode : TeardownMode) :
    Aloof s (s.releaseHandle name mode).1 := by
  refine of_calm (.releaseHandle name mode) ?_ fun _ => ?_
  · unfold Session.releaseHandle
    split <;> rfl
  · unfold Session.releaseHandle
    cases found : s.handles.get? name with
    | none => exact .refl _ _ _ _
    | some t =>
      have others := (shelf_handles s).erase s.handles name
      rw [found] at others
      exact Passes.of_eq (.single (.release mode rfl)) others.symm rfl

theorem dropHandle (name : String) : Aloof s (s.dropHandle name) := by
  refine of_calm (.dropHandle name) rfl fun _ => ?_
  exact (dropped_passes (s := { s with handles := _ }) (s.handles.get? name)).of_eq
    ((shelf_handles s).erase s.handles name).symm rfl

/-- A buffer is handed back by a handle that is named. -/
theorem releaseQueue (there : ∃ r, s.named = one .handle t + r) :
    Aloof s (s.onWorld fun w => (w.releaseQueue t).1) := by
  refine of_calm (.releaseQueue t) rfl fun _ => ?_
  obtain ⟨r, owned⟩ := there
  exact Passes.handBack.of_eq owned owned

end Aloof

-- ==================================================== slots and caches

/-- A slot goes away with its handle. -/
theorem discardSlot_passes (o : Option Slot) :
    Passes P .loose s.world (o.elim 0 Slot.owners + s.named) (s.discardSlot o).world
      (s.discardSlot o).named := by
  cases o with
  | none => exact (Passes.refl P _ _ _).of_eq (zero_add _) rfl
  | some old => exact old.discard_passes

/-- A cache goes away with its handles. -/
theorem discardCache_passes (o : Option SlotCache) :
    Passes P .loose s.world (o.elim 0 SlotCache.owners + s.named) (s.discardCache o).world
      (s.discardCache o).named := by
  cases o with
  | none => exact (Passes.refl P _ _ _).of_eq (zero_add _) rfl
  | some old => exact old.discard_passes (.inl rfl)

theorem discardSlot_roster (s : Session) (o : Option Slot) :
    (s.discardSlot o).roster = s.roster := by
  cases o <;> rfl

theorem discardCache_roster (s : Session) (o : Option SlotCache) :
    (s.discardCache o).roster = s.roster := by
  cases o <;> rfl

/-- Images are none of the updaters' business. -/
theorem keepOrDropImage_roster (s : Session) (name : Option String) (o : Option TextureId) :
    (s.keepOrDropImage name o).roster = s.roster := by
  cases name <;> cases o <;> rfl

namespace Aloof

/-- An empty slot gets a name, and the slot that had it goes. -/
theorem newSlot (name : String) (p : Pipeline) : Aloof s (s.keepSlot name (.empty p)) := by
  refine of_calm (.newSlot name p) (discardSlot_roster _ _) fun _ => ?_
  have entered := (shelf_slots s).set s.slots name (.empty p)
  exact (discardSlot_passes (s := { s with slots := s.slots.set name (.empty p) })
    (s.slots.get? name)).of_eq ((zero_add _).symm.trans entered.symm) rfl

theorem dropSlot (name : String) : Aloof s (s.dropSlot name) := by
  refine of_calm (.dropSlot name) (discardSlot_roster _ _) fun _ => ?_
  exact (discardSlot_passes (s := { s with slots := _ }) (s.slots.get? name)).of_eq
    ((shelf_slots s).erase s.slots name).symm rfl

theorem newCache (name : String) (p : Pipeline) : Aloof s (s.keepCache name (.empty p)) := by
  refine of_calm (.newCache name p) (discardCache_roster _ _) fun _ => ?_
  have entered := (shelf_caches s).set s.caches name (.empty p)
  exact (discardCache_passes (s := { s with caches := s.caches.set name (.empty p) })
    (s.caches.get? name)).of_eq ((zero_add _).symm.trans entered.symm) rfl

theorem dropCache (name : String) : Aloof s (s.dropCache name) := by
  refine of_calm (.dropCache name) (discardCache_roster _ _) fun _ => ?_
  exact (discardCache_passes (s := { s with caches := _ }) (s.caches.get? name)).of_eq
    ((shelf_caches s).erase s.caches name).symm rfl

/-- A slot is resolved, and the image kept or dropped. -/
theorem resolveSlot (name context : String) (frame : Frame) (image : Option String) :
    Aloof s (s.resolveSlot name context frame image).1 := by
  refine of_calm (.resolveSlot name context frame image) ?_ fun _ => ?_
  · unfold Session.resolveSlot
    split
    · exact keepOrDropImage_roster _ _ _
    · rfl
  · unfold Session.resolveSlot
    split
    · next slot c found _ =>
      have resolved := (shelf_slots s).give found fun r =>
        Slot.resolve_passes (w := s.world) (c := c) (r := r) (fun _ _ => Entry.Plain.of_note _)
          slot frame.buffer frame.dataspace frame.forceRecreate
      exact resolved.trans
        (keepOrDropImage_passes (s := { s with world := _, slots := _ }) image _)
    · exact .refl _ _ _ _

/-- A slot of a cache is resolved, and the image kept or dropped. -/
theorem resolveCached (name context : String) (frame : Frame) (image : Option String) :
    Aloof s (s.resolveCached name context frame image).1 := by
  refine of_calm (.resolveCached name context frame image) ?_ fun _ => ?_
  · unfold Session.resolveCached
    split
    · exact keepOrDropImage_roster _ _ _
    · rfl
  · unfold Session.resolveCached
    split
    · next cache c found _ =>
      have resolved := (shelf_caches s).give found fun r =>
        SlotCache.resolve_passes (w := s.world) (c := c) (r := r)
          (fun _ _ => Entry.Plain.of_note _) cache frame.slot frame.buffer frame.dataspace
          frame.forceRecreate
      exact resolved.trans
        (keepOrDropImage_passes (s := { s with world := _, caches := _ }) image _)
    · exact .refl _ _ _ _

theorem clearSlot (name : String) (mode : TeardownMode) :
    Aloof s (s.clearSlot name mode).1 := by
  refine of_calm (.clearSlot name mode) ?_ fun _ => ?_
  · unfold Session.clearSlot
    split <;> rfl
  · unfold Session.clearSlot
    cases found : s.slots.get? name with
    | none => exact .refl _ _ _ _
    | some slot =>
      refine ((shelf_slots s).give (g := 0) found fun r => ?_).of_eq rfl (zero_add _).symm
      exact (slot.clear_passes mode (.inr (by decide))).of_eq rfl
        (by rw [Slot.clear_owners, zero_add, zero_add])

theorem clearCached (name : String) (slot : SlotId) (mode : TeardownMode) :
    Aloof s (s.clearCached name slot mode).1 := by
  refine of_calm (.clearCached name slot mode) ?_ fun _ => ?_
  · unfold Session.clearCached
    split <;> rfl
  · unfold Session.clearCached
    cases found : s.caches.get? name with
    | none => exact .refl _ _ _ _
    | some cache =>
      refine ((shelf_caches s).give (g := 0) found fun r => ?_).of_eq rfl (zero_add _).symm
      exact (cache.clear_passes slot mode (.inr (by decide))).of_eq rfl (zero_add _)

theorem clearCache (name : String) (mode : TeardownMode) :
    Aloof s (s.clearCache name mode).1 := by
  refine of_calm (.clearCache name mode) ?_ fun _ => ?_
  · unfold Session.clearCache
    split <;> rfl
  · unfold Session.clearCache
    cases found : s.caches.get? name with
    | none => exact .refl _ _ _ _
    | some cache =>
      refine ((shelf_caches s).give (g := 0) found fun r => ?_).of_eq rfl (zero_add _).symm
      exact (cache.clearAll_passes mode (.inr (by decide))).of_eq rfl
        (by rw [SlotCache.clearAll_owners, zero_add, zero_add])

end Aloof

end Session

end LayerFeed
