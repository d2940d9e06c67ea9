/-
Slots and caches as owners of textures. A slot is the handle of the texture that
it holds, a cache is what its slots are, and each operation passes textures on
as its signature shows: clearing gives the handle up, a resolution that answers
an image makes that image a holder of its own.

The operations that only change slots remark nothing; one that imports may remark
that the import failed. A slot that is cleared gives its handle up in order. One that
goes away drops it, and one that finds its texture again without an updater's history
telling of it is dealt with loosely as well; where the history tells, a resolution and
the entry that tells of it are one operation (`resolve_latched_passes`).
-/
import LayerFeed.SlotCache
import LayerFeed.Proofs.World.Passes

namespace LayerFeed

open Owners

variable {P : Entry → Prop} {m : Manner} {w : World} {r : Owners} {c : ContextId} {t : TextureId}

-- ==================================================== owners in a table

namespace Table

variable {κ α : Type} {f : α → Owners}

/-- What the values of a table hold together. -/
def owners (f : α → Owners) (T : Table κ α) : Owners := fun k t => T.total fun a => f a k t

variable [DecidableEq κ]

/-- Taking an entry out of a table takes out what it holds. -/
theorem owners_erase (T : Table κ α) (k : κ) :
    T.owners f = (T.get? k).elim 0 f + (T.erase k).owners f := by
  funext j t
  have split := total_erase (fun a => f a j t) T k
  rw [Pi.add_apply, Pi.add_apply]
  unfold owners
  cases h : T.get? k with
  | none => simpa [h] using split.symm
  | some a =>
    rw [h] at split
    dsimp only [Option.elim] at split ⊢
    omega

/-- An entered value holds what it holds, beside the other entries. -/
theorem owners_set (T : Table κ α) (k : κ) (v : α) :
    (T.set k v).owners f = f v + (T.erase k).owners f := by
  funext j t
  have entered := total_set (fun a => f a j t) T k v
  have split := total_erase (fun a => f a j t) T k
  rw [Pi.add_apply, Pi.add_apply]
  unfold owners
  omega

/-- A table holds what one of its values holds, and what all others do. -/
theorem owners_of_get? {T : Table κ α} {k : κ} {v : α} (h : T.get? k = some v) :
    T.owners f = f v + (T.erase k).owners f := by
  rw [owners_erase T k, h]
  rfl

/-- A value can be replaced by one that holds the same. -/
theorem owners_set_of_eq {T : Table κ α} {k : κ} {v a : α} (h : T.get? k = some a)
    (same : f v = f a) : (T.set k v).owners f = T.owners f := by
  rw [owners_set, owners_of_get? h, same]

end Table

-- ==================================================== slots

open World

namespace Slot

/-- What a slot holds. -/
def owners (s : Slot) : Owners := oneOf .handle s.texture

/-- A slot may be asked to hand its buffer back when it is gone. -/
theorem releaseQueue_transfer (s : Slot) : Transfer P w r (s.releaseQueue w).1 r := by
  unfold releaseQueue
  cases s.texture with
  | none => exact .refl P w r
  | some t => exact .releaseQueue

/-- A slot whose buffer goes back holds what it held. -/
theorem handBack_passes (s : Slot) :
    Passes P m w (s.owners + r) (s.releaseQueue w).1 (s.owners + r) := by
  unfold releaseQueue owners
  cases s.texture with
  | none => exact .refl P m w _
  | some t => exact .handBack

/-- A slot that is cleared holds nothing. -/
theorem clear_owners (s : Slot) (w : World) (mode : TeardownMode) :
    (s.clear w mode).object.owners = 0 := by
  unfold clear
  cases s.texture <;> rfl

/-- A slot that is cleared forgets its buffer and its texture, and stays with its pipeline. -/
theorem clear_object (s : Slot) (w : World) (mode : TeardownMode) :
    (s.clear w mode).object
      = { s with buffer := none, dataspace := .unknown, texture := none } := by
  unfold clear
  cases s.texture <;> rfl

/-- A slot that is cleared gives its handle up. -/
theorem clear_passes (s : Slot) (mode : TeardownMode) (allowed : mode = .normal ∨ m ≠ .gentle) :
    Passes P m w (s.owners + r) (s.clear w mode).world r := by
  unfold clear owners
  cases s.texture with
  | none => exact (Passes.refl P m w r).of_eq (zero_add r) rfl
  | some t => exact .single (.giveUp mode allowed)

/-- A slot that goes away lets go of its handle, in whatever way. -/
theorem discard_passes (s : Slot) : Passes P .loose w (s.owners + r) (s.discard w) r := by
  unfold discard owners
  cases s.texture with
  | none => exact (Passes.refl P _ w r).of_eq (zero_add r) rfl
  | some t => exact .single (.discard rfl)

section Resolve

variable (failed : ∀ b e, P (.note (.importFailed b e)))

/-- An empty slot is never filled with a texture that it found. -/
theorem fill_answer (s : Slot) (buffer : HardwareBuffer) (dataspace : Dataspace) (t : TextureId) :
    (s.fill w c buffer dataspace).answer ≠ .cached t := by
  unfold fill
  dsimp only
  split <;> nofun

/-- A resolution finds the texture of the slot, or clears the slot and fills it. -/
theorem resolve_cases (s : Slot) (w : World) (c : ContextId) (buffer : HardwareBuffer)
    (dataspace : Dataspace) (force : Bool) :
    (∃ t, s.texture = some t
        ∧ s.resolve w c buffer dataspace force = ⟨(w.reacquireQueue t).share t, s, .cached t⟩)
      ∨ s.resolve w c buffer dataspace force
        = (s.clear w .normal).object.fill (s.clear w .normal).world c buffer dataspace := by
  unfold resolve
  cases found : if force then none else s.match? w buffer dataspace with
  | none => exact .inr rfl
  | some t =>
    refine .inl ⟨t, ?_, rfl⟩
    cases force with
    | true => cases found
    | false => exact (Option.filter_eq_some_iff.1 found).1

include failed

/-- An import into an empty slot makes a handle, which the slot keeps, and an image,
or nothing at all. -/
theorem fill_passes (s : Slot) (buffer : HardwareBuffer) (dataspace : Dataspace)
    (empty : s.texture = none) :
    let filled := s.fill w c buffer dataspace
    Passes P m w r filled.world
      (oneOf .image filled.answer.image? + (filled.object.owners + r)) := by
  have imported := Passes.importing (P := P) (m := m) (w := w) (c := c) (p := s.pipeline)
    (b := buffer) (d := dataspace) (f := r)
  unfold fill
  dsimp only
  generalize w.importTexture c s.pipeline buffer dataspace = after at imported
  cases answer : after.2 with
  | ok t =>
    rw [answer] at imported
    exact imported.trans .share
  | error e =>
    rw [answer] at imported
    refine (imported.trans (.remark _ rfl rfl (failed _ _))).of_eq rfl ?_
    rw [owners, empty]
    exact zero_add _

/-- A slot that is cleared and filled has given one handle up and got another one. -/
theorem refill_passes (s : Slot) (buffer : HardwareBuffer) (dataspace : Dataspace) :
    let filled := (s.clear w .normal).object.fill (s.clear w .normal).world c buffer dataspace
    Passes P m w (s.owners + r) filled.world
      (oneOf .image filled.answer.image? + (filled.object.owners + r)) := by
  refine (s.clear_passes .normal (.inl rfl)).trans (fill_passes failed _ buffer dataspace ?_)
  rw [clear_object]

/-- A resolution makes the image that it answers. -/
theorem resolve_passes (s : Slot) (buffer : HardwareBuffer) (dataspace : Dataspace)
    (force : Bool) :
    let resolved := s.resolve w c buffer dataspace force
    Passes P .loose w (s.owners + r) resolved.world
      (oneOf .image resolved.answer.image? + (resolved.object.owners + r)) := by
  rcases s.resolve_cases w c buffer dataspace force with ⟨t, texture, found⟩ | filled
  · have owned : s.owners = one .handle t := by rw [owners, texture, oneOf_some]
    rw [found]
    dsimp only
    rw [owned]
    exact (Relation.ReflTransGen.single (.reacquire rfl)).trans Passes.share
  · rw [filled]
    exact refill_passes failed s buffer dataspace

/-- A resolution that an updater's history tells of. -/
theorem resolve_latched_passes (s : Slot) (buffer : HardwareBuffer) (dataspace : Dataspace)
    (force : Bool) (id : UpdaterId) (frame : Frame)
    (told : P (.latched id frame (s.resolve w c buffer dataspace force).answer)) :
    let resolved := s.resolve w c buffer dataspace force
    Passes P m w (s.owners + r) (resolved.world.record (.latched id frame resolved.answer))
      (oneOf .image resolved.answer.image? + (resolved.object.owners + r)) := by
  rcases s.resolve_cases w c buffer dataspace force with ⟨t, texture, found⟩ | filled
  · have owned : s.owners = one .handle t := by rw [owners, texture, oneOf_some]
    rw [found] at told ⊢
    dsimp only
    rw [owned]
    exact .single (.redeliver id frame told)
  · have answer : ∀ t, (s.resolve w c buffer dataspace force).answer ≠ .cached t := by
      rw [filled]
      exact fill_answer _ buffer dataspace
    intro resolved
    have plain : (Entry.latched id frame resolved.answer).redelivered? = none := by
      cases resolution : resolved.answer with
      | cached t => exact absurd resolution (answer t)
      | created t => rfl
      | unavailable => rfl
    refine Passes.trans ?_ (.remark _ rfl plain told)
    unfold resolved
    rw [filled]
    exact refill_passes failed s buffer dataspace

end Resolve

end Slot

-- ==================================================== caches

namespace SlotCache

/-- What the slots of a cache hold together. -/
def owners (cache : SlotCache) : Owners := cache.slots.owners Slot.owners

/-- A cache holds what the entry of a slot holds, beside its other entries. -/
theorem owners_entry (cache : SlotCache) (slot : SlotId) :
    cache.owners = ((cache.get? slot).getD (.empty cache.pipeline)).owners
      + (cache.slots.erase slot).owners Slot.owners := by
  rw [owners, Table.owners_erase cache.slots slot, get?]
  cases cache.slots.get? slot <;> rfl

/-- A cache holds what one of its slots holds, and what all others do. -/
theorem owners_of_get? {cache : SlotCache} {slot : SlotId} {entry : Slot}
    (found : cache.get? slot = some entry) :
    cache.owners = entry.owners + (cache.slots.erase slot).owners Slot.owners := by
  rw [cache.owners_entry slot, found]
  rfl

/-- A cache one of whose buffers goes back holds what it held. -/
theorem handBack_passes (cache : SlotCache) (slot : SlotId) :
    Passes P m w (cache.owners + r) (cache.releaseQueue w slot).1 (cache.owners + r) := by
  unfold releaseQueue
  cases found : cache.get? slot with
  | none => exact .refl P m w _
  | some entry =>
    rw [owners_of_get? found, add_assoc]
    exact entry.handBack_passes

/-- A slot of a cache that is cleared gives its handle up; the others keep theirs. -/
theorem clear_passes (cache : SlotCache) (slot : SlotId) (mode : TeardownMode)
    (allowed : mode = .normal ∨ m ≠ .gentle) :
    let cleared := cache.clear w slot mode
    Passes P m w (cache.owners + r) cleared.world (cleared.object.owners + r) := by
  unfold clear
  cases found : cache.get? slot with
  | none => exact .refl P m w _
  | some entry =>
    refine (entry.clear_passes (r := (cache.slots.erase slot).owners Slot.owners + r)
      mode allowed).of_eq ?_ ?_
    · rw [owners_of_get? found, add_assoc]
    · rw [owners, Table.owners_set, Slot.clear_owners, zero_add]

/-- A cache holds what its slots hold, one after the other. -/
theorem values_owners (cache : SlotCache) :
    cache.owners = (cache.slots.values.map Slot.owners).sum := by
  funext k t
  rw [owners, Table.owners, Table.total, Table.values]
  generalize cache.slots.entries = rows
  induction rows with
  | nil => rfl
  | cons row rows ih =>
    rw [Table.sumRows, ih, List.map_cons, List.map_cons, List.sum_cons]
    rfl

/-- The number that clearing slots answers is how many held a texture. -/
theorem clearSlots_answer (w : World) (mode : TeardownMode) (slots : List Slot) :
    (clearSlots w mode slots).2 = slots.countP (!·.isEmpty) := by
  induction slots generalizing w with
  | nil => rfl
  | cons slot slots ih =>
    have cleared : (slot.clear w mode).answer.isSome = !slot.isEmpty := by
      unfold Slot.clear Slot.isEmpty
      cases slot.texture <;> rfl
    rw [List.countP_cons, ← ih (slot.clear w mode).world, ← cleared, clearSlots]
    dsimp only
    cases (slot.clear w mode).answer.isSome <;> rfl

/-- Clearing slots one after the other gives up all their handles. -/
theorem clearSlots_passes (mode : TeardownMode) (allowed : mode = .normal ∨ m ≠ .gentle)
    (slots : List Slot) :
    Passes P m w ((slots.map Slot.owners).sum + r) (clearSlots w mode slots).1 r := by
  induction slots generalizing w with
  | nil => exact (Passes.refl P m w r).of_eq (zero_add r) rfl
  | cons slot slots ih =>
    refine ((slot.clear_passes mode allowed).trans ih).of_eq ?_ rfl
    rw [List.map_cons, List.sum_cons, add_assoc]

/-- A cache that is cleared gives up all its handles. -/
theorem clearAll_passes (cache : SlotCache) (mode : TeardownMode)
    (allowed : mode = .normal ∨ m ≠ .gentle) :
    Passes P m w (cache.owners + r) (cache.clearAll w mode).world r :=
  (clearSlots_passes mode allowed cache.slots.values).of_eq (by rw [values_owners]) rfl

/-- A cache that is cleared answers how many textures it had. -/
theorem clearAll_answer (cache : SlotCache) (w : World) (mode : TeardownMode) :
    (cache.clearAll w mode).answer = cache.liveTextures := clearSlots_answer w mode _

theorem clearAll_owners (cache : SlotCache) (mode : TeardownMode) :
    (cache.clearAll w mode).object.owners = 0 := rfl

/-- A cache that goes away drops its handles; one without entries drops nothing. -/
theorem discard_passes (cache : SlotCache) (proper : m = .loose ∨ cache.slots = ∅) :
    Passes P m w (cache.owners + r) (cache.discard w) r := by
  rcases proper with rfl | empty
  · rw [values_owners]
    unfold discard
    generalize cache.slots.values = slots
    induction slots generalizing w with
    | nil => exact (Passes.refl P _ w r).of_eq (zero_add r) rfl
    | cons slot slots ih =>
      refine (slot.discard_passes.trans ih).of_eq ?_ rfl
      rw [List.map_cons, List.sum_cons, add_assoc]
  · unfold discard owners
    rw [empty]
    exact (Passes.refl P m w r).of_eq (zero_add r) rfl

section Resolve

variable (failed : ∀ b e, P (.note (.importFailed b e))) (cache : SlotCache) (slot : SlotId)
  (buffer : HardwareBuffer) (dataspace : Dataspace) (force : Bool)

include failed

/-- A resolution in a cache makes the image that it answers. -/
theorem resolve_passes :
    let resolved := cache.resolve w c slot buffer dataspace force
    Passes P .loose w (cache.owners + r) resolved.world
      (oneOf .image resolved.answer.image? + (resolved.object.owners + r)) := by
  refine (Slot.resolve_passes (r := (cache.slots.erase slot).owners Slot.owners + r) failed _
    buffer dataspace force).of_eq ?_ ?_
  · rw [cache.owners_entry slot, add_assoc]
  · rw [resolve, owners, Table.owners_set, add_assoc]

/-- A frame that is resolved and told of leaves one handle in its slot, perhaps another one. -/
theorem resolve_latched_passes (id : UpdaterId) (frame : Frame)
    (told : P (.latched id frame (cache.resolve w c slot buffer dataspace force).answer)) :
    let resolved := cache.resolve w c slot buffer dataspace force
    Passes P m w (cache.owners + r) (resolved.world.record (.latched id frame resolved.answer))
      (oneOf .image resolved.answer.image? + (resolved.object.owners + r)) := by
  refine (Slot.resolve_latched_passes (r := (cache.slots.erase slot).owners Slot.owners + r)
    failed _ buffer dataspace force id frame told).of_eq ?_ ?_
  · rw [cache.owners_entry slot, add_assoc]
  · rw [resolve, owners, Table.owners_set, add_assoc]

end Resolve

end SlotCache

end LayerFeed
