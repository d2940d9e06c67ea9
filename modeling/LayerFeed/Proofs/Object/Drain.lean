/-
What clearing slots leaves, in closed form. Clearing one slot changes the record of its
texture, by a function that is the same for all textures (`Texture.givenUp`), and adds to the
history calls for that texture alone, which depend on nothing but its record and on whether its
context is alive (`World.parting`). So as long as no texture stands in two of the slots, clearing
them one after the other changes each record once and adds the partings, as they would be from
the world at the start, one after the other (`clearSlots_world`).

Both the changes and the partings can then be taken in any order (`drained_scatters`): the world
ends the same, but for the order in which the history has the partings of different textures.
-/
import LayerFeed.Proofs.Object.Slots
import LayerFeed.Proofs.World.Writes
import LayerFeed.Session.Shown
import Mathlib.Data.List.Nodup

namespace LayerFeed

open Owners World

-- ==================================================== tables in another order

namespace Table

variable {κ α : Type} [DecidableEq κ] {T T' : Table κ α} {k : κ}

/-- Rows with the same distinct keys in order and the same values are the same. -/
private theorem rows_ext {rows rows' : List (κ × α)} (nodup : (rows.map Prod.fst).Nodup)
    (keys : rows.map Prod.fst = rows'.map Prod.fst)
    (same : ∀ k, findRow k rows = findRow k rows') : rows = rows' := by
  induction rows generalizing rows' with
  | nil =>
    cases rows' with
    | nil => rfl
    | cons row' rows' => cases keys
  | cons row rows ih =>
    cases rows' with
    | nil => cases keys
    | cons row' rows' =>
      obtain ⟨i, a⟩ := row
      obtain ⟨j, b⟩ := row'
      obtain ⟨key, others⟩ : i = j ∧ rows.map Prod.fst = rows'.map Prod.fst := List.cons.inj keys
      subst key
      obtain ⟨new, nodup⟩ := List.nodup_cons.1 nodup
      have first := same i
      rw [findRow, findRow, if_pos rfl, if_pos rfl] at first
      cases first
      refine congrArg ((i, a) :: ·) (ih nodup others fun k => ?_)
      by_cases here : i = k
      · rw [← here, findRow_eq_none new, findRow_eq_none (others ▸ new)]
      · have later := same k
        rwa [findRow, findRow, if_neg here, if_neg here] at later

/-- A table is what it has under its keys, in their order. -/
theorem eq_of_keys (keys : T.keys = T'.keys) (same : ∀ k, T.get? k = T'.get? k) : T = T' := by
  have entries := rows_ext T.nodup keys same
  cases T
  cases T'
  cases entries
  rfl

/-- Putting a value under a key in use keeps the keys in order. -/
private theorem keys_putRow {k : κ} {a v : α} {rows : List (κ × α)}
    (found : findRow k rows = some a) : (putRow k v rows).map Prod.fst = rows.map Prod.fst := by
  induction rows with
  | nil => cases found
  | cons row rows ih =>
    obtain ⟨i, b⟩ := row
    rw [findRow] at found
    rw [putRow]
    split at found
    · next here => rw [if_pos here, List.map_cons, List.map_cons, here]
    · next here => rw [if_neg here, List.map_cons, List.map_cons, ih found]

/-- A value that changes keeps its place. -/
theorem keys_modify (T : Table κ α) (k : κ) (f : α → α) : (T.modify k f).keys = T.keys := by
  unfold modify
  cases found : T.get? k with
  | none => rfl
  | some a => exact keys_putRow found

/-- Changes by one function can be made in any order. -/
theorem modify_comm (T : Table κ α) (j k : κ) (f : α → α) :
    (T.modify j f).modify k f = (T.modify k f).modify j f := by
  refine eq_of_keys (by simp only [keys_modify]) fun i => ?_
  simp only [get?_modify]
  by_cases hj : i = j <;> by_cases hk : i = k <;> by_cases same : j = k <;> simp_all

/-- Two changes of one value. -/
theorem modify_modify (T : Table κ α) (k : κ) (f g : α → α) :
    (T.modify k f).modify k g = T.modify k (g ∘ f) := by
  refine eq_of_keys (by simp only [keys_modify]) fun i => ?_
  simp only [get?_modify, if_pos, Option.map_map]
  split <;> rfl

omit [DecidableEq κ] in
/-- The rows of a table are distinct. -/
private theorem entries_nodup (T : Table κ α) : T.entries.Nodup :=
  List.Nodup.of_map _ T.nodup

/-- Tables with the same entries, in any order, are those in which the same is found. -/
theorem entries_perm_iff : T'.entries.Perm T.entries ↔ ∀ k, T'.get? k = T.get? k := by
  rw [List.perm_ext_iff_of_nodup T'.entries_nodup T.entries_nodup]
  constructor
  · intro same k
    refine Option.ext fun v => ?_
    rw [← mem_entries_iff, ← mem_entries_iff]
    exact same (k, v)
  · rintro same ⟨k, v⟩
    rw [mem_entries_iff, mem_entries_iff, same]

end Table

-- ==================================================== giving one texture up

/-- What becomes of the record of a texture whose buffer is handed back. -/
def Texture.handedBack (x : Texture) : Texture :=
  if x.pipeline = .vulkan then { x with queueHeld := false } else x

/-- What becomes of the record of a texture whose handle is given up. -/
def Texture.givenUp (mode : TeardownMode) (x : Texture) : Texture :=
  let x := if mode = .normal then x.handedBack else x
  { x with released := some mode, holders := x.holders - 1 }

theorem Texture.handedBack_rest (x : Texture) :
    x.handedBack.holders = x.holders ∧ x.handedBack.context = x.context := by
  unfold handedBack
  split <;> exact ⟨rfl, rfl⟩

namespace World

variable {w w' : World} {t : TextureId} {x : Texture} {mode : TeardownMode}

/-- The calls by which the handle of a texture is given up. -/
def parting (w : World) (mode : TeardownMode) (t : TextureId) : List Entry :=
  match w.texture? t with
  | none => []
  | some x =>
    (if mode = .normal ∧ x.pipeline = .vulkan ∧ x.queueHeld ∧ w.alive x.context then
        [.backend x.context (.queueReleased t)] else [])
      ++ if x.holders = 1 then
          [.backend x.context
            (if w.alive x.context ∧ mode = .normal then .deleted t else .abandoned t)]
        else []

/-- Partings depend on the record of the texture and on the contexts alone. -/
theorem parting_congr (texture : w'.texture? t = w.texture? t)
    (contexts : w'.contexts = w.contexts) (mode : TeardownMode) :
    w'.parting mode t = w.parting mode t := by
  unfold parting
  rw [texture]
  simp only [alive_congr contexts]

/-- All calls of a parting end the hold of its texture. -/
theorem ended?_of_parting {e : Entry} (mem : e ∈ w.parting mode t) : e.ended? = some t := by
  unfold parting at mem
  split at mem
  · cases mem
  · rcases List.mem_append.1 mem with mem | mem
    · split at mem
      · rw [List.mem_singleton.1 mem]
        rfl
      · cases mem
    · split at mem
      · rw [List.mem_singleton.1 mem]
        split <;> rfl
      · cases mem

/-- What the handles of textures that are given up leave, none of them twice. -/
def drained (w : World) (mode : TeardownMode) (ts : List TextureId) : World :=
  { w with
    textures := ts.foldl (fun T t => T.modify t (Texture.givenUp mode)) w.textures
    history := w.history ++ ts.flatMap (w.parting mode) }

/-- A buffer that is handed back is marked, and the backend is told if it was withheld. -/
theorem releaseQueue_world (found : w.texture? t = some x) : (w.releaseQueue t).1
    = { w with
        textures := w.textures.modify t Texture.handedBack
        history := w.history ++
          if x.pipeline = .vulkan ∧ x.queueHeld ∧ w.alive x.context then
            [.backend x.context (.queueReleased t)] else [] } := by
  unfold releaseQueue
  rw [found]
  dsimp only
  split
  · rfl
  · rw [List.append_nil]
    rfl

/-- A handle that lets go is marked, and says farewell if it is the last holder. -/
theorem release_world (found : w.texture? t = some x) : (w.release t mode).1
    = { w with
        textures := w.textures.modify t fun x =>
          { x with released := some mode, holders := x.holders - 1 }
        history := w.history ++ if x.holders = 1 then
          [.backend x.context
            (if w.alive x.context ∧ mode = .normal then .deleted t else .abandoned t)]
          else [] } := by
  have marked : (w.markReleased t mode).texture? t = some { x with released := some mode } :=
    texture?_onTexture_self found _
  have farewell : (w.markReleased t mode).farewell t { x with released := some mode }
      = if w.alive x.context ∧ mode = .normal then .deleted t else .abandoned t := by
    have alive : ∀ m, (w.markReleased t m).alive x.context = w.alive x.context := fun _ => rfl
    unfold World.farewell Texture.condemned
    cases mode <;> simp [alive]
  have changed : ((w.markReleased t mode).onTexture t fun x => { x with holders := x.holders - 1 })
      = { w with textures := w.textures.modify t fun x =>
          { x with released := some mode, holders := x.holders - 1 } } := by
    unfold markReleased onTexture
    dsimp only
    rw [Table.modify_modify]
    rfl
  unfold release
  dsimp only
  rw [letGo_eq marked, farewell, changed]
  dsimp only
  split
  · rfl
  · rw [List.append_nil]

theorem parting_of_found (found : w.texture? t = some x) (mode : TeardownMode) :
    w.parting mode t
      = (if mode = .normal ∧ x.pipeline = .vulkan ∧ x.queueHeld ∧ w.alive x.context then
          [.backend x.context (.queueReleased t)] else [])
        ++ if x.holders = 1 then
            [.backend x.context
              (if w.alive x.context ∧ mode = .normal then .deleted t else .abandoned t)]
          else [] := by
  rw [parting, found]

/-- A drain of one texture. -/
theorem drained_singleton (w : World) (mode : TeardownMode) (t : TextureId) :
    w.drained mode [t] = { w with
      textures := w.textures.modify t (Texture.givenUp mode)
      history := w.history ++ w.parting mode t } := by
  unfold drained
  rw [List.flatMap_singleton]
  rfl

/-- And of none. -/
theorem drained_nil (w : World) (mode : TeardownMode) : w.drained mode [] = w := by
  unfold drained
  rw [List.foldl_nil, List.flatMap_nil, List.append_nil]

/-- What is given up first changes nothing of how the others part. -/
theorem drained_cons {ts : List TextureId} (new : t ∉ ts) (w : World) (mode : TeardownMode) :
    (w.drained mode [t]).drained mode ts = w.drained mode (t :: ts) := by
  have others : ts.flatMap ((w.drained mode [t]).parting mode) = ts.flatMap (w.parting mode) := by
    refine List.flatMap_congr fun u mem => ?_
    have ne : u ≠ t := fun same => new (same ▸ mem)
    have other : (w.drained mode [t]).texture? u = w.texture? u :=
      (texture?_onTexture w t u _).trans (if_neg ne)
    exact parting_congr other rfl mode
  have shape : (w.history ++ [t].flatMap (w.parting mode)) ++ ts.flatMap (w.parting mode)
      = w.history ++ (t :: ts).flatMap (w.parting mode) := by
    rw [List.append_assoc, ← List.flatMap_append]
    rfl
  unfold drained at others ⊢
  dsimp only at others ⊢
  rw [others, shape]
  rfl

end World

-- ==================================================== clearing slots

/-- A slot that is cleared gives up the texture that it holds. -/
theorem Slot.clear_world (s : Slot) (w : World) (mode : TeardownMode) :
    (s.clear w mode).world = w.drained mode s.texture.toList := by
  unfold clear
  cases s.texture with
  | none => exact (w.drained_nil mode).symm
  | some t =>
    rw [Option.toList_some, drained_singleton]
    dsimp only
    cases found : w.texture? t with
    | none =>
      have unknown : ∀ f : Texture → Texture, w.textures.modify t f = w.textures := fun f => by
        unfold Table.modify
        rw [show w.textures.get? t = none from found]
      have kept : (if mode = .normal then (w.releaseQueue t).1 else w) = w := by
        rw [releaseQueue_none found, ite_self]
      have marked : w.markReleased t mode = w := by
        unfold markReleased onTexture
        rw [unknown]
      rw [kept, release, marked, unknown, parting, found, List.append_nil]
      unfold letGo onTexture
      rw [found, unknown]
    | some x =>
      rw [parting_of_found found]
      cases mode with
      | contextLost =>
        have none : ¬ (TeardownMode.contextLost = .normal ∧ x.pipeline = .vulkan ∧ x.queueHeld
            ∧ w.alive x.context) := fun h => nomatch h.1
        rw [if_neg nofun, release_world found, if_neg none, List.nil_append]
        rfl
      | normal =>
        have handed : (w.releaseQueue t).1.texture? t = some x.handedBack := by
          rw [releaseQueue_texture?, if_pos rfl, found, Option.map_some]
          rfl
        rw [if_pos rfl, release_world handed, releaseQueue_world found, x.handedBack_rest.1,
          x.handedBack_rest.2]
        dsimp only
        rw [Table.modify_modify, List.append_assoc]
        simp only [true_and]
        rfl

namespace SlotCache

variable {cache cache' : SlotCache} {w : World} {mode : TeardownMode} {slots : List Slot}

/-- Slots in which no texture stands twice give up their textures one after the other. -/
theorem clearSlots_world (distinct : (slots.filterMap Slot.texture).Nodup) (w : World)
    (mode : TeardownMode) :
    (clearSlots w mode slots).1 = w.drained mode (slots.filterMap Slot.texture) := by
  induction slots generalizing w with
  | nil => exact (w.drained_nil mode).symm
  | cons slot slots ih =>
    rw [clearSlots]
    dsimp only
    rw [slot.clear_world, List.filterMap_cons] at *
    cases texture : slot.texture with
    | none =>
      rw [texture] at distinct
      rw [Option.toList_none, drained_nil, ih distinct]
    | some t =>
      rw [texture] at distinct
      obtain ⟨new, distinct⟩ := List.nodup_cons.1 distinct
      rw [Option.toList_some, ih distinct, drained_cons new]

/-- The textures that a cache holds, in the order of its entries. -/
def held (cache : SlotCache) : List TextureId := cache.slots.values.filterMap Slot.texture

/-- The handles that a cache has of a texture are the slots in which it stands. -/
theorem count_held (cache : SlotCache) (t : TextureId) :
    cache.held.count t = cache.owners .handle t := by
  rw [values_owners, held]
  induction cache.slots.values with
  | nil => rfl
  | cons slot slots ih =>
    rw [List.map_cons, List.sum_cons, Pi.add_apply, Pi.add_apply, ← ih, List.filterMap_cons,
      Slot.owners]
    cases slot.texture with
    | none => exact (Nat.zero_add _).symm
    | some u =>
      rw [oneOf_some, one_handle_apply]
      by_cases same : t = u
      · rw [same, if_pos rfl, List.count_cons_self, Nat.add_comm]
      · rw [if_neg same, List.count_cons_of_ne (Ne.symm same), Nat.zero_add]

/-- In no two slots of a cache stands the same texture. -/
def Distinct (cache : SlotCache) : Prop := ∀ t, cache.owners .handle t ≤ 1

/-- What a cache with distinct textures holds is distinct. -/
theorem Distinct.nodup (distinct : cache.Distinct) : cache.held.Nodup := by
  rw [List.nodup_iff_count_le_one]
  intro t
  rw [count_held]
  exact distinct t

/-- A cache that is cleared gives up the textures that it holds, in the order of its entries. -/
theorem clearAll_world (distinct : cache.Distinct) (w : World) (mode : TeardownMode) :
    (cache.clearAll w mode).world = w.drained mode cache.held :=
  clearSlots_world distinct.nodup w mode

/-- After one of its slots is cleared, a cache holds no more than before. -/
theorem Distinct.clear (distinct : cache.Distinct) (w : World) (slot : SlotId)
    (mode : TeardownMode) : (cache.clear w slot mode).object.Distinct := by
  unfold SlotCache.clear
  cases found : cache.get? slot with
  | none => exact distinct
  | some entry =>
    intro t
    have before := distinct t
    rw [owners_of_get? found, Pi.add_apply, Pi.add_apply] at before
    rw [owners, Table.owners_set, Slot.clear_owners, zero_add]
    omega

-- ==================================================== entries in another order

/-- A cache with the same entries as another one, in any order. -/
structure Reorders (cache cache' : SlotCache) : Prop where
  pipeline : cache'.pipeline = cache.pipeline
  entries : cache'.slots.entries.Perm cache.slots.entries

/-- Two caches with the same entries as a third have the same entries. -/
theorem Reorders.between {cache'' : SlotCache} (first : cache.Reorders cache')
    (second : cache.Reorders cache'') : cache'.Reorders cache'' :=
  ⟨second.pipeline.trans first.pipeline.symm, second.entries.trans first.entries.symm⟩

theorem Reorders.get? (reorders : cache.Reorders cache') (slot : SlotId) :
    cache'.get? slot = cache.get? slot :=
  Table.entries_perm_iff.1 reorders.entries slot

/-- A reordered cache holds the same textures in another order. -/
theorem Reorders.held (reorders : cache.Reorders cache') : cache'.held.Perm cache.held :=
  (reorders.entries.map Prod.snd).filterMap _

/-- And they are distinct in both. -/
theorem Reorders.distinct (reorders : cache.Reorders cache') (distinct : cache.Distinct) :
    cache'.Distinct := by
  intro t
  rw [← count_held, reorders.held.count_eq, count_held]
  exact distinct t

theorem Reorders.liveTextures (reorders : cache.Reorders cache') :
    cache'.liveTextures = cache.liveTextures :=
  (reorders.entries.map Prod.snd).countP_eq _

/-- Without entries there is one order. -/
theorem Reorders.eq_of_empty (reorders : cache.Reorders cache') (empty : cache.slots = ∅) :
    cache' = cache := by
  have none : ∀ slot, cache'.slots.get? slot = cache.slots.get? slot := reorders.get?
  have entries : cache'.slots.entries = [] := by
    have perm := reorders.entries
    rw [empty] at perm
    exact perm.eq_nil
  have slots : cache'.slots = cache.slots := by
    rw [empty]
    exact Table.eq_of_keys (congrArg (List.map Prod.fst) entries) (empty ▸ none)
  cases cache
  cases cache'
  cases slots
  cases reorders.pipeline
  rfl

/-- Clearing one slot is the same whatever the order of the entries. -/
theorem Reorders.clear (reorders : cache.Reorders cache') (w : World) (slot : SlotId)
    (mode : TeardownMode) :
    (cache'.clear w slot mode).world = (cache.clear w slot mode).world
      ∧ (cache'.clear w slot mode).answer = (cache.clear w slot mode).answer
      ∧ (cache.clear w slot mode).object.Reorders (cache'.clear w slot mode).object := by
  unfold SlotCache.clear
  rw [reorders.get? slot]
  cases cache.get? slot with
  | none => exact ⟨rfl, rfl, reorders⟩
  | some entry =>
    refine ⟨rfl, rfl, reorders.pipeline, Table.entries_perm_iff.2 fun k => ?_⟩
    rw [Table.get?_set, Table.get?_set]
    split
    · rfl
    · exact reorders.get? k

theorem Reorders.releaseQueue (reorders : cache.Reorders cache') (w : World) (slot : SlotId) :
    cache'.releaseQueue w slot = cache.releaseQueue w slot := by
  unfold SlotCache.releaseQueue
  rw [reorders.get? slot]

end SlotCache

end LayerFeed
