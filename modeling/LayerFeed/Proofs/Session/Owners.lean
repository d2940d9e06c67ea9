/-
All owners of textures in a session: the handles and the images that have names,
the slots and the caches that stand alone, and the updaters. Each of the five stands
in a table, and what is true of one table is true of all of them: a `Shelf` is a
table with all the rest of the session as its frame.

What belongs to no updater is `named`. To one updater all the rest of a session, the
other updaters included, is what stands `besides` it.
-/
import LayerFeed.Session.Run
import LayerFeed.Proofs.Object.Updaters

namespace LayerFeed

open Owners

variable {t : TextureId}

namespace Session

/-- All that is held in a session. -/
def owners (s : Session) : Owners :=
  s.handles.owners (one .handle) + s.images.owners (one .image) + s.slots.owners Slot.owners
    + s.caches.owners SlotCache.owners + s.updaters.owners (·.value.owners)

/-- All that is held in a session by what no updater has. -/
def named (s : Session) : Owners :=
  s.handles.owners (one .handle) + s.images.owners (one .image) + s.slots.owners Slot.owners
    + s.caches.owners SlotCache.owners

/-- All that is held in a session but by updater `i`. -/
def besides (s : Session) (i : UpdaterId) : Owners :=
  s.named + (s.updaters.erase i).owners (·.value.owners)

variable {s : Session} {name : String} {i : UpdaterId}

/-- Owners are those that have names, and updaters. -/
theorem owners_eq_named (s : Session) :
    s.owners = s.named + s.updaters.owners (·.value.owners) := rfl

/-- What one updater holds, and all the rest. -/
theorem owners_eq_besides {h : Held Updater} (found : s.updaters.get? i = some h) :
    s.owners = h.value.owners + s.besides i := by
  rw [owners_eq_named, Table.owners_of_get? found, besides]
  abel

/-- Without the updater there is only the rest. -/
theorem owners_eq_besides_of_none (absent : s.updaters.get? i = none) :
    s.owners = s.besides i := by
  rw [owners_eq_named, Table.owners_erase s.updaters i, absent, besides]
  exact congrArg _ (zero_add _)

/-- What updater `i` holds, if it is there. -/
def holdings (s : Session) (i : UpdaterId) : Owners := (s.updaterOf? i).elim 0 Updater.owners

/-- Owners are those of one updater, and all besides. -/
theorem owners_eq_holdings (s : Session) (i : UpdaterId) :
    s.owners = s.holdings i + s.besides i := by
  unfold holdings updaterOf?
  cases entered : s.updaters.get? i with
  | none => exact (owners_eq_besides_of_none entered).trans (zero_add _).symm
  | some h => exact owners_eq_besides entered

-- ==================================================== shelves

section Shelf

variable {κ α : Type} {μ : Session → Owners} {f : α → Owners} {put : Table κ α → Session}

/-- A table of a session, given by the sessions that have other tables in its place. Of
what `μ` counts, such a session holds what the table does, beside a rest. -/
def Shelf (μ : Session → Owners) (f : α → Owners) (put : Table κ α → Session) : Prop :=
  ∃ r, ∀ T, μ (put T) = T.owners f + r

variable [DecidableEq κ]

/-- A value that comes is held instead of the one that it replaces. -/
theorem Shelf.set (shelf : Shelf μ f put) (T : Table κ α) (k : κ) (v : α) :
    (T.get? k).elim 0 f + μ (put (T.set k v)) = f v + μ (put T) := by
  obtain ⟨r, held⟩ := shelf
  rw [held, held, Table.owners_set, Table.owners_erase T k]
  abel

/-- What is taken from a shelf was counted there. -/
theorem Shelf.erase (shelf : Shelf μ f put) (T : Table κ α) (k : κ) :
    (T.get? k).elim 0 f + μ (put (T.erase k)) = μ (put T) := by
  obtain ⟨r, held⟩ := shelf
  rw [held, held, Table.owners_erase T k]
  abel

end Shelf

/-- The handles that have names are a shelf. -/
theorem shelf_handles (s : Session) :
    Shelf named (one .handle) fun handles => { s with handles } := by
  refine ⟨s.images.owners (one .image) + s.slots.owners Slot.owners
    + s.caches.owners SlotCache.owners, fun T => ?_⟩
  unfold named
  abel

/-- The images that have names are one. -/
theorem shelf_images (s : Session) :
    Shelf named (one .image) fun images => { s with images } := by
  refine ⟨s.handles.owners (one .handle) + s.slots.owners Slot.owners
    + s.caches.owners SlotCache.owners, fun T => ?_⟩
  unfold named
  abel

/-- The slots that have names are one, each with the handle in it. -/
theorem shelf_slots (s : Session) : Shelf named Slot.owners fun slots => { s with slots } := by
  refine ⟨s.handles.owners (one .handle) + s.images.owners (one .image)
    + s.caches.owners SlotCache.owners, fun T => ?_⟩
  unfold named
  abel

/-- The caches that have names are one, each with the handles in its slots. -/
theorem shelf_caches (s : Session) :
    Shelf named SlotCache.owners fun caches => { s with caches } := by
  refine ⟨s.handles.owners (one .handle) + s.images.owners (one .image)
    + s.slots.owners Slot.owners, fun T => ?_⟩
  unfold named
  abel

-- ==================================================== what is held

/-- Whoever has a name is an owner. -/
theorem count_le_owners (s : Session) (t : TextureId) : s.named.count t ≤ s.owners.count t := by
  rw [owners_eq_named, count_add]
  exact Nat.le_add_right _ _

/-- The texture of a named image has an owner. -/
theorem held_of_image (h : s.images.get? name = some t) : 0 < s.owners.count t := by
  refine Nat.lt_of_lt_of_le ?_ (count_le_owners s t)
  have split := (shelf_images s).erase s.images name
  rw [h] at split
  rw [show s.named = _ from split.symm]
  exact le_count_one_add .image t _

/-- The texture of a named handle has an owner. -/
theorem held_of_handle (h : s.handles.get? name = some t) : 0 < s.owners.count t := by
  refine Nat.lt_of_lt_of_le ?_ (count_le_owners s t)
  have split := (shelf_handles s).erase s.handles name
  rw [h] at split
  rw [show s.named = _ from split.symm]
  exact le_count_one_add .handle t _

/-- The texture that a layer shows has an owner. -/
theorem held_of_shown {id : UpdaterId} {u : Updater} (found : s.updaterOf? id = some u)
    (shown : u.shownImage = some t) : 0 < s.owners.count t := by
  obtain ⟨h, entered, rfl⟩ := Option.map_eq_some_iff.1 found
  rw [owners_eq_besides entered, Updater.owners, shown, oneOf_some, add_assoc]
  exact le_count_one_add .image t _

end Session

end LayerFeed
