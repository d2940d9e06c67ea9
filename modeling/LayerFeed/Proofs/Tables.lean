/-
Tables whose values are looked at through a function. Reading, entering and taking out go
through it, and a change of one value does if it commutes with the function or is not seen
through it. Of values that are entered under one key only the last is seen (`set_set`).
-/
import LayerFeed.Table

namespace LayerFeed.Table

variable {κ α β γ : Type} [DecidableEq κ] {f : α → β} {t : Table κ α} {k : κ}

/-- The table with `f` of every value in its place. -/
def map (f : α → β) (t : Table κ α) : Table κ β where
  entries := t.entries.map fun row => (row.1, f row.2)
  nodup := by
    rw [List.map_map]
    exact t.nodup

/-- What is found among changed values. -/
private theorem findRow_map (f : α → β) (k : κ) (rows : List (κ × α)) :
    findRow k (rows.map fun row => (row.1, f row.2)) = (findRow k rows).map f := by
  induction rows with
  | nil => rfl
  | cons row rows ih =>
    obtain ⟨j, a⟩ := row
    rw [List.map_cons, findRow, findRow, ih]
    split <;> rfl

/-- A row put among changed values. -/
private theorem putRow_map (f : α → β) (k : κ) (v : α) (rows : List (κ × α)) :
    (putRow k v rows).map (fun row => (row.1, f row.2))
      = putRow k (f v) (rows.map fun row => (row.1, f row.2)) := by
  induction rows with
  | nil => rfl
  | cons row rows ih =>
    obtain ⟨j, a⟩ := row
    rw [List.map_cons, putRow, putRow]
    split
    · rfl
    · rw [List.map_cons, ih]

/-- A row removed among changed values. -/
private theorem removeRow_map (f : α → β) (k : κ) (rows : List (κ × α)) :
    (removeRow k rows).map (fun row => (row.1, f row.2))
      = removeRow k (rows.map fun row => (row.1, f row.2)) := by
  induction rows with
  | nil => rfl
  | cons row rows ih =>
    obtain ⟨j, a⟩ := row
    rw [List.map_cons, removeRow, removeRow]
    split
    · rfl
    · rw [List.map_cons, ih]

/-- Of two rows put under one key the second stays. -/
private theorem putRow_putRow (k : κ) (v v' : α) (rows : List (κ × α)) :
    putRow k v' (putRow k v rows) = putRow k v' rows := by
  induction rows with
  | nil => simp [putRow]
  | cons row rows ih =>
    obtain ⟨j, a⟩ := row
    by_cases same : j = k
    · simp [putRow, same]
    · rw [putRow, if_neg same, putRow, if_neg same, putRow, if_neg same, ih]

omit [DecidableEq κ] in
/-- A table is its rows. -/
private theorem ext_entries {t t' : Table κ α} (same : t.entries = t'.entries) : t = t' := by
  cases t
  cases t'
  cases same
  rfl

/-- Of two values that are entered under a key the second stays. -/
theorem set_set (t : Table κ α) (k : κ) (v v' : α) : (t.set k v).set k v' = t.set k v' :=
  ext_entries (putRow_putRow k v v' t.entries)

@[simp] theorem get?_map (f : α → β) (t : Table κ α) (k : κ) :
    (t.map f).get? k = (t.get? k).map f := findRow_map f k t.entries

@[simp] theorem contains_map (f : α → β) (t : Table κ α) (k : κ) :
    (t.map f).contains k = t.contains k := by
  rw [contains, get?_map, Option.isSome_map, contains]

/-- Changing all values after storing one. -/
theorem map_set (f : α → β) (t : Table κ α) (k : κ) (v : α) :
    (t.set k v).map f = (t.map f).set k (f v) := ext_entries (putRow_map f k v t.entries)

/-- Changing all values after erasing a key. -/
theorem map_erase (f : α → β) (t : Table κ α) (k : κ) :
    (t.erase k).map f = (t.map f).erase k := ext_entries (removeRow_map f k t.entries)

/-- A table stays as it is if all its values do. -/
theorem map_of_fixed {f : α → α} (fixed : ∀ k a, t.get? k = some a → f a = a) : t.map f = t := by
  refine ext_entries ((List.map_congr_left fun row mem => ?_).trans (List.map_id _))
  exact congrArg (row.1, ·) (fixed row.1 row.2 (mem_entries_iff.1 mem))

omit [DecidableEq κ] in
theorem values_map (f : α → β) (t : Table κ α) : (t.map f).values = t.values.map f := by
  simp [values, map]

omit [DecidableEq κ] in
theorem size_map (f : α → β) (t : Table κ α) : (t.map f).size = t.size := List.length_map _

/-- A change of a value that is not seen through `f` is not seen in the table. -/
theorem map_modify_unseen {g : α → α} (unseen : ∀ a, f (g a) = f a) (t : Table κ α) (k : κ) :
    (t.modify k g).map f = t.map f := by
  unfold modify
  cases found : t.get? k with
  | none => rfl
  | some a =>
    dsimp only
    rw [map_set, unseen]
    exact set_of_get? (by rw [get?_map, found, Option.map_some])

/-- Two tables that look the same through `f` do so after changes that look the same. -/
theorem map_modify_congr {t' : Table κ α} {g g' : α → α} (same : t.map f = t'.map f)
    (changes : ∀ a b, f a = f b → f (g a) = f (g' b)) (k : κ) :
    (t.modify k g).map f = (t'.modify k g').map f := by
  have values : (t.get? k).map f = (t'.get? k).map f := by rw [← get?_map, same, get?_map]
  unfold modify
  cases found : t.get? k with
  | none =>
    rw [found, Option.map_none] at values
    rw [Option.map_eq_none_iff.1 values.symm]
    exact same
  | some a =>
    rw [found, Option.map_some] at values
    obtain ⟨b, found', alike⟩ := Option.map_eq_some_iff.1 values.symm
    rw [found']
    dsimp only
    rw [map_set, map_set, same, changes a b alike.symm]

/-- A change that commutes with `f` can be made before or after. -/
theorem map_modify {g : α → α} {g' : β → β} (commutes : ∀ a, f (g a) = g' (f a))
    (t : Table κ α) (k : κ) : (t.modify k g).map f = (t.map f).modify k g' := by
  unfold modify
  rw [get?_map]
  cases t.get? k with
  | none => rfl
  | some a =>
    dsimp only [Option.map]
    rw [map_set, commutes]

end LayerFeed.Table
