/-
Finite tables that remember the order in which their keys first came.

A table is a list of pairs in which no key stands twice. Everything that the
rest of the library keeps by name or number is such a table: the cache entries
of a layer, the textures of a session, the names given to objects. Besides the
readings of `get?` after each change, the main laws are `total_set` and
`total_erase`: a sum over the values changes by exactly the value that came
and the value that went.
-/
namespace LayerFeed

/-- A finite map, its keys in the order of first entry. -/
structure Table (κ α : Type) where
  entries : List (κ × α) := []
  nodup : (entries.map Prod.fst).Nodup := by exact List.nodup_nil
deriving DecidableEq

namespace Table

variable {κ α β : Type}

-- ==================================================== the rows of a table

section Rows

variable [DecidableEq κ]

/-- The value of the row with key `k`. -/
def findRow (k : κ) : List (κ × α) → Option α
  | [] => none
  | (j, a) :: rows => if j = k then some a else findRow k rows

/-- Replaces the row with key `k`, or adds one at the end. -/
def putRow (k : κ) (v : α) : List (κ × α) → List (κ × α)
  | [] => [(k, v)]
  | (j, a) :: rows => if j = k then (k, v) :: rows else (j, a) :: putRow k v rows

/-- Takes out the row with key `k`. -/
def removeRow (k : κ) : List (κ × α) → List (κ × α)
  | [] => []
  | (j, a) :: rows => if j = k then rows else (j, a) :: removeRow k rows

/-- Putting a row adds its key and no other. -/
theorem mem_keys_putRow {k j : κ} {v : α} {rows : List (κ × α)} :
    j ∈ (putRow k v rows).map Prod.fst ↔ j = k ∨ j ∈ rows.map Prod.fst := by
  induction rows with
  | nil => simp [putRow]
  | cons row rows ih =>
    obtain ⟨i, a⟩ := row
    by_cases h : i = k
    · subst h
      simp [putRow]
    · simp only [putRow, if_neg h, List.map_cons, List.mem_cons, ih]
      grind

/-- Removing a row adds no key. -/
theorem mem_keys_of_removeRow {k j : κ} {rows : List (κ × α)}
    (h : j ∈ (removeRow k rows).map Prod.fst) : j ∈ rows.map Prod.fst := by
  induction rows with
  | nil => simp [removeRow] at h
  | cons row rows ih =>
    obtain ⟨i, a⟩ := row
    by_cases hi : i = k
    · rw [removeRow, if_pos hi] at h
      exact List.mem_cons_of_mem _ h
    · rw [removeRow, if_neg hi, List.map_cons] at h
      rcases List.mem_cons.1 h with rfl | h
      · exact List.mem_cons_self
      · exact List.mem_cons_of_mem _ (ih h)

/-- Keys stay distinct when a row is put. -/
theorem nodup_putRow {k : κ} {v : α} {rows : List (κ × α)}
    (h : (rows.map Prod.fst).Nodup) : ((putRow k v rows).map Prod.fst).Nodup := by
  induction rows with
  | nil => simp [putRow]
  | cons row rows ih =>
    obtain ⟨i, a⟩ := row
    rw [List.map_cons, List.nodup_cons] at h
    by_cases hi : i = k
    · subst hi
      simpa [putRow] using h
    · rw [putRow, if_neg hi, List.map_cons, List.nodup_cons]
      refine ⟨fun hm => ?_, ih h.2⟩
      rcases mem_keys_putRow.1 hm with he | hm
      · exact hi he
      · exact h.1 hm

/-- And when one is removed. -/
theorem nodup_removeRow {k : κ} {rows : List (κ × α)}
    (h : (rows.map Prod.fst).Nodup) : ((removeRow k rows).map Prod.fst).Nodup := by
  induction rows with
  | nil => simp [removeRow]
  | cons row rows ih =>
    obtain ⟨i, a⟩ := row
    rw [List.map_cons, List.nodup_cons] at h
    by_cases hi : i = k
    · rw [removeRow, if_pos hi]
      exact h.2
    · rw [removeRow, if_neg hi, List.map_cons, List.nodup_cons]
      exact ⟨fun hm => h.1 (mem_keys_of_removeRow hm), ih h.2⟩

/-- What is found after a row was put. -/
theorem findRow_putRow {k j : κ} {v : α} {rows : List (κ × α)} :
    findRow j (putRow k v rows) = if j = k then some v else findRow j rows := by
  induction rows with
  | nil => simp only [putRow, findRow]; grind
  | cons row rows ih =>
    obtain ⟨i, a⟩ := row
    by_cases hi : i = k <;> simp only [putRow, hi, if_true, if_false, findRow, ih] <;> grind

/-- A key that is not there is not found. -/
theorem findRow_eq_none {k : κ} {rows : List (κ × α)} (h : k ∉ rows.map Prod.fst) :
    findRow k rows = none := by
  induction rows with
  | nil => rfl
  | cons row rows ih =>
    obtain ⟨i, a⟩ := row
    simp only [List.map_cons, List.mem_cons, not_or] at h
    rw [findRow, if_neg (fun he => h.1 he.symm), ih h.2]

/-- What is found after a row was removed, where keys are distinct. -/
theorem findRow_removeRow {k j : κ} {rows : List (κ × α)} (h : (rows.map Prod.fst).Nodup) :
    findRow j (removeRow k rows) = if j = k then none else findRow j rows := by
  induction rows with
  | nil => simp [removeRow, findRow]
  | cons row rows ih =>
    obtain ⟨i, a⟩ := row
    rw [List.map_cons, List.nodup_cons] at h
    by_cases hi : i = k
    · subst hi
      rw [removeRow, if_pos rfl, findRow]
      by_cases hj : i = j
      · subst hj
        rw [if_pos rfl, findRow_eq_none h.1]
      · rw [if_neg (fun he => hj he.symm), if_neg hj]
    · rw [removeRow, if_neg hi, findRow, findRow, ih h.2]
      grind

end Rows

-- ==================================================== tables

/-- The table without entries. -/
def empty : Table κ α := {}

instance : EmptyCollection (Table κ α) := ⟨empty⟩
instance : Inhabited (Table κ α) := ⟨empty⟩

/-- Number of entries. -/
def size (t : Table κ α) : Nat := t.entries.length

/-- The keys, in the order of first entry. -/
def keys (t : Table κ α) : List κ := t.entries.map Prod.fst

/-- The values, in the order of their keys. -/
def values (t : Table κ α) : List α := t.entries.map Prod.snd

def sumRows (f : α → Nat) : List (κ × α) → Nat
  | [] => 0
  | (_, a) :: rows => f a + sumRows f rows

/-- Sum of `f` over all values. -/
def total (f : α → Nat) (t : Table κ α) : Nat := sumRows f t.entries

@[simp] theorem entries_empty : (∅ : Table κ α).entries = [] := rfl

variable [DecidableEq κ]

/-- The value entered under `k`. -/
def get? (t : Table κ α) (k : κ) : Option α := findRow k t.entries

/-- Whether `k` has an entry. -/
def contains (t : Table κ α) (k : κ) : Bool := (t.get? k).isSome

/-- Enters `v` under `k`; an entry that `k` already has keeps its place. -/
def set (t : Table κ α) (k : κ) (v : α) : Table κ α :=
  ⟨putRow k v t.entries, nodup_putRow t.nodup⟩

/-- Takes out the entry of `k`. -/
def erase (t : Table κ α) (k : κ) : Table κ α :=
  ⟨removeRow k t.entries, nodup_removeRow t.nodup⟩

/-- Changes the value of `k` if it has one. -/
def modify (t : Table κ α) (k : κ) (f : α → α) : Table κ α :=
  match t.get? k with
  | some v => t.set k (f v)
  | none => t

-- ==================================================== readings

@[simp] theorem get?_empty (k : κ) : (∅ : Table κ α).get? k = none := rfl

/-- What a table has after a value was stored. -/
theorem get?_set (t : Table κ α) (k j : κ) (v : α) :
    (t.set k v).get? j = if j = k then some v else t.get? j := findRow_putRow

@[simp] theorem get?_set_self (t : Table κ α) (k : κ) (v : α) :
    (t.set k v).get? k = some v := by
  rw [get?_set, if_pos rfl]

theorem get?_set_ne (t : Table κ α) {k j : κ} (v : α) (h : j ≠ k) :
    (t.set k v).get? j = t.get? j := by
  rw [get?_set, if_neg h]

/-- And after a key was erased. -/
theorem get?_erase (t : Table κ α) (k j : κ) :
    (t.erase k).get? j = if j = k then none else t.get? j := findRow_removeRow t.nodup

@[simp] theorem get?_erase_self (t : Table κ α) (k : κ) : (t.erase k).get? k = none := by
  rw [get?_erase, if_pos rfl]

theorem get?_erase_ne (t : Table κ α) {k j : κ} (h : j ≠ k) :
    (t.erase k).get? j = t.get? j := by
  rw [get?_erase, if_neg h]

/-- And after a value was changed. -/
theorem get?_modify (t : Table κ α) (k j : κ) (f : α → α) :
    (t.modify k f).get? j = if j = k then (t.get? k).map f else t.get? j := by
  unfold modify
  cases h : t.get? k with
  | none => by_cases hj : j = k <;> simp_all
  | some v => simp [get?_set]

/-- Putting the row that is there changes nothing. -/
private theorem putRow_of_findRow {k : κ} {v : α} {rows : List (κ × α)}
    (h : findRow k rows = some v) : putRow k v rows = rows := by
  induction rows with
  | nil => cases h
  | cons row rows ih =>
    obtain ⟨i, a⟩ := row
    by_cases hi : i = k
    · rw [findRow, if_pos hi] at h
      cases h
      rw [putRow, if_pos hi, hi]
    · rw [findRow, if_neg hi] at h
      rw [putRow, if_neg hi, ih h]

/-- Entering a value that is there changes nothing. -/
theorem set_of_get? {t : Table κ α} {k : κ} {v : α} (h : t.get? k = some v) : t.set k v = t := by
  cases t with
  | mk entries nodup =>
    unfold set
    congr 1
    exact putRow_of_findRow h

-- ==================================================== sums

/-- A row that is there is found, where keys are distinct. -/
private theorem findRow_of_mem {k : κ} {v : α} {rows : List (κ × α)}
    (nodup : (rows.map Prod.fst).Nodup) (mem : (k, v) ∈ rows) : findRow k rows = some v := by
  induction rows with
  | nil => cases mem
  | cons row rows ih =>
    obtain ⟨j, a⟩ := row
    rw [List.map_cons, List.nodup_cons] at nodup
    rcases List.mem_cons.1 mem with same | mem
    · cases same
      rw [findRow, if_pos rfl]
    · have ne : j ≠ k := by
        rintro rfl
        exact nodup.1 (List.mem_map.2 ⟨(j, v), mem, rfl⟩)
      rw [findRow, if_neg ne]
      exact ih nodup.2 mem

/-- Every value of a table is entered under a key. -/
theorem exists_get?_of_mem {t : Table κ α} {v : α} (mem : v ∈ t.values) :
    ∃ k, t.get? k = some v := by
  unfold values at mem
  obtain ⟨⟨k, a⟩, row, rfl⟩ := List.mem_map.1 mem
  exact ⟨k, findRow_of_mem t.nodup row⟩

/-- What is found is there. -/
private theorem mem_of_findRow {k : κ} {v : α} {rows : List (κ × α)}
    (found : findRow k rows = some v) : (k, v) ∈ rows := by
  induction rows with
  | nil => cases found
  | cons row rows ih =>
    obtain ⟨j, a⟩ := row
    rw [findRow] at found
    split at found
    · next same =>
      cases found
      rw [same]
      exact List.mem_cons_self
    · exact List.mem_cons_of_mem _ (ih found)

/-- What is entered under a key is a value of the table. -/
theorem mem_values_of_get? {t : Table κ α} {k : κ} {v : α} (found : t.get? k = some v) :
    v ∈ t.values :=
  List.mem_map.2 ⟨(k, v), mem_of_findRow found, rfl⟩

/-- The entries of a table are what is entered under its keys. -/
theorem mem_entries_iff {t : Table κ α} {k : κ} {v : α} :
    (k, v) ∈ t.entries ↔ t.get? k = some v :=
  ⟨findRow_of_mem t.nodup, mem_of_findRow⟩

/-- The sum over all rows after one was put. -/
private theorem sum_putRow (f : α → Nat) (k : κ) (v : α) (rows : List (κ × α)) :
    sumRows f (putRow k v rows) + (findRow k rows).elim 0 f = sumRows f rows + f v := by
  induction rows with
  | nil => simp [putRow, findRow, sumRows]
  | cons row rows ih =>
    obtain ⟨i, a⟩ := row
    by_cases hi : i = k
    · simp only [putRow, findRow, if_pos hi, sumRows, Option.elim]
      omega
    · simp only [putRow, findRow, if_neg hi, sumRows]
      omega

/-- And after one was removed. -/
private theorem sum_removeRow (f : α → Nat) (k : κ) (rows : List (κ × α)) :
    sumRows f (removeRow k rows) + (findRow k rows).elim 0 f = sumRows f rows := by
  induction rows with
  | nil => simp [removeRow, findRow, sumRows]
  | cons row rows ih =>
    obtain ⟨i, a⟩ := row
    by_cases hi : i = k
    · simp only [removeRow, findRow, if_pos hi, sumRows, Option.elim]
      omega
    · simp only [removeRow, findRow, if_neg hi, sumRows]
      omega

/-- A sum over the table gains the new value and loses the one it replaces. -/
theorem total_set (f : α → Nat) (t : Table κ α) (k : κ) (v : α) :
    (t.set k v).total f + (t.get? k).elim 0 f = t.total f + f v :=
  sum_putRow f k v t.entries

/-- A sum over the table loses the value that is taken out. -/
theorem total_erase (f : α → Nat) (t : Table κ α) (k : κ) :
    (t.erase k).total f + (t.get? k).elim 0 f = t.total f :=
  sum_removeRow f k t.entries

end Table

end LayerFeed
