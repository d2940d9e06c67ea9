/-
What the events of an updater tell of the textures in its slots. All that comes into a slot and
goes out of it stands in the history, so the slots can be replayed from there (`shelfIn`). Not
all of it is told to the sink: a texture that a latched frame replaces, or fails to replace, and
the textures of a source that is replaced by another are given up without an event
(`untoldIn`). What is told is right, and the books balance if that is counted as well
(`run_release_accounts`): the textures that were created are those that events say were released
or torn down, those that went untold, and those that are there still. So created and released
come out even exactly if nothing went untold.

The history is read entry by entry; entries that shelve nothing leave all accounts alone
(`Accounts.quiet`). That the replayed shelf is what the slots hold is proved deed by deed, and
the balance is then a matter of the history alone (`balanced`).
-/
import LayerFeed.Proofs.Session.Lineage
import Mathlib.Algebra.BigOperators.Group.List.Basic
import Mathlib.Data.List.Nodup

namespace LayerFeed

open Owners World

variable {i : UpdaterId} {e : Entry} {h es : List Entry} {w : World} {slot : SlotId}
  {t : TextureId}

-- ==================================================== tables

namespace Table

variable {κ α β : Type} [DecidableEq κ] {T : Table κ α} {S : Table κ β} {f : α → Option β}

omit [DecidableEq κ] in
/-- The filled rows of a table are distinct. -/
private theorem nodup_filled (T : Table κ α) (f : α → Option β) :
    (T.entries.filterMap fun row => (f row.2).map (row.1, ·)).Nodup := by
  have keys : ((T.entries.filterMap fun row => (f row.2).map (row.1, ·)).map Prod.fst).Sublist
      (T.entries.map Prod.fst) := by
    generalize T.entries = rows
    induction rows with
    | nil => exact .slnil
    | cons row rows ih =>
      rw [List.filterMap_cons]
      cases f row.2 with
      | none => exact ih.cons _
      | some b => exact ih.cons_cons _
  exact List.Nodup.of_map _ (keys.nodup T.nodup)

/-- A table that has under each key what another one has there has as many entries. -/
theorem countP_eq_size (same : ∀ k, (T.get? k).bind f = S.get? k) :
    T.values.countP (fun a => (f a).isSome) = S.size := by
  have perm : (T.entries.filterMap fun row => (f row.2).map (row.1, ·)).Perm S.entries := by
    rw [List.perm_ext_iff_of_nodup (T.nodup_filled f) (List.Nodup.of_map _ S.nodup)]
    rintro ⟨k, b⟩
    rw [mem_entries_iff, ← same, List.mem_filterMap]
    constructor
    · rintro ⟨⟨j, a⟩, mem, found⟩
      obtain ⟨c, found, same⟩ := Option.map_eq_some_iff.1 found
      cases same
      rw [mem_entries_iff.1 mem, Option.bind_some, found]
    · intro found
      obtain ⟨a, entered, found⟩ := Option.bind_eq_some_iff.1 found
      exact ⟨(k, a), mem_entries_iff.2 entered, by rw [found]; rfl⟩
  rw [size, ← perm.length_eq, List.length_filterMap_eq_countP, values, List.countP_map]
  refine List.countP_congr fun row _ => ?_
  rw [Function.comp_apply, Option.isSome_map]

omit [DecidableEq κ] in
@[simp] theorem size_empty : (∅ : Table κ α).size = 0 := rfl

/-- A table without values has size zero. -/
theorem size_eq_zero (none : ∀ k, T.get? k = none) : T.size = 0 := by
  have entries : T.entries = [] := List.eq_nil_iff_forall_not_mem.2 fun row mem => by
    have found := mem_entries_iff.1 mem
    rw [none] at found
    cases found
  rw [size, entries, List.length_nil]

omit [DecidableEq κ] in
/-- The size counts one for each value. -/
private theorem size_eq_total (T : Table κ α) : T.size = T.total fun _ => 1 := by
  unfold size total
  induction T.entries with
  | nil => rfl
  | cons row rows ih =>
    rw [List.length_cons, ih, sumRows, Nat.add_comm]

/-- The size after a value was stored. -/
theorem size_set (T : Table κ α) (k : κ) (v : α) :
    (T.set k v).size + (T.get? k).elim 0 (fun _ => 1) = T.size + 1 := by
  rw [size_eq_total, size_eq_total]
  exact total_set _ T k v

/-- And after a key was erased. -/
theorem size_erase (T : Table κ α) (k : κ) :
    (T.erase k).size + (T.get? k).elim 0 (fun _ => 1) = T.size := by
  rw [size_eq_total, size_eq_total]
  exact total_erase _ T k

end Table

-- ==================================================== reading a history

/-- The entry tells of a texture that comes into a slot of updater `i`, or goes out of it, or of
what the sink of the updater hears of that. -/
def Entry.Shelves (i : UpdaterId) : Entry → Prop
  | .latched j _ _ | .event j _ (.frameLatched _) | .event j _ (.textureReleased _ _ _)
  | .event j _ (.tornDown _ _ _) => j = i
  | .source ref .installed => ref.owner = i
  | _ => False

/-- The textures in slots after a frame was resolved in one of them. -/
@[simp] def Resolved.shelve (shelf : Table SlotId TextureId) (slot : SlotId) :
    Resolved → Table SlotId TextureId
  | .cached _ => shelf
  | .created t => shelf.set slot t
  | .unavailable => shelf.erase slot

/-- The textures in the slots of updater `i` after an entry: a frame changes one slot, a release
that is told empties one, a new source or the teardown empties all. -/
@[simp] def shelve (i : UpdaterId) (shelf : Table SlotId TextureId) : Entry → Table SlotId TextureId
  | .latched j frame resolved => if j = i then resolved.shelve shelf frame.slot else shelf
  | .event j _ (.textureReleased slot _ _) => if j = i then shelf.erase slot else shelf
  | .event j _ (.tornDown _ _ _) => if j = i then ∅ else shelf
  | .source ref .installed => if ref.owner = i then ∅ else shelf
  | _ => shelf

/-- The textures in the slots of updater `i`, as the history has it. -/
def shelfIn (i : UpdaterId) (h : List Entry) : Table SlotId TextureId := h.foldl (shelve i) ∅

/-- Whether the sink of updater `i` hears of a texture that was created. -/
@[simp] def Entry.tellsCreated (i : UpdaterId) : Entry → Bool
  | .event j _ (.frameLatched news) => j = i && news.outcome = .created
  | _ => false

/-- Whether the sink of updater `i` hears of a texture that was released. -/
@[simp] def Entry.tellsReleased (i : UpdaterId) : Entry → Bool
  | .event j _ (.textureReleased _ _ _) => j = i
  | _ => false

/-- How many textures were released by a teardown, as the sink of updater `i` hears. -/
@[simp] def Entry.drained (i : UpdaterId) : Entry → Nat
  | .event j _ (.tornDown _ n _) => if j = i then n else 0
  | _ => 0

/-- How many events of updater `i` say that a texture was created for a frame. -/
def createdIn (i : UpdaterId) (h : List Entry) : Nat := h.countP (Entry.tellsCreated i)

/-- How many events of updater `i` say that a texture was released. -/
def releasedIn (i : UpdaterId) (h : List Entry) : Nat := h.countP (Entry.tellsReleased i)

/-- How many textures the teardown of updater `i` released, as its event says. -/
def drainedIn (i : UpdaterId) (h : List Entry) : Nat := (h.map (Entry.drained i)).sum

/-- How many textures are given up by an entry of updater `i` while no event says so: the one
that a frame finds in its slot and that is not its own, and all of a source that is replaced. -/
@[simp] def untoldBy (i : UpdaterId) (shelf : Table SlotId TextureId) : Entry → Nat
  | .latched j frame resolved =>
    if j = i ∧ resolved.outcome ≠ .cached then (shelf.get? frame.slot).elim 0 fun _ => 1 else 0
  | .source ref .installed => if ref.owner = i then shelf.size else 0
  | _ => 0

def untoldFrom (i : UpdaterId) (shelf : Table SlotId TextureId) : List Entry → Nat
  | [] => 0
  | e :: es => untoldBy i shelf e + untoldFrom i (shelve i shelf e) es

/-- How many textures of updater `i` were given up while no event said so. -/
def untoldIn (i : UpdaterId) (h : List Entry) : Nat := untoldFrom i ∅ h

/-- Whether a texture is created for a frame of updater `i`. -/
@[simp] def Entry.fills (i : UpdaterId) : Entry → Bool
  | .latched j _ resolved => j = i && resolved.outcome = .created
  | _ => false

/-- How many textures were created for frames of updater `i`. -/
def filledIn (i : UpdaterId) (h : List Entry) : Nat := h.countP (Entry.fills i)

/-- The shelf after one entry more. -/
theorem shelfIn_concat (i : UpdaterId) (h : List Entry) (e : Entry) :
    shelfIn i (h ++ [e]) = shelve i (shelfIn i h) e := by
  rw [shelfIn, List.foldl_append]
  rfl

/-- The untold releases after one entry more. -/
theorem untoldIn_concat (i : UpdaterId) (h : List Entry) (e : Entry) :
    untoldIn i (h ++ [e]) = untoldIn i h + untoldBy i (shelfIn i h) e := by
  have all : ∀ shelf, untoldFrom i shelf (h ++ [e])
      = untoldFrom i shelf h + untoldBy i (h.foldl (shelve i) shelf) e := by
    induction h with
    | nil => exact fun _ => Nat.add_comm _ _
    | cons first h ih =>
      intro shelf
      rw [List.cons_append, untoldFrom, untoldFrom, ih, Nat.add_assoc]
      rfl
  exact all ∅

/-- Nothing goes untold exactly if no entry leaves a texture untold. -/
theorem untoldIn_eq_zero : untoldIn i h = 0
    ↔ ∀ pre e post, h = pre ++ e :: post → untoldBy i (shelfIn i pre) e = 0 := by
  induction h using List.reverseRecOn with
  | nil => exact iff_of_true rfl (throughout_nil fun pre e => untoldBy i (shelfIn i pre) e = 0)
  | append_singleton h e ih =>
    rw [untoldIn_concat, Nat.add_eq_zero_iff, ih]
    exact (throughout_append (R := fun pre e => untoldBy i (shelfIn i pre) e = 0)).symm

/-- An entry by another updater is not about the shelf of `i`. -/
theorem Entry.NotBy.not_shelves (other : e.NotBy i) : ¬ e.Shelves i := by
  intro shelves
  cases e with
  | latched j frame resolved => exact other (congrArg some shelves)
  | event j sink event =>
    cases event with
    | detached => exact shelves
    | _ => exact other (congrArg some shelves)
  | source ref call =>
    cases call with
    | installed => exact other (congrArg some shelves)
    | _ => exact shelves
  | _ => exact shelves

/-- Nor is a minor one. -/
theorem Entry.Minor.not_shelves (minor : e.Minor) : ¬ e.Shelves i := by
  cases e with
  | backend | bound | note => exact id
  | _ => cases minor

/-- What is not about the shelf leaves it. -/
theorem shelve_quiet (quiet : ¬ e.Shelves i) (shelf : Table SlotId TextureId) :
    shelve i shelf e = shelf := by
  cases e with
  | latched => exact if_neg quiet
  | event j sink event =>
    cases event with
    | textureReleased | tornDown => exact if_neg quiet
    | _ => rfl
  | source ref call =>
    cases call with
    | installed => exact if_neg quiet
    | _ => rfl
  | _ => rfl

/-- And so do many such entries. -/
theorem shelfIn_quiet (quiet : ∀ e ∈ es, ¬ e.Shelves i) : shelfIn i (h ++ es) = shelfIn i h := by
  induction es using List.reverseRecOn with
  | nil => rw [List.append_nil]
  | append_singleton es e ih =>
    rw [← List.append_assoc, shelfIn_concat, shelve_quiet (quiet e (by simp)),
      ih fun e mem => quiet e (List.mem_append_left _ mem)]

/-- An entry by which the sink hears of a created texture is about the shelf. -/
theorem Entry.shelves_of_tellsCreated (tells : e.tellsCreated i) : e.Shelves i := by
  cases e with
  | event j sink event =>
    cases event with
    | frameLatched news => exact of_decide_eq_true (p := j = i) (Bool.and_eq_true_iff.1 tells).1
    | _ => cases tells
  | _ => cases tells

/-- And so is one by which a texture is created. -/
theorem Entry.shelves_of_fills (fills : e.fills i) : e.Shelves i := by
  cases e with
  | latched j frame resolved =>
    exact of_decide_eq_true (p := j = i) (Bool.and_eq_true_iff.1 fills).1
  | _ => cases fills

/-- Entries that are not about the shelf do not count. -/
theorem countP_quiet {p : Entry → Bool} (shelves : ∀ e, p e → e.Shelves i)
    (quiet : ∀ e ∈ es, ¬ e.Shelves i) : (h ++ es).countP p = h.countP p := by
  rw [List.countP_append, List.countP_eq_zero.2 fun e mem counts => quiet e mem (shelves e counts),
    Nat.add_zero]

-- ==================================================== the balance

/-- What updater `i` tells by an entry is right: a release is one in normal mode, of the texture
in the slot, and says whether that left its backend; and a teardown releases all that there
are. -/
structure ToldRightly (i : UpdaterId) (pre : List Entry) (e : Entry) : Prop where
  released : ∀ k slot mode release, e = .event i k (.textureReleased slot mode release) →
    mode = .normal ∧ ∃ t, (shelfIn i pre).get? slot = some t ∧ (release = .freed ↔ t ∈ freesIn pre)
  tornDown : ∀ k mode n layer, e = .event i k (.tornDown mode n layer) → n = (shelfIn i pre).size

/-- An entry that is not about the shelf is told rightly. -/
theorem ToldRightly.of_quiet (quiet : ¬ e.Shelves i) (pre : List Entry) : ToldRightly i pre e where
  released k slot mode release same := absurd (by rw [same]; rfl) quiet
  tornDown k mode n layer same := absurd (by rw [same]; rfl) quiet

/-- A texture that comes is created, and one that goes is released, torn down or goes untold. -/
theorem ToldRightly.balanced {pre : List Entry} (right : ToldRightly i pre e) :
    (shelfIn i pre).size + (if e.fills i then 1 else 0)
      = (shelve i (shelfIn i pre) e).size + untoldBy i (shelfIn i pre) e + e.drained i
        + (if e.tellsReleased i then 1 else 0) := by
  obtain ⟨released, tornDown⟩ := right
  generalize shelfIn i pre = shelf at *
  cases e with
  | latched j frame resolved =>
    by_cases own : j = i
    · have came := shelf.size_set frame.slot
      have went := shelf.size_erase frame.slot
      cases resolved with
      | cached t => simp [Resolved.outcome]
      | created t => simp [Resolved.outcome, own, came]
      | unavailable => simp [Resolved.outcome, own, went]
    · simp [own]
  | event j sink event =>
    by_cases own : j = i
    · subst own
      cases event with
      | textureReleased slot mode release =>
        obtain ⟨-, t, found, -⟩ := released sink slot mode release rfl
        have went := shelf.size_erase slot
        rw [found] at went
        simp [← went]
      | tornDown mode n layer =>
        have all := tornDown sink mode n layer rfl
        simp [all]
      | frameLatched | detached => rfl
    · cases event with
      | textureReleased | tornDown =>
        simp [own]
      | frameLatched | detached => rfl
  | source ref call =>
    cases call with
    | installed =>
      by_cases own : ref.owner = i
      · simp [own]
      · simp [own]
    | _ => rfl
  | _ => rfl

/-- Where all that is told is right, the textures that were created for frames are those that
were released, by a teardown or before, those that went untold, and those that are there. -/
theorem balanced (told : Throughout (ToldRightly i) h) :
    filledIn i h = releasedIn i h + drainedIn i h + untoldIn i h + (shelfIn i h).size := by
  induction h using List.reverseRecOn with
  | nil => rfl
  | append_singleton h e ih =>
    obtain ⟨before, right⟩ := throughout_append.1 told
    have ih := ih before
    have step := right.balanced
    have sums : ∀ f : Entry → Nat, ((h ++ [e]).map f).sum = (h.map f).sum + f e := by simp
    unfold filledIn releasedIn drainedIn at ih ⊢
    rw [shelfIn_concat, untoldIn_concat, sums, List.countP_append, List.countP_append,
      List.countP_singleton, List.countP_singleton]
    omega

-- ==================================================== accounts of an updater

namespace Updater

/-- The texture in a slot of an updater. -/
def textureIn (u : Updater) (slot : SlotId) : Option TextureId :=
  (u.cache.get? slot).bind Slot.texture

variable {u v : Updater}

/-- The textures in the slots are read off the cache. -/
theorem textureIn_congr (same : v.cache = u.cache) (slot : SlotId) :
    v.textureIn slot = u.textureIn slot := by
  rw [textureIn, same, textureIn]

theorem textureIn_empty (empty : u.cache.slots = ∅) (slot : SlotId) : u.textureIn slot = none := by
  rw [textureIn, SlotCache.get?, empty]
  rfl

end Updater

/-- How updater `i`, if it is there, stands to what a history tells of its textures. -/
structure Accounts (i : UpdaterId) (o : Option Updater) (h : List Entry) : Prop where
  stands : ∀ u, o = some u → ∀ slot, u.textureIn slot = (shelfIn i h).get? slot
  gone : o = none → (shelfIn i h).size = 0
  told : Throughout (ToldRightly i) h
  paired : createdIn i h = filledIn i h

namespace Accounts

variable {o : Option Updater} {u v : Updater} {w' : World} {m : Manner} {f f' r : Owners}

/-- The accounts are read off the textures in the slots. -/
theorem congr (accounts : Accounts i (some u) h)
    (same : ∀ slot, v.textureIn slot = u.textureIn slot) : Accounts i (some v) h where
  stands x there slot := by
    cases there
    rw [same, accounts.stands u rfl]
  gone none := nomatch none
  told := accounts.told
  paired := accounts.paired

/-- Entries that shelve nothing leave the accounts as they are. -/
theorem quiet (accounts : Accounts i o h) (quiet : ∀ e ∈ es, ¬ e.Shelves i) :
    Accounts i o (h ++ es) where
  stands u there := by
    rw [shelfIn_quiet quiet]
    exact accounts.stands u there
  gone none := by
    rw [shelfIn_quiet quiet]
    exact accounts.gone none
  told := accounts.told.extend fun e mem pre => .of_quiet (quiet e mem) pre
  paired := by
    rw [createdIn, filledIn, countP_quiet (fun _ => Entry.shelves_of_tellsCreated) quiet,
      countP_quiet (fun _ => Entry.shelves_of_fills) quiet]
    exact accounts.paired

/-- Writing such entries keeps the accounts. -/
theorem writes (accounts : Accounts i o w.history)
    (writes : Writes (fun e => ¬ e.Shelves i) w w') : Accounts i o w'.history := by
  obtain ⟨es, grown, quiet⟩ := writes.history
  rw [grown]
  exact accounts.quiet quiet

/-- A slot is emptied, and the sink hears of it. -/
theorem release (accounts : Accounts i (some u) h) {release : Release} (k : Sink)
    (held : u.textureIn slot = some t) (freed : release = .freed ↔ t ∈ freesIn h)
    (emptied : ∀ slot', v.textureIn slot' = if slot' = slot then none else u.textureIn slot') :
    Accounts i (some v) (h ++ [.event i k (.textureReleased slot .normal release)]) where
  stands x there slot' := by
    cases there
    rw [shelfIn_concat, emptied, accounts.stands u rfl, shelve, if_pos rfl, Table.get?_erase]
  gone none := nomatch none
  told := by
    refine throughout_append.2 ⟨accounts.told, ⟨?_, nofun⟩⟩
    rintro k' slot' mode' release' ⟨⟩
    exact ⟨rfl, t, (accounts.stands u rfl slot).symm.trans held, freed⟩
  paired := by
    rw [createdIn, filledIn, List.countP_append, List.countP_append]
    exact accounts.paired

/-- The textures in the slots of an updater are as many as the history has. -/
theorem live (accounts : Accounts i (some u) h) : u.cache.liveTextures = (shelfIn i h).size := by
  rw [← Table.countP_eq_size (accounts.stands u rfl), SlotCache.liveTextures]
  refine List.countP_congr fun slot _ => ?_
  rw [Slot.isEmpty, Option.not_isNone]

/-- All slots are emptied, by a teardown or for a new source. -/
theorem emptied (accounts : Accounts i (some u) h) (right : ToldRightly i h e)
    (empties : shelve i (shelfIn i h) e = ∅) (plain : ¬ e.tellsCreated i ∧ ¬ e.fills i)
    (empty : v.cache.slots = ∅) : Accounts i (some v) (h ++ [e]) where
  stands x there slot := by
    cases there
    rw [shelfIn_concat, empties, Updater.textureIn_empty empty]
    rfl
  gone none := nomatch none
  told := throughout_append.2 ⟨accounts.told, right⟩
  paired := by
    rw [createdIn, filledIn, List.countP_append, List.countP_append, List.countP_singleton,
      List.countP_singleton, if_neg plain.1, if_neg plain.2]
    exact accounts.paired

/-- An updater without textures can go. -/
theorem goes (accounts : Accounts i (some u) h) (empty : u.cache.slots = ∅) :
    Accounts i none h where
  stands x there := nomatch there
  gone _ := by
    refine Table.size_eq_zero fun slot => ?_
    rw [← accounts.stands u rfl, Updater.textureIn_empty empty]
  told := accounts.told
  paired := accounts.paired

/-- A frame is taken over. -/
theorem latched (accounts : Accounts i (some u) h) {frame : Frame} {resolved : Resolved}
    {news : FrameLatched} (k : Sink) (outcome : news.outcome = resolved.outcome)
    (stands : ∀ slot, v.textureIn slot = (resolved.shelve (shelfIn i h) frame.slot).get? slot) :
    Accounts i (some v)
      (h ++ [.latched i frame resolved] ++ [.event i k (.frameLatched news)]) where
  stands x there slot := by
    cases there
    rw [stands, shelfIn_concat, shelfIn_concat]
    show _ = (shelve i (shelfIn i h) (.latched i frame resolved)).get? slot
    rw [shelve, if_pos rfl]
  gone none := nomatch none
  told := throughout_append.2 ⟨throughout_append.2 ⟨accounts.told, ⟨nofun, nofun⟩⟩, ⟨nofun, nofun⟩⟩
  paired := by
    have paired := accounts.paired
    simp only [createdIn, filledIn, List.countP_append, List.countP_singleton, Entry.tellsCreated,
      Entry.fills, outcome] at paired ⊢
    simp [paired]

end Accounts

namespace SlotCache

variable {cache : SlotCache} {r : Owners}

/-- A slot that is cleared answers of its texture whether that left its backend. -/
theorem clear_release (ledger : w.Ledger) (owned : w.Owned (cache.owners + r)) (slot : SlotId) :
    let cleared := cache.clear w slot .normal
    (cleared.answer = none ∧ (cache.get? slot).bind Slot.texture = none)
      ∨ ∃ release t, cleared.answer = some release ∧ (cache.get? slot).bind Slot.texture = some t
        ∧ (release = .freed ↔ t ∈ freesIn cleared.world.history) := by
  intro cleared
  unfold cleared clear
  cases found : cache.get? slot with
  | none => exact .inl ⟨rfl, rfl⟩
  | some entry =>
    rw [Option.bind_some]
    dsimp only [Slot.clear]
    cases texture : entry.texture with
    | none => exact .inl ⟨rfl, rfl⟩
    | some t =>
      refine .inr ⟨_, t, rfl, rfl, ?_⟩
      rw [owners_of_get? found, Slot.owners, texture, oneOf_some, add_assoc] at owned
      obtain ⟨steps, owned'⟩ := (Passes.handBack (P := Entry.Any) (m := .gentle)).transfer owned
      exact (ledger.steps steps).release owned'.pos .normal

end SlotCache

namespace Updater

variable {u : Updater} {r : Owners} {mode : TeardownMode}

theorem calls_quiet (c : ContextId) (call : BackendCall) (_ : call.ended?.isSome) :
    ¬ (Entry.backend c call).Shelves i := fun shelves => shelves

/-- A resolution changes the texture of the slot of its frame alone. -/
theorem resolution_textureIn (u : Updater) (w : World) (frame : Frame) (slot : SlotId) :
    ((u.resolution w frame).object.get? slot).bind Slot.texture
      = if slot = frame.slot then (u.resolution w frame).answer.image? else u.textureIn slot := by
  obtain ⟨after, resolves, same⟩ := u.cache.resolve_resolves w u.context frame.slot frame.buffer
    frame.dataspace frame.forceRecreate
  rw [resolution, same, SlotCache.get?, Table.get?_set]
  split
  · cases resolves with
    | cached texture => exact texture
    | created => rfl
    | unavailable => rfl
  · rfl

/-- What is found in a slot by a latch was there before. -/
theorem resolution_found {frame : Frame} (found : (u.resolution w frame).answer = .cached t) :
    u.textureIn frame.slot = some t := by
  obtain ⟨s, x, entered, texture, -⟩ := SlotCache.resolve_cached found
  rw [textureIn, entered]
  exact texture

/-- A latch keeps the accounts: it shelves what it fills. -/
theorem latch_accounts (accounts : Accounts u.id (some u) w.history) (frame : Frame)
    (issued : Option FenceClass) :
    Accounts u.id (some (u.latch w frame issued).2) (u.latch w frame issued).1.history := by
  obtain ⟨news, es, history, ⟨-, outcome⟩, minor⟩ := u.latch_history w frame issued
  obtain ⟨gs, grown, minor'⟩ := (u.resolution_minor w frame).history
  have before := accounts.quiet fun e mem => (minor' e mem).not_shelves
  rw [← grown] at before
  have textures : ∀ slot, (u.latch w frame issued).2.textureIn slot
      = ((u.resolution w frame).answer.shelve (shelfIn u.id (u.resolution w frame).world.history)
          frame.slot).get? slot := by
    intro slot
    rw [textureIn, (u.latch_slots w frame issued).2, resolution_textureIn, before.stands u rfl]
    cases answer : (u.resolution w frame).answer with
    | cached t =>
      have found := resolution_found answer
      rw [before.stands u rfl] at found
      split
      · next here =>
        rw [here, Resolved.shelve, found]
        rfl
      · rfl
    | created t => exact (Table.get?_set _ _ _ _).symm
    | unavailable => exact (Table.get?_erase _ _ _).symm
  have after := (before.latched u.sink outcome textures).quiet fun e mem =>
    (minor e mem).not_shelves
  rw [history]
  simpa only [List.append_assoc, List.cons_append, List.nil_append] using after

/-- The current slot is emptied, and the sink hears of the texture that was in it. -/
theorem severActiveSlot_accounts (own : u.id = i) (accounts : Accounts i (some u) w.history)
    (ledger : w.Ledger) (owned : w.Owned (u.owners + r)) :
    Accounts i (some (u.severActiveSlot w).object) (u.severActiveSlot w).world.history := by
  unfold severActiveSlot
  cases u.currentSlot with
  | none => exact accounts
  | some slot =>
    have handedBack := accounts.writes (u.cache.releaseQueue_writes calls_quiet w slot)
    have shape : u.owners + r = u.cache.owners + (oneOf .image u.shownImage + r) := by
      rw [owners]
      abel
    rw [shape] at owned
    obtain ⟨steps, owned'⟩ :=
      (u.cache.handBack_passes (P := Entry.Any) (m := .gentle) slot).transfer owned
    have ledger' := ledger.steps steps
    have cleared := handedBack.writes (u.cache.clear_writes calls_quiet _ slot .normal)
    have textures := u.cache.clear_texture (u.cache.releaseQueue w slot).1 slot
    rcases SlotCache.clear_release ledger' owned' slot with
      ⟨answer, empty⟩ | ⟨release, t, answer, held, freed⟩
    · dsimp only
      rw [answer]
      refine cleared.congr fun slot' => (textures slot' .normal).trans ?_
      split
      · next same => exact (same ▸ empty).symm
      · rfl
    · dsimp only
      rw [answer, own]
      exact cleared.release u.sink held freed fun slot' => textures slot' .normal

/-- The source is let go, and then the current slot is emptied. -/
theorem severed_accounts (accounts : Accounts u.id (some u) w.history) (ledger : w.Ledger)
    (owned : w.Owned (u.owners + r)) :
    let released := u.releaseSource w
    let severed := released.object.severActiveSlot released.world
    Accounts u.id (some severed.object) severed.world.history := by
  have writes : Writes (fun e => ¬ e.Shelves u.id) w (u.releaseSource w).world :=
    u.releaseSource_writes (fun _ => nofun) (fun _ => nofun) w
  have passes := u.releaseSource_passes (P := Entry.Any) (m := .gentle) (w := w)
    (r := u.owners + r) (fun _ _ _ => trivial)
  obtain ⟨steps, owned'⟩ := passes.transfer owned
  rw [← u.releaseSource_owners (w := w)] at owned'
  refine severActiveSlot_accounts ?_ ((accounts.writes writes).congr ?_) (ledger.steps steps) owned'
  · rw [releaseSource_object]
  · rw [releaseSource_object]
    exact fun _ => rfl

/-- A new source finds no slots. -/
theorem attach_accounts (accounts : Accounts u.id (some u) w.history) (ledger : w.Ledger)
    (owned : w.Owned (u.owners + r)) {source : SourceRef} (own : source.owner = u.id) :
    Accounts u.id (some (u.attach w source).2) (u.attach w source).1.history := by
  have severed := severed_accounts accounts ledger owned
  have cleared := severed.writes (SlotCache.clearAll_writes calls_quiet
    ((u.releaseSource w).object.severActiveSlot (u.releaseSource w).world).object.cache _ .normal)
  have installed : ∀ h, ToldRightly u.id h (.source source .installed) := fun _ => ⟨nofun, nofun⟩
  have noted := fun n => cleared.writes (.record (e := .note (.staleSlotsDropped n)) nofun)
  unfold attach
  dsimp only
  split
  · exact (noted _).emptied (installed _) (if_pos own) ⟨nofun, nofun⟩ rfl
  · exact cleared.emptied (installed _) (if_pos own) ⟨nofun, nofun⟩ rfl

/-- A detach takes the texture of the active slot off the shelf. -/
theorem detach_accounts (accounts : Accounts u.id (some u) w.history) (ledger : w.Ledger)
    (owned : w.Owned (u.owners + r)) :
    Accounts u.id (some (u.detach w).2) (u.detach w).1.history := by
  have severed := severed_accounts accounts ledger owned
  unfold detach
  dsimp only
  split
  · exact severed.writes ((Writes.record nofun).trans (.trace nofun))
  · exact severed

/-- A teardown empties all slots, and the sink hears how many textures were in them. -/
theorem teardown_accounts (accounts : Accounts u.id (some u) w.history) (mode : TeardownMode) :
    Accounts u.id (some (u.teardown w mode).2) (u.teardown w mode).1.history := by
  by_cases gone : u.destroyed
  · rw [teardown, if_pos gone]
    exact accounts
  · have writes : Writes (fun e => ¬ e.Shelves u.id) w
        (u.cache.clearAll ((u.releaseOwnership w).letGoOf u.shownImage) mode).world :=
      (u.releaseOwnership_writes (fun _ shelves => shelves) w).trans
        ((letGoOf_writes calls_quiet _ _).trans (u.cache.clearAll_writes calls_quiet _ mode))
    have before := accounts.writes
      (writes.andRecord (e := .note (.tornDown mode u.cache.liveTextures)) fun shelves => shelves)
    rw [u.teardown_history gone, List.append_cons]
    refine before.emptied ?_ (if_pos rfl) ⟨Bool.false_ne_true, Bool.false_ne_true⟩ ?_
    · constructor
      · rintro k slot mode' release ⟨⟩
      · rintro k mode' n layer ⟨⟩
        exact before.live
    · rw [teardown, if_neg gone]
      rfl

/-- Whoever goes away is torn down first, and leaves no slots. -/
theorem discard_accounts (accounts : Accounts u.id (some u) w.history) (bare : u.Bare) :
    Accounts u.id none (u.discard w).history := by
  unfold discard
  have down := teardown_accounts accounts (if w.alive u.context then .normal else .contextLost)
  have empty := (u.teardown_bare bare w (if w.alive u.context then .normal else .contextLost)).1
  generalize u.teardown w (if w.alive u.context then .normal else .contextLost) = after
    at down empty
  refine (down.goes empty).writes ((after.2.dropSource_writes (fun _ => nofun) _).trans
    ((letGoOf_writes calls_quiet _ _).trans (SlotCache.discard_writes calls_quiet _ _)))

end Updater

-- ==================================================== a session

namespace Session

variable {s s' : Session} {u : Updater} {n : Nat} {x : World × Updater} {h : Held Updater}

/-- Every deed of `i` keeps its accounts. -/
theorem Deed.accounts (sound : s.Sound) (entered : s.updaters.get? i = some h)
    (deed : Deed s i h.value n x) (accounts : Accounts i (some h.value) s.world.history) :
    Accounts i (some x.2) x.1.history := by
  obtain ⟨-, own⟩ := sound.numbered.updaters i h entered
  have owned := sound.owned
  rw [owners_eq_besides entered] at owned
  cases deed with
  | callback callback =>
    cases callback with
    | post => exact (accounts.writes (.record (e := .posted h.value.id) nofun)).congr fun _ => rfl
    | fence f useSync gate previous =>
      obtain ⟨others, owners⟩ := previous_owners h.value
      have fenced := f.createFence_passes (P := fun e => ¬ e.Shelves i) (m := .loose)
        (w := s.world) (r := others) (fun _ => nofun) useSync
      rw [previous, ← owners] at fenced
      obtain ⟨es, grown, told⟩ := fenced.history owned
      dsimp only
      rw [grown]
      refine accounts.quiet fun e mem => ?_
      by_cases remark : e.isRemark
      · exact told e mem remark
      · exact (e.notBy_of_not_remark remark i).not_shelves
  | setter f_setter proper =>
    exact accounts.congr (Updater.textureIn_congr (Updater.setter_slots f_setter h.value).1)
  | @bind t forceFilter transform crop held =>
    have bound := (Updater.bind_minor h.value (s.world.share t) forceFilter transform crop t).mono
      fun e (minor : e.Minor) => minor.not_shelves (i := i)
    exact (accounts.writes ((onTexture_writes _ _ _).trans bound)).congr fun _ => rfl
  | idle live idle =>
    have writes := h.value.beginApply_writes (P := fun e => ¬ e.Shelves i) (fun _ => nofun) s.world
    exact (accounts.writes writes).congr
      (Updater.textureIn_congr (h.value.beginApply_slots s.world).2.1)
  | @ask ref live asked =>
    have writes := h.value.beginApply_writes (P := fun e => ¬ e.Shelves i) (fun _ => nofun) s.world
    exact (accounts.writes (writes.andRecord (e := .source ref .dequeueBegun) nofun)).congr
      (Updater.textureIn_congr (h.value.beginApply_slots s.world).2.1)
  | answer results has => exact accounts.writes (.record nofun)
  | latch frame issued live answered =>
    rw [← own] at accounts ⊢
    exact Updater.latch_accounts accounts frame issued
  | attach name =>
    rw [← own] at accounts ⊢
    exact Updater.attach_accounts accounts sound.ledger owned rfl
  | detach =>
    rw [← own] at accounts ⊢
    exact Updater.detach_accounts accounts sound.ledger owned
  | teardown mode =>
    rw [← own] at accounts ⊢
    exact Updater.teardown_accounts accounts mode

/-- Where nothing was done there is nothing to account for. -/
theorem accounts_of_silent (silent : ∀ e ∈ s.world.history, e.NotBy i)
    (empty : ∀ u, s.updaterOf? i = some u → u.cache.slots = ∅) :
    Accounts i (s.updaterOf? i) s.world.history := by
  have start : Accounts i (s.updaterOf? i) [] := by
    refine ⟨fun u there slot => ?_, fun _ => rfl, throughout_nil _, rfl⟩
    rw [Updater.textureIn_empty (empty u there)]
    rfl
  exact start.quiet fun e mem => (silent e mem).not_shelves

/-- The updater is there with its accounts, and without slots if it is torn down. -/
structure Accounted (s : Session) (i : UpdaterId) : Prop where
  accounts : Accounts i (s.updaterOf? i) s.world.history
  bare : s.Bare i

/-- A newborn updater is accounted for. -/
theorem Newborn.accounted (newborn : s.Newborn i) : s.Accounted i where
  accounts := by
    refine accounts_of_silent newborn.silent fun u there => ?_
    obtain ⟨c, config, sink, rfl⟩ := newborn.new u there
    rfl
  bare := newborn.bare

/-- And stays so over a deal. -/
theorem Deal.accounted (order : s.InOrder) (given : i < s.fresh) (deal : Deal i none s s')
    (accounted : s.Accounted i) : s'.Accounted i := by
  obtain ⟨accounts, bare⟩ := accounted
  refine ⟨?_, deal.bare bare⟩
  cases deal with
  | elsewhere elsewhere =>
    obtain ⟨es, grown, others⟩ := elsewhere.history order.sound
    rw [grown, elsewhere.same]
    exact accounts.quiet fun e mem => (others e mem).not_shelves
  | opens b => exact accounts
  | comes new => exact absurd new (Nat.ne_of_lt given)
  | goes entered world fresh besides gone =>
    have there := updaterOf?_of_get? entered
    obtain ⟨-, own⟩ := order.sound.numbered.updaters i _ entered
    rw [there, ← own] at accounts
    rw [world, updaterOf?, gone, ← own]
    exact Updater.discard_accounts accounts (bare _ there)
  | deed entered deed free world fresh besides there =>
    rw [updaterOf?_of_get? entered] at accounts
    rw [world, there]
    exact deed.accounts order.sound entered accounts

/-- What the events of updater `i` tell of its textures, and what they do not. -/
structure ReleaseAccounts (s : Session) (i : UpdaterId) : Prop where
  /-- The slots hold what the history has, and nothing is left by an updater that is gone. -/
  stands : ∀ u, s.updaterOf? i = some u →
    (∀ slot, u.textureIn slot = (shelfIn i s.world.history).get? slot)
      ∧ u.cache.liveTextures = (shelfIn i s.world.history).size
  gone : s.updaterOf? i = none → (shelfIn i s.world.history).size = 0
  /-- What is told is right. -/
  told : Throughout (ToldRightly i) s.world.history
  /-- The books balance if what goes untold is counted. -/
  balance : createdIn i s.world.history
    = releasedIn i s.world.history + drainedIn i s.world.history + untoldIn i s.world.history
      + (shelfIn i s.world.history).size
  /-- They come out even without that exactly if no texture was replaced untold. -/
  even : ∀ u, s.updaterOf? i = some u →
    (createdIn i s.world.history = releasedIn i s.world.history + drainedIn i s.world.history
        + u.cache.liveTextures
      ↔ ∀ pre e post, s.world.history = pre ++ e :: post → untoldBy i (shelfIn i pre) e = 0)

/-- The books follow from the accounts at each moment. -/
theorem releaseAccounts_of (accounts : Accounts i (s.updaterOf? i) s.world.history) :
    s.ReleaseAccounts i := by
  have balance := balanced accounts.told
  rw [← accounts.paired] at balance
  have live : ∀ u, s.updaterOf? i = some u →
      u.cache.liveTextures = (shelfIn i s.world.history).size := by
    intro u there
    rw [there] at accounts
    exact accounts.live
  refine ⟨fun u there => ⟨accounts.stands u there, live u there⟩, accounts.gone, accounts.told,
    balance, fun u there => ?_⟩
  rw [live u there, ← untoldIn_eq_zero]
  omega

/-- In every run the events of an updater account for all its textures but those that go untold:
events of releases and of the teardown are right, and together with what went untold and what
is there still they make up for all that was created. -/
theorem run_release_accounts (minimal : Bool) (b : Backend) (commands : List Command)
    (i : UpdaterId) : ((start minimal b).run commands).ReleaseAccounts i := by
  by_cases given : i < ((start minimal b).run commands).fresh
  · have accounted := run_life (I := fun s => s.Accounted i) (fun _ newborn => newborn.accounted)
      (fun _ _ order given deal accounted => deal.accounted order given accounted)
      minimal b commands given
    exact releaseAccounts_of accounted.accounts
  · have unborn := Nat.not_lt.1 given
    have none := updaterOf?_of_unborn (kept_run minimal b commands).order unborn
    have silent := run_notBy minimal b commands unborn
    refine releaseAccounts_of (accounts_of_silent silent fun u there => ?_)
    rw [none] at there
    cases there

-- Two buffers come in one slot: two textures are created, one is there, and of none is it told
-- that it was released.
example :
    let frame := fun buffer => Frame.ofBuffer ⟨0⟩ ⟨⟨buffer⟩, ⟨64, 32, 1⟩, none⟩ .srgb
    let s := (start false {}).run [.newUpdater "u" {} (.registered "s") .unchanged,
      .attach "u" "q" { frames := [frame 1, frame 2], fifo := true } none, .apply "u", .post "u",
      .apply "u"]
    (createdIn 1 s.world.history, releasedIn 1 s.world.history, drainedIn 1 s.world.history,
      untoldIn 1 s.world.history, (s.updaterOf? 1).map (·.cache.liveTextures))
      = (2, 0, 0, 1, some 1) := by decide

end Session

end LayerFeed
