/-
What images and slots show, whatever number their textures have. Every texture was imported from
a buffer with a dataspace, and these are its `Sight`; the history tells it (`Depicts`) and goes on
telling it.

A slot that resolves a frame shows afterwards what `Sight.resolved` says: the same if it has a
texture to be taken again, the frame's buffer if it is imported, and else nothing
(`Slot.Shows.resolve`). So if imports work, the slot shows the frame's buffer in each case, and
it is not seen whether the texture is new (`Sight.resolved_served`).

Two slots are `Slot.Twins` if they show the same, each by the history of its own world, and caches
are twins if their slots are. Tables are compared entry by entry (`Table.Rel`).
-/
import LayerFeed.Proofs.Object.Resolution
import LayerFeed.Proofs.World.Ledger
import Mathlib.Data.List.Forall2

namespace LayerFeed

open World

-- ==================================================== tables

namespace Table

variable {κ α β : Type} {R S : α → β → Prop} {t : Table κ α} {t' : Table κ β}

/-- Two tables have the same keys in the same order, and related values. -/
def Rel (R : α → β → Prop) (t : Table κ α) (t' : Table κ β) : Prop :=
  List.Forall₂ (fun row row' => row.1 = row'.1 ∧ R row.2 row'.2) t.entries t'.entries

/-- Empty tables are related. -/
theorem rel_empty : Rel R (∅ : Table κ α) (∅ : Table κ β) := .nil

namespace Rel

variable (rel : Rel R t t')

include rel

/-- A weaker relation. -/
theorem mono (weaker : ∀ a b, R a b → S a b) : Rel S t t' :=
  List.Forall₂.imp (fun _ _ h => ⟨h.1, weaker _ _ h.2⟩) rel

/-- Related tables have the same size. -/
theorem size : t'.size = t.size := (List.Forall₂.length_eq rel).symm

/-- What looks the same in related values looks the same in the tables. -/
theorem rows {γ : Type} {f : α → γ} {g : β → γ} (same : ∀ a b, R a b → f a = g b) :
    t.entries.map (fun row => (row.1, f row.2)) = t'.entries.map fun row => (row.1, g row.2) := by
  unfold Rel at rel
  generalize t.entries = rows, t'.entries = rows' at rel ⊢
  induction rel with
  | nil => rfl
  | @cons row row' _ _ related _ ih =>
    rw [List.map_cons, List.map_cons, ih, related.1, same _ _ related.2]

variable [DecidableEq κ]

/-- Related values under the same keys. -/
theorem get? (k : κ) : Option.Rel R (t.get? k) (t'.get? k) := by
  unfold Rel at rel
  unfold Table.get?
  generalize t.entries = rows, t'.entries = rows' at rel ⊢
  induction rel with
  | nil => exact .none
  | @cons row row' _ _ related _ ih =>
    obtain ⟨j, a⟩ := row
    obtain ⟨j', a'⟩ := row'
    obtain ⟨rfl, related⟩ := related
    rw [findRow, findRow]
    split
    · exact .some related
    · exact ih

/-- The same keys. -/
theorem contains (k : κ) : t'.contains k = t.contains k := by
  have found := rel.get? k
  unfold Table.contains
  generalize t.get? k = o, t'.get? k = o' at found
  cases found <;> rfl

/-- A related value stored in both. -/
theorem set (k : κ) {a : α} {b : β} (related : R a b) : Rel R (t.set k a) (t'.set k b) := by
  unfold Rel at rel
  show List.Forall₂ _ (putRow k a t.entries) (putRow k b t'.entries)
  generalize t.entries = rows, t'.entries = rows' at rel ⊢
  induction rel with
  | nil => exact .cons ⟨rfl, related⟩ .nil
  | @cons row row' _ _ first rest ih =>
    obtain ⟨j, c⟩ := row
    obtain ⟨j', c'⟩ := row'
    obtain ⟨rfl, first⟩ := first
    rw [putRow, putRow]
    split
    · exact .cons ⟨rfl, related⟩ rest
    · exact .cons ⟨rfl, first⟩ ih

/-- A key erased in both. -/
theorem erase (k : κ) : Rel R (t.erase k) (t'.erase k) := by
  unfold Rel at rel
  show List.Forall₂ _ (removeRow k t.entries) (removeRow k t'.entries)
  generalize t.entries = rows, t'.entries = rows' at rel ⊢
  induction rel with
  | nil => exact .nil
  | @cons row row' _ _ first rest ih =>
    obtain ⟨j, c⟩ := row
    obtain ⟨j', c'⟩ := row'
    obtain ⟨rfl, first⟩ := first
    rw [removeRow, removeRow]
    split
    · exact rest
    · exact .cons ⟨rfl, first⟩ ih

/-- A value changed in both. -/
theorem modify (k : κ) {f : α → α} {g : β → β} (changes : ∀ a b, R a b → R (f a) (g b)) :
    Rel R (t.modify k f) (t'.modify k g) := by
  have found := rel.get? k
  unfold Table.modify
  generalize t.get? k = o, t'.get? k = o' at found
  cases found with
  | none => exact rel
  | some related => exact rel.set k (changes _ _ related)

end Rel

end Table

-- ==================================================== sights

/-- What can be seen of an image: the buffer that its texture was imported from, and how the
colors in it are encoded. -/
structure Sight where
  buffer : BufferId
  desc : BufferDesc
  dataspace : Dataspace
deriving DecidableEq

def HardwareBuffer.sight (b : HardwareBuffer) (d : Dataspace) : Sight := ⟨b.id, b.desc, d⟩

def Texture.sight (x : Texture) : Sight := x.buffer.sight x.dataspace

def Frame.sight (f : Frame) : Sight := f.buffer.sight f.dataspace

/-- The history tells that a texture was imported from the buffer that is seen. -/
def Depicts (h : List Entry) (t : TextureId) (v : Sight) : Prop :=
  ∃ c b d, .backend c (.imported t b d) ∈ h ∧ b.sight d = v

variable {h h' k k' : List Entry} {t t' : TextureId} {v : Sight} {A B : Sight → Prop}

/-- A texture depicts what it did as the history grows. -/
theorem Depicts.mono (more : h ⊆ k) (depicts : Depicts h t v) : Depicts k t v := by
  obtain ⟨c, b, d, mem, same⟩ := depicts
  exact ⟨c, b, d, more mem, same⟩

/-- The record of a texture shows what the history tells. -/
theorem Depicts.texture? {w : World} (ledger : w.Ledger) (depicts : Depicts w.history t v) :
    ∃ x, w.texture? t = some x ∧ x.sight = v := by
  obtain ⟨c, b, d, mem, same⟩ := depicts
  obtain ⟨x, known, -, rfl, rfl⟩ := ledger.origin c t b d mem
  exact ⟨x, known, same⟩

namespace World

/-- Whether imports into a context work: it is alive, and its backend refuses none. -/
def serves (w : World) (c : ContextId) : Bool := w.alive c && (w.backend c).importError.isNone

/-- Which contexts serve is read off the contexts. -/
theorem serves_congr {w w' : World} (same : w'.contexts = w.contexts) (c : ContextId) :
    w'.serves c = w.serves c := by
  unfold serves alive backend
  rw [same]

/-- Where imports work the next texture shows what is imported. -/
theorem importTexture_serves {w : World} {c : ContextId} (serves : w.serves c) (p : Pipeline)
    (b : HardwareBuffer) (d : Dataspace) :
    (w.importTexture c p b d).2 = .ok (w.imported + 1)
      ∧ Depicts (w.importTexture c p b d).1.history (w.imported + 1) (b.sight d) := by
  obtain ⟨alive, works⟩ : w.alive c = true ∧ (w.backend c).importError = none := by
    simpa [World.serves] using serves
  refine ⟨importTexture_answer p b d alive works, ?_⟩
  rw [importTexture_history p b d alive works]
  exact ⟨c, b, d, List.mem_append_right _ List.mem_cons_self, rfl⟩

/-- A context that does not serve refuses every import. -/
theorem importTexture_refuses {w : World} {c : ContextId} (refuses : w.serves c = false)
    (p : Pipeline) (b : HardwareBuffer) (d : Dataspace) :
    ∃ e, (w.importTexture c p b d).2 = .error e := by
  unfold importTexture
  split
  · next alive =>
    cases works : (w.backend c).importError with
    | none => simp [World.serves, alive, works] at refuses
    | some e => exact ⟨e, rfl⟩
  · exact ⟨_, rfl⟩

/-- What is written is added to what there was. -/
theorem Writes.subset {P : Entry → Prop} {w w' : World} (writes : Writes P w w') :
    w.history ⊆ w'.history := by
  obtain ⟨es, grown, -⟩ := writes.history
  rw [grown]
  exact List.subset_append_left _ _

end World

-- ==================================================== slots

/-- A slot is asked for what it shows already. -/
def Sight.matches (u v : Sight) : Bool := u.buffer = v.buffer && u.dataspace = v.dataspace

/-- What a slot shows after it has resolved a frame that shows `v`. -/
def Sight.resolved (before : Option Sight) (v : Sight) (force serves : Bool) : Option Sight :=
  if !force && before.any (·.matches v) then before else if serves then some v else none

/-- Where imports work a frame is shown, if equal buffers are described in the same way. -/
theorem Sight.resolved_served {before : Option Sight}
    (described : ∀ u ∈ before, u.buffer = v.buffer → u.desc = v.desc) (force : Bool) :
    Sight.resolved before v force true = some v := by
  unfold resolved
  split
  · next found =>
    cases before with
    | none => simp at found
    | some u =>
      obtain ⟨-, buffer, dataspace⟩ :
          force = false ∧ u.buffer = v.buffer ∧ u.dataspace = v.dataspace := by
        simpa [Sight.matches] using found
      have desc := described u rfl buffer
      cases u
      cases v
      simp_all
  · rfl

/-- Two slots that show the same allowed sight still do after each has resolved a frame, in a world
where imports work or do not. -/
def Sight.Agrees (A : Sight → Prop) (v : Sight) (force serves force' serves' : Bool) : Prop :=
  ∀ o, (∀ u ∈ o, A u) → Sight.resolved o v force' serves' = Sight.resolved o v force serves
    ∧ ∀ u ∈ Sight.resolved o v force serves, A u

/-- The same frame agrees with itself, however imports are served. -/
theorem Sight.agrees_alike (v : Sight) (force : Bool) {serves serves' : Bool}
    (same : serves' = serves) : Agrees (fun _ => True) v force serves force serves' :=
  fun _ _ => ⟨by rw [same], fun _ _ => trivial⟩

/-- Where imports work it does not matter who is forced. -/
theorem Sight.agrees_served (described : ∀ u, A u → u.buffer = v.buffer → u.desc = v.desc)
    (allowed : A v) (force force' : Bool) : Agrees A v force true force' true := by
  intro o shown
  have same := fun u mem => described u (shown u mem)
  rw [resolved_served same, resolved_served same]
  refine ⟨rfl, fun u mem => ?_⟩
  cases mem
  exact allowed

namespace Slot

/-- What a slot shows: nothing, or the buffer that it had imported. -/
inductive Shows (h : List Entry) : Slot → Option Sight → Prop
  | empty (p : Pipeline) : Shows h (.empty p) none
  | full {p : Pipeline} {b : HardwareBuffer} {d : Dataspace} {t : TextureId}
      (depicts : Depicts h t (b.sight d)) : Shows h ⟨p, some b, d, some t⟩ (some (b.sight d))

variable {s s' : Slot} {o : Option Sight} {w : World} {c : ContextId}

/-- A slot shows what it did as the history grows. -/
theorem Shows.mono (more : h ⊆ k) (shows : Shows h s o) : Shows k s o := by
  cases shows with
  | empty p => exact .empty p
  | full depicts => exact .full (depicts.mono more)

/-- The texture of a slot matches a frame as far as what it shows does. -/
theorem Shows.match? (ledger : w.Ledger) (shows : Shows w.history s o) (b : HardwareBuffer)
    (d : Dataspace) :
    s.match? w b d = if o.any (·.matches (b.sight d)) then s.texture else none := by
  cases shows with
  | empty p => rfl
  | @full p b' d' t depicts =>
    obtain ⟨x, known, same⟩ := depicts.texture? ledger
    have buffer : x.buffer.id = b'.id := congrArg Sight.buffer same
    simp only [Slot.match?, Option.filter_some, known, Option.any_some, HardwareBuffer.same, buffer]
    rfl

/-- An empty slot shows a frame if imports work. -/
theorem fill_shows (p : Pipeline) (w : World) (c : ContextId) (b : HardwareBuffer) (d : Dataspace) :
    let filled := (Slot.empty p).fill w c b d
    let seen := if w.serves c then some (b.sight d) else none
    filled.object.Shows filled.world.history seen
      ∧ Option.Rel (Depicts filled.world.history) filled.answer.image? seen := by
  unfold fill
  dsimp only
  cases serves : w.serves c with
  | true =>
    obtain ⟨answer, depicts⟩ := importTexture_serves serves p b d
    rw [show (Slot.empty p).pipeline = p from rfl, answer]
    exact ⟨.full depicts, .some depicts⟩
  | false =>
    obtain ⟨e, refused⟩ := importTexture_refuses serves p b d
    rw [show (Slot.empty p).pipeline = p from rfl, refused]
    exact ⟨.empty p, .none⟩

/-- What a slot shows after it has resolved a frame, and the image with it. -/
theorem Shows.resolve (ledger : w.Ledger) (shows : Shows w.history s o) (c : ContextId)
    (b : HardwareBuffer) (d : Dataspace) (force : Bool) :
    let after := s.resolve w c b d force
    let seen := Sight.resolved o (b.sight d) force (w.serves c)
    after.object.Shows after.world.history seen
      ∧ Option.Rel (Depicts after.world.history) after.answer.image? seen := by
  have found : (if force then none else s.match? w b d)
      = if !force && o.any (·.matches (b.sight d)) then s.texture else none := by
    cases force with
    | true => rfl
    | false => exact shows.match? ledger b d
  unfold Slot.resolve Sight.resolved
  dsimp only
  by_cases again : (!force && o.any (·.matches (b.sight d))) = true
  · rw [found, if_pos again, if_pos again]
    cases shows with
    | empty p => simp at again
    | full depicts => exact ⟨.full depicts, .some depicts⟩
  · rw [found, if_neg again, if_neg again]
    have contexts : (s.clear w .normal).world.contexts = w.contexts :=
      (s.clear_writes ordinary_calls w .normal).contexts
    dsimp only
    rw [clear_empties, ← serves_congr contexts]
    exact fill_shows s.pipeline _ c b d

end Slot

/-- Two textures show the same, each by the history of its own world. -/
def SameSight (h h' : List Entry) (t t' : TextureId) : Prop := ∃ v, Depicts h t v ∧ Depicts h' t' v

/-- Textures look the same as the histories grow. -/
theorem SameSight.mono (more : h ⊆ k) (more' : h' ⊆ k') (same : SameSight h h' t t') :
    SameSight k k' t t' := by
  obtain ⟨v, depicts, depicts'⟩ := same
  exact ⟨v, depicts.mono more, depicts'.mono more'⟩

namespace Slot

variable {s s' : Slot} {w w' : World}

/-- Two slots show the same, which is one of the sights that are allowed. -/
structure Twins (A : Sight → Prop) (h h' : List Entry) (s s' : Slot) : Prop where
  pipeline : s'.pipeline = s.pipeline
  shows : ∃ o, s.Shows h o ∧ s'.Shows h' o ∧ ∀ v ∈ o, A v

theorem twins_empty (p : Pipeline) : Twins A h h' (.empty p) (.empty p) :=
  ⟨rfl, none, .empty p, .empty p, nofun⟩

namespace Twins

theorem mono (more : h ⊆ k) (more' : h' ⊆ k') (twins : Twins A h h' s s') : Twins A k k' s s' := by
  obtain ⟨pipeline, o, shows, shows', allowed⟩ := twins
  exact ⟨pipeline, o, shows.mono more, shows'.mono more', allowed⟩

/-- Clearing on both sides. -/
theorem clear (twins : Twins A h h' s s') (w w' : World) (mode : TeardownMode) :
    Twins B k k' (s.clear w mode).object (s'.clear w' mode).object := by
  rw [clear_empties, clear_empties, twins.pipeline]
  exact twins_empty _

/-- Slots that show the same do so after they have resolved a frame, if both of them come to show
the same allowed sight. -/
theorem resolve (twins : Twins A w.history w'.history s s') (ledger : w.Ledger)
    (ledger' : w'.Ledger) (c : ContextId) (b : HardwareBuffer) (d : Dataspace) {force force' : Bool}
    (agrees : Sight.Agrees A (b.sight d) force (w.serves c) force' (w'.serves c)) :
    let after := s.resolve w c b d force
    let after' := s'.resolve w' c b d force'
    Twins A after.world.history after'.world.history after.object after'.object
      ∧ Option.Rel (SameSight after.world.history after'.world.history) after.answer.image?
        after'.answer.image? := by
  obtain ⟨pipeline, o, shows, shows', allowed⟩ := twins
  obtain ⟨seen, allowed⟩ := agrees o allowed
  obtain ⟨left, image⟩ := shows.resolve ledger c b d force
  obtain ⟨right, image'⟩ := shows'.resolve ledger' c b d force'
  rw [seen] at right image'
  generalize Sight.resolved o (b.sight d) force (w.serves c) = o at *
  refine ⟨⟨?_, o, left, right, allowed⟩, ?_⟩
  · rw [resolve_pipeline, resolve_pipeline, pipeline]
  · generalize (s.resolve w c b d force).answer.image? = i at image ⊢
    generalize (s'.resolve w' c b d force').answer.image? = i' at image' ⊢
    cases image with
    | none => cases image'; exact .none
    | some depicts =>
      cases image' with
      | some depicts' => exact .some ⟨_, depicts, depicts'⟩

end Twins

end Slot

-- ==================================================== caches

namespace SlotCache

variable {cache cache' : SlotCache} {w w' : World}

/-- Two caches have the same slots, and these show the same. -/
structure Twins (A : Sight → Prop) (h h' : List Entry) (cache cache' : SlotCache) : Prop where
  pipeline : cache'.pipeline = cache.pipeline
  slots : cache.slots.Rel (Slot.Twins A h h') cache'.slots

theorem twins_empty (p : Pipeline) : Twins A h h' (.empty p) (.empty p) :=
  ⟨rfl, Table.rel_empty⟩

namespace Twins

theorem mono (more : h ⊆ k) (more' : h' ⊆ k') (twins : Twins A h h' cache cache') :
    Twins A k k' cache cache' :=
  ⟨twins.pipeline, twins.slots.mono fun _ _ same => same.mono more more'⟩

/-- The slots that a number opens are twins. -/
theorem entry (twins : Twins A h h' cache cache') (slot : SlotId) :
    Slot.Twins A h h' (cache.entry slot) (cache'.entry slot) := by
  have found := twins.slots.get? slot
  unfold SlotCache.entry SlotCache.get?
  rw [twins.pipeline]
  generalize cache.slots.get? slot = o, cache'.slots.get? slot = o' at found
  cases found with
  | none => exact Slot.twins_empty _
  | some same => exact same

theorem clear (twins : Twins A h h' cache cache') (w w' : World) (slot : SlotId)
    (mode : TeardownMode) :
    Twins A h h' (cache.clear w slot mode).object (cache'.clear w' slot mode).object := by
  have found := twins.slots.get? slot
  unfold SlotCache.clear SlotCache.get?
  generalize cache.slots.get? slot = o, cache'.slots.get? slot = o' at found
  cases found with
  | none => exact twins
  | some same => exact ⟨twins.pipeline, twins.slots.set slot (same.clear w w' mode)⟩

/-- Clearing all on both sides. -/
theorem clearAll (twins : Twins A h h' cache cache') (w w' : World) (mode : TeardownMode) :
    Twins A h h' (cache.clearAll w mode).object (cache'.clearAll w' mode).object :=
  ⟨twins.pipeline, Table.rel_empty⟩

/-- A resolution on both sides, forced or not, of frames that agree. -/
theorem resolve (twins : Twins A w.history w'.history cache cache') (ledger : w.Ledger)
    (ledger' : w'.Ledger) (c : ContextId) (slot : SlotId) (b : HardwareBuffer) (d : Dataspace)
    {force force' : Bool}
    (agrees : Sight.Agrees A (b.sight d) force (w.serves c) force' (w'.serves c)) :
    let after := cache.resolve w c slot b d force
    let after' := cache'.resolve w' c slot b d force'
    Twins A after.world.history after'.world.history after.object after'.object
      ∧ Option.Rel (SameSight after.world.history after'.world.history) after.answer.image?
        after'.answer.image? := by
  obtain ⟨entry, image⟩ := (twins.entry slot).resolve ledger ledger' c b d agrees
  refine ⟨⟨twins.pipeline, Table.Rel.set ?_ slot entry⟩, image⟩
  have more := ((cache.entry slot).resolve_writes w c b d force).subset
  have more' := ((cache'.entry slot).resolve_writes w' c b d force').subset
  exact twins.slots.mono fun _ _ same => same.mono more more'

end Twins

end SlotCache

end LayerFeed
