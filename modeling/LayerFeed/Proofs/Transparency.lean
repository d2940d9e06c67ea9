/-
Textures that are used again are not seen. A run is compared with one in which every delivered
frame is forced, so that its texture is imported anew. The one keeps old textures and old records
of buffers through all that happens to slots, the other never does; and after every command they
look alike (`Session.LooksAlike`): every updater has the same layer, its image of the same buffer
with the same size and dataspace, and the same slots, in the same state.

This takes two conditions. Imports have to work, or a forced frame would be lost that is found
otherwise (`StaysServed`). And frames have to describe equal buffers in the same way
(`SameDescriptions`), because a texture found again is not asked for the size of its buffer.
-/
import LayerFeed.Proofs.Reuse.Run
import LayerFeed.Proofs.Session.Rooted

namespace LayerFeed

open World

-- ==================================================== what can be seen

/-- What an image of a texture shows. -/
def World.sight? (w : World) (t : TextureId) : Option Sight := (w.texture? t).map Texture.sight

/-- What can be seen of a layer, whatever number its texture has. -/
structure Layer.Look where
  /-- All of the layer but its image. -/
  layer : Layer
  /-- What the image shows, if there is one. -/
  image : Option (Option Sight)
deriving DecidableEq

def Layer.look (w : World) (l : Layer) : Layer.Look where
  layer := { l with image := none }
  image := l.image.map w.sight?

/-- What can be seen of a slot, whatever number its texture has. -/
structure Slot.Look where
  isEmpty : Bool
  buffer : Option BufferId
  dataspace : Dataspace
deriving DecidableEq

def Slot.look (s : Slot) : Slot.Look := ⟨s.isEmpty, s.buffer.map HardwareBuffer.id, s.dataspace⟩

namespace Updater

/-- What can be seen of an updater, whatever numbers its textures have. -/
structure Look where
  state : UpdaterState
  layer : Option Layer.Look
  currentSlot : Option SlotId
  framesLatched : UInt64
  /-- Whether a post is in the mailbox. -/
  pending : Bool
  slotCount : Nat
  slots : List (SlotId × Slot.Look)
deriving DecidableEq

def look (w : World) (u : Updater) : Look where
  state := u.state
  layer := u.layer.map (·.look w)
  currentSlot := u.currentSlot
  framesLatched := u.framesLatched
  pending := u.mailbox.pending
  slotCount := u.cache.size
  slots := u.cache.slots.entries.map fun row => (row.1, row.2.look)

end Updater

/-- The same names lead to the same updaters, and these look alike. -/
structure Session.LooksAlike (s s' : Session) : Prop where
  names : s.updaterNames = s'.updaterNames
  updaters : ∀ id, (s.updaterOf? id).map (Updater.look s.world)
    = (s'.updaterOf? id).map (Updater.look s'.world)

-- ==================================================== twins look alike

section Twins

variable {A : Sight → Prop} {w w' : World} {t t' : TextureId} {h h' : List Entry}

/-- Textures that look the same do so to anybody who looks. -/
theorem SameSight.sight? (ledger : w.Ledger) (ledger' : w'.Ledger)
    (same : SameSight w.history w'.history t t') : w.sight? t = w'.sight? t' := by
  obtain ⟨v, depicts, depicts'⟩ := same
  obtain ⟨x, known, sight⟩ := depicts.texture? ledger
  obtain ⟨x', known', sight'⟩ := depicts'.texture? ledger'
  rw [World.sight?, World.sight?, known, known', Option.map_some, Option.map_some, sight, sight']

/-- Twin layers look the same. -/
theorem Layer.Twins.look {l l' : Layer} (twins : Layer.Twins w.history w'.history l l')
    (ledger : w.Ledger) (ledger' : w'.Ledger) : l.look w = l'.look w' := by
  cases twins with
  | @mk image shown =>
    have images : l.image.map w.sight? = image.map w'.sight? := by
      generalize l.image = i at shown
      cases shown with
      | none => rfl
      | some same => exact congrArg some (same.sight? ledger ledger')
    unfold Layer.look
    rw [images]

/-- What a slot looks like is what it shows. -/
theorem Slot.Shows.look {s : Slot} {o : Option Sight} (shows : s.Shows h o) :
    s.look = ⟨o.isNone, o.map Sight.buffer, (o.map Sight.dataspace).getD .unknown⟩ := by
  cases shows <;> rfl

/-- Twin slots look the same. -/
theorem Slot.Twins.look {s s' : Slot} (twins : Slot.Twins A h h' s s') : s.look = s'.look := by
  obtain ⟨-, o, shows, shows', -⟩ := twins
  rw [shows.look, shows'.look]

/-- Twin updaters look the same. -/
theorem Updater.Twins.look {u u' : Updater} (twins : Updater.Twins A w.history w'.history u u')
    (ledger : w.Ledger) (ledger' : w'.Ledger) : u.look w = u'.look w' := by
  cases twins with
  | @mk layer cache layers caches =>
    have shown : u.layer.map (·.look w) = layer.map (·.look w') := by
      generalize u.layer = o at layers
      cases layers with
      | none => rfl
      | some same => exact congrArg some (same.look ledger ledger')
    have count : u.cache.size = cache.size := caches.slots.size.symm
    have slots := caches.slots.rows fun _ _ same => same.look
    unfold Updater.look
    rw [shown, count, slots]
    rfl

/-- And so do twin sessions. -/
theorem Session.Twins.looksAlike {s s' : Session} (twins : Session.Twins A s s')
    (ledger : s.world.Ledger) (ledger' : s'.world.Ledger) : LooksAlike s s' where
  names := (twins.read Session.updaterNames fun _ => rfl).symm
  updaters id := by
    have same := twins.updaterOf? id
    generalize s.updaterOf? id = o, s'.updaterOf? id = o' at same
    cases same with
    | none => rfl
    | some same => exact congrArg some (same.look ledger ledger')

end Twins

-- ==================================================== two runs

namespace Session

/-- Once an updater is there, imports into its context work after every command. -/
def StaysServed (s : Session) (commands : List Command) : Prop :=
  ∀ pre, pre <+: commands → ∀ before, before <+: pre →
    ∀ held ∈ (s.run before).updaters.values, (s.run pre).world.serves held.value.context

/-- Frames that are delivered in equal buffers describe them in the same way. -/
def SameDescriptions (commands : List Command) : Prop :=
  ∀ f ∈ commands.flatMap Command.delivered, ∀ g ∈ commands.flatMap Command.delivered,
    f.buffer.id = g.buffer.id → f.buffer.desc = g.buffer.desc

/-- Imports that stay served over a run do so over its start. -/
theorem StaysServed.pre {s : Session} {commands pre : List Command} (pre_of : pre <+: commands)
    (served : s.StaysServed commands) : s.StaysServed pre :=
  fun pre' of before => served pre' (of.trans pre_of) before

/-- Twins start as one session. -/
theorem Twins.start {A : Sight → Prop} (minimal : Bool) (b : Backend) :
    Twins A (Session.start minimal b) (Session.start minimal b) := by
  have empty : Twins A ({ minimal } : Session) { minimal } :=
    ⟨rfl, rfl, Table.rel_empty, Table.rel_empty, Table.rel_empty, Table.rel_empty,
      Table.rel_empty, Table.rel_empty⟩
  exact empty.addState "s" b

/-- A run and the same run with every frame forced are twins. -/
theorem run_twins {A : Sight → Prop}
    (described : ∀ a b, A a → A b → a.buffer = b.buffer → a.desc = b.desc) (minimal : Bool)
    (b : Backend) (commands : List Command)
    (delivered : ∀ f ∈ commands.flatMap Command.delivered, A f.sight)
    (served : (start minimal b).StaysServed commands) :
    Twins A ((start minimal b).run commands)
      ((start minimal b).run (commands.map Command.forced)) := by
  induction commands using List.reverseRecOn with
  | nil => exact .start minimal b
  | append_singleton commands command ih =>
    have earlier := ih (fun f mem => delivered f (by simp_all))
      (served.pre (List.prefix_append _ _))
    rw [List.map_append, List.map_singleton, run_snoc, run_snoc]
    refine earlier.exec described (kept_run minimal b _) (kept_run minimal b _) command
      (fun f mem => delivered f (by simp_all)) fun id u found => ?_
    obtain ⟨held, entered, rfl⟩ := Option.map_eq_some_iff.1 found
    rw [← run_snoc]
    exact served _ (List.prefix_refl _) commands (List.prefix_append _ _) held
      (Table.mem_values_of_get? entered)

/-- A run and the run in which every delivered frame is forced look alike after every command. -/
theorem run_looksAlike (minimal : Bool) (b : Backend) {commands : List Command}
    (served : (start minimal b).StaysServed commands) (described : SameDescriptions commands)
    (n : Nat) :
    LooksAlike ((start minimal b).run (commands.take n))
      ((start minimal b).run ((commands.map Command.forced).take n)) := by
  have same : ∀ a b : Sight, (∃ f ∈ commands.flatMap Command.delivered, f.sight = a) →
      (∃ f ∈ commands.flatMap Command.delivered, f.sight = b) →
      a.buffer = b.buffer → a.desc = b.desc := by
    rintro a b ⟨f, mem, rfl⟩ ⟨g, mem', rfl⟩ buffer
    exact described f mem g mem' buffer
  have pre : commands.take n <+: commands := List.take_prefix n commands
  have twins := run_twins same minimal b (commands.take n)
    (fun f mem => ⟨f, List.mem_flatMap.2 (by
      obtain ⟨c, here, taken⟩ := List.mem_flatMap.1 mem
      exact ⟨c, pre.subset here, taken⟩), rfl⟩) (served.pre pre)
  rw [List.map_take] at twins
  exact twins.looksAlike (kept_run minimal b _).order.sound.ledger
    (kept_run minimal b _).order.sound.ledger

/-- The same frame twice in a row. -/
def sameFrameTwice : List Command :=
  let frame := Frame.ofBuffer ⟨0⟩ ⟨⟨1⟩, ⟨64, 32, 1⟩, none⟩ .srgb
  [.newUpdater "u" {} (.registered "s") .unchanged,
    .attach "u" "q" { frames := [frame, frame], fifo := true } none,
    .apply "u", .post "u", .apply "u"]

/-- The texture of the second frame is found by one of the runs and imported by the other, and they
look alike. -/
theorem sameFrameTwice_looksAlike :
    let taken (s : Session) := (s.world.history.filterMap Entry.taken?).map Prod.snd
    let plain := (start false {}).run sameFrameTwice
    let forced := (start false {}).run (sameFrameTwice.map Command.forced)
    (taken plain = [.created 1, .cached 1] ∧ taken forced = [.created 1, .created 2])
      ∧ (start false {}).StaysServed sameFrameTwice ∧ SameDescriptions sameFrameTwice
      ∧ LooksAlike plain forced := by
  have served : (start false {}).StaysServed sameFrameTwice := by
    have all : ∀ pre ∈ sameFrameTwice.inits, ∀ before ∈ pre.inits,
        ∀ held ∈ ((start false {}).run before).updaters.values,
          ((start false {}).run pre).world.serves held.value.context := by
      decide
    intro pre begun before earlier
    exact all pre ((List.mem_inits _ _).2 begun) before ((List.mem_inits _ _).2 earlier)
  have described : SameDescriptions sameFrameTwice := by
    unfold SameDescriptions
    decide
  exact ⟨by decide, served, described, run_looksAlike false {} served described 5⟩

end Session

end LayerFeed
