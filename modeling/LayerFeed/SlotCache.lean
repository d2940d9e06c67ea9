/-
The slots of one producer's queue, entered as their first frames arrive. The
order in which all slots are cleared has no meaning: the same textures are
released, and only the order of the calls for different textures differs.
-/
import LayerFeed.Slot

namespace LayerFeed

/-- All slots seen so far. -/
structure SlotCache where
  pipeline : Pipeline
  slots : Table SlotId Slot := ∅
deriving DecidableEq

namespace SlotCache

/-- A cache that has seen no slot. -/
def empty (p : Pipeline) : SlotCache := { pipeline := p }

/-- Number of entries, empty slots included. -/
def size (c : SlotCache) : Nat := c.slots.size

/-- Whether there is no entry at all. -/
def isEmpty (c : SlotCache) : Bool := c.slots.entries.isEmpty

/-- Number of entries that hold a texture. -/
def liveTextures (c : SlotCache) : Nat := c.slots.values.countP (!·.isEmpty)

/-- The entry of a slot. -/
def get? (c : SlotCache) (slot : SlotId) : Option Slot := c.slots.get? slot

/-- Finds or imports the texture of a frame. A slot not seen before gets an entry,
also when the import fails. -/
def resolve (cache : SlotCache) (w : World) (c : ContextId) (slot : SlotId)
    (buffer : HardwareBuffer) (dataspace : Dataspace) (force : Bool) :
    After SlotCache Resolved :=
  let entry := (cache.get? slot).getD (.empty cache.pipeline)
  let resolved := entry.resolve w c buffer dataspace force
  ⟨resolved.world, { cache with slots := cache.slots.set slot resolved.object }, resolved.answer⟩

/-- Hands the buffer of a slot back to the producer's queue. -/
def releaseQueue (cache : SlotCache) (w : World) (slot : SlotId) : World × Bool :=
  match cache.get? slot with
  | some entry => entry.releaseQueue w
  | none => (w, false)

/-- Clears one slot; its entry stays, empty. -/
def clear (cache : SlotCache) (w : World) (slot : SlotId) (mode : TeardownMode) :
    After SlotCache (Option Release) :=
  match cache.get? slot with
  | some entry =>
    let cleared := entry.clear w mode
    ⟨cleared.world, { cache with slots := cache.slots.set slot cleared.object }, cleared.answer⟩
  | none => ⟨w, cache, none⟩

/-- Clears slots one after the other and counts those that held a texture. -/
def clearSlots (w : World) (mode : TeardownMode) : List Slot → World × Nat
  | [] => (w, 0)
  | slot :: slots =>
    let cleared := slot.clear w mode
    let rest := clearSlots cleared.world mode slots
    (rest.1, if cleared.answer.isSome then rest.2 + 1 else rest.2)

/-- Clears every slot and takes out all entries. Answers how many textures were
released. -/
def clearAll (cache : SlotCache) (w : World) (mode : TeardownMode) : After SlotCache Nat :=
  let cleared := clearSlots w mode cache.slots.values
  ⟨cleared.1, { cache with slots := ∅ }, cleared.2⟩

/-- The cache goes away; its handles let go without a release. -/
def discard (cache : SlotCache) (w : World) : World :=
  cache.slots.values.foldl (fun w slot => slot.discard w) w

def describe (cache : SlotCache) (w : World) : String :=
  let entry := fun (row : SlotId × Slot) => row.1.describe ++ ": " ++ row.2.describe w
  Text.record "ImageSlotCache" [("pipeline", cache.pipeline.name),
    ("slots", "\x7b" ++ Text.commas (cache.slots.entries.map entry) ++ "\x7d")]

end SlotCache

end LayerFeed
