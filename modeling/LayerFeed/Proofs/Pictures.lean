/-
Fences and pipelines never change the picture. Two runs may differ in the pipelines of their
updaters, slots and caches, in what their backends answer about fences, and in the fences that
their sources make and wait for; if they are the same in all else, then after every command they
look alike: every updater shows the same layer and the same image, its slots hold the same
textures, and the calls that imported, deleted and abandoned textures came in the same order
(`run_looksLike`).

The two runs are not compared with each other. Both are compared with a third one, which runs
what is drawn of their commands and so is the same for both.
-/
import LayerFeed.Proofs.Drawing.Run

namespace LayerFeed

-- ==================================================== what can be seen

/-- What a slot holds. -/
structure Slot.Content where
  buffer : Option HardwareBuffer
  dataspace : Dataspace
  texture : Option TextureId
deriving DecidableEq

def Slot.content (s : Slot) : Slot.Content := ⟨s.buffer, s.dataspace, s.texture⟩

namespace Updater

/-- What can be seen of an updater. -/
structure Appearance where
  state : UpdaterState
  /-- The whole layer, with the image that it shows. -/
  layer : Option Layer
  currentSlot : Option SlotId
  framesLatched : UInt64
  /-- Whether a post is in the mailbox. -/
  pending : Bool
  /-- All slots, in the order in which their first frames came. -/
  slots : List (SlotId × Slot.Content)
deriving DecidableEq

def appearance (u : Updater) : Appearance where
  state := u.state
  layer := u.layer
  currentSlot := u.currentSlot
  framesLatched := u.framesLatched
  pending := u.mailbox.pending
  slots := u.cache.slots.entries.map fun row => (row.1, row.2.content)

/-- All that can be seen of an updater is drawn. -/
theorem appearance_drawn (u : Updater) : u.drawn.appearance = u.appearance := by
  have slots : u.drawn.cache.slots.entries.map (fun row => (row.1, row.2.content))
      = u.cache.slots.entries.map fun row => (row.1, row.2.content) := List.map_map
  unfold appearance
  rw [slots]
  rfl

end Updater

namespace Session

/-- Two sessions that look alike. -/
structure LooksLike (s s' : Session) : Prop where
  /-- The same names lead to the same updaters. -/
  names : s.updaterNames = s'.updaterNames
  /-- The same updaters are there, and look the same. -/
  updaters : ∀ id, (s.updaterOf? id).map Updater.appearance
    = (s'.updaterOf? id).map Updater.appearance
  /-- The same textures were imported from the same buffers, and have as many holders. -/
  textures : ∀ t, (s.world.texture? t).map Texture.drawn = (s'.world.texture? t).map Texture.drawn
  /-- Textures were imported, deleted and abandoned by the same calls in the same order. -/
  calls : drawCallsIn s.world.history = drawCallsIn s'.world.history

namespace DrawnAs

variable {s s' drawing : Session}

theorem appearance (h : DrawnAs s drawing) (id : UpdaterId) :
    (drawing.updaterOf? id).map Updater.appearance
      = (s.updaterOf? id).map Updater.appearance := by
  rw [h.updaterOf?, Option.map_map]
  exact congrArg (Option.map · _) (funext Updater.appearance_drawn)

/-- Sessions of which the same is drawn. -/
theorem looksLike (h : DrawnAs s drawing) (h' : DrawnAs s' drawing) : LooksLike s s' where
  names := h.updaterNames.symm.trans h'.updaterNames
  updaters id := (h.appearance id).symm.trans (h'.appearance id)
  textures t := (h.world.trans h'.world.symm).texture? t
  calls := (h.world.trans h'.world.symm).calls

end DrawnAs

-- ==================================================== two runs

/-- Two runs whose imports fail alike, and whose commands are the same as far as they are drawn,
look alike after every command. -/
theorem run_looksLike {b b' : Backend} (imports : b.importError = b'.importError)
    {commands commands' : List Command}
    (same : commands.map Command.drawn = commands'.map Command.drawn)
    (minimal minimal' : Bool) (n : Nat) :
    LooksLike ((start minimal b).run (commands.take n))
      ((start minimal' b').run (commands'.take n)) := by
  have failures : b'.drawn = b.drawn := by rw [Backend.drawn, Backend.drawn, imports]
  have drawing : (commands'.take n).map Command.drawn = (commands.take n).map Command.drawn := by
    rw [List.map_take, List.map_take, same]
  have first : DrawnAs (start minimal b) (start false b.drawn) := .start minimal false rfl
  have second : DrawnAs (start minimal' b') (start false b.drawn) := .start minimal' false failures
  have drawn := second.run (commands'.take n)
  rw [drawing] at drawn
  exact (first.run (commands.take n)).looksLike drawn

/-- Two frames of one slot, latched one after the other. -/
def twoFrames (p : Pipeline) (script : List ScriptItem) : List Command :=
  let frame := fun (buffer : UInt64) => Frame.ofBuffer ⟨0⟩ ⟨⟨buffer⟩, ⟨64, 32, 1⟩, none⟩ .srgb
  [.newUpdater "u" { pipeline := p } (.registered "s") .history,
    .attach "u" "q" { frames := [frame 1, frame 2], script, fifo := true } none,
    .apply "u", .apply "u"]

/-- On GL the source is given sync objects. On Vulkan its wait fails, and then no fence can be
made for it. The histories differ, the pictures do not. -/
theorem twoFrames_looksLike :
    let b : Backend := { nativeFences := false }
    let b' : Backend := { waitError := some .contextLost }
    let gl := twoFrames .gl [.fence true, .notify]
    let vulkan := twoFrames .vulkan
      [.wait ⟨7⟩, .adjust [.nativeError (some .contextLost)], .notify, .fence false]
    let s := (start false b).run (gl.take 4)
    let s' := (start true b').run (vulkan.take 4)
    b.importError = b'.importError
      ∧ gl.map Command.drawn = vulkan.map Command.drawn
      ∧ LooksLike s s'
      ∧ drawCallsIn s.world.history = [(0, .imported 1 ⟨⟨1⟩, ⟨64, 32, 1⟩, none⟩ .srgb),
          (0, .imported 2 ⟨⟨2⟩, ⟨64, 32, 1⟩, none⟩ .srgb), (0, .deleted 1)]
      ∧ s.world.history ≠ s'.world.history := by
  intro b b' gl vulkan s s'
  have imports : b.importError = b'.importError := rfl
  have same : gl.map Command.drawn = vulkan.map Command.drawn := rfl
  exact ⟨imports, same, run_looksLike imports same false true 4, by decide, by decide⟩

end Session

end LayerFeed
