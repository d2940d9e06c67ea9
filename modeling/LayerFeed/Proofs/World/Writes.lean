/-
What operations write into the history. The operations on textures, slots, caches, fences
and updaters put down ordinary entries alone (`Entry.Ordinary`): they call backends, they
install, release and drop sources, they tell sinks of what they do. Nobody is told of a lost
context by them, nobody posts, and no source is taken or asked for a frame. Two operations
are left out, because they do more: a post, and the first part of an apply.

None of them opens a context or changes one (`Writes.contexts`).
-/
import LayerFeed.Updater
import LayerFeed.Proofs.World.Step

namespace LayerFeed

/-- An entry as any operation on an object may put it down. -/
def Entry.Ordinary : Entry → Prop
  | .backend _ _ | .event _ _ _ | .latched _ _ _ | .bound _ _ _ _ _ => True
  | .note (.contextDestroyed _ _) => False
  | .note _ => True
  | .source _ .installed | .source _ .released | .source _ .dropped => True
  | _ => False

namespace World

/-- The contexts are what they were, and the history has grown by entries that are allowed. -/
structure Writes (P : Entry → Prop) (w w' : World) : Prop where
  contexts : w'.contexts = w.contexts
  history : ∃ es, w'.history = w.history ++ es ∧ ∀ e ∈ es, P e

variable {P Q : Entry → Prop} {w w' w'' : World}

namespace Writes

/-- Nothing is written where contexts and history are what they were. -/
theorem of_eq (contexts : w'.contexts = w.contexts) (history : w'.history = w.history) :
    Writes P w w' :=
  ⟨contexts, [], by rw [history, List.append_nil], by simp⟩

theorem refl (w : World) : Writes P w w := of_eq rfl rfl

theorem trans (first : Writes P w w') (second : Writes P w' w'') : Writes P w w'' := by
  obtain ⟨es, grown, allowed⟩ := first.history
  obtain ⟨fs, grown', allowed'⟩ := second.history
  refine ⟨second.contexts.trans first.contexts, es ++ fs, ?_, fun e mem => ?_⟩
  · rw [grown', grown, List.append_assoc]
  · rcases List.mem_append.1 mem with mem | mem
    · exact allowed e mem
    · exact allowed' e mem

/-- What is allowed by less is allowed by more. -/
theorem mono (h : ∀ e, P e → Q e) (writes : Writes P w w') : Writes Q w w' := by
  obtain ⟨es, grown, allowed⟩ := writes.history
  exact ⟨writes.contexts, es, grown, fun e mem => h e (allowed e mem)⟩

/-- One entry is written. -/
theorem record {e : Entry} (allowed : P e) : Writes P w (w.record e) :=
  ⟨rfl, [e], rfl, by simpa using allowed⟩

/-- One more entry after what was written. -/
theorem andRecord {e : Entry} (writes : Writes P w w') (allowed : P e) :
    Writes P w (w'.record e) := writes.trans (record allowed)

/-- An event is put down and handed to its sink. -/
theorem trace {u : UpdaterId} {sink : Sink} {e : Event} (allowed : P (.event u sink e)) :
    Writes P w (w.trace u sink e) := (record allowed).trans (of_eq rfl rfl)

/-- Whoever only writes lets contexts live and die as before. -/
theorem alive (writes : Writes P w w') (c : ContextId) : w'.alive c = w.alive c :=
  alive_congr writes.contexts c

end Writes

-- ==================================================== textures

/-- A call to a backend is ordinary. -/
theorem call_writes (w : World) (c : ContextId) (call : BackendCall) :
    Writes Entry.Ordinary w (w.call c call) := .record trivial

/-- An event is ordinary, whatever sink it goes to. -/
theorem trace_writes (w : World) (u : UpdaterId) (sink : Sink) (e : Event) :
    Writes Entry.Ordinary w (w.trace u sink e) := .trace trivial

/-- A texture changes without a word. -/
theorem onTexture_writes (w : World) (t : TextureId) (f : Texture → Texture) :
    Writes P w (w.onTexture t f) := .of_eq rfl rfl

/-- An import writes the call to the backend, if the context lives. -/
theorem importTexture_writes (w : World) (c : ContextId) (p : Pipeline) (b : HardwareBuffer)
    (d : Dataspace) : Writes Entry.Ordinary w (w.importTexture c p b d).1 := by
  unfold importTexture
  split
  · split
    · exact call_writes w c _
    · exact ⟨rfl, [_], rfl, by simp [Entry.Ordinary]⟩
  · exact .refl w

section Calls

variable (calls : ∀ c call, call.ended?.isSome → P (.backend c call))

include calls

/-- The last holder of a texture calls the backend; one of several is silent. -/
theorem letGo_writes (w : World) (t : TextureId) : Writes P w (w.letGo t) := by
  have counted := onTexture_writes (P := P) w t fun x => { x with holders := x.holders - 1 }
  unfold letGo
  split
  · split
    · exact counted.andRecord (calls _ _ (by split <;> rfl))
    · exact counted
  · exact counted

/-- Whoever holds no texture writes nothing as he lets go. -/
theorem letGoOf_writes (w : World) (o : Option TextureId) : Writes P w (w.letGoOf o) := by
  cases o with
  | none => exact .refl w
  | some t => exact letGo_writes calls w t

/-- To release a handle is to mark it and let go of its texture. -/
theorem release_writes (w : World) (t : TextureId) (mode : TeardownMode) :
    Writes P w (w.release t mode).1 :=
  (onTexture_writes w t _).trans (letGo_writes calls _ t)

/-- A buffer that goes back to the queue may take one call. -/
theorem releaseQueue_writes (w : World) (t : TextureId) : Writes P w (w.releaseQueue t).1 := by
  unfold releaseQueue
  split
  · split
    · exact (onTexture_writes w t _).andRecord (calls _ _ rfl)
    · exact onTexture_writes w t _
  · exact onTexture_writes w t _

end Calls

end World

open World

variable {P : Entry → Prop} {w : World}

/-- Calls to a backend are ordinary. -/
theorem ordinary_calls (c : ContextId) (call : BackendCall) (_ : call.ended?.isSome) :
    (Entry.backend c call).Ordinary := trivial

-- ==================================================== slots

namespace Slot

section Calls

variable (calls : ∀ c call, call.ended?.isSome → P (.backend c call))

include calls

theorem releaseQueue_writes (s : Slot) (w : World) : Writes P w (s.releaseQueue w).1 := by
  unfold releaseQueue
  split
  · exact World.releaseQueue_writes calls w _
  · exact .refl w

/-- A slot that is cleared writes of the handing back, then of the release. -/
theorem clear_writes (s : Slot) (w : World) (mode : TeardownMode) :
    Writes P w (s.clear w mode).world := by
  unfold clear
  dsimp only
  split
  · exact .refl w
  · split
    · exact (World.releaseQueue_writes calls w _).trans (release_writes calls _ _ mode)
    · exact release_writes calls w _ mode

theorem discard_writes (s : Slot) (w : World) : Writes P w (s.discard w) :=
  letGoOf_writes calls w s.texture

end Calls

/-- A slot is filled by an import. -/
theorem fill_writes (s : Slot) (w : World) (c : ContextId) (b : HardwareBuffer) (d : Dataspace) :
    Writes Entry.Ordinary w (s.fill w c b d).world := by
  have imported := importTexture_writes w c s.pipeline b d
  unfold fill
  dsimp only
  split
  · exact imported.trans (onTexture_writes _ _ _)
  · exact imported.andRecord trivial

/-- A hit writes nothing; a miss gives the old texture up and imports another one. -/
theorem resolve_writes (s : Slot) (w : World) (c : ContextId) (b : HardwareBuffer) (d : Dataspace)
    (force : Bool) : Writes Entry.Ordinary w (s.resolve w c b d force).world := by
  unfold resolve
  split
  · exact .of_eq rfl rfl
  · exact (s.clear_writes ordinary_calls w .normal).trans (fill_writes _ _ c b d)

end Slot

namespace SlotCache

section Calls

variable (calls : ∀ c call, call.ended?.isSome → P (.backend c call)) (cache : SlotCache)

include calls

theorem releaseQueue_writes (w : World) (slot : SlotId) :
    Writes P w (cache.releaseQueue w slot).1 := by
  unfold releaseQueue
  split
  · exact Slot.releaseQueue_writes calls _ w
  · exact .refl w

/-- To clear a slot of a cache is to clear the slot, if it is there. -/
theorem clear_writes (w : World) (slot : SlotId) (mode : TeardownMode) :
    Writes P w (cache.clear w slot mode).world := by
  unfold clear
  split
  · exact Slot.clear_writes calls _ w mode
  · exact .refl w

/-- Slots that are cleared write one after the other. -/
theorem clearSlots_writes (w : World) (mode : TeardownMode) (slots : List Slot) :
    Writes P w (clearSlots w mode slots).1 := by
  induction slots generalizing w with
  | nil => exact .refl w
  | cons slot slots ih => exact (slot.clear_writes calls w mode).trans (ih _)

theorem clearAll_writes (w : World) (mode : TeardownMode) :
    Writes P w (cache.clearAll w mode).world :=
  clearSlots_writes calls w mode cache.slots.values

/-- A cache that goes away discards all its slots. -/
theorem discard_writes (w : World) : Writes P w (cache.discard w) := by
  unfold discard
  generalize cache.slots.values = slots
  induction slots generalizing w with
  | nil => exact .refl w
  | cons slot slots ih => exact (slot.discard_writes calls w).trans (ih _)

end Calls

theorem resolve_writes (cache : SlotCache) (w : World) (c : ContextId) (slot : SlotId)
    (b : HardwareBuffer) (d : Dataspace) (force : Bool) :
    Writes Entry.Ordinary w (cache.resolve w c slot b d force).world :=
  Slot.resolve_writes _ w c b d force

end SlotCache

-- ==================================================== fences

namespace FenceGate

/-- A native fence takes a call, and a remark if there is none to be had. -/
theorem makeNative_writes (g : FenceGate) (w : World) (display : Option DisplayId) :
    Writes Entry.Ordinary w (g.makeNative w display).1 := by
  unfold makeNative
  split
  · exact (call_writes w _ _).andRecord trivial
  · exact ⟨rfl, [_], rfl, by simp [Entry.Ordinary]⟩

/-- So does a sync object. -/
theorem makeSync_writes (g : FenceGate) (w : World) (display : Option DisplayId) :
    Writes Entry.Ordinary w (g.makeSync w display).1 := by
  unfold makeSync
  split
  · exact (call_writes w _ _).andRecord trivial
  · exact ⟨rfl, [_], rfl, by simp [Entry.Ordinary]⟩

/-- On GL the backend is asked two things before a fence is made. -/
theorem createFence_writes (g : FenceGate) (w : World) (useSync : Bool) :
    Writes Entry.Ordinary w (g.createFence w useSync).1 := by
  unfold createFence
  split
  · split
    · exact g.makeNative_writes w none
    · have asked := (call_writes w g.context .askedDisplay).andRecord
        (e := .backend g.context .askedNativeFences) trivial
      dsimp only
      split
      · exact asked.trans (g.makeNative_writes _ _)
      · split
        · exact asked.trans (g.makeSync_writes _ _)
        · exact asked
  · exact .refl w

/-- To wait for a fence takes a call, and a remark if it fails. -/
theorem wait_writes (g : FenceGate) (w : World) (fd : FenceFd) :
    Writes Entry.Ordinary w (g.wait w fd).1 := by
  unfold wait
  split
  · dsimp only
    split
    · exact (call_writes w _ _).andRecord trivial
    · exact call_writes w _ _
  · exact .refl w

end FenceGate

/-- In a dequeue the slot before hands its buffer back first. -/
theorem DequeueFences.createFence_writes (f : DequeueFences) (w : World) (useSync : Bool) :
    Writes Entry.Ordinary w (f.createFence w useSync).world := by
  unfold createFence
  dsimp only
  split
  · exact (Slot.releaseQueue_writes ordinary_calls _ w).trans (f.gate.createFence_writes _ useSync)
  · exact f.gate.createFence_writes w useSync

-- ==================================================== updaters

namespace Updater

variable (u : Updater)

/-- That an image is bound is written, and then that the one before is let go of. -/
theorem bind_writes (w : World) (forceFilter : Bool) (transform : TextureTransform) (crop : Rect)
    (image : TextureId) :
    Writes Entry.Ordinary w (u.bind w forceFilter transform crop image).1 :=
  (Writes.record (e := .bound u.id forceFilter transform crop image) trivial).trans
    (letGoOf_writes ordinary_calls _ _)

/-- All that is written when a source is let go is that it is released and dropped. -/
theorem releaseSource_writes (released : ∀ ref, P (.source ref .released))
    (dropped : ∀ ref, P (.source ref .dropped)) (w : World) :
    Writes P w (u.releaseSource w).world := by
  unfold releaseSource
  split
  · exact .refl w
  · next source _ =>
    dsimp only
    split
    · exact (Writes.record (released source)).andRecord (dropped source)
    · exact .record (dropped source)

theorem releaseSource_ordinary (w : World) :
    Writes Entry.Ordinary w (u.releaseSource w).world :=
  u.releaseSource_writes (fun _ => trivial) (fun _ => trivial) w

/-- The slot that is severed is handed back and cleared, and an event tells of it. -/
theorem severActiveSlot_writes (w : World) :
    Writes Entry.Ordinary w (u.severActiveSlot w).world := by
  unfold severActiveSlot
  split
  · exact .refl w
  · next slot _ =>
    have cleared := (u.cache.releaseQueue_writes ordinary_calls w slot).trans
      (u.cache.clear_writes ordinary_calls _ slot .normal)
    dsimp only
    split
    · exact cleared.trans (trace_writes _ _ _ _)
    · exact cleared

/-- An attach writes of all that it takes down, and of the source that it installs. -/
theorem attach_writes (w : World) (source : SourceRef) :
    Writes Entry.Ordinary w (u.attach w source).1 := by
  have severed :=
    (u.releaseSource_ordinary w).trans ((u.releaseSource w).object.severActiveSlot_writes _)
  have cleared := severed.trans (SlotCache.clearAll_writes ordinary_calls
    ((u.releaseSource w).object.severActiveSlot (u.releaseSource w).world).object.cache _ .normal)
  unfold attach
  dsimp only
  split
  · exact (cleared.andRecord (e := .note (.staleSlotsDropped _)) trivial).andRecord trivial
  · exact cleared.andRecord trivial

/-- A detach writes of the source and of the slot, if it has either. -/
theorem detach_writes (w : World) : Writes Entry.Ordinary w (u.detach w).1 := by
  have severed :=
    (u.releaseSource_ordinary w).trans ((u.releaseSource w).object.severActiveSlot_writes _)
  unfold detach
  dsimp only
  split
  · exact (severed.andRecord (e := .note (.sourceDetached _)) trivial).trans (trace_writes _ _ _ _)
  · exact severed

/-- A latch writes of its frame, then as an event, then of what it binds. -/
theorem latch_writes (w : World) (frame : Frame) (issued : Option FenceClass) :
    Writes Entry.Ordinary w (u.latch w frame issued).1 := by
  unfold latch
  dsimp only
  have told := fun w' (writes : Writes Entry.Ordinary w w') resolved event =>
    (writes.andRecord (e := .latched u.id frame resolved) trivial).trans
      (trace_writes _ u.id u.sink event)
  split
  · exact (told _ (SlotCache.resolve_writes _ w _ _ _ _ _) _ _).trans (bind_writes _ _ _ _ _ _)
  · exact told _ (SlotCache.resolve_writes _ w _ _ _ _ _) _ _

theorem releaseOwnership_writes (released : ∀ ref, P (.source ref .released)) (w : World) :
    Writes P w (u.releaseOwnership w) := by
  unfold releaseOwnership
  split
  · exact .record (released _)
  · exact .refl w

/-- A teardown writes ordinary entries, and none if it is not the first. -/
theorem teardown_writes (w : World) (mode : TeardownMode) :
    Writes Entry.Ordinary w (u.teardown w mode).1 := by
  unfold teardown
  split
  · exact .refl w
  · have freed := (u.releaseOwnership_writes (fun _ => trivial) w).trans
      (letGoOf_writes ordinary_calls _ u.shownImage)
    have cleared := freed.trans (u.cache.clearAll_writes ordinary_calls _ mode)
    exact (cleared.andRecord (e := .note (.tornDown mode _)) trivial).trans (trace_writes _ _ _ _)

theorem dropSource_writes (dropped : ∀ ref, P (.source ref .dropped)) (w : World) :
    Writes P w (u.dropSource w) := by
  unfold dropSource
  split
  · exact .record (dropped _)
  · exact .refl w

/-- An updater that goes away writes what a teardown writes, and what it drops after that. -/
theorem discard_writes (w : World) : Writes Entry.Ordinary w (u.discard w) :=
  (((u.teardown_writes w _).trans (dropSource_writes _ (fun _ => trivial) _)).trans
    (letGoOf_writes ordinary_calls _ _)).trans (SlotCache.discard_writes ordinary_calls _ _)

/-- All that the first part of an apply writes is that the source is taken. -/
theorem beginApply_writes (taken : ∀ ref, P (.source ref .taken)) (w : World) :
    Writes P w (u.beginApply w).world := by
  unfold beginApply takeOwnership
  dsimp only
  split
  · exact .refl w
  · split
    · exact .refl w
    · exact .record (taken _)

end Updater

end LayerFeed
