/-
Telling of events in another way. A `Retelling` sends every event to another sink, rewrites the
history entry by entry, and lets recorders and texts hold what the rewritten history says they
were handed. All that the library does to a world goes through it: what is done to the retold
world is what was done to the world, retold (`op (w.retold R) = (op w).retold R`), and the
answers are the same. So nothing depends on where events go.

The lemmas here go up from single entries to textures, slots, caches and fences. None but
`World.trace_retold` is about events: it is the only one in which the sink occurs.
-/
import LayerFeed.Fence.Gate
import LayerFeed.SlotCache

namespace LayerFeed

/-- An entry that tells neither of an event nor of a recorder that was emptied. -/
def Entry.Untraced : Entry → Prop
  | .event _ _ _ | .cleared _ => False
  | _ => True

/-- Another way to tell of events: where they go, how the history tells of them, and what
recorders and texts hold after a history. The names of recorders and the number of the next one
may be told in another way as well. -/
structure Retelling where
  sink : Sink → Sink
  history : List Entry → List Entry
  traces : List Entry → Traces
  recorderNames : Table String RecorderId → Table String RecorderId
  freshRecorder : RecorderId → RecorderId
  sink_none : sink .none = .none
  history_untraced : ∀ es e, e.Untraced → history (es ++ [e]) = history es ++ [e]
  history_event : ∀ es u k e,
    history (es ++ [.event u k e]) = history es ++ [.event u (sink k) e]
  traces_untraced : ∀ es e, e.Untraced → traces (es ++ [e]) = traces es
  traces_event : ∀ es u k e, traces (es ++ [.event u k e]) = (traces es).emit (sink k) e

/-- The world as it is retold. -/
def World.retold (w : World) (R : Retelling) : World :=
  { w with history := R.history w.history, traces := R.traces w.history }

/-- An answer stays as it is. -/
def retoldWith {α : Type} (R : Retelling) (after : World × α) : World × α :=
  (after.1.retold R, after.2)

/-- An object that has no sink stays as it is. -/
def After.retold {α β : Type} (after : After α β) (R : Retelling) : After α β :=
  { after with world := after.world.retold R }

variable (R : Retelling) (w : World)

namespace World

-- ==================================================== entries

/-- An entry that is not about tracing is recorded in the retold history too. -/
theorem record_retold {e : Entry} (untraced : e.Untraced) :
    (w.retold R).record e = (w.record e).retold R := by
  simp only [record, retold, R.history_untraced _ e untraced, R.traces_untraced _ e untraced]

/-- A call to a backend is not about tracing. -/
theorem call_retold (c : ContextId) (call : BackendCall) :
    (w.retold R).call c call = (w.call c call).retold R := record_retold R w trivial

/-- A remark is not about tracing. -/
theorem note_retold (d : Diagnostic) : (w.retold R).note d = (w.note d).retold R :=
  record_retold R w trivial

/-- A call to a source is not about tracing. -/
theorem source_retold (source : SourceRef) (call : SourceCall) :
    (w.retold R).record (.source source call) = (w.record (.source source call)).retold R :=
  record_retold R w trivial

/-- An event that goes to the other sink is told in the other way. -/
theorem trace_retold (u : UpdaterId) (k : Sink) (e : Event) :
    (w.retold R).trace u (R.sink k) e = (w.trace u k e).retold R := by
  simp only [trace, record, retold, R.history_event, R.traces_event]

-- ==================================================== textures

/-- An import asks the backend alone, and no reader of traces. -/
theorem importTexture_retold (c : ContextId) (p : Pipeline) (b : HardwareBuffer) (d : Dataspace) :
    (w.retold R).importTexture c p b d = retoldWith R (w.importTexture c p b d) := by
  have same : (w.retold R).alive c = w.alive c ∧ (w.retold R).backend c = w.backend c :=
    ⟨rfl, rfl⟩
  unfold importTexture
  rw [same.1, same.2]
  split
  · cases (w.backend c).importError with
    | some e => simp only [call_retold, retoldWith]
    | none =>
      have called := call_retold R { w with imported := w.imported + 1 } c
        (.imported (w.imported + 1) b d)
      dsimp only [retoldWith]
      exact congrArg (fun v : World => (v.setTexture _ _, Except.ok _)) called
  · rfl

/-- Textures are not retold, so whatever changes one does the same to them. -/
theorem onTexture_retold (t : TextureId) (f : Texture → Texture) :
    (w.retold R).onTexture t f = (w.onTexture t f).retold R := rfl

/-- The last holder of a texture has it deleted or abandoned, which is a call either way. -/
theorem free_retold (t : TextureId) (x : Texture) : (w.retold R).free t x = (w.free t x).retold R :=
  call_retold R w _ _

/-- To let go of a texture is to count down, and to free it where nobody is left. -/
theorem letGo_retold (t : TextureId) : (w.retold R).letGo t = (w.letGo t).retold R := by
  have same : (w.retold R).texture? t = w.texture? t := rfl
  unfold letGo
  rw [same, onTexture_retold]
  cases w.texture? t with
  | none => rfl
  | some x =>
    dsimp only
    split
    · exact free_retold R _ t x
    · rfl

theorem letGoOf_retold (t : Option TextureId) :
    (w.retold R).letGoOf t = (w.letGoOf t).retold R := by
  cases t with
  | none => rfl
  | some t => exact letGo_retold R w t

/-- A release answers the same, because it looks at textures and contexts alone. -/
theorem release_retold (t : TextureId) (mode : TeardownMode) :
    (w.retold R).release t mode = retoldWith R (w.release t mode) := by
  have marked := letGo_retold R (w.markReleased t mode) t
  exact congrArg (·, _) marked

/-- Whether a buffer can be handed back is seen from its texture and its context. -/
theorem releaseQueue_retold (t : TextureId) :
    (w.retold R).releaseQueue t = retoldWith R (w.releaseQueue t) := by
  have same (c : ContextId) : (w.retold R).texture? t = w.texture? t
      ∧ (w.retold R).alive c = w.alive c := ⟨rfl, rfl⟩
  unfold releaseQueue
  rw [(same 0).1, onTexture_retold]
  cases w.texture? t with
  | none => rfl
  | some x =>
    dsimp only
    rw [(same x.context).2, call_retold]
    split <;> rfl

-- ==================================================== contexts

/-- The loss of a context is a remark and a change of contexts, and neither is retold. -/
theorem loseContext_retold (c : ContextId) (n : Nat) :
    (w.retold R).loseContext c n = (w.loseContext c n).retold R :=
  note_retold R { w with contexts := w.contexts.modify c fun x => { x with alive := false } } _

end World

-- ==================================================== slots

namespace Slot

variable (s : Slot)

theorem releaseQueue_retold : s.releaseQueue (w.retold R) = retoldWith R (s.releaseQueue w) := by
  unfold releaseQueue
  cases s.texture with
  | none => rfl
  | some t => exact w.releaseQueue_retold R t

/-- A slot that is cleared hands its buffer back first, then gives its texture up. -/
theorem clear_retold (mode : TeardownMode) :
    s.clear (w.retold R) mode = (s.clear w mode).retold R := by
  unfold clear
  cases s.texture with
  | none => rfl
  | some t =>
    dsimp only
    have handed : (if mode = .normal then ((w.retold R).releaseQueue t).1 else w.retold R)
        = (if mode = .normal then (w.releaseQueue t).1 else w).retold R := by
      rw [World.releaseQueue_retold]
      split <;> rfl
    rw [handed, World.release_retold]
    rfl

/-- A slot is filled with what an import answers, which is the same. -/
theorem fill_retold (c : ContextId) (b : HardwareBuffer) (d : Dataspace) :
    s.fill (w.retold R) c b d = (s.fill w c b d).retold R := by
  unfold fill
  rw [World.importTexture_retold]
  dsimp only [retoldWith]
  split
  · rfl
  · rw [World.note_retold]
    rfl

/-- Whether a slot keeps its texture is decided by the buffer and the slot. -/
theorem resolve_retold (c : ContextId) (b : HardwareBuffer) (d : Dataspace) (force : Bool) :
    s.resolve (w.retold R) c b d force = (s.resolve w c b d force).retold R := by
  have same : s.match? (w.retold R) b d = s.match? w b d := rfl
  unfold resolve
  rw [same]
  split
  · rfl
  · rw [clear_retold]
    exact fill_retold R _ _ c b d

theorem discard_retold : s.discard (w.retold R) = (s.discard w).retold R :=
  w.letGoOf_retold R s.texture

end Slot

-- ==================================================== caches

namespace SlotCache

variable (cache : SlotCache)

theorem releaseQueue_retold (slot : SlotId) :
    cache.releaseQueue (w.retold R) slot = retoldWith R (cache.releaseQueue w slot) := by
  unfold releaseQueue
  cases cache.get? slot with
  | none => rfl
  | some entry => exact entry.releaseQueue_retold R w

theorem resolve_retold (c : ContextId) (slot : SlotId) (b : HardwareBuffer) (d : Dataspace)
    (force : Bool) :
    cache.resolve (w.retold R) c slot b d force = (cache.resolve w c slot b d force).retold R := by
  have resolved := ((cache.get? slot).getD (.empty cache.pipeline)).resolve_retold R w c b d force
  exact congrArg (fun r : After Slot Resolved => (⟨r.world,
    { cache with slots := cache.slots.set slot r.object }, r.answer⟩ : After SlotCache Resolved))
    resolved

theorem clear_retold (slot : SlotId) (mode : TeardownMode) :
    cache.clear (w.retold R) slot mode = (cache.clear w slot mode).retold R := by
  unfold clear
  cases cache.get? slot with
  | none => rfl
  | some entry =>
    dsimp only
    rw [Slot.clear_retold]
    rfl

/-- Slots that are cleared one after the other, counted as they go. -/
theorem clearSlots_retold (mode : TeardownMode) (slots : List Slot) (w : World) :
    clearSlots (w.retold R) mode slots = retoldWith R (clearSlots w mode slots) := by
  induction slots generalizing w with
  | nil => rfl
  | cons slot slots ih =>
    simp only [clearSlots, Slot.clear_retold, After.retold, ih]
    rfl

/-- A cache is cleared in the order of its slots. -/
theorem clearAll_retold (mode : TeardownMode) :
    cache.clearAll (w.retold R) mode = (cache.clearAll w mode).retold R := by
  unfold clearAll
  rw [clearSlots_retold]
  rfl

theorem discard_retold : cache.discard (w.retold R) = (cache.discard w).retold R := by
  unfold discard
  generalize cache.slots.values = slots
  induction slots generalizing w with
  | nil => rfl
  | cons slot slots ih =>
    rw [List.foldl_cons, List.foldl_cons, Slot.discard_retold]
    exact ih _

end SlotCache

-- ==================================================== fences

namespace FenceGate

variable (g : FenceGate)

/-- A native fence is asked of the backend, which answers the same. -/
theorem makeNative_retold (display : Option DisplayId) :
    g.makeNative (w.retold R) display = retoldWith R (g.makeNative w display) := by
  have same : (w.retold R).backend g.context = w.backend g.context := rfl
  unfold makeNative
  rw [same]
  cases (w.backend g.context).nativeError with
  | some e => simp only [World.call_retold, World.note_retold, retoldWith]
  | none => exact congrArg (·, _) (World.call_retold R { w with nativeFences := _ } _ _)

/-- A sync object is asked of the backend, which answers the same. -/
theorem makeSync_retold (display : Option DisplayId) :
    g.makeSync (w.retold R) display = retoldWith R (g.makeSync w display) := by
  have same : (w.retold R).backend g.context = w.backend g.context := rfl
  unfold makeSync
  rw [same]
  cases (w.backend g.context).syncFault with
  | some e => simp only [World.call_retold, World.note_retold, retoldWith]
  | none => exact congrArg (·, _) (World.call_retold R { w with syncFences := _ } _ _)

/-- Which kind of fence is made depends on the pipeline and on what was asked before. -/
theorem createFence_retold (useSync : Bool) :
    g.createFence (w.retold R) useSync = retoldWith R (g.createFence w useSync) := by
  have same : (w.retold R).alive g.context = w.alive g.context
      ∧ (w.retold R).backend g.context = w.backend g.context := ⟨rfl, rfl⟩
  unfold createFence
  rw [same.1, same.2]
  split
  · cases g.pipeline with
    | vulkan => exact g.makeNative_retold R w none
    | gl =>
      simp only [World.call_retold, makeNative_retold, makeSync_retold]
      split
      · rfl
      · split <;> rfl
  · rfl

/-- To wait for a fence is a call, with a remark if it fails. -/
theorem wait_retold (fd : FenceFd) : g.wait (w.retold R) fd = retoldWith R (g.wait w fd) := by
  have same : (w.retold R).alive g.context = w.alive g.context
      ∧ (w.retold R).backend g.context = w.backend g.context := ⟨rfl, rfl⟩
  unfold wait
  rw [same.1, same.2]
  split
  · cases (w.backend g.context).waitError with
    | some e => simp only [World.call_retold, World.note_retold, retoldWith]
    | none => simp only [World.call_retold, retoldWith]
  · rfl

end FenceGate

/-- In a dequeue the slot hands its buffer back before the fence is made. -/
theorem DequeueFences.createFence_retold (f : DequeueFences) (useSync : Bool) :
    f.createFence (w.retold R) useSync = (f.createFence w useSync).retold R := by
  unfold createFence
  split
  · rw [Slot.releaseQueue_retold]
    dsimp only [retoldWith]
    rw [FenceGate.createFence_retold]
    rfl
  · dsimp only
    rw [FenceGate.createFence_retold]
    rfl

end LayerFeed
