/-
What drawing depends on. A picture is made of textures, slots and layers. Fences are made and
waited for beside it, and on Vulkan the buffers of textures go back and forth between producer
and consumer; none of this is seen in the picture.

To say so, all that is not drawn is taken out: `drawn` takes the pipeline off textures, slots
and caches, and from a backend it leaves only whether imports fail. Two worlds make the
`SamePicture` if they have the same drawn contexts and textures, and imported, deleted and
abandoned textures by the same calls in the same order. Whatever concerns fences and the
producer's queue is not seen in it (`SamePicture w (op w)`), and all else that is done to two
worlds keeps their pictures the same (`SamePicture w w' → SamePicture (op w) (op w')`).
-/
import LayerFeed.Fence.Gate
import LayerFeed.Proofs.Tables
import LayerFeed.SlotCache
import Mathlib.Data.List.Basic

namespace LayerFeed

-- ==================================================== what is drawn

/-- A texture as far as it is drawn. -/
def Texture.drawn (x : Texture) : Texture := { x with pipeline := .gl, queueHeld := false }

/-- What decides when and how a texture is freed is drawn. -/
theorem Texture.of_drawn {x y : Texture} (same : x.drawn = y.drawn) :
    x.context = y.context ∧ x.released = y.released ∧ x.holders = y.holders := by
  simp only [Texture.drawn, Texture.mk.injEq] at same
  exact ⟨same.1, same.2.2.2.2.2.1, same.2.2.2.2.2.2⟩

/-- A backend as far as drawing depends on it. -/
def Backend.drawn (b : Backend) : Backend := { importError := b.importError }

/-- A context as far as drawing depends on it. -/
def Context.drawn (x : Context) : Context := { x with backend := x.backend.drawn }

/-- Whether a setting is one that drawing depends on. -/
def BackendSetting.isDrawn : BackendSetting → Bool
  | importError _ => true
  | _ => false

/-- An entry that calls a backend to import a texture, or to delete or abandon one. -/
def Entry.drawCall? : Entry → Option (ContextId × BackendCall)
  | .backend c (.imported t b d) => some (c, .imported t b d)
  | .backend c (.importFailed b) => some (c, .importFailed b)
  | .backend c (.deleted t) => some (c, .deleted t)
  | .backend c (.abandoned t) => some (c, .abandoned t)
  | _ => none

/-- All calls by which textures are imported, deleted and abandoned, in order. -/
def drawCallsIn (h : List Entry) : List (ContextId × BackendCall) := h.filterMap Entry.drawCall?

namespace World

/-- Two worlds that differ in nothing that is drawn. -/
structure SamePicture (w w' : World) : Prop where
  contexts : w.contexts.map Context.drawn = w'.contexts.map Context.drawn
  textures : w.textures.map Texture.drawn = w'.textures.map Texture.drawn
  imported : w.imported = w'.imported
  calls : drawCallsIn w.history = drawCallsIn w'.history

variable {w w' w'' : World} {c : ContextId} {t : TextureId} {e : Entry}

namespace SamePicture

/-- Every world shows its own picture. -/
theorem refl (w : World) : SamePicture w w := ⟨rfl, rfl, rfl, rfl⟩

/-- The same picture either way. -/
theorem symm (h : SamePicture w w') : SamePicture w' w :=
  ⟨h.contexts.symm, h.textures.symm, h.imported.symm, h.calls.symm⟩

/-- And through a third world. -/
theorem trans (first : SamePicture w w') (second : SamePicture w' w'') : SamePicture w w'' :=
  ⟨first.contexts.trans second.contexts, first.textures.trans second.textures,
    first.imported.trans second.imported, first.calls.trans second.calls⟩

/-- Both worlds may change, if it is not seen. -/
theorem unseen {v v' : World} (h : SamePicture w w') (left : SamePicture w v)
    (right : SamePicture w' v') : SamePicture v v' := (left.symm.trans h).trans right

/-- The same entry on both sides. -/
theorem record (h : SamePicture w w') (e : Entry) : SamePicture (w.record e) (w'.record e) := by
  refine ⟨h.contexts, h.textures, h.imported, ?_⟩
  show drawCallsIn (_ ++ _) = drawCallsIn (_ ++ _)
  rw [drawCallsIn, drawCallsIn, List.filterMap_append, List.filterMap_append]
  exact congrArg (· ++ _) h.calls

/-- Both worlds have the same living contexts. -/
theorem alive (h : SamePicture w w') (c : ContextId) : w.alive c = w'.alive c := by
  have same := congrArg (·.get? c) h.contexts
  simp only [Table.get?_map] at same
  have alive := congrArg (Option.map Context.alive) same
  rw [Option.map_map, Option.map_map] at alive
  exact congrArg (·.getD false) alive

/-- Imports fail in both or in neither. -/
theorem importError (h : SamePicture w w') (c : ContextId) :
    (w.backend c).importError = (w'.backend c).importError := by
  have same := congrArg (·.get? c) h.contexts
  simp only [Table.get?_map] at same
  unfold backend
  cases found : w.contexts.get? c with
  | none =>
    rw [found, Option.map_none] at same
    rw [Option.map_eq_none_iff.1 same.symm]
  | some x =>
    rw [found, Option.map_some] at same
    obtain ⟨y, found', alike⟩ := Option.map_eq_some_iff.1 same.symm
    have failures : y.drawn.backend.importError = x.drawn.backend.importError :=
      congrArg (fun z : Context => z.backend.importError) alike
    rw [found']
    exact failures.symm

/-- The same textures, up to what is not drawn. -/
theorem texture? (h : SamePicture w w') (t : TextureId) :
    (w.texture? t).map Texture.drawn = (w'.texture? t).map Texture.drawn := by
  have same := congrArg (·.get? t) h.textures
  simp only [Table.get?_map] at same
  exact same

/-- With the same number of holders. -/
theorem holders (h : SamePicture w w') (t : TextureId) : w.holders t = w'.holders t := by
  have same := congrArg (Option.map Texture.holders) (h.texture? t)
  rw [Option.map_map, Option.map_map] at same
  exact congrArg (·.getD 0) same

/-- The same change of the record of a texture, as far as it is drawn. -/
theorem onTexture {f g : Texture → Texture} (h : SamePicture w w')
    (changes : ∀ x y : Texture, x.drawn = y.drawn → (f x).drawn = (g y).drawn) (t : TextureId) :
    SamePicture (w.onTexture t f) (w'.onTexture t g) :=
  ⟨h.contexts, Table.map_modify_congr h.textures changes t, h.imported, h.calls⟩

end SamePicture

-- ==================================================== what is not seen

/-- An entry that draws nothing leaves the picture. -/
theorem record_unseen (w : World) (undrawn : e.drawCall? = none) : SamePicture w (w.record e) := by
  refine ⟨rfl, rfl, rfl, ?_⟩
  show drawCallsIn _ = drawCallsIn (_ ++ _)
  rw [drawCallsIn, drawCallsIn, List.filterMap_append, List.filterMap_cons, undrawn]
  exact (List.append_nil _).symm

/-- Reports of events are not in the picture. -/
private theorem trace_unseen (w : World) (u : UpdaterId) (sink : Sink) (e : Event) :
    SamePicture w (w.trace u sink e) :=
  (w.record_unseen (e := .event u sink e) rfl).trans ⟨rfl, rfl, rfl, rfl⟩

/-- What a sink is told is not seen. -/
theorem SamePicture.trace (h : SamePicture w w') (u : UpdaterId) (sink : Sink) (e e' : Event) :
    SamePicture (w.trace u sink e) (w'.trace u sink e') :=
  h.unseen (w.trace_unseen u sink e) (w'.trace_unseen u sink e')

/-- Nor is a change of a texture in what is not drawn. -/
theorem onTexture_unseen (w : World) (t : TextureId) {f : Texture → Texture}
    (unseen : ∀ x : Texture, (f x).drawn = x.drawn) : SamePicture w (w.onTexture t f) :=
  ⟨rfl, (Table.map_modify_unseen unseen w.textures t).symm, rfl, rfl⟩

/-- Whether a buffer goes back to the producer's queue is not seen. -/
theorem releaseQueue_unseen (w : World) (t : TextureId) : SamePicture w (w.releaseQueue t).1 := by
  have given : SamePicture w (w.onTexture t fun x =>
      if x.pipeline = .vulkan then { x with queueHeld := false } else x) :=
    w.onTexture_unseen t fun x => by
      split <;> rfl
  unfold releaseQueue
  split
  · split
    · exact given.trans (record_unseen _ rfl)
    · exact given
  · exact given

/-- Ownership by a queue is not drawn. -/
theorem reacquireQueue_unseen (w : World) (t : TextureId) : SamePicture w (w.reacquireQueue t) :=
  w.onTexture_unseen t fun x => by
    split <;> rfl

-- ==================================================== textures

variable (h : SamePicture w w')

include h

/-- One more share on both sides. -/
theorem SamePicture.share (t : TextureId) : SamePicture (w.share t) (w'.share t) :=
  h.onTexture (fun x y same => by
    simp only [Texture.drawn, Texture.mk.injEq] at same ⊢
    simp [same]) t

/-- A mark of release on both sides. -/
theorem SamePicture.markReleased (t : TextureId) (mode : TeardownMode) :
    SamePicture (w.markReleased t mode) (w'.markReleased t mode) :=
  h.onTexture (fun x y same => by
    simp only [Texture.drawn, Texture.mk.injEq] at same ⊢
    simp [same]) t

/-- The last share gone on both sides. -/
theorem SamePicture.free {x y : Texture} (same : x.drawn = y.drawn) (t : TextureId) :
    SamePicture (w.free t x) (w'.free t y) := by
  obtain ⟨context, released, -⟩ := Texture.of_drawn same
  unfold World.free Texture.condemned
  rw [context, released, h.alive]
  exact h.record _

/-- A share gone on both sides. -/
theorem SamePicture.letGo (t : TextureId) : SamePicture (w.letGo t) (w'.letGo t) := by
  have counted : SamePicture (w.onTexture t fun x => { x with holders := x.holders - 1 })
      (w'.onTexture t fun x => { x with holders := x.holders - 1 }) :=
    h.onTexture (fun x y same => by
      simp only [Texture.drawn, Texture.mk.injEq] at same ⊢
      simp [same]) t
  have same := h.texture? t
  unfold World.letGo
  dsimp only
  cases found : w.texture? t with
  | none =>
    rw [found, Option.map_none] at same
    rw [Option.map_eq_none_iff.1 same.symm]
    exact counted
  | some x =>
    rw [found, Option.map_some] at same
    obtain ⟨y, found', alike⟩ := Option.map_eq_some_iff.1 same.symm
    obtain ⟨-, -, holders⟩ := Texture.of_drawn alike
    rw [found']
    dsimp only
    rw [holders]
    split
    · exact counted.free alike.symm t
    · exact counted

theorem SamePicture.letGoOf (o : Option TextureId) : SamePicture (w.letGoOf o) (w'.letGoOf o) := by
  cases o with
  | none => exact h
  | some t => exact h.letGo t

/-- A release on both sides, with the same answer. -/
theorem SamePicture.release (t : TextureId) (mode : TeardownMode) :
    SamePicture (w.release t mode).1 (w'.release t mode).1
      ∧ (w.release t mode).2 = (w'.release t mode).2 := by
  have marked := h.markReleased t mode
  refine ⟨marked.letGo t, ?_⟩
  unfold World.release
  dsimp only
  rw [marked.holders]

/-- An import on both sides, for either pipeline, with the same answer. -/
theorem SamePicture.importTexture (c : ContextId) (p p' : Pipeline) (b : HardwareBuffer)
    (d : Dataspace) : SamePicture (w.importTexture c p b d).1 (w'.importTexture c p' b d).1
      ∧ (w.importTexture c p b d).2 = (w'.importTexture c p' b d).2 := by
  unfold World.importTexture
  rw [h.alive, h.importError, h.imported]
  split
  · split
    · exact ⟨h.record _, rfl⟩
    · have called := h.record (.backend c (.imported (w'.imported + 1) b d))
      refine ⟨⟨called.contexts, ?_, rfl, called.calls⟩, rfl⟩
      show (Table.set _ _ _).map _ = (Table.set _ _ _).map _
      rw [Table.map_set, Table.map_set]
      exact congrArg (Table.set · _ (Texture.drawn ⟨c, .gl, b, d, false, none, 1⟩)) h.textures
  · exact ⟨h, rfl⟩

-- ==================================================== contexts

/-- A context opened on both sides, with backends that differ in what is not drawn. -/
theorem SamePicture.openContext (c : ContextId) {b b' : Backend} (same : b.drawn = b'.drawn) :
    SamePicture (w.openContext c b) (w'.openContext c b') := by
  refine ⟨?_, h.textures, h.imported, h.calls⟩
  show (Table.set _ _ _).map _ = (Table.set _ _ _).map _
  rw [Table.map_set, Table.map_set, h.contexts]
  unfold Context.drawn
  rw [same]

/-- A context lost on both sides. -/
theorem SamePicture.loseContext (c : ContextId) (n : Nat) :
    SamePicture (w.loseContext c n) (w'.loseContext c n) := by
  have lost : SamePicture
      { w with contexts := w.contexts.modify c fun x => { x with alive := false } }
      { w' with contexts := w'.contexts.modify c fun x => { x with alive := false } } := by
    refine ⟨Table.map_modify_congr h.contexts (fun x y same => ?_) c, h.textures, h.imported,
      h.calls⟩
    simp only [Context.drawn, Context.mk.injEq] at same ⊢
    exact ⟨same.1, trivial⟩
  exact lost.record _

omit h in
/-- Settings that drawing does not depend on can be left out. -/
theorem adjustAll_drawn {b b' : Backend} (same : b.drawn = b'.drawn)
    (settings : List BackendSetting) :
    (b.adjustAll settings).drawn
      = (b'.adjustAll (settings.filter BackendSetting.isDrawn)).drawn := by
  induction settings generalizing b b' with
  | nil => exact same
  | cons setting settings ih =>
    cases setting with
    | importError error => exact ih rfl
    | nativeFences | display | nativeError | syncError | waitError => exact ih same

/-- Settings of a backend on one side, those of them that are drawn on the other. -/
theorem SamePicture.adjustBackend (c : ContextId) (settings : List BackendSetting) :
    SamePicture (w.adjustBackend c settings)
      (w'.adjustBackend c (settings.filter BackendSetting.isDrawn)) := by
  refine ⟨Table.map_modify_congr h.contexts (fun x y same => ?_) c, h.textures, h.imported,
    h.calls⟩
  simp only [Context.drawn, Context.mk.injEq] at same ⊢
  exact ⟨adjustAll_drawn same.1 settings, same.2⟩

omit h in
/-- A backend may change its answers about fences. -/
theorem adjustBackend_unseen (w : World) (c : ContextId) {settings : List BackendSetting}
    (undrawn : settings.filter BackendSetting.isDrawn = []) :
    SamePicture w (w.adjustBackend c settings) := by
  refine ⟨(Table.map_modify_unseen (fun x => ?_) w.contexts c).symm, rfl, rfl, rfl⟩
  have kept := adjustAll_drawn (b := x.backend) rfl settings
  rw [undrawn] at kept
  rw [Context.drawn, Context.drawn]
  exact congrArg (Context.mk · x.alive) kept

end World

open World

variable {w w' : World}

-- ==================================================== fences

namespace FenceGate

/-- A native fence draws nothing. -/
theorem makeNative_unseen (g : FenceGate) (w : World) (display : Option DisplayId) :
    SamePicture w (g.makeNative w display).1 := by
  unfold makeNative
  split
  · exact (w.record_unseen rfl).trans (record_unseen _ rfl)
  · have counted : SamePicture w { w with nativeFences := w.nativeFences + 1 } :=
      ⟨rfl, rfl, rfl, rfl⟩
    exact counted.trans (record_unseen _ rfl)

/-- Nor does a sync object. -/
theorem makeSync_unseen (g : FenceGate) (w : World) (display : Option DisplayId) :
    SamePicture w (g.makeSync w display).1 := by
  unfold makeSync
  split
  · exact (w.record_unseen rfl).trans (record_unseen _ rfl)
  · have counted : SamePicture w { w with syncFences := w.syncFences + 1 } :=
      ⟨rfl, rfl, rfl, rfl⟩
    exact counted.trans (record_unseen _ rfl)

/-- Nor does whichever of the two is made. -/
theorem createFence_unseen (g : FenceGate) (w : World) (useSync : Bool) :
    SamePicture w (g.createFence w useSync).1 := by
  unfold createFence
  split
  · split
    · exact g.makeNative_unseen w none
    · have asked : SamePicture w
          ((w.call g.context .askedDisplay).call g.context .askedNativeFences) :=
        (w.record_unseen rfl).trans (record_unseen _ rfl)
      dsimp only
      split
      · exact asked.trans (g.makeNative_unseen _ _)
      · split
        · exact asked.trans (g.makeSync_unseen _ _)
        · exact asked
  · exact .refl w

/-- Nor does waiting for a fence. -/
theorem wait_unseen (g : FenceGate) (w : World) (fd : FenceFd) : SamePicture w (g.wait w fd).1 := by
  unfold wait
  split
  · dsimp only
    split
    · exact (w.record_unseen rfl).trans (record_unseen _ rfl)
    · exact w.record_unseen rfl
  · exact .refl w

end FenceGate

-- ==================================================== slots

/-- A slot as far as it is drawn. -/
def Slot.drawn (s : Slot) : Slot := { s with pipeline := .gl }

namespace Slot

/-- Handing a buffer back to the source draws nothing. -/
theorem releaseQueue_unseen (s : Slot) (w : World) : SamePicture w (s.releaseQueue w).1 := by
  unfold releaseQueue
  split
  · exact w.releaseQueue_unseen _
  · exact .refl w

variable (s : Slot) (h : SamePicture w w')

include h

/-- Both worlds find the same match for a buffer. -/
theorem match?_drawn (b : HardwareBuffer) (d : Dataspace) :
    s.match? w b d = s.drawn.match? w' b d := by
  unfold match?
  refine congrArg (Option.filter · s.texture) (funext fun t => ?_)
  have same := congrArg (Option.map Texture.buffer) (h.texture? t)
  rw [Option.map_map, Option.map_map] at same
  have any : ∀ o : Option Texture, o.any (·.buffer.same b)
      = (o.map (Texture.buffer ∘ Texture.drawn)).any (·.same b) := fun o => by cases o <;> rfl
  rw [any, any, same]
  rfl

/-- Clearing draws alike. -/
theorem clear_drawn (mode : TeardownMode) :
    SamePicture (s.clear w mode).world (s.drawn.clear w' mode).world
      ∧ (s.drawn.clear w' mode).object = (s.clear w mode).object.drawn
      ∧ (s.clear w mode).answer = (s.drawn.clear w' mode).answer := by
  have texture : s.drawn.texture = s.texture := rfl
  unfold clear
  rw [texture]
  dsimp only
  split
  · exact ⟨h, rfl, rfl⟩
  · next t _ =>
    have given : SamePicture (if mode = .normal then (w.releaseQueue t).1 else w)
        (if mode = .normal then (w'.releaseQueue t).1 else w') := by
      split
      · exact h.unseen (w.releaseQueue_unseen t) (w'.releaseQueue_unseen t)
      · exact h
    obtain ⟨alike, answer⟩ := given.release t mode
    exact ⟨alike, rfl, congrArg some answer⟩

/-- An import into the slot draws alike. -/
theorem fill_drawn (c : ContextId) (b : HardwareBuffer) (d : Dataspace) :
    SamePicture (s.fill w c b d).world (s.drawn.fill w' c b d).world
      ∧ (s.drawn.fill w' c b d).object = (s.fill w c b d).object.drawn
      ∧ (s.fill w c b d).answer = (s.drawn.fill w' c b d).answer := by
  obtain ⟨alike, answer⟩ := h.importTexture c s.pipeline s.drawn.pipeline b d
  unfold fill
  dsimp only
  rw [answer]
  split
  · exact ⟨alike.share _, rfl, rfl⟩
  · exact ⟨alike.record _, rfl, rfl⟩

/-- A resolution draws alike, and answers the same. -/
theorem resolve_drawn (c : ContextId) (b : HardwareBuffer) (d : Dataspace) (force : Bool) :
    SamePicture (s.resolve w c b d force).world (s.drawn.resolve w' c b d force).world
      ∧ (s.drawn.resolve w' c b d force).object = (s.resolve w c b d force).object.drawn
      ∧ (s.resolve w c b d force).answer = (s.drawn.resolve w' c b d force).answer := by
  unfold resolve
  rw [s.match?_drawn h]
  split
  · next t _ =>
    have given := h.unseen (w.reacquireQueue_unseen t) (w'.reacquireQueue_unseen t)
    exact ⟨given.share t, rfl, rfl⟩
  · obtain ⟨cleared, object, -⟩ := s.clear_drawn h .normal
    dsimp only
    rw [object]
    exact (s.clear w .normal).object.fill_drawn cleared c b d

theorem discard_drawn : SamePicture (s.discard w) (s.drawn.discard w') := h.letGoOf s.texture

end Slot

-- ==================================================== caches

/-- A cache as far as it is drawn. -/
def SlotCache.drawn (c : SlotCache) : SlotCache where
  pipeline := .gl
  slots := c.slots.map Slot.drawn

namespace SlotCache

theorem get?_drawn (cache : SlotCache) (slot : SlotId) :
    cache.drawn.get? slot = (cache.get? slot).map Slot.drawn := Table.get?_map _ _ _

theorem releaseQueue_unseen (cache : SlotCache) (w : World) (slot : SlotId) :
    SamePicture w (cache.releaseQueue w slot).1 := by
  unfold releaseQueue
  split
  · exact Slot.releaseQueue_unseen _ w
  · exact .refl w

variable (cache : SlotCache) (h : SamePicture w w')

include h

theorem resolve_drawn (c : ContextId) (slot : SlotId) (b : HardwareBuffer) (d : Dataspace)
    (force : Bool) :
    SamePicture (cache.resolve w c slot b d force).world
        (cache.drawn.resolve w' c slot b d force).world
      ∧ (cache.drawn.resolve w' c slot b d force).object
        = (cache.resolve w c slot b d force).object.drawn
      ∧ (cache.resolve w c slot b d force).answer
        = (cache.drawn.resolve w' c slot b d force).answer := by
  have entry : (cache.drawn.get? slot).getD (.empty cache.drawn.pipeline)
      = ((cache.get? slot).getD (.empty cache.pipeline)).drawn := by
    rw [get?_drawn]
    cases cache.get? slot <;> rfl
  obtain ⟨alike, object, answer⟩ :=
    ((cache.get? slot).getD (.empty cache.pipeline)).resolve_drawn h c b d force
  unfold resolve
  dsimp only
  rw [entry, object]
  refine ⟨alike, ?_, answer⟩
  unfold SlotCache.drawn
  rw [Table.map_set]

theorem clear_drawn (slot : SlotId) (mode : TeardownMode) :
    SamePicture (cache.clear w slot mode).world (cache.drawn.clear w' slot mode).world
      ∧ (cache.drawn.clear w' slot mode).object = (cache.clear w slot mode).object.drawn
      ∧ (cache.clear w slot mode).answer = (cache.drawn.clear w' slot mode).answer := by
  unfold clear
  rw [get?_drawn]
  cases cache.get? slot with
  | none => exact ⟨h, rfl, rfl⟩
  | some entry =>
    obtain ⟨alike, object, answer⟩ := entry.clear_drawn h mode
    dsimp only [Option.map]
    rw [object]
    refine ⟨alike, ?_, answer⟩
    unfold SlotCache.drawn
    rw [Table.map_set]

theorem clearSlots_drawn (mode : TeardownMode) (slots : List Slot) :
    SamePicture (clearSlots w mode slots).1 (clearSlots w' mode (slots.map Slot.drawn)).1
      ∧ (clearSlots w mode slots).2 = (clearSlots w' mode (slots.map Slot.drawn)).2 := by
  induction slots generalizing w w' with
  | nil => exact ⟨h, rfl⟩
  | cons slot slots ih =>
    obtain ⟨cleared, -, answer⟩ := slot.clear_drawn h mode
    obtain ⟨alike, count⟩ := ih cleared
    rw [List.map_cons, clearSlots, clearSlots]
    exact ⟨alike, by rw [answer, count]⟩

theorem clearAll_drawn (mode : TeardownMode) :
    SamePicture (cache.clearAll w mode).world (cache.drawn.clearAll w' mode).world
      ∧ (cache.drawn.clearAll w' mode).object = (cache.clearAll w mode).object.drawn
      ∧ (cache.clearAll w mode).answer = (cache.drawn.clearAll w' mode).answer := by
  have values : cache.drawn.slots.values = cache.slots.values.map Slot.drawn :=
    Table.values_map _ _
  obtain ⟨alike, count⟩ := clearSlots_drawn h mode cache.slots.values
  unfold clearAll
  dsimp only
  rw [values]
  exact ⟨alike, rfl, count⟩

theorem discard_drawn : SamePicture (cache.discard w) (cache.drawn.discard w') := by
  have values : cache.drawn.slots.values = cache.slots.values.map Slot.drawn :=
    Table.values_map _ _
  unfold discard
  rw [values]
  generalize cache.slots.values = slots
  induction slots generalizing w w' with
  | nil => exact h
  | cons slot slots ih => exact ih (slot.discard_drawn h)

end SlotCache

theorem DequeueFences.createFence_unseen (f : DequeueFences) (w : World) (useSync : Bool) :
    SamePicture w (f.createFence w useSync).world := by
  unfold createFence
  dsimp only
  split
  · exact (Slot.releaseQueue_unseen _ w).trans (f.gate.createFence_unseen _ useSync)
  · exact f.gate.createFence_unseen w useSync

end LayerFeed
