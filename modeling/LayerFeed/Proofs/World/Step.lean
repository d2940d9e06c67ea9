/-
What can happen to a world. Every operation on slots, fences, updaters and
sessions changes the world through the steps listed here and in no other way,
so a law of all worlds is proved once for each of them.

# The steps

A step that changes who holds a texture, or how it will end, needs a holder of
it: nobody can share, release or let go of a texture that no handle and no image
holds. A step that calls a backend needs a living context, except that a texture
may be abandoned at any time. What the history gains is one entry at most, at its
end. Entries that only tell of something (`isRemark`) are bound to a predicate
`P`, so that a sequence of steps also says which remarks it can have made.

Opening a context is not among the steps: it needs a number that was never given
to a context, and only a session gives out numbers. So steps add no contexts
(`Steps.contexts`), and they revive none (`Steps.alive`).
-/
import LayerFeed.Texture
import Mathlib.Logic.Relation

namespace LayerFeed

/-- An entry that only tells of something: neither a call to a backend nor the
loss of a context. -/
def Entry.isRemark : Entry → Bool
  | .backend _ _ | .note (.contextDestroyed _ _) => false
  | _ => true

/-- A call that no texture has a part in. -/
def BackendCall.isQuery : BackendCall → Bool
  | importFailed _ | nativeFence _ | syncFence _ | waited _ | askedDisplay
  | askedNativeFences => true
  | imported _ _ _ | deleted _ | abandoned _ | queueReleased _ => false

namespace World

variable {P Q : Entry → Prop} {w w' w'' : World} {c : ContextId} {t u : TextureId}
  {x : Texture}

-- ==================================================== readings of a world

@[simp] theorem record_history (w : World) (e : Entry) :
    (w.record e).history = w.history ++ [e] := rfl

/-- A change to one record is seen under its own number alone. -/
theorem texture?_onTexture (w : World) (t u : TextureId) (f : Texture → Texture) :
    (w.onTexture t f).texture? u = if u = t then (w.texture? t).map f else w.texture? u :=
  Table.get?_modify _ _ _ _

/-- A change to one record is seen by what the change does to it. -/
theorem texture?_onTexture_self (found : w.texture? t = some x) (f : Texture → Texture) :
    (w.onTexture t f).texture? t = some (f x) := by
  rw [texture?_onTexture, if_pos rfl, found, Option.map_some]

/-- Whether a context is alive is read off the contexts alone. -/
theorem alive_congr (h : w'.contexts = w.contexts) (c : ContextId) :
    w'.alive c = w.alive c := by
  unfold alive
  rw [h]

/-- A context is alive if it is known and was not lost. -/
theorem alive_eq_true : w.alive c = true ↔ ∃ x, w.contexts.get? c = some x ∧ x.alive = true := by
  unfold alive
  cases w.contexts.get? c <;> simp

/-- A texture with a holder has a record, which counts that holder. -/
theorem exists_of_held (held : 0 < w.holders t) :
    ∃ x, w.texture? t = some x ∧ 0 < x.holders := by
  unfold holders at held
  cases h : w.texture? t with
  | none => simp [h] at held
  | some x => exact ⟨x, rfl, by simpa [h] using held⟩

/-- The holders of a texture are counted on it. -/
theorem holders_eq (found : w.texture? t = some x) : w.holders t = x.holders := by
  simp [holders, found]

-- ==================================================== the steps

/-- One thing that can happen to a world. -/
inductive Step (P : Entry → Prop) : World → World → Prop
  | remark {w : World} (e : Entry) (remark : e.isRemark) (allowed : P e) :
      Step P w (w.record e)
  /-- Numbers of fences go up, recorders and texts change. -/
  | aside {w : World} (nativeFences syncFences : Nat) (traces : Traces) :
      Step P w { w with nativeFences, syncFences, traces }
  | adjustBackend {w : World} (c : ContextId) (settings : List BackendSetting) :
      Step P w (w.adjustBackend c settings)
  | loseContext {w : World} {c : ContextId} (observers : Nat) (alive : w.alive c) :
      Step P w (w.loseContext c observers)
  | query {w : World} {c : ContextId} (call : BackendCall) (query : call.isQuery)
      (alive : w.alive c) : Step P w (w.call c call)
  | importTexture {w : World} {c : ContextId} (p : Pipeline) (buffer : HardwareBuffer)
      (dataspace : Dataspace) (alive : w.alive c)
      (works : (w.backend c).importError = none) :
      Step P w (w.importTexture c p buffer dataspace).1
  | share {w : World} {t : TextureId} (held : 0 < w.holders t) : Step P w (w.share t)
  | letGo {w : World} {t : TextureId} (held : 0 < w.holders t) : Step P w (w.letGo t)
  | markReleased {w : World} {t : TextureId} (mode : TeardownMode) (held : 0 < w.holders t) :
      Step P w (w.markReleased t mode)
  | releaseQueue {w : World} (t : TextureId) : Step P w (w.releaseQueue t).1
  | reacquireQueue {w : World} (t : TextureId) : Step P w (w.reacquireQueue t)

/-- A sequence of steps. -/
abbrev Steps (P : Entry → Prop) : World → World → Prop := Relation.ReflTransGen (Step P)

/-- What a step may remark, a step may that is allowed more. -/
theorem Step.mono (hPQ : ∀ e, P e → Q e) (h : Step P w w') : Step Q w w' := by
  cases h with
  | remark e remark allowed => exact .remark e remark (hPQ e allowed)
  | aside n s tr => exact .aside n s tr
  | adjustBackend c settings => exact .adjustBackend c settings
  | loseContext n alive => exact .loseContext n alive
  | query call query alive => exact .query call query alive
  | importTexture p b d alive works => exact .importTexture p b d alive works
  | share held => exact .share held
  | letGo held => exact .letGo held
  | markReleased mode held => exact .markReleased mode held
  | releaseQueue t => exact .releaseQueue t
  | reacquireQueue t => exact .reacquireQueue t

theorem Steps.mono (hPQ : ∀ e, P e → Q e) (h : Steps P w w') : Steps Q w w' :=
  Relation.ReflTransGen.mono (fun _ _ hs => Step.mono hPQ hs) _ _ h

-- ==================================================== what a step does

/-- The record that an import starts, with one holder. -/
def newTexture (c : ContextId) (p : Pipeline) (buffer : HardwareBuffer) (dataspace : Dataspace) :
    Texture where
  context := c
  pipeline := p
  buffer := buffer
  dataspace := dataspace
  queueHeld := p = .vulkan

section Import

variable (p : Pipeline) (b : HardwareBuffer) (d : Dataspace) (alive : w.alive c)
  (works : (w.backend c).importError = none)

include alive works

/-- A successful import answers the next number. -/
theorem importTexture_answer :
    (w.importTexture c p b d).2 = .ok (w.imported + 1) := by
  simp only [importTexture, if_pos alive, works]

/-- What an import that works writes. -/
theorem importTexture_history : (w.importTexture c p b d).1.history
    = w.history ++ [.backend c (.imported (w.imported + 1) b d)] := by
  simp only [importTexture, if_pos alive, works]
  rfl

/-- What textures there are after an import that works. -/
theorem importTexture_texture? (u : TextureId) : (w.importTexture c p b d).1.texture? u
    = if u = w.imported + 1 then some (newTexture c p b d) else w.texture? u := by
  simp only [importTexture, if_pos alive, works]
  exact Table.get?_set _ _ _ _

/-- An import that works changes no context, and counts itself. -/
theorem importTexture_rest : (w.importTexture c p b d).1.contexts = w.contexts
    ∧ (w.importTexture c p b d).1.imported = w.imported + 1 := by
  simp only [importTexture, if_pos alive, works]
  exact ⟨rfl, rfl⟩

end Import

/-- The call by which a texture leaves its backend. -/
def farewell (w : World) (t : TextureId) (x : Texture) : BackendCall :=
  if w.alive x.context && !x.condemned then .deleted t else .abandoned t

/-- Letting go takes one holder away; the last one adds the farewell. -/
theorem letGo_eq (found : w.texture? t = some x) :
    w.letGo t
      = let after := w.onTexture t fun x => { x with holders := x.holders - 1 }
        if x.holders = 1 then after.call x.context (w.farewell t x) else after := by
  simp only [letGo, found]
  rfl

/-- What letting go adds to the history: a farewell when it was the last holder. -/
theorem letGo_history (found : w.texture? t = some x) :
    (w.letGo t).history
      = w.history ++ if x.holders = 1 then [.backend x.context (w.farewell t x)] else [] := by
  rw [letGo_eq found]
  by_cases last : x.holders = 1
  · simp only [if_pos last]
    rfl
  · simp only [if_neg last, List.append_nil]
    rfl

/-- What a holder that lets go says farewell by. -/
theorem letGoOf_history (w : World) (o : Option TextureId) :
    ∃ es, (w.letGoOf o).history = w.history ++ es ∧ ∀ e, e ∈ es
      ↔ ∃ t x, o = some t ∧ w.texture? t = some x ∧ x.holders = 1
        ∧ e = .backend x.context (w.farewell t x) := by
  cases o with
  | none => exact ⟨[], (List.append_nil _).symm, by simp⟩
  | some t =>
    cases found : w.texture? t with
    | none =>
      refine ⟨[], ?_, by simp [found]⟩
      rw [List.append_nil, letGoOf, letGo, found]
      rfl
    | some x =>
      refine ⟨_, letGo_history found, fun e => ?_⟩
      by_cases last : x.holders = 1 <;> simp [found, last]

theorem letGoOf_grows (w : World) (o : Option TextureId) :
    w.history <+: (w.letGoOf o).history := by
  obtain ⟨es, grown, -⟩ := letGoOf_history w o
  exact ⟨es, grown.symm⟩

/-- All that letting go changes besides the history is the record of the texture. -/
theorem letGo_rest (w : World) (t : TextureId) :
    let after := w.onTexture t fun x => { x with holders := x.holders - 1 }
    (w.letGo t).textures = after.textures ∧ (w.letGo t).contexts = w.contexts
      ∧ (w.letGo t).imported = w.imported := by
  unfold letGo
  cases w.texture? t with
  | none => exact ⟨rfl, rfl, rfl⟩
  | some x =>
    dsimp only
    split <;> exact ⟨rfl, rfl, rfl⟩

/-- To let go of a texture is to count one holder less. -/
theorem letGo_texture? (w : World) (t u : TextureId) :
    (w.letGo t).texture? u
      = if u = t then (w.texture? t).map fun x => { x with holders := x.holders - 1 }
        else w.texture? u := by
  rw [← texture?_onTexture]
  unfold texture?
  rw [(letGo_rest w t).1]

/-- Nothing is handed back for a number that no texture has. -/
theorem releaseQueue_none (h : w.texture? t = none) : (w.releaseQueue t).1 = w := by
  have same : w.textures.modify t (fun x =>
      if x.pipeline = .vulkan then { x with queueHeld := false } else x) = w.textures := by
    unfold Table.modify
    rw [show w.textures.get? t = none from h]
  simp only [releaseQueue, h, onTexture, same]

/-- What handing a buffer back adds to the history: a call, on Vulkan, if the
buffer was kept and the context is alive. -/
theorem releaseQueue_history (found : w.texture? t = some x) :
    (w.releaseQueue t).1.history
      = w.history ++ if x.pipeline = .vulkan ∧ x.queueHeld ∧ w.alive x.context
          then [.backend x.context (.queueReleased t)] else [] := by
  simp only [releaseQueue, found]
  by_cases h : x.pipeline = .vulkan ∧ x.queueHeld ∧ w.alive x.context
  · rw [if_pos h, if_pos h]
    rfl
  · rw [if_neg h, if_neg h, List.append_nil]
    rfl

/-- All that handing a buffer back changes besides the history is the record of
the texture. -/
theorem releaseQueue_rest (w : World) (t : TextureId) :
    let after := w.onTexture t fun x =>
      if x.pipeline = .vulkan then { x with queueHeld := false } else x
    (w.releaseQueue t).1.textures = after.textures
      ∧ (w.releaseQueue t).1.contexts = w.contexts
      ∧ (w.releaseQueue t).1.imported = w.imported := by
  unfold releaseQueue
  cases w.texture? t with
  | none => exact ⟨rfl, rfl, rfl⟩
  | some x =>
    dsimp only
    split <;> exact ⟨rfl, rfl, rfl⟩

/-- A buffer goes back to the queue on Vulkan only, and once. -/
theorem releaseQueue_texture? (w : World) (t u : TextureId) :
    (w.releaseQueue t).1.texture? u
      = if u = t then (w.texture? t).map fun x =>
          if x.pipeline = .vulkan then { x with queueHeld := false } else x
        else w.texture? u := by
  rw [← texture?_onTexture]
  unfold texture?
  rw [(releaseQueue_rest w t).1]

/-- A step adds to the history at its end, and of remarks only what it may. -/
theorem Step.history (h : Step P w w') :
    ∃ es, w'.history = w.history ++ es ∧ ∀ e ∈ es, e.isRemark → P e := by
  cases h with
  | remark e remark allowed => exact ⟨[e], rfl, by simpa using fun _ => allowed⟩
  | aside | adjustBackend | share | markReleased | reacquireQueue =>
    exact ⟨[], (List.append_nil _).symm, by simp⟩
  | loseContext n alive => exact ⟨_, rfl, by simp [Entry.isRemark]⟩
  | query call query alive => exact ⟨_, rfl, by simp [Entry.isRemark]⟩
  | importTexture p b d alive works =>
    exact ⟨_, importTexture_history p b d alive works, by simp [Entry.isRemark]⟩
  | letGo held =>
    obtain ⟨x, found, -⟩ := exists_of_held held
    refine ⟨_, letGo_history found, fun e he => ?_⟩
    split at he <;> simp_all [Entry.isRemark]
  | releaseQueue t =>
    cases found : w.texture? t with
    | none => exact ⟨[], by rw [releaseQueue_none found, List.append_nil], by simp⟩
    | some x =>
      refine ⟨_, releaseQueue_history found, fun e he => ?_⟩
      split at he <;> simp_all [Entry.isRemark]

/-- The history only grows, and of remarks only by those that are allowed. -/
theorem Steps.history (h : Steps P w w') :
    ∃ es, w'.history = w.history ++ es ∧ ∀ e ∈ es, e.isRemark → P e := by
  induction h with
  | refl => exact ⟨[], (List.append_nil _).symm, by simp⟩
  | tail _ step ih =>
    obtain ⟨es, he, hes⟩ := ih
    obtain ⟨fs, hf, hfs⟩ := step.history
    refine ⟨es ++ fs, by rw [hf, he, List.append_assoc], fun e hmem => ?_⟩
    rcases List.mem_append.1 hmem with hmem | hmem
    · exact hes e hmem
    · exact hfs e hmem

/-- Settings change the backend of one context, dead or alive. -/
theorem adjustBackend_contexts (w : World) (c d : ContextId) (settings : List BackendSetting) :
    (w.adjustBackend c settings).contexts.get? d
      = if d = c then (w.contexts.get? c).map fun x =>
          { x with backend := x.backend.adjustAll settings }
        else w.contexts.get? d :=
  Table.get?_modify _ _ _ _

/-- Only the context that is lost is marked. -/
theorem loseContext_contexts (w : World) (c d : ContextId) (n : Nat) :
    (w.loseContext c n).contexts.get? d
      = if d = c then (w.contexts.get? c).map fun x => { x with alive := false }
        else w.contexts.get? d :=
  Table.get?_modify _ _ _ _

/-- A step leaves a context as it is but for its backend and, once, its life. -/
theorem Step.contexts (h : Step P w w') (c : ContextId) :
    (w'.contexts.get? c).isSome = (w.contexts.get? c).isSome ∧ (w'.alive c → w.alive c) := by
  have same : w'.contexts = w.contexts →
      (w'.contexts.get? c).isSome = (w.contexts.get? c).isSome ∧ (w'.alive c → w.alive c) :=
    fun contexts => ⟨by rw [contexts], fun alive => by rwa [← alive_congr contexts]⟩
  cases h with
  | remark | aside | query | share | markReleased | reacquireQueue => exact same rfl
  | importTexture p b d alive works => exact same (importTexture_rest p b d alive works).1
  | letGo held => exact same (letGo_rest w _).2.1
  | releaseQueue t => exact same (releaseQueue_rest w t).2.1
  | adjustBackend d settings =>
    unfold World.alive
    rw [adjustBackend_contexts]
    split
    · next hc =>
      rw [hc]
      cases w.contexts.get? d <;> exact ⟨rfl, id⟩
    · exact ⟨rfl, id⟩
  | @loseContext d n alive =>
    unfold World.alive
    rw [loseContext_contexts]
    split
    · next hc =>
      rw [hc]
      cases w.contexts.get? d with
      | none => exact ⟨rfl, id⟩
      | some x => exact ⟨rfl, fun h => by cases h⟩
    · exact ⟨rfl, id⟩

/-- Steps open no context. -/
theorem Steps.contexts (h : Steps P w w') (c : ContextId) :
    (w'.contexts.get? c).isSome = (w.contexts.get? c).isSome := by
  induction h with
  | refl => rfl
  | tail _ step ih => exact (step.contexts c).1.trans ih

/-- A context that is lost stays lost. -/
theorem Steps.alive (h : Steps P w w') (alive : w'.alive c) : w.alive c := by
  induction h with
  | refl => exact alive
  | tail _ step ih => exact ih ((step.contexts c).2 alive)

end World

end LayerFeed
