/-
Operations as passes of textures. A pass is one step of a world together with what
it does to a footprint: the holders that the operation was given to deal with. All
other holders are the frame of the pass, which it cannot see (`Passes.frame`).

# Manners

A slot gives its handle up in order: in normal mode after its buffer was handed back
to the producer's queue, under a lost context so that the texture is never deleted.
A caller may also drop a handle, release it with its buffer still kept, or find a
buffer again without an updater's history telling of it. The `Manner` of an operation
says which of these it may do, so that what is known of `gentle` or `harsh` operations
does not depend on what callers do with handles of their own.

# Two laws

Passes keep the balance of holders (`Passes.transfer`). And an operation deals only
with the handles of its footprint: a texture whose handle is not among them keeps its
record but for the count of its holders (`Passes.spares`).
-/
import LayerFeed.Proofs.World.Owners

namespace LayerFeed

open Owners

/-- The texture whose buffer an updater was given again. -/
def Entry.redelivered? : Entry → Option TextureId
  | .latched _ _ (.cached t) => some t
  | _ => none

/-- How an operation may deal with handles. -/
inductive Manner
  /-- A handle is only given up in normal mode, after its buffer was handed back. -/
  | gentle
  /-- A handle may be given up under a lost context as well. -/
  | harsh
  /-- A handle may be dealt with in any way. -/
  | loose
deriving DecidableEq

namespace World

/-- Gives up a handle in the way in which a slot does that is cleared. -/
def giveUp (w : World) (t : TextureId) (mode : TeardownMode) : World :=
  ((if mode = .normal then (w.releaseQueue t).1 else w).release t mode).1

-- ==================================================== the passes

/-- One step of a world, and what it does to a footprint. -/
inductive Pass (P : Entry → Prop) (m : Manner) : World × Owners → World × Owners → Prop
  | remark {w : World} {f : Owners} (e : Entry) (remark : e.isRemark)
      (plain : e.redelivered? = none) (allowed : P e) : Pass P m (w, f) (w.record e, f)
  | aside {w : World} {f : Owners} (nativeFences syncFences : Nat) (traces : Traces) :
      Pass P m (w, f) ({ w with nativeFences, syncFences, traces }, f)
  | adjustBackend {w : World} {f : Owners} (c : ContextId) (settings : List BackendSetting) :
      Pass P m (w, f) (w.adjustBackend c settings, f)
  | loseContext {w : World} {f : Owners} {c : ContextId} (observers : Nat) (alive : w.alive c) :
      Pass P m (w, f) (w.loseContext c observers, f)
  | query {w : World} {f : Owners} {c : ContextId} (call : BackendCall) (query : call.isQuery)
      (alive : w.alive c) : Pass P m (w, f) (w.call c call, f)
  | importTexture {w : World} {f : Owners} {c : ContextId} (p : Pipeline)
      (buffer : HardwareBuffer) (dataspace : Dataspace) (alive : w.alive c)
      (works : (w.backend c).importError = none) :
      Pass P m (w, f)
        ((w.importTexture c p buffer dataspace).1, one .handle (w.imported + 1) + f)
  /-- The texture may be held in the footprint or in the frame. -/
  | share {w : World} {f : Owners} {t : TextureId} (held : 0 < f.count t ∨ 0 < w.holders t) :
      Pass P m (w, f) (w.share t, one .image t + f)
  | letGo {w : World} {f : Owners} {t : TextureId} : Pass P m (w, one .image t + f) (w.letGo t, f)
  | handBack {w : World} {f : Owners} {t : TextureId} :
      Pass P m (w, one .handle t + f) ((w.releaseQueue t).1, one .handle t + f)
  | giveUp {w : World} {f : Owners} {t : TextureId} (mode : TeardownMode)
      (allowed : mode = .normal ∨ m ≠ .gentle) :
      Pass P m (w, one .handle t + f) (w.giveUp t mode, f)
  /-- An updater is given the buffer of a texture again, and makes an image of it. -/
  | redeliver {w : World} {f : Owners} {t : TextureId} (u : UpdaterId) (frame : Frame)
      (allowed : P (.latched u frame (.cached t))) :
      Pass P m (w, one .handle t + f)
        (((w.reacquireQueue t).share t).record (.latched u frame (.cached t)),
          one .image t + (one .handle t + f))
  | reacquire {w : World} {f : Owners} {t : TextureId} (loose : m = .loose) :
      Pass P m (w, one .handle t + f) (w.reacquireQueue t, one .handle t + f)
  | release {w : World} {f : Owners} {t : TextureId} (mode : TeardownMode) (loose : m = .loose) :
      Pass P m (w, one .handle t + f) ((w.release t mode).1, f)
  | discard {w : World} {f : Owners} {t : TextureId} (loose : m = .loose) :
      Pass P m (w, one .handle t + f) (w.letGo t, f)

/-- A sequence of passes that turns the footprint `f` into `f'`. -/
def Passes (P : Entry → Prop) (m : Manner) (w : World) (f : Owners) (w' : World)
    (f' : Owners) : Prop :=
  Relation.ReflTransGen (Pass P m) (w, f) (w', f')

variable {P Q : Entry → Prop} {m : Manner} {w w' w'' : World} {f f' f'' r : Owners}
  {c : ContextId} {t : TextureId} {x y : World × Owners}

/-- What every pass keeps, a sequence of passes keeps. -/
theorem Passes.keeps {I : World → Owners → Prop} (h : Passes P m w f w' f')
    (step : ∀ x y, Pass P m x y → I x.1 x.2 → I y.1 y.2) (start : I w f) : I w' f' := by
  have all : ∀ y, Relation.ReflTransGen (Pass P m) (w, f) y → I y.1 y.2 := by
    intro y passes
    induction passes with
    | refl => exact start
    | tail _ last ih => exact step _ _ last ih
  exact all (w', f') h

-- ==================================================== the frame

/-- A pass does not see the holders beside its footprint. -/
theorem Pass.frame (h : Pass P m x y) (r : Owners) :
    Pass P m (x.1, x.2 + r) (y.1, y.2 + r) := by
  cases h with
  | remark e remark plain allowed => exact .remark e remark plain allowed
  | aside n s tr => exact .aside n s tr
  | adjustBackend c settings => exact .adjustBackend c settings
  | loseContext n alive => exact .loseContext n alive
  | query call query alive => exact .query call query alive
  | importTexture p b d alive works =>
    rw [add_assoc]
    exact .importTexture p b d alive works
  | share held =>
    rw [add_assoc]
    refine .share (held.imp_left fun pos => ?_)
    rw [count_add]
    exact Nat.add_pos_left pos _
  | letGo =>
    rw [add_assoc]
    exact .letGo
  | handBack =>
    rw [add_assoc]
    exact .handBack
  | giveUp mode allowed =>
    rw [add_assoc]
    exact .giveUp mode allowed
  | redeliver u frame allowed =>
    rw [add_assoc, add_assoc, add_assoc]
    exact .redeliver u frame allowed
  | reacquire loose =>
    rw [add_assoc]
    exact .reacquire loose
  | release mode loose =>
    rw [add_assoc]
    exact .release mode loose
  | discard loose =>
    rw [add_assoc]
    exact .discard loose

/-- What is allowed to be written by less is allowed by more. -/
theorem Pass.mono (hPQ : ∀ e, P e → Q e) (h : Pass P m x y) : Pass Q m x y := by
  cases h with
  | remark e remark plain allowed => exact .remark e remark plain (hPQ e allowed)
  | aside n s tr => exact .aside n s tr
  | adjustBackend c settings => exact .adjustBackend c settings
  | loseContext n alive => exact .loseContext n alive
  | query call query alive => exact .query call query alive
  | importTexture p b d alive works => exact .importTexture p b d alive works
  | share held => exact .share held
  | letGo => exact .letGo
  | handBack => exact .handBack
  | giveUp mode allowed => exact .giveUp mode allowed
  | redeliver u frame allowed => exact .redeliver u frame (hPQ _ allowed)
  | reacquire loose => exact .reacquire loose
  | release mode loose => exact .release mode loose
  | discard loose => exact .discard loose

namespace Passes

/-- Owners that have no part in it may stand by. -/
theorem frame (h : Passes P m w f w' f') (r : Owners) : Passes P m w (f + r) w' (f' + r) :=
  Relation.ReflTransGen.lift (fun x : World × Owners => (x.1, x.2 + r))
    (fun _ _ pass => Pass.frame pass r) _ _ h

theorem mono (hPQ : ∀ e, P e → Q e) (h : Passes P m w f w' f') : Passes Q m w f w' f' :=
  Relation.ReflTransGen.mono (fun _ _ pass => Pass.mono hPQ pass) _ _ h

theorem refl (P : Entry → Prop) (m : Manner) (w : World) (f : Owners) : Passes P m w f w f :=
  Relation.ReflTransGen.refl

/-- One passage follows another. -/
theorem trans (h : Passes P m w f w' f') (h' : Passes P m w' f' w'' f'') :
    Passes P m w f w'' f'' :=
  Relation.ReflTransGen.trans h h'

/-- The same passes with their footprints written in another way. -/
theorem of_eq {g g' : Owners} (h : Passes P m w f w' f') (hg : g = f) (hg' : g' = f') :
    Passes P m w g w' g' := by
  rw [hg, hg']
  exact h

-- ==================================================== single passes

theorem remark (e : Entry) (remark : e.isRemark) (plain : e.redelivered? = none)
    (allowed : P e) : Passes P m w f (w.record e) f :=
  .single (.remark e remark plain allowed)

theorem query (call : BackendCall) (query : call.isQuery) (alive : w.alive c) :
    Passes P m w f (w.call c call) f :=
  .single (.query call query alive)

theorem aside (n s : Nat) (tr : Traces) :
    Passes P m w f { w with nativeFences := n, syncFences := s, traces := tr } f :=
  .single (.aside n s tr)

/-- An event is put down and handed to its sink. -/
theorem trace (u : UpdaterId) (sink : Sink) (e : Event) (allowed : P (.event u sink e)) :
    Passes P m w f (w.trace u sink e) f :=
  (remark _ rfl rfl allowed).trans (aside _ _ _)

/-- A copy of an image is one more owner. -/
theorem share {k : Holder} :
    Passes P m w (one k t + f) (w.share t) (one .image t + (one k t + f)) :=
  .single (.share (.inl (le_count_one_add k t f)))

/-- An image goes away. -/
theorem letGo : Passes P m w (one .image t + f) (w.letGo t) f := .single .letGo

/-- An image that may be there goes away. -/
theorem letGoOf (o : Option TextureId) : Passes P m w (oneOf .image o + f) (w.letGoOf o) f := by
  cases o with
  | none => exact (refl P m w f).of_eq (zero_add f) rfl
  | some t => exact letGo

/-- A handle hands its buffer back, and stays. -/
theorem handBack : Passes P m w (one .handle t + f) (w.releaseQueue t).1 (one .handle t + f) :=
  .single .handBack

/-- An import makes the handle that it answers, or changes nothing that anyone holds. -/
theorem importing {p : Pipeline} {b : HardwareBuffer} {d : Dataspace} :
    Passes P m w f (w.importTexture c p b d).1
      (oneOf .handle (w.importTexture c p b d).2.toOption + f) := by
  by_cases alive : w.alive c
  · cases works : (w.backend c).importError with
    | some e =>
      have failed : w.importTexture c p b d = (w.call c (.importFailed b.id), .error e) := by
        simp only [World.importTexture, if_pos alive, works]
      rw [failed]
      exact (query _ rfl alive).of_eq rfl (zero_add f)
    | none =>
      rw [importTexture_answer p b d alive works]
      exact .single (.importTexture p b d alive works)
  · have refused : w.importTexture c p b d = (w, .error .contextLost) := by
      simp only [World.importTexture, if_neg alive]
    rw [refused]
    exact (refl P m w f).of_eq rfl (zero_add f)

end Passes

-- ==================================================== the balance of holders

/-- A handle that is given up hands its buffer back first, if it has to, and is released. -/
theorem Transfer.giveUp (mode : TeardownMode) :
    Transfer P w (one .handle t + f) (w.giveUp t mode) f := by
  refine Transfer.trans ?_ (.release mode)
  split
  · exact .releaseQueue
  · exact .refl P w _

/-- A pass is steps of the world, and its footprint tells who holds what. -/
theorem Pass.transfer (h : Pass P m x y) : Transfer P x.1 x.2 y.1 y.2 := by
  cases h with
  | remark e remark plain allowed => exact .remark e remark allowed
  | aside n s tr => exact .aside n s tr
  | adjustBackend c settings => exact .of_step (.adjustBackend c settings) rfl rfl
  | loseContext n alive => exact .of_step (.loseContext n alive) rfl rfl
  | query call query alive => exact .query call query alive
  | importTexture p b d alive works => exact .importTexture alive works
  | share held =>
    intro owned
    refine Transfer.share_of_held ?_ owned
    rcases held with pos | pos
    · exact pos
    · rwa [owned.held] at pos
  | letGo => exact .letGo
  | handBack => exact .releaseQueue
  | giveUp mode allowed => exact .giveUp mode
  | redeliver u frame allowed =>
    exact Transfer.reacquireQueue.trans (Transfer.share.trans (.remark _ rfl allowed))
  | reacquire loose => exact .reacquireQueue
  | release mode loose => exact .release mode
  | discard loose => exact .letGo

/-- Whatever passes is a transfer of owners, whichever way it goes. -/
theorem Passes.transfer (h : Passes P m w f w' f') : Transfer P w f w' f' := by
  intro owned
  refine h.keeps (I := fun v g => Steps P w v ∧ v.Owned g) ?_ ⟨.refl, owned⟩
  rintro x y pass ⟨steps, owned⟩
  obtain ⟨more, owned'⟩ := pass.transfer owned
  exact ⟨steps.trans more, owned'⟩

-- ==================================================== what is spared

/-- A texture keeps its record but for the count of its holders. -/
def Spares (t : TextureId) (w w' : World) : Prop :=
  ∀ x, w.texture? t = some x → ∃ n, w'.texture? t = some { x with holders := n }

theorem Spares.refl (t : TextureId) (w : World) : Spares t w w := fun x found => ⟨x.holders, found⟩

/-- What is spared twice is spared. -/
theorem Spares.trans (h : Spares t w w') (h' : Spares t w' w'') : Spares t w w'' := by
  intro x found
  obtain ⟨n, found'⟩ := h x found
  obtain ⟨k, found''⟩ := h' _ found'
  exact ⟨k, found''⟩

/-- Whoever changes no texture spares all. -/
theorem Spares.of_textures (same : w'.textures = w.textures) : Spares t w w' := by
  intro x found
  refine ⟨x.holders, ?_⟩
  unfold texture? at found ⊢
  rw [same, found]

/-- A change to the record of another texture. -/
theorem Spares.of_ne {u : TextureId} {g : Texture → Texture} (ne : t ≠ u)
    (textures : ∀ v, w'.texture? v
      = if v = u then (w.texture? u).map g else w.texture? v) : Spares t w w' := by
  intro x found
  refine ⟨x.holders, ?_⟩
  rw [textures, if_neg ne, found]

/-- A change to the count of holders alone. -/
theorem Spares.of_count {u : TextureId} {g : Nat → Nat}
    (textures : ∀ v, w'.texture? v
      = if v = u then (w.texture? u).map fun x => { x with holders := g x.holders }
        else w.texture? v) : Spares t w w' := by
  intro x found
  by_cases ht : t = u
  · subst ht
    refine ⟨g x.holders, ?_⟩
    rw [textures, if_pos rfl, found]
    rfl
  · exact Spares.of_ne ht textures x found

/-- To let go of a texture changes holders only. -/
theorem Spares.letGo (t u : TextureId) (w : World) : Spares t w (w.letGo u) :=
  .of_count (g := (· - 1)) (letGo_texture? w u)

theorem Spares.letGoOf (t : TextureId) (o : Option TextureId) (w : World) :
    Spares t w (w.letGoOf o) := by
  cases o with
  | none => exact .refl t w
  | some u => exact .letGo t u w

/-- So does it to share one. -/
theorem Spares.share (t u : TextureId) (w : World) : Spares t w (w.share u) :=
  .of_count (g := (· + 1)) (texture?_onTexture w u · _)

/-- A release marks the texture that it releases, and no other. -/
theorem Spares.release {u : TextureId} (ne : t ≠ u) (mode : TeardownMode) :
    Spares t w (w.release u mode).1 :=
  Spares.trans (.of_ne ne (texture?_onTexture w u · fun x => { x with released := some mode }))
    (.letGo t u _)

/-- Whoever is in a footprint without a handle of `t` deals with another texture. -/
theorem ne_of_handle_zero {u : TextureId} (none : (one .handle u + f) .handle t = 0) :
    t ≠ u ∧ f .handle t = 0 := by
  rw [Pi.add_apply, Pi.add_apply, one_handle_apply] at none
  split at none
  · omega
  · next ne => exact ⟨ne, by omega⟩

/-- A pass spares every known texture whose handle is not in its footprint, and takes
no such handle in. -/
theorem Pass.spares (h : Pass P m x y) (owned : x.1.Owned (x.2 + r)) (none : x.2 .handle t = 0)
    (known : (x.1.texture? t).isSome) : Spares t x.1 y.1 ∧ y.2 .handle t = 0 := by
  cases h with
  | remark | aside | adjustBackend | loseContext | query => exact ⟨.of_textures rfl, none⟩
  | @importTexture w f c p b d alive works =>
    -- the new texture has a number that no texture had
    have new : t ≠ w.imported + 1 := by
      rintro rfl
      have counted := (owned.numbered _).1 known
      exact absurd counted.2 (Nat.not_succ_le_self _)
    refine ⟨fun z found => ⟨z.holders, ?_⟩, ?_⟩
    · show (w.importTexture c p b d).1.texture? t = _
      rw [importTexture_texture? p b d alive works, if_neg new, found]
    · show (one .handle (w.imported + 1) + f) .handle t = 0
      rw [Pi.add_apply, Pi.add_apply, one_handle_apply, if_neg new]
      exact (Nat.zero_add _).trans none
  | @share w f u held =>
    refine ⟨.share t u w, ?_⟩
    show (one .image u + f) .handle t = 0
    rw [Pi.add_apply, Pi.add_apply, one_image_handle]
    exact (Nat.zero_add _).trans none
  | @letGo w f u =>
    refine ⟨.letGo t u w, ?_⟩
    have same : (one .image u + f) .handle t = f .handle t := by
      rw [Pi.add_apply, Pi.add_apply, one_image_handle, Nat.zero_add]
    exact same.symm.trans none
  | @handBack w f u =>
    obtain ⟨ne, -⟩ := ne_of_handle_zero none
    exact ⟨.of_ne ne (releaseQueue_texture? w u), none⟩
  | @giveUp w f u mode allowed =>
    obtain ⟨ne, rest⟩ := ne_of_handle_zero none
    refine ⟨Spares.trans ?_ (.release ne mode), rest⟩
    split
    · exact .of_ne ne (releaseQueue_texture? w u)
    · exact .refl t w
  | @redeliver w f u id frame allowed =>
    obtain ⟨ne, -⟩ := ne_of_handle_zero none
    refine ⟨Spares.trans (.of_ne ne (texture?_onTexture w u · _)) (Spares.trans (.share t u _)
      (.of_textures rfl)), ?_⟩
    show (one .image u + (one .handle u + f)) .handle t = 0
    rw [Pi.add_apply, Pi.add_apply, one_image_handle]
    exact (Nat.zero_add _).trans none
  | @reacquire w f u loose =>
    obtain ⟨ne, -⟩ := ne_of_handle_zero none
    exact ⟨.of_ne ne (texture?_onTexture w u · _), none⟩
  | release mode loose =>
    obtain ⟨ne, rest⟩ := ne_of_handle_zero none
    exact ⟨.release ne mode, rest⟩
  | @discard w f u loose =>
    obtain ⟨-, rest⟩ := ne_of_handle_zero none
    exact ⟨.letGo t u w, rest⟩

/-- What is spared is there still. -/
theorem Spares.isSome (h : Spares t w w') (known : (w.texture? t).isSome) :
    (w'.texture? t).isSome := by
  obtain ⟨x, found⟩ := Option.isSome_iff_exists.1 known
  obtain ⟨n, found'⟩ := h x found
  rw [found']
  rfl

/-- A texture without a handle among those that pass is spared. -/
theorem Passes.spares (h : Passes P m w f w' f') (owned : w.Owned (f + r))
    (none : f .handle t = 0) (known : (w.texture? t).isSome) :
    Spares t w w' ∧ f' .handle t = 0 := by
  have all := h.keeps (I := fun v g => v.Owned (g + r) ∧ Spares t w v ∧ g .handle t = 0) ?_
    ⟨owned, .refl t w, none⟩
  · exact all.2
  · rintro x y pass ⟨owned, spared, none⟩
    obtain ⟨spared', none'⟩ := pass.spares owned none (spared.isSome known)
    exact ⟨((pass.frame r).transfer owned).2, spared.trans spared', none'⟩

end World

end LayerFeed
