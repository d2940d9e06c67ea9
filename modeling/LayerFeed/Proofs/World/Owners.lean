/-
Who holds a texture. A texture counts its holders; the holders themselves are
handles and images that stand in slots, in layers and under names. An object's
`Owners` say how many holders of each kind it is, for every texture, and a world
is `Owned` by them when every count is right.

# Passing textures on

`Transfer P w f w' f'` says what an operation does to this balance: from a world
owned as `f` says it leads, by steps, to one owned as `f'` says. The owners that
an operation does not touch stand on both sides as a frame `r`, so that the law
of an operation on one object is at once its law among all others:
`letGo` takes a holder out of the sum, `share` puts one in, a successful import
starts a texture with one handle. A texture has at most one handle because only
an import makes one, for a number that nobody held before.
-/
import LayerFeed.Proofs.World.Step
import Mathlib.Algebra.Group.Pi.Basic
import Mathlib.Tactic.Abel

namespace LayerFeed

/-- The two kinds of holder. -/
inductive Holder
  | handle
  | image
deriving DecidableEq

/-- How many holders of each kind something is, for every texture. -/
abbrev Owners := Holder → TextureId → Nat

namespace Owners

/-- One holder of one texture. -/
def one (k : Holder) (t : TextureId) : Owners := fun j u => if j = k ∧ u = t then 1 else 0

/-- A holder that may be there. -/
def oneOf (k : Holder) (t : Option TextureId) : Owners := t.elim 0 (one k)

/-- How many holders a texture has. -/
def count (f : Owners) (t : TextureId) : Nat := f .handle t + f .image t

@[simp] theorem oneOf_none (k : Holder) : oneOf k none = 0 := rfl

@[simp] theorem oneOf_some (k : Holder) (t : TextureId) : oneOf k (some t) = one k t := rfl

/-- Owners of both kinds are counted together. -/
@[simp] theorem count_add (f g : Owners) (t : TextureId) :
    (f + g).count t = f.count t + g.count t := by
  simp only [count, Pi.add_apply]
  omega

/-- One owner has one texture. -/
theorem count_one (k : Holder) (t u : TextureId) :
    (one k t).count u = if u = t then 1 else 0 := by
  cases k <;> simp [count, one]

/-- One handle is counted among handles only. -/
theorem one_handle_apply (t u : TextureId) :
    one .handle t .handle u = if u = t then 1 else 0 := by
  simp [one]

/-- An image is no handle. -/
theorem one_image_handle (t u : TextureId) : one .image t .handle u = 0 := by
  simp [one]

/-- An image beside other holders is no handle. -/
theorem image_add_handle (u t : TextureId) (f : Owners) :
    (one .image u + f) .handle t = f .handle t := by
  rw [Pi.add_apply, Pi.add_apply, one_image_handle, Nat.zero_add]

/-- A handle of another texture is none of this one. -/
theorem handle_add_handle_of_ne {t u : TextureId} (ne : t ≠ u) (f : Owners) :
    (one .handle u + f) .handle t = f .handle t := by
  rw [Pi.add_apply, Pi.add_apply, one_handle_apply, if_neg ne, Nat.zero_add]

/-- Whoever owns a texture is counted. -/
theorem le_count_one_add (k : Holder) (t : TextureId) (r : Owners) :
    0 < (one k t + r).count t := by
  rw [count_add, count_one, if_pos rfl]
  omega

/-- What is held has a holder, which can be taken apart from the rest. -/
theorem exists_one_add {f : Owners} {t : TextureId} (held : 0 < f.count t) :
    ∃ k r, f = one k t + r := by
  have take : ∀ k, 0 < f k t → ∃ r, f = one k t + r := by
    intro k pos
    refine ⟨fun j u => f j u - one k t j u, ?_⟩
    funext j u
    rw [Pi.add_apply, Pi.add_apply]
    unfold one
    split
    · next same =>
      obtain ⟨rfl, rfl⟩ := same
      omega
    · omega
  by_cases image : 0 < f .image t
  · exact ⟨.image, take .image image⟩
  · unfold count at held
    exact ⟨.handle, take .handle (by omega)⟩

end Owners

open Owners

namespace World

variable {P Q : Entry → Prop} {w w' w'' : World} {f f' f'' r : Owners} {c : ContextId}
  {t : TextureId}

/-- A world whose textures are numbered as they were imported and are held as `f`
says. -/
structure Owned (w : World) (f : Owners) : Prop where
  numbered : ∀ t : Nat, (w.texture? t).isSome ↔ 1 ≤ t ∧ t ≤ w.imported
  held : ∀ t, w.holders t = f.count t
  single : ∀ t, f .handle t ≤ 1

/-- What is owned has a holder. -/
theorem Owned.pos {k : Holder} (h : w.Owned (one k t + r)) : 0 < w.holders t := by
  rw [h.held]
  exact le_count_one_add k t r

/-- From a world owned as `f` says, by steps, to a world owned as `f'` says. -/
def Transfer (P : Entry → Prop) (w : World) (f : Owners) (w' : World) (f' : Owners) : Prop :=
  w.Owned f → Steps P w w' ∧ w'.Owned f'

namespace Transfer

theorem refl (P : Entry → Prop) (w : World) (f : Owners) : Transfer P w f w f :=
  fun h => ⟨.refl, h⟩

/-- Ownership passes on from one step to the next. -/
theorem trans (h : Transfer P w f w' f') (h' : Transfer P w' f' w'' f'') :
    Transfer P w f w'' f'' := by
  intro owned
  obtain ⟨steps, owned'⟩ := h owned
  obtain ⟨steps', owned''⟩ := h' owned'
  exact ⟨steps.trans steps', owned''⟩

/-- What is allowed to be written by less is allowed by more. -/
theorem mono (hPQ : ∀ e, P e → Q e) (h : Transfer P w f w' f') : Transfer Q w f w' f' := by
  intro owned
  obtain ⟨steps, owned'⟩ := h owned
  exact ⟨steps.mono hPQ, owned'⟩

/-- The same transfer with its owners written in another way. -/
theorem of_eq {g g' : Owners} (h : Transfer P w f w' f') (hg : g = f) (hg' : g' = f') :
    Transfer P w g w' g' := by
  rw [hg, hg']
  exact h

-- ==================================================== steps that keep owners

/-- A step that leaves the textures alone leaves their owners alone. -/
theorem of_step (step : Step P w w') (textures : w'.textures = w.textures)
    (imported : w'.imported = w.imported) : Transfer P w f w' f := by
  intro owned
  have same : ∀ t, w'.texture? t = w.texture? t := by
    intro t
    unfold texture?
    rw [textures]
  refine ⟨.single step, ?_, ?_, owned.single⟩
  · intro t
    rw [same, imported]
    exact owned.numbered t
  · intro t
    rw [holders, same]
    exact owned.held t

/-- A remark passes nothing on. -/
theorem remark (e : Entry) (remark : e.isRemark) (allowed : P e) :
    Transfer P w f (w.record e) f :=
  of_step (.remark e remark allowed) rfl rfl

/-- A question to the backend passes nothing on. -/
theorem query (call : BackendCall) (query : call.isQuery) (alive : w.alive c) :
    Transfer P w f (w.call c call) f :=
  of_step (.query call query alive) rfl rfl

/-- Fences and traces are nobody's. -/
theorem aside (n s : Nat) (tr : Traces) :
    Transfer P w f { w with nativeFences := n, syncFences := s, traces := tr } f :=
  of_step (.aside n s tr) rfl rfl

end Transfer

-- ==================================================== steps on one texture

/-- How a change to one record shows in the numbering and the counts. -/
theorem owned_of_change {g : Texture → Texture} (owned : w.Owned f)
    (textures : ∀ u, w'.texture? u
      = if u = t then (w.texture? t).map g else w.texture? u)
    (imported : w'.imported = w.imported)
    (held : ∀ x, w.texture? t = some x → (g x).holders = f'.count t)
    (others : ∀ u, u ≠ t → f'.count u = f.count u)
    (absent : w.texture? t = none → f'.count t = 0)
    (single : ∀ u, f' .handle u ≤ 1) : w'.Owned f' where
  numbered u := by
    rw [textures, imported, ← owned.numbered u]
    split
    · next hu =>
      subst hu
      simp
    · rfl
  held u := by
    unfold holders
    rw [textures]
    by_cases hu : u = t
    · subst hu
      rw [if_pos rfl]
      cases found : w.texture? u with
      | none => simpa using (absent found).symm
      | some x => simpa using held x found
    · rw [if_neg hu, others u hu]
      exact owned.held u
  single := single

/-- A texture that is owned is there, and counts its owners right. -/
theorem Owned.found (owned : w.Owned f) (pos : 0 < f.count t) :
    ∃ x, w.texture? t = some x ∧ x.holders = f.count t := by
  rw [← owned.held t] at pos
  obtain ⟨x, found, -⟩ := exists_of_held pos
  exact ⟨x, found, by rw [← holders_eq found, owned.held t]⟩

namespace Transfer

/-- A step that changes the record of a texture, but not who holds it. -/
theorem of_keep {g : Texture → Texture} (step : Step P w w')
    (textures : ∀ u, w'.texture? u
      = if u = t then (w.texture? t).map g else w.texture? u)
    (imported : w'.imported = w.imported) (keeps : ∀ x, (g x).holders = x.holders) :
    Transfer P w f w' f := by
  intro owned
  refine ⟨.single step,
    owned_of_change owned textures imported ?_ (fun _ _ => rfl) ?_ owned.single⟩
  · intro x found
    rw [keeps, ← holders_eq found, owned.held]
  · intro none
    rw [← owned.held, holders, none]
    rfl

/-- The queue is told; holders stay. -/
theorem releaseQueue : Transfer P w f (w.releaseQueue t).1 f :=
  of_keep (.releaseQueue t) (releaseQueue_texture? w t) (releaseQueue_rest w t).2.2
    (fun x => by split <;> rfl)

/-- The queue is left again; holders stay. -/
theorem reacquireQueue : Transfer P w f (w.reacquireQueue t) f :=
  of_keep (.reacquireQueue t) (texture?_onTexture w t · _) rfl
    (fun x => by split <;> rfl)

theorem markReleased {k : Holder} (mode : TeardownMode) :
    Transfer P w (one k t + r) (w.markReleased t mode) (one k t + r) := fun owned =>
  of_keep (g := fun x => { x with released := some mode }) (.markReleased mode owned.pos)
    (texture?_onTexture w t · _) rfl (fun _ => rfl) owned

/-- Who holds a texture can make an image of it. -/
theorem share {k : Holder} :
    Transfer P w (one k t + r) (w.share t) (one .image t + (one k t + r)) := by
  intro owned
  obtain ⟨x, found, count⟩ := owned.found (le_count_one_add k t r)
  -- the record of `t` counts one more, and so do the owners; no other texture changes
  have textures := fun u => texture?_onTexture w t u fun x => { x with holders := x.holders + 1 }
  refine ⟨.single (.share owned.pos), owned_of_change owned textures rfl ?_ ?_ ?_ ?_⟩
  · intro y hy
    rw [found] at hy
    cases hy
    rw [count_add (one .image t), count_one, if_pos rfl, ← count, Nat.add_comm]
  · intro u hu
    rw [count_add (one .image t), count_one, if_neg hu, Nat.zero_add]
  · intro none
    rw [found] at none
    cases none
  · intro u
    rw [Pi.add_apply, Pi.add_apply, one_image_handle, Nat.zero_add]
    exact owned.single u

theorem share_of_held (held : 0 < f.count t) :
    Transfer P w f (w.share t) (one .image t + f) := by
  obtain ⟨k, r, rfl⟩ := exists_one_add held
  exact .share

/-- Whoever lets go is an owner no more. -/
theorem letGo {k : Holder} : Transfer P w (one k t + r) (w.letGo t) r := by
  intro owned
  obtain ⟨x, found, count⟩ := owned.found (le_count_one_add k t r)
  -- the call that the last holder makes is in the history, not in the records
  obtain ⟨-, -, imported⟩ := letGo_rest w t
  refine ⟨.single (.letGo owned.pos),
    owned_of_change owned (letGo_texture? w t) imported ?_ ?_ ?_ ?_⟩
  · intro y hy
    rw [found] at hy
    cases hy
    rw [count_add, count_one, if_pos rfl] at count
    show x.holders - 1 = r.count t
    omega
  · intro u hu
    rw [count_add, count_one, if_neg hu, Nat.zero_add]
  · intro none
    rw [found] at none
    cases none
  · intro u
    have single := owned.single u
    rw [Pi.add_apply, Pi.add_apply] at single
    omega

/-- Whoever held nothing lets nothing go. -/
theorem letGoOf {k : Holder} (o : Option TextureId) :
    Transfer P w (oneOf k o + r) (w.letGoOf o) r := by
  cases o with
  | none => exact (refl P w r).of_eq (zero_add r) rfl
  | some t => exact letGo

/-- A handle that is released is an owner no more. -/
theorem release (mode : TeardownMode) :
    Transfer P w (one .handle t + r) (w.release t mode).1 r :=
  (markReleased mode).trans letGo

/-- A successful import makes a handle of a texture that nobody held. -/
theorem importTexture {p : Pipeline} {b : HardwareBuffer} {d : Dataspace}
    (alive : w.alive c) (works : (w.backend c).importError = none) :
    Transfer P w r (w.importTexture c p b d).1 (one .handle (w.imported + 1) + r) := by
  intro owned
  -- the next number has no record, so nobody can hold it before
  have new : w.texture? (w.imported + 1) = none := by
    have numbered := owned.numbered (w.imported + 1)
    rw [← Option.not_isSome_iff_eq_none, numbered]
    omega
  have unheld : r.count (w.imported + 1) = 0 := by
    rw [← owned.held, holders, new]
    rfl
  have textures := importTexture_texture? p b d alive works
  obtain ⟨-, imported⟩ := importTexture_rest p b d alive works
  refine ⟨.single (.importTexture p b d alive works), ?_, ?_, ?_⟩
  · intro u
    rw [textures, imported]
    by_cases hu : u = w.imported + 1
    · subst hu
      simp
    · rw [if_neg hu, owned.numbered u]
      omega
  · intro u
    rw [holders, textures, count_add, count_one]
    by_cases hu : u = w.imported + 1
    · subst hu
      simp [unheld, newTexture]
    · rw [if_neg hu, if_neg hu, Nat.zero_add]
      exact owned.held u
  · intro u
    have single := owned.single u
    rw [Pi.add_apply, Pi.add_apply, one_handle_apply]
    by_cases hu : u = w.imported + 1
    · subst hu
      rw [if_pos rfl]
      unfold count at unheld
      omega
    · rw [if_neg hu]
      omega

end Transfer

end World

end LayerFeed
