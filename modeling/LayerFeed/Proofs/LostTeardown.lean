/-
A teardown under a lost context, call by call. It lets go of the layer first and
clears the slots after that, each under a lost context. A slot that is cleared so
marks its texture, which is then never deleted. But the layer marks nothing: if it
is the last holder of the texture that it shows, because the slot of that texture
was cleared before, and the context still reports that it is alive, the texture is
deleted by a call. This is the only call besides abandons that the teardown can
make (`Reachable.lost_teardown_calls`).
-/
import LayerFeed.Proofs.Session.Run

namespace LayerFeed

namespace World

variable {w w' w'' : World} {c : ContextId} {t : TextureId} {x : Texture}

-- ==================================================== only abandons

/-- From `w` to `w'` the history gains no call to a backend but abandons. -/
def OnlyAbandons (w w' : World) : Prop :=
  ∃ es, w'.history = w.history ++ es ∧ ∀ c call, .backend c call ∈ es → ∃ t, call = .abandoned t

/-- No entry. -/
theorem OnlyAbandons.refl (w : World) : OnlyAbandons w w :=
  ⟨[], (List.append_nil _).symm, fun _ _ mem => by cases mem⟩

/-- One after the other. -/
theorem OnlyAbandons.trans (h : OnlyAbandons w w') (h' : OnlyAbandons w' w'') :
    OnlyAbandons w w'' := by
  obtain ⟨es, grown, only⟩ := h
  obtain ⟨fs, grown', only'⟩ := h'
  refine ⟨es ++ fs, by rw [grown', grown, List.append_assoc], fun c call mem => ?_⟩
  rcases List.mem_append.1 mem with mem | mem
  · exact only c call mem
  · exact only' c call mem

/-- An entry that calls no backend. -/
theorem OnlyAbandons.record (w : World) {e : Entry} (tells : ∀ c call, e ≠ .backend c call) :
    OnlyAbandons w (w.record e) := by
  refine ⟨[e], rfl, fun c call mem => ?_⟩
  exact absurd (List.mem_singleton.1 mem).symm (tells c call)

/-- A release under a lost context never deletes. -/
theorem release_contextLost (w : World) (t : TextureId) :
    OnlyAbandons w (w.release t .contextLost).1 := by
  obtain ⟨es, grown, farewells⟩ := letGoOf_history (w.markReleased t .contextLost) (some t)
  refine ⟨es, grown, fun c call mem => ?_⟩
  obtain ⟨u, x, hu, found, -, he⟩ := (farewells _).1 mem
  cases hu
  cases he
  refine ⟨t, ?_⟩
  have marked : x.condemned = true := by
    rw [markReleased, texture?_onTexture, if_pos rfl] at found
    obtain ⟨y, -, rfl⟩ := Option.map_eq_some_iff.1 found
    rfl
  rw [farewell, marked, Bool.not_true, Bool.and_false, if_neg Bool.false_ne_true]

end World

open World

/-- A slot cleared on a lost context abandons its texture at most. -/
theorem Slot.clear_contextLost (s : Slot) (w : World) :
    OnlyAbandons w (s.clear w .contextLost).world := by
  unfold clear
  cases s.texture with
  | none => exact .refl w
  | some t => exact release_contextLost w t

/-- Clearing slots under a lost context abandons, and makes no other call. -/
theorem SlotCache.clearSlots_contextLost (w : World) (slots : List Slot) :
    OnlyAbandons w (clearSlots w .contextLost slots).1 := by
  induction slots generalizing w with
  | nil => exact .refl w
  | cons slot slots ih => exact (slot.clear_contextLost w).trans (ih _)

namespace Updater

variable {u : Updater} {w : World}

/-- The layer of an updater that was not torn down is the last holder of a texture
that its context, which is alive, can still delete. -/
def ShowsLast (u : Updater) (w : World) (c : ContextId) (t : TextureId) : Prop :=
  u.shownImage = some t ∧ ∃ x, w.texture? t = some x ∧ x.holders = 1 ∧ x.context = c
    ∧ w.alive c ∧ x.released ≠ some .contextLost

/-- The calls when the layer lets go: a delete where it is the last holder, or an
abandon. -/
theorem letGo_layer_history (u : Updater) (w : World) :
    ∃ es, (w.letGoOf u.shownImage).history = w.history ++ es
      ∧ (∀ c call, .backend c call ∈ es →
        (∃ t, call = .abandoned t) ∨ ∃ t, call = .deleted t ∧ u.ShowsLast w c t)
      ∧ ∀ c t, u.ShowsLast w c t → .backend c (.deleted t) ∈ es := by
  obtain ⟨es, grown, farewells⟩ := letGoOf_history w u.shownImage
  refine ⟨es, grown, ?_, ?_⟩
  · intro c call mem
    obtain ⟨t, x, shown, found, last, he⟩ := (farewells _).1 mem
    cases he
    by_cases deleted : w.farewell t x = .deleted t
    · have rightly := farewell_eq_deleted.1 deleted
      exact .inr ⟨t, deleted, shown, x, found, last, rfl, rightly.1, rightly.2⟩
    · refine .inl ⟨t, ?_⟩
      unfold farewell at deleted ⊢
      split
      · next alive => rw [if_pos alive] at deleted; exact absurd rfl deleted
      · rfl
  · rintro c t ⟨shown, x, found, last, rfl, alive, notLost⟩
    rw [farewells]
    refine ⟨t, x, shown, found, last, ?_⟩
    rw [farewell_eq_deleted.2 ⟨alive, notLost⟩]

theorem releaseOwnership_texture? (u : Updater) (w : World) (t : TextureId) :
    (u.releaseOwnership w).texture? t = w.texture? t := by
  unfold releaseOwnership
  split <;> rfl

theorem releaseOwnership_alive (u : Updater) (w : World) (c : ContextId) :
    (u.releaseOwnership w).alive c = w.alive c := by
  unfold releaseOwnership
  split <;> rfl

theorem releaseOwnership_onlyAbandons (u : Updater) (w : World) :
    OnlyAbandons w (u.releaseOwnership w) := by
  unfold releaseOwnership
  split
  · exact .record w fun c call he => by cases he
  · exact .refl w

/-- What follows the layer in a teardown under a lost context only abandons. -/
theorem teardown_after_layer (live : ¬ u.destroyed) :
    OnlyAbandons ((u.releaseOwnership w).letGoOf u.shownImage) (u.teardown w .contextLost).1 := by
  have told : ∀ w d e, OnlyAbandons w ((w.note d).trace u.id u.sink e) := by
    intro w d e
    have noted : OnlyAbandons w (w.note d) := .record w fun c call he => by cases he
    exact noted.trans (.record (w.note d) fun c call he => by cases he)
  unfold teardown
  rw [if_neg live]
  exact (SlotCache.clearSlots_contextLost _ u.cache.slots.values).trans (told _ _ _)

/-- The calls of a teardown under a lost context. -/
theorem teardown_contextLost_calls (live : ¬ u.destroyed) :
    ∃ es, (u.teardown w .contextLost).1.history = w.history ++ es
      ∧ (∀ c call, .backend c call ∈ es →
        (∃ t, call = .abandoned t) ∨ ∃ t, call = .deleted t ∧ u.ShowsLast w c t)
      ∧ ∀ c t, u.ShowsLast w c t → .backend c (.deleted t) ∈ es := by
  have same : ∀ c t, u.ShowsLast (u.releaseOwnership w) c t ↔ u.ShowsLast w c t := by
    intro c t
    unfold ShowsLast
    rw [releaseOwnership_texture?, releaseOwnership_alive]
  obtain ⟨es₁, grown₁, only₁⟩ := u.releaseOwnership_onlyAbandons w
  obtain ⟨es₂, grown₂, forth, back⟩ := u.letGo_layer_history (u.releaseOwnership w)
  obtain ⟨es₃, grown₃, only₃⟩ := teardown_after_layer (w := w) live
  refine ⟨es₁ ++ es₂ ++ es₃, ?_, ?_, ?_⟩
  · rw [grown₃, grown₂, grown₁, List.append_assoc, List.append_assoc, List.append_assoc]
  · intro c call mem
    rcases List.mem_append.1 mem with mem | mem
    · rcases List.mem_append.1 mem with mem | mem
      · exact .inl (only₁ c call mem)
      · rcases forth c call mem with abandons | ⟨t, deleted, last⟩
        · exact .inl abandons
        · exact .inr ⟨t, deleted, (same c t).1 last⟩
    · exact .inl (only₃ c call mem)
  · intro c t last
    have deleted := back c t ((same c t).2 last)
    exact List.mem_append_left _ (List.mem_append_right _ deleted)

end Updater

namespace Session

variable {s : Session} {id : UpdaterId} {u : Updater} {c : ContextId} {t : TextureId}

/-- The layer of an updater that was not torn down is the only holder of a texture
that can still be deleted. -/
structure LayerIsLast (s : Session) (u : Updater) (c : ContextId) (t : TextureId) : Prop where
  live : ¬ u.destroyed
  shown : u.shownImage = some t
  last : s.owners.count t = 1
  alive : s.world.alive c
  texture : ∃ x, s.world.texture? t = some x ∧ x.context = c ∧ x.released ≠ some .contextLost

/-- In a sound session the holders that a texture counts are those that it has. -/
theorem Sound.layerIsLast_iff (sound : s.Sound) (live : ¬ u.destroyed) :
    s.LayerIsLast u c t ↔ u.ShowsLast s.world c t := by
  constructor
  · rintro ⟨-, shown, last, alive, x, found, home, notLost⟩
    refine ⟨shown, x, found, ?_, home, alive, notLost⟩
    rw [← last, ← sound.owned.held, holders_eq found]
  · rintro ⟨shown, x, found, last, home, alive, notLost⟩
    refine ⟨live, shown, ?_, alive, x, found, home, notLost⟩
    rw [← sound.owned.held, holders_eq found, last]

/-- The calls of a teardown under a lost context: abandons, and a delete exactly where
the layer is the last holder of what it shows. So the context of the updater hears
nothing but abandons exactly if its layer is not the last holder of one of its own
textures, or the context does not report alive. -/
theorem Reachable.lost_teardown_calls (h : s.Reachable) (found : s.updaterOf? id = some u) :
    ∃ es, (s.onUpdater id fun u w => u.teardown w .contextLost).world.history
        = s.world.history ++ es
      ∧ (∀ c call, .backend c call ∈ es →
        (∃ t, call = .abandoned t) ∨ ∃ t, call = .deleted t ∧ s.LayerIsLast u c t)
      ∧ (∀ c t, s.LayerIsLast u c t → .backend c (.deleted t) ∈ es)
      ∧ ((∀ call, .backend u.context call ∈ es → ∃ t, call = .abandoned t)
        ↔ ¬ ∃ t, s.LayerIsLast u u.context t) := by
  obtain ⟨v, entered, rfl⟩ := Option.map_eq_some_iff.1 found
  have run : (s.onUpdater id fun u w => u.teardown w .contextLost).world
      = (v.value.teardown s.world .contextLost).1 := by
    simp only [onUpdater, entered]
  rw [run]
  -- the last part follows from the two before it
  suffices calls : ∃ es, (v.value.teardown s.world .contextLost).1.history
        = s.world.history ++ es
      ∧ (∀ c call, .backend c call ∈ es →
        (∃ t, call = .abandoned t) ∨ ∃ t, call = .deleted t ∧ s.LayerIsLast v.value c t)
      ∧ (∀ c t, s.LayerIsLast v.value c t → .backend c (.deleted t) ∈ es) by
    obtain ⟨es, grown, forth, back⟩ := calls
    refine ⟨es, grown, forth, back, ?_, ?_⟩
    · rintro only ⟨t, last⟩
      obtain ⟨t', he⟩ := only _ (back _ t last)
      cases he
    · intro none call mem
      rcases forth _ call mem with abandons | ⟨t, -, last⟩
      · exact abandons
      · exact absurd ⟨t, last⟩ none
  by_cases gone : v.value.destroyed
  · refine ⟨[], ?_, fun c call mem => (by cases mem), fun c t last => absurd gone last.live⟩
    rw [Updater.teardown, if_pos gone, List.append_nil]
  · have calls := Updater.teardown_contextLost_calls (w := s.world) gone
    simp only [← h.sound.layerIsLast_iff gone] at calls
    exact calls

/-- A frame is latched and its source taken off again, which clears the frame's slot:
the layer is now the last holder of the texture. -/
def layerOutlivesSlot : List Command :=
  [.newUpdater "u" {} (.registered "s") .unchanged,
    .attach "u" "q" { frames := [.ofBuffer ⟨0⟩ ⟨⟨1⟩, ⟨64, 32, 1⟩, none⟩ .srgb] } none,
    .apply "u", .detach "u"]

/-- A teardown under a lost context that deletes, on a context that is alive. -/
theorem layerOutlivesSlot_deletes :
    let s := (start false {}).run layerOutlivesSlot
    ∃ u es, s.updaterOf? 1 = some u ∧ u.context = 0 ∧ s.LayerIsLast u 0 1
      ∧ (s.onUpdater 1 fun u w => u.teardown w .contextLost).world.history
        = s.world.history ++ es
      ∧ .backend 0 (.deleted 1) ∈ es := by
  intro s
  have there : (s.updaterOf? 1).isSome := by decide
  obtain ⟨u, found⟩ := Option.isSome_iff_exists.1 there
  have same : ∀ {α : Type} (f : Updater → α) (a : α),
      (s.updaterOf? 1).map f = some a → f u = a := by
    intro α f a h
    rw [found] at h
    exact Option.some.inj h
  have last : s.LayerIsLast u 0 1 :=
    { live := by
        rw [same Updater.destroyed false (by decide)]
        decide
      shown := same Updater.shownImage (some 1) (by decide)
      last := by decide
      alive := by decide
      texture := ⟨_, rfl, by decide, by decide⟩ }
  obtain ⟨es, grown, -, back, -⟩ :=
    Reachable.lost_teardown_calls (reachable_run false {} layerOutlivesSlot) found
  exact ⟨u, es, found, same Updater.context 0 (by decide), last, grown, back 0 1 last⟩

end Session

end LayerFeed
