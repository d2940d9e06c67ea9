/-
The producer's queue, as the history tells of it. On Vulkan a buffer is withheld from
the queue by the import of its texture and by every frame that brings it again, and
it is handed back by a call. The entries of a history that say so of one texture are
its `Turn`s.

Of every world that steps lead to it is known who can have handed what back to whom
(`HandBacks`): a texture that was imported before, on Vulkan, by a call to its own
context. That hand-backs come in their turn is true only of textures whose handle is
dealt with in order.
-/
import LayerFeed.Proofs.World.Ledger

namespace LayerFeed

-- ==================================================== turns in a history

/-- What becomes of a buffer with its producer's queue. -/
inductive Turn
  | acquired
  | handedBack
deriving DecidableEq

/-- What an entry says of the buffer of a texture. -/
def Entry.turn? (t : TextureId) : Entry → Option Turn
  | .backend _ (.imported u _ _) => if u = t then some .acquired else none
  | .backend _ (.queueReleased u) => if u = t then some .handedBack else none
  | .latched _ _ (.cached u) => if u = t then some .acquired else none
  | _ => none

/-- What a history said last of the buffer of a texture. -/
def lastTurn (t : TextureId) (h : List Entry) : Option Turn :=
  (h.filterMap (Entry.turn? t)).getLast?

/-- A buffer is handed back after it was acquired, while its texture has not left its
backend, and before its texture is deleted. -/
def TakesTurns (t : TextureId) (pre : List Entry) (e : Entry) : Prop :=
  (∀ c, e = .backend c (.queueReleased t) → t ∉ freesIn pre ∧ lastTurn t pre = some .acquired)
    ∧ ∀ c, e = .backend c (.deleted t) → lastTurn t pre = some .handedBack

variable {t u : TextureId} {e : Entry} {h es : List Entry}

/-- The last turn is that of the last entry that takes one. -/
theorem lastTurn_append (t : TextureId) (h : List Entry) (e : Entry) :
    lastTurn t (h ++ [e]) = (e.turn? t).or (lastTurn t h) := by
  unfold lastTurn
  rw [List.filterMap_append, List.filterMap_cons, List.filterMap_nil]
  cases e.turn? t with
  | none => rw [List.append_nil, Option.none_or]
  | some turn => rw [List.getLast?_concat, Option.some_or]

/-- Entries that take no turn leave the last one as it was. -/
theorem lastTurn_append_of_none (none : ∀ e ∈ es, e.turn? t = none) :
    lastTurn t (h ++ es) = lastTurn t h := by
  unfold lastTurn
  rw [List.filterMap_append, List.filterMap_eq_nil_iff.2 none, List.append_nil]

/-- An entry that says nothing of a texture and does not delete it comes in turn. -/
theorem takesTurns_of_none {pre : List Entry} (none : e.turn? t = none)
    (kept : ∀ c, e ≠ .backend c (.deleted t)) : TakesTurns t pre e := by
  refine ⟨fun c he => ?_, fun c he => absurd he (kept c)⟩
  rw [he, Entry.turn?, if_pos rfl] at none
  cases none

/-- Turns alternate still after entries that take none. -/
theorem throughout_append_of_none (turns : Throughout (TakesTurns t) h)
    (none : ∀ e ∈ es, e.turn? t = none) (kept : ∀ c, .backend c (.deleted t) ∉ es) :
    Throughout (TakesTurns t) (h ++ es) := by
  refine turns.extend fun e mem pre => takesTurns_of_none (none e mem) fun c he => ?_
  exact kept c (he ▸ mem)

namespace World

variable {P : Entry → Prop} {w w' : World} {a b : Texture}

-- ==================================================== what stays of a record

/-- The record of a texture stays what it was, but for its flag, its release and the count of
its holders. -/
structure Stays (a b : Texture) : Prop where
  context : b.context = a.context
  pipeline : b.pipeline = a.pipeline
  buffer : b.buffer = a.buffer
  dataspace : b.dataspace = a.dataspace

theorem Stays.refl (a : Texture) : Stays a a := ⟨rfl, rfl, rfl, rfl⟩

/-- A texture that stays twice stays. -/
theorem Stays.trans {d : Texture} (h : Stays a b) (h' : Stays b d) : Stays a d :=
  ⟨h'.context.trans h.context, h'.pipeline.trans h.pipeline, h'.buffer.trans h.buffer,
    h'.dataspace.trans h.dataspace⟩

/-- A change to the record of one texture. -/
theorem stays_of_change {g : Texture → Texture}
    (textures : ∀ v, w'.texture? v = if v = u then (w.texture? u).map g else w.texture? v)
    (stays : ∀ a, Stays a (g a)) (found : w.texture? t = some a) :
    ∃ b, w'.texture? t = some b ∧ Stays a b := by
  rw [textures]
  by_cases ht : t = u
  · subst ht
    rw [if_pos rfl, found]
    exact ⟨_, rfl, stays a⟩
  · rw [if_neg ht]
    exact ⟨a, found, .refl a⟩

/-- No step changes what a texture was imported from. -/
theorem Step.stays (h : Step P w w') (ledger : w.Ledger) (found : w.texture? t = some a) :
    ∃ b, w'.texture? t = some b ∧ Stays a b := by
  cases h with
  | remark | aside | adjustBackend | loseContext | query => exact ⟨a, found, .refl a⟩
  | importTexture p b d alive works =>
    have known := (ledger.numbered t).1 (by rw [found]; rfl)
    have new : t ≠ w.imported + 1 := Nat.ne_of_lt (Nat.lt_succ_of_le known.2)
    rw [importTexture_texture? p b d alive works, if_neg new]
    exact ⟨a, found, .refl a⟩
  | share =>
    exact stays_of_change (texture?_onTexture w _ · _) (fun _ => ⟨rfl, rfl, rfl, rfl⟩) found
  | letGo => exact stays_of_change (letGo_texture? w _) (fun _ => ⟨rfl, rfl, rfl, rfl⟩) found
  | markReleased mode held =>
    exact stays_of_change (texture?_onTexture w _ · fun x => { x with released := some mode })
      (fun _ => ⟨rfl, rfl, rfl, rfl⟩) found
  | releaseQueue =>
    refine stays_of_change (releaseQueue_texture? w _) (fun a => ?_) found
    split <;> exact ⟨rfl, rfl, rfl, rfl⟩
  | reacquireQueue =>
    refine stays_of_change (texture?_onTexture w _ · _) (fun a => ?_) found
    split <;> exact ⟨rfl, rfl, rfl, rfl⟩

/-- No steps change what a texture was imported from. -/
theorem Steps.stays (h : Steps P w w') (ledger : w.Ledger) (found : w.texture? t = some a) :
    ∃ b, w'.texture? t = some b ∧ Stays a b := by
  induction h with
  | refl => exact ⟨a, found, .refl a⟩
  | tail before step ih =>
    obtain ⟨b, found', same⟩ := ih
    obtain ⟨d, found'', same'⟩ := step.stays (ledger.steps before) found'
    exact ⟨d, found'', same.trans same'⟩

-- ==================================================== who hands back what

/-- A texture that withholds its buffer does so on Vulkan. -/
def WithholdsOnVulkan (a : Texture) : Prop := a.queueHeld → a.pipeline = .vulkan

/-- A buffer is handed back by a call to the context of its texture, on Vulkan, after
the import. -/
def HandsBackRightly (w : World) (pre : List Entry) (e : Entry) : Prop :=
  ∀ c t, e = .backend c (.queueReleased t) →
    t ∈ importsIn pre ∧ ∃ a, w.texture? t = some a ∧ a.context = c ∧ a.pipeline = .vulkan

/-- What the history of a world and its records say of the producer's queue. -/
structure HandBacks (w : World) : Prop where
  calls : Throughout w.HandsBackRightly w.history
  withholds : ∀ t a, w.texture? t = some a → WithholdsOnVulkan a

theorem handBacks_default : (default : World).HandBacks where
  calls := throughout_nil _
  withholds t a found := by cases found

/-- A step puts down one entry at most; by a hand-back it tells of a texture that it
found, on Vulkan. -/
theorem Step.entry (h : Step P w w') : w'.history = w.history ∨ ∃ e, w'.history = w.history ++ [e]
    ∧ ∀ c t, e = .backend c (.queueReleased t) →
      ∃ a, w.texture? t = some a ∧ a.context = c ∧ a.pipeline = .vulkan := by
  have other : ∀ {e : Entry}, (∀ c t, e ≠ .backend c (.queueReleased t)) → ∀ c t,
      e = .backend c (.queueReleased t) →
        ∃ a, w.texture? t = some a ∧ a.context = c ∧ a.pipeline = .vulkan :=
    fun ne c t he => absurd he (ne c t)
  cases h with
  | aside | adjustBackend | share | markReleased | reacquireQueue => exact .inl rfl
  | remark e remark allowed =>
    refine .inr ⟨e, rfl, other fun c t he => ?_⟩
    rw [he] at remark
    cases remark
  | loseContext n alive => exact .inr ⟨_, rfl, other fun c t he => by cases he⟩
  | query call query alive =>
    refine .inr ⟨_, rfl, other fun c t he => ?_⟩
    cases he
    cases query
  | importTexture p b d alive works =>
    exact .inr ⟨_, importTexture_history p b d alive works, other fun c t he => by cases he⟩
  | @letGo t held =>
    obtain ⟨a, found, -⟩ := exists_of_held held
    have history := letGo_history found
    split at history
    · refine .inr ⟨_, history, other fun c u he => ?_⟩
      unfold farewell at he
      split at he <;> cases he
    · exact .inl (history.trans (List.append_nil _))
  | releaseQueue t =>
    cases found : w.texture? t with
    | none => exact .inl (by rw [releaseQueue_none found])
    | some a =>
      have history := releaseQueue_history found
      split at history
      · next vulkan =>
        refine .inr ⟨_, history, fun c u he => ?_⟩
        cases he
        exact ⟨a, found, rfl, vulkan.1⟩
      · exact .inl (history.trans (List.append_nil _))

/-- One texture changes in a way that keeps the rule, and the others do not change. -/
theorem withholds_of_change {g : Texture → Texture}
    (textures : ∀ v, w'.texture? v = if v = u then (w.texture? u).map g else w.texture? v)
    (keeps : ∀ a, WithholdsOnVulkan a → WithholdsOnVulkan (g a))
    (before : ∀ t a, w.texture? t = some a → WithholdsOnVulkan a) :
    ∀ t a, w'.texture? t = some a → WithholdsOnVulkan a := by
  intro t a found
  rw [textures] at found
  split at found
  · obtain ⟨b, found', rfl⟩ := Option.map_eq_some_iff.1 found
    exact keeps b (before u b found')
  · exact before t a found

/-- A texture withholds its buffer after a step only as one on Vulkan. -/
theorem Step.withholds (h : Step P w w')
    (before : ∀ t a, w.texture? t = some a → WithholdsOnVulkan a) :
    ∀ t a, w'.texture? t = some a → WithholdsOnVulkan a := by
  cases h with
  | remark | aside | adjustBackend | loseContext | query => exact before
  | importTexture p b d alive works =>
    intro t a found
    rw [importTexture_texture? p b d alive works] at found
    split at found
    · cases found
      exact of_decide_eq_true
    · exact before t a found
  | share => exact withholds_of_change (texture?_onTexture w _ · _) (fun _ keeps => keeps) before
  | letGo => exact withholds_of_change (letGo_texture? w _) (fun _ keeps => keeps) before
  | markReleased mode held =>
    exact withholds_of_change
      (texture?_onTexture w _ · fun x => { x with released := some mode })
      (fun _ keeps => keeps) before
  | releaseQueue =>
    refine withholds_of_change (releaseQueue_texture? w _) (fun a keeps => ?_) before
    split
    · next vulkan => exact fun _ => vulkan
    · exact keeps
  | reacquireQueue =>
    refine withholds_of_change (texture?_onTexture w _ · _) (fun a keeps => ?_) before
    split
    · next vulkan => exact fun _ => vulkan
    · exact keeps

/-- A step keeps the law of handing back. -/
theorem HandBacks.step (h : w.HandBacks) (ledger : w.Ledger) (step : Step P w w') :
    w'.HandBacks where
  withholds := step.withholds h.withholds
  calls := by
    -- what was handed back before was handed back for the same record
    have before : Throughout w'.HandsBackRightly w.history := by
      refine h.calls.mono fun pre e rightly c t he => ?_
      obtain ⟨imported, a, found, home, vulkan⟩ := rightly c t he
      obtain ⟨b, found', same⟩ := step.stays ledger found
      exact ⟨imported, b, found', same.context.trans home, same.pipeline.trans vulkan⟩
    rcases step.entry with same | ⟨e, grown, origin⟩
    · rw [same]
      exact before
    · rw [grown]
      refine throughout_append.2 ⟨before, fun c t he => ?_⟩
      obtain ⟨a, found, home, vulkan⟩ := origin c t he
      obtain ⟨b, found', same⟩ := step.stays ledger found
      refine ⟨ledger.mem_importsIn.2 ?_, b, found', same.context.trans home,
        same.pipeline.trans vulkan⟩
      rw [found]
      rfl

/-- So do steps. -/
theorem HandBacks.steps (h : w.HandBacks) (ledger : w.Ledger) (steps : Steps P w w') :
    w'.HandBacks := by
  induction steps with
  | refl => exact h
  | tail before step ih => exact ih.step (ledger.steps before) step

end World

end LayerFeed
