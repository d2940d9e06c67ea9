/-
Textures whose buffers are dealt with in turn. While a texture is `Guarded`, its flag
says what its last turn was, and nobody lets go of its handle before the buffer is
handed back, unless under a lost context. So a buffer is handed back only after it was
acquired, and a texture is deleted only after its buffer was handed back.

# The law

Passes keep a texture guarded if its handle is in their footprint and they are not
loose, or if it is not in their footprint at all (`Passes.guarded`). The cases are
those of a texture that a pass deals with, one lemma for each thing that can happen to
it, and those of all other textures, of which nothing is said. What passes make of a
record is put down apart from that (`Passes.continues`).
-/
import LayerFeed.Proofs.World.Passes
import LayerFeed.Proofs.World.Queue

namespace LayerFeed

open Owners

namespace World

variable {P : Entry → Prop} {m : Manner} {w w' : World} {f f' r : Owners} {c : ContextId}
  {t u : TextureId} {e : Entry} {es : List Entry} {x y : World × Owners} {a b : Texture}

-- ==================================================== guarded textures

/-- How the record `a` of a texture on Vulkan and the history tell of its buffer. -/
structure Upkeep (w : World) (t : TextureId) (f : Owners) (a : Texture) : Prop where
  turns : Throughout (TakesTurns t) w.history
  /-- A buffer that is withheld was acquired last, and its texture has its handle, or
  lost it under a lost context. -/
  withheld : a.queueHeld → lastTurn t w.history = some .acquired
    ∧ (a.condemned ∨ 0 < f .handle t)
  back : ¬ a.queueHeld → w.alive a.context → lastTurn t w.history = some .handedBack

/-- A texture with its owners `f`, whose buffer, if it is on Vulkan, was dealt with in
turn. -/
def Guarded (w : World) (t : TextureId) (f : Owners) : Prop :=
  ∀ a, w.texture? t = some a → a.pipeline = .vulkan → Upkeep w t f a

/-- Where nothing is said of a texture, and its record changes in the count of holders
alone, it stays guarded. -/
theorem Guarded.spared (guard : Guarded w t f) (es : List Entry) (known : (w.texture? t).isSome)
    (spares : Spares t w w') (alive : ∀ c, w'.alive c → w.alive c)
    (grown : w'.history = w.history ++ es) (silent : ∀ e ∈ es, e.turn? t = none)
    (kept : ∀ c, .backend c (.deleted t) ∉ es) (handle : f .handle t = f' .handle t) :
    Guarded w' t f' := by
  intro b found vulkan
  obtain ⟨a, found₀⟩ := Option.isSome_iff_exists.1 known
  obtain ⟨n, found₁⟩ := spares a found₀
  rw [found] at found₁
  cases found₁
  have upkeep := guard a found₀ vulkan
  have last : lastTurn t w'.history = lastTurn t w.history := by
    rw [grown, lastTurn_append_of_none silent]
  refine ⟨?_, ?_, ?_⟩
  · rw [grown]
    exact throughout_append_of_none upkeep.turns silent kept
  · intro withheld
    rw [last, ← handle]
    exact upkeep.withheld withheld
  · intro back living
    rw [last]
    exact upkeep.back back (alive _ living)

/-- A step that puts nothing down of a texture, or one entry that says nothing of it. -/
theorem Guarded.still (guard : Guarded w t f) (known : (w.texture? t).isSome)
    (spares : Spares t w w') (contexts : w'.contexts = w.contexts)
    (history : w'.history = w.history) (handle : f .handle t = f' .handle t) :
    Guarded w' t f' :=
  guard.spared [] known spares (fun c living => by rwa [← alive_congr contexts])
    (by rw [history, List.append_nil]) (by simp) (by simp) handle

/-- All that matters of the owners is how many handles there are. -/
theorem Guarded.congr (guard : Guarded w t f) (handle : f .handle t = f' .handle t) :
    Guarded w t f' := by
  intro a found vulkan
  have upkeep := guard a found vulkan
  refine ⟨upkeep.turns, fun withheld => ?_, upkeep.back⟩
  rw [← handle]
  exact upkeep.withheld withheld

/-- A texture that leaves in turn: its buffer was handed back, or its context is lost,
or it was condemned. -/
theorem Upkeep.farewell (upkeep : Upkeep w t f a)
    (settled : a.queueHeld → a.condemned) (c : ContextId) :
    TakesTurns t w.history (.backend c (w.farewell t a)) := by
  unfold World.farewell
  split
  · next rightly =>
    obtain ⟨living, spared⟩ := Bool.and_eq_true_iff.1 rightly
    refine ⟨fun d he => (by cases he), fun d he => upkeep.back ?_ living⟩
    intro withheld
    rw [settled withheld] at spared
    cases spared
  · exact takesTurns_of_none rfl fun d he => by cases he

/-- A holder lets go of a texture whose buffer will not be missed: it is not withheld,
or it is condemned, or the texture keeps its handle. -/
theorem Guarded.letGo {k : Holder} (owned : w.Owned (one k t + f))
    (guard : Guarded w t (one k t + f))
    (settled : ∀ a, w.texture? t = some a → a.pipeline = .vulkan → a.queueHeld →
      a.condemned ∨ 0 < f .handle t) : Guarded (w.letGo t) t f := by
  intro b found vulkan
  obtain ⟨a, found₀, count⟩ := owned.found (le_count_one_add k t f)
  rw [letGo_texture?, if_pos rfl, found₀] at found
  cases found
  have upkeep := guard a found₀ vulkan
  have settled := settled a found₀ vulkan
  have living : (w.letGo t).alive a.context = w.alive a.context :=
    alive_congr (letGo_rest w t).2.1 _
  have silent : ∀ c, (Entry.backend c (w.farewell t a)).turn? t = none := by
    intro c
    unfold farewell
    split <;> rfl
  have history := letGo_history found₀
  by_cases last : a.holders = 1
  · -- the last holder: there is no handle left
    rw [if_pos last] at history
    have none : f .handle t = 0 := by
      rw [count_add, count_one, if_pos rfl] at count
      unfold Owners.count at count
      omega
    have condemned : a.queueHeld → a.condemned := by
      intro withheld
      rcases settled withheld with condemned | handle
      · exact condemned
      · omega
    refine ⟨?_, ?_, ?_⟩
    · rw [history]
      exact throughout_append.2 ⟨upkeep.turns, upkeep.farewell condemned _⟩
    · intro withheld
      rw [history, lastTurn_append, silent, Option.none_or]
      exact ⟨(upkeep.withheld withheld).1, settled withheld⟩
    · intro back alive
      rw [history, lastTurn_append, silent, Option.none_or]
      exact upkeep.back back (by rwa [← living])
  · rw [if_neg last, List.append_nil] at history
    refine ⟨?_, ?_, ?_⟩
    · rw [history]
      exact upkeep.turns
    · intro withheld
      rw [history]
      exact ⟨(upkeep.withheld withheld).1, settled withheld⟩
    · intro back alive
      rw [history]
      exact upkeep.back back (by rwa [← living])

/-- The buffer of a texture that somebody holds goes back to the queue. -/
theorem Guarded.handBack (guard : Guarded w t f) (unfreed : t ∉ freesIn w.history) :
    Guarded (w.releaseQueue t).1 t f := by
  intro b found vulkan
  rw [releaseQueue_texture?, if_pos rfl] at found
  obtain ⟨a, found₀, rfl⟩ := Option.map_eq_some_iff.1 found
  have pipeline : a.pipeline = .vulkan := by
    split at vulkan
    · next same => exact same
    · exact vulkan
  have upkeep := guard a found₀ pipeline
  have history := releaseQueue_history found₀
  have living : (w.releaseQueue t).1.alive a.context = w.alive a.context :=
    alive_congr (releaseQueue_rest w t).2.1 _
  rw [if_pos pipeline]
  by_cases handed : a.pipeline = .vulkan ∧ a.queueHeld ∧ w.alive a.context
  · rw [if_pos handed] at history
    have acquired := (upkeep.withheld handed.2.1).1
    refine ⟨?_, fun withheld => (by cases withheld), ?_⟩
    · rw [history]
      refine throughout_append.2 ⟨upkeep.turns, fun c he => ⟨unfreed, acquired⟩, fun c he => ?_⟩
      cases he
    · intro _ _
      rw [history, lastTurn_append, Entry.turn?, if_pos rfl, Option.some_or]
  · rw [if_neg handed, List.append_nil] at history
    refine ⟨?_, fun withheld => (by cases withheld), ?_⟩
    · rw [history]
      exact upkeep.turns
    · -- no call was made on a living context, so the buffer was not withheld
      intro _ alive
      rw [history]
      rw [living] at alive
      exact upkeep.back (fun withheld => handed ⟨pipeline, withheld, alive⟩) alive

theorem Guarded.markReleased (guard : Guarded w t f) (mode : TeardownMode)
    (settled : ∀ a, w.texture? t = some a → a.pipeline = .vulkan → a.queueHeld →
      mode = .contextLost) : Guarded (w.markReleased t mode) t f := by
  intro b found vulkan
  rw [World.markReleased, texture?_onTexture, if_pos rfl] at found
  obtain ⟨a, found₀, rfl⟩ := Option.map_eq_some_iff.1 found
  have upkeep := guard a found₀ vulkan
  refine ⟨upkeep.turns, fun withheld => ?_, upkeep.back⟩
  have lost := settled a found₀ vulkan withheld
  refine ⟨(upkeep.withheld withheld).1, .inl ?_⟩
  rw [lost]
  rfl

/-- A handle is given up after its buffer was handed back, or under a lost context. -/
theorem Guarded.giveUp (owned : w.Owned (one .handle t + f)) (unfreed : t ∉ freesIn w.history)
    (guard : Guarded w t (one .handle t + f)) (mode : TeardownMode) :
    Guarded (w.giveUp t mode) t f := by
  have release : ∀ v : World, v.Owned (one .handle t + f) → Guarded v t (one .handle t + f) →
      (∀ a, v.texture? t = some a → a.pipeline = .vulkan → a.queueHeld → mode = .contextLost) →
      Guarded (v.release t mode).1 t f := by
    intro v owned guard lost
    obtain ⟨-, owned'⟩ := Transfer.markReleased (P := fun _ => True) mode owned
    refine (guard.markReleased mode lost).letGo owned' ?_
    intro b found vulkan withheld
    rw [World.markReleased, texture?_onTexture, if_pos rfl] at found
    obtain ⟨a, found₀, rfl⟩ := Option.map_eq_some_iff.1 found
    have lost := lost a found₀ vulkan withheld
    exact .inl (by rw [lost]; rfl)
  cases mode with
  | contextLost => exact release w owned guard fun _ _ _ _ => rfl
  | normal =>
    obtain ⟨-, owned'⟩ := Transfer.releaseQueue (P := fun _ => True) (t := t) owned
    refine release _ owned' (guard.handBack unfreed) ?_
    intro b found vulkan withheld
    rw [if_pos rfl, releaseQueue_texture?, if_pos rfl] at found
    obtain ⟨a, -, rfl⟩ := Option.map_eq_some_iff.1 found
    split at withheld
    · cases withheld
    · next gl =>
      rw [if_neg gl] at vulkan
      exact absurd vulkan gl

/-- An updater is given the buffer again, and says so. -/
theorem Guarded.redeliver (guard : Guarded w t f) (handle : 0 < f' .handle t) (id : UpdaterId)
    (frame : Frame) :
    Guarded (((w.reacquireQueue t).share t).record (.latched id frame (.cached t))) t f' := by
  intro b found vulkan
  have textures : (((w.reacquireQueue t).share t).record (.latched id frame (.cached t))).texture? t
      = ((w.reacquireQueue t).share t).texture? t := rfl
  rw [textures, share, texture?_onTexture, if_pos rfl, reacquireQueue, texture?_onTexture,
    if_pos rfl, Option.map_map] at found
  obtain ⟨a, found₀, rfl⟩ := Option.map_eq_some_iff.1 found
  have pipeline : a.pipeline = .vulkan := by
    dsimp only [Function.comp_apply] at vulkan
    split at vulkan
    · next same => exact same
    · exact vulkan
  have upkeep := guard a found₀ pipeline
  have grown : (((w.reacquireQueue t).share t).record (.latched id frame (.cached t))).history
      = w.history ++ [.latched id frame (.cached t)] := rfl
  have last : lastTurn t (w.history ++ [.latched id frame (.cached t)]) = some .acquired := by
    rw [lastTurn_append, Entry.turn?, if_pos rfl, Option.some_or]
  refine ⟨?_, ?_, ?_⟩
  · rw [grown]
    refine throughout_append.2 ⟨upkeep.turns, fun c he => (by cases he), fun c he => by cases he⟩
  · intro _
    rw [grown]
    exact ⟨last, .inr handle⟩
  · intro back
    dsimp only [Function.comp_apply] at back
    rw [if_pos pipeline] at back
    exact absurd rfl back

/-- A texture that is imported is guarded from then on: no entry spoke of it before. -/
theorem Guarded.imported (ledger : w.Ledger) (handBacks : w.HandBacks) {p : Pipeline}
    {b : HardwareBuffer} {d : Dataspace} (alive : w.alive c)
    (works : (w.backend c).importError = none) (handle : 0 < f .handle (w.imported + 1)) :
    Guarded (w.importTexture c p b d).1 (w.imported + 1) f := by
  intro a found vulkan
  rw [importTexture_texture? p b d alive works, if_pos rfl] at found
  cases found
  have new : w.imported + 1 ∉ importsIn w.history := by
    rw [ledger.mem_importsIn, ledger.numbered]
    rintro ⟨-, le⟩
    exact Nat.not_succ_le_self _ le
  have grown := importTexture_history p b d alive works
  have prior : ∀ {pre e post}, w.history = pre ++ e :: post → importsIn pre ⊆ importsIn w.history :=
    fun split => importsIn_subset split
  have last : lastTurn (w.imported + 1) (w.importTexture c p b d).1.history = some .acquired := by
    rw [grown, lastTurn_append, Entry.turn?, if_pos rfl, Option.some_or]
  refine ⟨?_, fun _ => ⟨last, .inr handle⟩, ?_⟩
  · rw [grown]
    refine throughout_append.2 ⟨fun pre e post split => ⟨fun e' he => ?_, fun e' he => ?_⟩,
      fun e' he => (by cases he), fun e' he => by cases he⟩
    · exact absurd (prior split (handBacks.calls pre e post split e' _ he).1) new
    · exact absurd (prior split (ledger.leaves pre e post split e' _ _ he rfl).1) new
  · intro back
    have kept : (newTexture c p b d).queueHeld = true := decide_eq_true vulkan
    exact absurd kept back

-- ==================================================== other textures

section Other

variable (guard : Guarded w t f) (known : (w.texture? t).isSome) (ne : t ≠ u)

include guard known ne

/-- What is done to another texture does not touch the guard. -/
theorem Guarded.onTexture_other (g : Texture → Texture) : Guarded (w.onTexture u g) t f :=
  guard.still known (.of_ne ne (texture?_onTexture w u · g)) rfl rfl rfl

/-- Another buffer may go back to the queue. -/
theorem Guarded.releaseQueue_other : Guarded (w.releaseQueue u).1 t f := by
  have spares : Spares t w (w.releaseQueue u).1 := .of_ne ne (releaseQueue_texture? w u)
  obtain ⟨-, contexts, -⟩ := releaseQueue_rest w u
  cases found : w.texture? u with
  | none => exact guard.still known spares contexts (by rw [releaseQueue_none found]) rfl
  | some a =>
    refine guard.spared _ known spares (fun c living => by rwa [← alive_congr contexts])
      (releaseQueue_history found) ?_ ?_ rfl
    · intro e mem
      split at mem
      · rw [List.mem_singleton.1 mem, Entry.turn?, if_neg ne.symm]
      · cases mem
    · intro c mem
      split at mem
      · cases List.mem_singleton.1 mem
      · cases mem

/-- Another texture may be let go of. -/
theorem Guarded.letGo_other : Guarded (w.letGo u) t f := by
  obtain ⟨-, contexts, -⟩ := letGo_rest w u
  cases found : w.texture? u with
  | none =>
    refine guard.still known (.letGo t u w) contexts ?_ rfl
    rw [World.letGo, found]
    rfl
  | some a =>
    refine guard.spared _ known (.letGo t u w) (fun c living => by rwa [← alive_congr contexts])
      (letGo_history found) ?_ ?_ rfl
    · intro e mem
      split at mem
      · rw [List.mem_singleton.1 mem]
        unfold World.farewell
        split <;> rfl
      · cases mem
    · intro c mem
      split at mem
      · have left := congrArg Entry.freed? (List.mem_singleton.1 mem)
        exact ne (Option.some.inj (left.trans (farewell_freed? w u a)))
      · cases mem

end Other

/-- Another handle may be given up. -/
theorem Guarded.giveUp_other (guard : Guarded w t f) (known : (w.texture? t).isSome) (ne : t ≠ u)
    (mode : TeardownMode) : Guarded (w.giveUp u mode) t f := by
  have release : ∀ v : World, Guarded v t f → (v.texture? t).isSome →
      Guarded (v.release u mode).1 t f := by
    intro v guard known
    have marked := guard.onTexture_other known ne fun x => { x with released := some mode }
    refine marked.letGo_other ?_ ne
    exact (Spares.of_ne ne (texture?_onTexture v u · _)).isSome known
  unfold World.giveUp
  split
  · exact release _ (guard.releaseQueue_other known ne)
      ((Spares.of_ne ne (releaseQueue_texture? w u)).isSome known)
  · exact release w guard known

-- ==================================================== all passes

/-- A remark that brings no buffer again says nothing of the queue. -/
theorem turn?_of_remark {e : Entry} (remark : e.isRemark) (plain : e.redelivered? = none) :
    e.turn? t = none := by
  cases e with
  | backend => cases remark
  | latched u frame resolved =>
    cases resolved with
    | cached => cases plain
    | _ => rfl
  | _ => rfl

/-- An entry that takes no turn of the texture, and does not delete it, may be written. -/
theorem Guarded.record (guard : Guarded w t f) (known : (w.texture? t).isSome) {e : Entry}
    (silent : e.turn? t = none) (kept : ∀ c, e ≠ .backend c (.deleted t)) :
    Guarded (w.record e) t f := by
  refine guard.spared [e] known (.of_textures rfl) (fun _ living => living) rfl ?_ ?_ rfl
  · intro e' mem
    rwa [List.mem_singleton.1 mem]
  · intro c mem
    exact kept c (List.mem_singleton.1 mem).symm

/-- What has an owner was not freed. -/
theorem Ledger.unfreed {k : Holder} (ledger : w.Ledger) (owned : w.Owned (one k t + f)) :
    t ∉ freesIn w.history := by
  intro freed
  have none := (ledger.mem_freesIn.1 freed).2
  have pos := owned.pos
  omega

/-- A pass keeps a texture guarded, unless it deals with its handle loosely. -/
theorem Pass.guarded (h : Pass P m x y) (owned : x.1.Owned (x.2 + r)) (ledger : x.1.Ledger)
    (known : (x.1.texture? t).isSome) (proper : m = .loose → x.2 .handle t = 0)
    (guard : Guarded x.1 t (x.2 + r)) : Guarded y.1 t (y.2 + r) := by
  have other : ∀ {u : TextureId} {g : Owners}, m = .loose → x.2 = one .handle u + g → t ≠ u := by
    intro u g loose footprint
    have none := proper loose
    rw [footprint] at none
    exact (ne_of_handle_zero none).1
  cases h with
  | remark e remark plain allowed =>
    refine guard.record known (turn?_of_remark remark plain) fun c he => ?_
    rw [he] at remark
    cases remark
  | aside => exact guard.still known (.of_textures rfl) rfl rfl rfl
  | @adjustBackend w f c settings =>
    refine guard.spared [] known (.of_textures rfl) (fun d living => ?_)
      (List.append_nil _).symm (by simp) (by simp) rfl
    exact (Step.contexts (P := P) (.adjustBackend c settings) d).2 living
  | @loseContext w f c n alive =>
    refine guard.spared [.note (.contextDestroyed c n)] known (.of_textures rfl)
      (fun d living => ?_) rfl (by simp [Entry.turn?]) (by simp) rfl
    exact (Step.contexts (P := P) (.loseContext n alive) d).2 living
  | query call query alive =>
    refine guard.record known ?_ ?_
    · cases call <;> first | rfl | cases query
    · intro d he
      cases he
      cases query
  | @importTexture w f c p b d alive works =>
    have new : t ≠ w.imported + 1 :=
      Nat.ne_of_lt (Nat.lt_succ_of_le ((ledger.numbered t).1 known).2)
    have spares : Spares t w (w.importTexture c p b d).1 := by
      intro a found
      refine ⟨a.holders, ?_⟩
      rw [importTexture_texture? p b d alive works, if_neg new, found]
    refine guard.spared _ known spares (fun e living => ?_)
      (importTexture_history p b d alive works) ?_ (by simp) ?_
    · rwa [← alive_congr (importTexture_rest p b d alive works).1]
    · intro e mem
      rw [List.mem_singleton.1 mem, Entry.turn?, if_neg new.symm]
    · show (f + r) .handle t = (one .handle (w.imported + 1) + f + r) .handle t
      rw [add_assoc, handle_add_handle_of_ne new]
  | @share w f u held =>
    refine guard.still known (.share t u w) rfl rfl ?_
    show (f + r) .handle t = (one .image u + f + r) .handle t
    rw [add_assoc, image_add_handle]
  | @letGo w f u =>
    rw [add_assoc] at owned guard
    by_cases same : t = u
    · subst same
      refine guard.letGo owned fun a found vulkan withheld => ?_
      have kept := ((guard a found vulkan).withheld withheld).2
      rwa [image_add_handle] at kept
    · exact (guard.letGo_other known same).congr (image_add_handle u t _)
  | @handBack w f u =>
    by_cases same : t = u
    · subst same
      refine guard.handBack (ledger.unfreed (k := .handle) (f := f + r) ?_)
      rwa [← add_assoc]
    · exact guard.releaseQueue_other known same
  | @giveUp w f u mode allowed =>
    rw [add_assoc] at owned guard
    by_cases same : t = u
    · subst same
      exact guard.giveUp owned (ledger.unfreed owned) mode
    · exact (guard.giveUp_other known same mode).congr (handle_add_handle_of_ne same _)
  | @redeliver w f u id frame allowed =>
    rw [add_assoc] at guard ⊢
    by_cases same : t = u
    · subst same
      refine guard.redeliver ?_ id frame
      rw [add_assoc, image_add_handle, Pi.add_apply, Pi.add_apply, one_handle_apply, if_pos rfl]
      omega
    · -- the buffer of another texture comes again
      have again := guard.onTexture_other known same fun x =>
        if x.pipeline = .vulkan then { x with queueHeld := true } else x
      have known' := (Spares.of_ne same (texture?_onTexture w u · fun x =>
        if x.pipeline = .vulkan then { x with queueHeld := true } else x)).isSome known
      have shared := Guarded.still again known' (.share t u _) rfl rfl rfl
      refine (shared.record ((Spares.share t u _).isSome known') ?_ fun c he => ?_).congr ?_
      · rw [Entry.turn?, if_neg (Ne.symm same)]
      · cases he
      · rw [add_assoc, image_add_handle]
  | @reacquire w f u loose => exact guard.onTexture_other known (other loose rfl) _
  | @release w f u mode loose =>
    rw [add_assoc] at guard
    have ne := other loose rfl
    have marked := guard.onTexture_other known ne fun x => { x with released := some mode }
    refine Guarded.congr (marked.letGo_other ?_ ne) (handle_add_handle_of_ne ne _)
    exact (Spares.of_ne ne (texture?_onTexture w u · _)).isSome known
  | @discard w f u loose =>
    rw [add_assoc] at guard
    have ne := other loose rfl
    exact (guard.letGo_other known ne).congr (handle_add_handle_of_ne ne _)

-- ==================================================== where a record comes from

/-- How passes change the record of a texture. It is withheld again only where an updater
was given its buffer again, or its handle was dealt with loosely, and condemned only by
operations that are not gentle. -/
structure Changes (P : Entry → Prop) (m : Manner) (t : TextureId) (a b : Texture) : Prop
    extends Stays a b where
  withheld : b.queueHeld →
    a.queueHeld ∨ m = .loose ∨ ∃ id frame, P (.latched id frame (.cached t))
  condemned : b.condemned → a.condemned ∨ m ≠ .gentle

/-- Every record that a texture has comes from one that it had. -/
def Continues (P : Entry → Prop) (m : Manner) (t : TextureId) (w w' : World) : Prop :=
  ∀ b, w'.texture? t = some b → ∃ a, w.texture? t = some a ∧ Changes P m t a b

/-- Changes go on from one to the next. -/
theorem Changes.trans {d : Texture} (h : Changes P m t a b) (h' : Changes P m t b d) :
    Changes P m t a d where
  toStays := h.toStays.trans h'.toStays
  withheld withheld := by
    rcases h'.withheld withheld with before | now
    · exact h.withheld before
    · exact .inr now
  condemned condemned := by
    rcases h'.condemned condemned with before | now
    · exact h.condemned before
    · exact .inr now

/-- A change that touches neither the flag nor the release. -/
theorem Changes.of_eq (stays : Stays a b) (withheld : b.queueHeld = a.queueHeld)
    (released : b.released = a.released) : Changes P m t a b where
  toStays := stays
  withheld := by
    rw [withheld]
    exact .inl
  condemned := by
    unfold Texture.condemned
    rw [released]
    exact .inl

namespace Continues

/-- Nothing changes where textures are what they were. -/
theorem of_textures (same : w'.textures = w.textures) : Continues P m t w w' := by
  intro b found
  unfold texture? at found ⊢
  rw [same] at found
  exact ⟨b, found, .of_eq (.refl b) rfl rfl⟩

/-- Steps go on from one to the next. -/
theorem trans {w'' : World} (h : Continues P m t w w') (h' : Continues P m t w' w'') :
    Continues P m t w w'' := by
  intro d found
  obtain ⟨b, found', change⟩ := h' d found
  obtain ⟨a, found'', change'⟩ := h b found'
  exact ⟨a, found'', change'.trans change⟩

/-- One texture changes in a way that is allowed. -/
theorem of_change {g : Texture → Texture}
    (textures : ∀ v, w'.texture? v = if v = u then (w.texture? u).map g else w.texture? v)
    (change : ∀ a, Changes P m u a (g a)) : Continues P m t w w' := by
  intro b found
  rw [textures] at found
  by_cases ht : t = u
  · subst ht
    rw [if_pos rfl] at found
    obtain ⟨a, found', rfl⟩ := Option.map_eq_some_iff.1 found
    exact ⟨a, found', change a⟩
  · rw [if_neg ht] at found
    exact ⟨b, found, .of_eq (.refl b) rfl rfl⟩

/-- One holder less is allowed in every manner. -/
theorem letGo : Continues P m t w (w.letGo u) :=
  of_change (letGo_texture? w u) fun _ => .of_eq ⟨rfl, rfl, rfl, rfl⟩ rfl rfl

/-- One holder more is allowed in every manner. -/
theorem share : Continues P m t w (w.share u) :=
  of_change (texture?_onTexture w u · _) fun _ => .of_eq ⟨rfl, rfl, rfl, rfl⟩ rfl rfl

/-- That a buffer goes back is allowed in every manner. -/
theorem releaseQueue : Continues P m t w (w.releaseQueue u).1 := by
  refine of_change (releaseQueue_texture? w u) fun a => ?_
  split
  · exact ⟨⟨rfl, rfl, rfl, rfl⟩, nofun, .inl⟩
  · exact .of_eq (.refl a) rfl rfl

/-- A release under a lost context is not gentle. -/
theorem release (mode : TeardownMode) (allowed : mode = .normal ∨ m ≠ .gentle) :
    Continues P m t w (w.release u mode).1 := by
  refine trans (of_change (texture?_onTexture w u · fun x => { x with released := some mode })
    fun a => ⟨⟨rfl, rfl, rfl, rfl⟩, .inl, ?_⟩) letGo
  intro condemned
  rcases allowed with rfl | harsh
  · cases condemned
  · exact .inr harsh

/-- A buffer is withheld again where handles are dealt with loosely, or where a frame may be
latched with it. -/
theorem reacquireQueue
    (allowed : m = .loose ∨ ∃ id frame, P (.latched id frame (.cached u))) :
    Continues P m t w (w.reacquireQueue u) := by
  refine of_change (texture?_onTexture w u · _) fun a => ?_
  split
  · exact ⟨⟨rfl, rfl, rfl, rfl⟩, fun _ => .inr allowed, .inl⟩
  · exact .of_eq (.refl a) rfl rfl

end Continues

/-- A pass continues every record, or it imports the texture. -/
theorem Pass.continues (h : Pass P m x y) (t : TextureId) :
    Continues P m t x.1 y.1
      ∨ ∃ w f c p b d, w.alive c ∧ (w.backend c).importError = none ∧ t = w.imported + 1
        ∧ x = (w, f) ∧ y = ((w.importTexture c p b d).1, one .handle t + f) := by
  cases h with
  | remark | aside | adjustBackend | loseContext | query => exact .inl (.of_textures rfl)
  | @importTexture w f c p b d alive works =>
    by_cases new : t = w.imported + 1
    · subst new
      exact .inr ⟨w, f, c, p, b, d, alive, works, rfl, rfl, rfl⟩
    · left
      intro a found
      rw [importTexture_texture? p b d alive works, if_neg new] at found
      exact ⟨a, found, .of_eq (.refl a) rfl rfl⟩
  | share => exact .inl .share
  | letGo | discard => exact .inl .letGo
  | handBack => exact .inl .releaseQueue
  | giveUp mode allowed =>
    left
    refine Continues.trans ?_ (.release mode allowed)
    split
    · exact .releaseQueue
    · exact .of_textures rfl
  | redeliver id frame allowed =>
    exact .inl ((Continues.reacquireQueue (.inr ⟨id, frame, allowed⟩)).trans
      (Continues.share.trans (.of_textures rfl)))
  | reacquire loose => exact .inl (.reacquireQueue (.inl loose))
  | release mode loose => exact .inl (.release mode (.inr (by rw [loose]; decide)))

/-- A record comes from the record before, or it is that of a texture that was imported
since, which is condemned only where an operation was not gentle. -/
theorem Passes.continues (h : Passes P m w f w' f') (owned : w.Owned (f + r)) (ledger : w.Ledger)
    (found : w'.texture? t = some b) : (∃ a, w.texture? t = some a ∧ Changes P m t a b)
      ∨ w.texture? t = none ∧ (b.condemned → m ≠ .gentle) := by
  have all := h.keeps (I := fun v g => v.Owned (g + r) ∧ Steps P w v
    ∧ ∀ b, v.texture? t = some b → (∃ a, w.texture? t = some a ∧ Changes P m t a b)
      ∨ w.texture? t = none ∧ (b.condemned → m ≠ .gentle)) ?_
    ⟨owned, .refl, fun a found => .inl ⟨a, found, .of_eq (.refl a) rfl rfl⟩⟩
  · exact all.2.2 b found
  · rintro x y pass ⟨owned, steps, comes⟩
    obtain ⟨more, owned'⟩ := (pass.frame r).transfer owned
    refine ⟨owned', steps.trans more, fun b found => ?_⟩
    rcases pass.continues t with continues | ⟨v, g, c, p, d, s, alive, works, rfl, rfl, rfl⟩
    · obtain ⟨a, found', change⟩ := continues b found
      rcases comes a found' with ⟨a', found'', change'⟩ | ⟨none, harsh⟩
      · exact .inl ⟨a', found'', change'.trans change⟩
      · refine .inr ⟨none, fun condemned => ?_⟩
        rcases change.condemned condemned with before | now
        · exact harsh before
        · exact now
    · -- the number was not given before, and the new record is not condemned
      rw [importTexture_texture? p d s alive works, if_pos rfl] at found
      cases found
      refine .inr ⟨?_, nofun⟩
      cases before : w.texture? (v.imported + 1) with
      | none => rfl
      | some a =>
        obtain ⟨a', found, -⟩ := steps.stays ledger before
        have counted := (owned.numbered (v.imported + 1)).1 (by rw [found]; rfl)
        exact absurd counted.2 (Nat.not_succ_le_self _)

/-- Passes keep textures guarded: all of them if they are not loose, and those that are
known and whose handle is not in the footprint in any case. -/
theorem Passes.guarded (h : Passes P m w f w' f') (owned : w.Owned (f + r)) (ledger : w.Ledger)
    (handBacks : w.HandBacks)
    (proper : m = .loose → (w.texture? t).isSome ∧ f .handle t = 0)
    (guard : Guarded w t (f + r)) : Guarded w' t (f' + r) := by
  have all := h.keeps (I := fun v g => v.Owned (g + r) ∧ v.Ledger ∧ v.HandBacks
    ∧ (m = .loose → (v.texture? t).isSome ∧ g .handle t = 0) ∧ Guarded v t (g + r)) ?_
    ⟨owned, ledger, handBacks, proper, guard⟩
  · exact all.2.2.2.2
  · rintro x y pass ⟨owned, ledger, handBacks, proper, guard⟩
    obtain ⟨steps, owned'⟩ := (pass.frame r).transfer owned
    refine ⟨owned', ledger.steps steps, handBacks.steps ledger steps, fun loose => ?_, ?_⟩
    · obtain ⟨known, none⟩ := proper loose
      obtain ⟨spared, none'⟩ := pass.spares owned none known
      exact ⟨spared.isSome known, none'⟩
    · by_cases known : (x.1.texture? t).isSome
      · exact pass.guarded owned ledger known (fun loose => (proper loose).2) guard
      · -- a texture that was not known is known now only if this pass imports it
        rcases pass.continues t with continues | ⟨v, g, c, p, b, d, alive, works, rfl, rfl, rfl⟩
        · intro a found
          obtain ⟨a', found', -⟩ := continues a found
          exact absurd (by rw [found']; rfl) known
        · refine Guarded.imported ledger handBacks alive works ?_
          rw [add_assoc, Pi.add_apply, Pi.add_apply, one_handle_apply, if_pos rfl]
          omega

end World

end LayerFeed
