/-
What a detach does. The updater parts with its source, and severs the slot that was current: the
texture there is given up, and the entry stays, empty. Everything else stays as it was, and a
second detach finds nothing left to do (`run_detach`).

That the sink is told of a detach exactly if there was a source needs an invariant of every
updater: a slot is current only while a source is installed, and has an entry then
(`Updater.Seated`). A frame is taken over only from the source that is installed, and whatever
takes the source off, or the entries, takes the current slot off as well; a teardown leaves the
source installed, but no slot current.

A buffer is asked back twice on this way, once for the current slot and once as the slot is
cleared. The second time nothing happens (`World.drained_releaseQueue`).
-/
import LayerFeed.Proofs.Conservation
import LayerFeed.Proofs.Object.Drain
import LayerFeed.Proofs.ReleaseAccounts
import LayerFeed.Proofs.Session.Notice
import LayerFeed.Proofs.SourceLifetimes
import LayerFeed.Proofs.WithheldBuffers

namespace LayerFeed

open Owners World

variable {i : UpdaterId} {w : World} {t : TextureId} {x : Texture} {u v : Updater} {slot : SlotId}
  {entry : Slot}

-- ==================================================== a texture is given up

/-- Handing a texture back twice is handing it back once. -/
theorem Texture.handedBack_again (x : Texture) : x.handedBack.handedBack = x.handedBack := by
  unfold Texture.handedBack
  by_cases vulkan : x.pipeline = .vulkan
  · rw [if_pos vulkan, if_pos vulkan]
  · rw [if_neg vulkan, if_neg vulkan]

namespace World

/-- A buffer that was handed back already is not handed back as its texture is given up. -/
theorem drained_releaseQueue (found : w.texture? t = some x) :
    (w.releaseQueue t).1.drained .normal [t] = w.drained .normal [t] := by
  have handed : (w.releaseQueue t).1.texture? t = some x.handedBack := by
    rw [releaseQueue_texture?, if_pos rfl, found, Option.map_some]
    rfl
  have alive : (w.releaseQueue t).1.alive x.context = w.alive x.context :=
    alive_congr (releaseQueue_rest w t).2.1 _
  have given : Texture.givenUp .normal ∘ Texture.handedBack = Texture.givenUp .normal := by
    funext y
    simp only [Function.comp, Texture.givenUp, if_true, y.handedBack_again]
  have back : ¬ (TeardownMode.normal = .normal ∧ x.handedBack.pipeline = .vulkan
      ∧ x.handedBack.queueHeld ∧ w.alive x.context) := by
    unfold Texture.handedBack
    by_cases vulkan : x.pipeline = .vulkan <;> simp [vulkan]
  rw [drained_singleton, drained_singleton, parting_of_found handed, parting_of_found found,
    x.handedBack_rest.1, x.handedBack_rest.2, alive, if_neg back, releaseQueue_world found]
  dsimp only
  rw [Table.modify_modify, given]
  simp

/-- A release answers whether the handle was the last holder. -/
theorem release_answer (found : w.texture? t = some x) (mode : TeardownMode) :
    (w.release t mode).2 = if x.holders = 1 then .freed else .shared := by
  have marked : (w.markReleased t mode).texture? t = some { x with released := some mode } :=
    texture?_onTexture_self found _
  unfold release
  dsimp only
  rw [holders_eq marked]

end World

namespace Slot

variable (known : ∀ t, entry.texture = some t → (w.texture? t).isSome)

include known

/-- A slot that hands its buffer back and is cleared then gives up its texture once. -/
theorem sever_world : (entry.clear (entry.releaseQueue w).1 .normal).world
    = w.drained .normal entry.texture.toList := by
  rw [clear_world, releaseQueue]
  cases held : entry.texture with
  | none => rfl
  | some t =>
    obtain ⟨x, found⟩ := Option.isSome_iff_exists.1 (known t held)
    exact drained_releaseQueue found

/-- What severing answers is read off the number of holders. -/
theorem sever_answer : (entry.clear (entry.releaseQueue w).1 .normal).answer
    = entry.texture.map fun t => if w.holders t = 1 then .freed else .shared := by
  rw [clear, releaseQueue]
  cases held : entry.texture with
  | none => rfl
  | some t =>
    obtain ⟨x, found⟩ := Option.isSome_iff_exists.1 (known t held)
    have handed : ∀ {v : World} {y : Texture}, v.texture? t = some y →
        (v.releaseQueue t).1.texture? t = some y.handedBack := by
      intro v y there
      rw [releaseQueue_texture?, if_pos rfl, there, Option.map_some]
      rfl
    dsimp only
    rw [if_pos rfl, release_answer (handed (handed found)), x.handedBack_again,
      x.handedBack_rest.1, Option.map_some, holders_eq found]

end Slot

-- ==================================================== the current slot

/-- Of the entries of a cache one is emptied at most, and all others stay. -/
structure SlotCache.Emptied (active : Option SlotId) (cache cache' : SlotCache) : Prop where
  pipeline : cache'.pipeline = cache.pipeline
  size : cache'.size = cache.size
  emptied : ∀ slot, active = some slot →
    ∃ entry, cache.get? slot = some entry ∧ cache'.get? slot = some (.empty entry.pipeline)
  others : ∀ slot, active ≠ some slot → cache'.get? slot = cache.get? slot

theorem SlotCache.Emptied.none (cache : SlotCache) : cache.Emptied none cache :=
  ⟨rfl, rfl, nofun, fun _ _ => rfl⟩

/-- A slot replaced by an empty one. -/
theorem SlotCache.emptied {cache : SlotCache} (entered : cache.get? slot = some entry) :
    Emptied (some slot) cache
      { cache with slots := cache.slots.set slot (.empty entry.pipeline) } where
  pipeline := rfl
  size := by
    have counted := Table.size_set cache.slots slot (Slot.empty entry.pipeline)
    rw [show cache.slots.get? slot = some entry from entered] at counted
    exact Nat.add_right_cancel counted
  emptied slot' same := by
    cases same
    exact ⟨entry, entered, Table.get?_set_self _ _ _⟩
  others slot' ne := Table.get?_set_ne _ _ fun same => ne (congrArg some same.symm)

namespace Updater

/-- The texture in the current slot. -/
def activeTexture (u : Updater) : Option TextureId := u.currentSlot.bind u.textureIn

/-- All that is written as the current slot is severed: the calls by which its texture is given
up, and the news of that. -/
def severance (u : Updater) (w : World) : List Entry :=
  match u.currentSlot with
  | none => []
  | some slot =>
    match u.textureIn slot with
    | none => []
    | some t => w.parting .normal t ++ [.event u.id u.sink
        (.textureReleased slot .normal (if w.holders t = 1 then .freed else .shared))]

/-- A slot is current only while a source is installed, and has an entry then. -/
def Seated (u : Updater) : Prop :=
  ∀ slot, u.currentSlot = some slot → u.source.isSome ∧ (u.cache.get? slot).isSome

/-- Without a current slot everything is seated. -/
theorem Seated.of_idle (idle : u.currentSlot = none) : u.Seated := by
  intro slot current
  rw [idle] at current
  cases current

/-- Being seated is read off the current slot, the source and the cache. -/
theorem Seated.congr (seated : u.Seated) (current : v.currentSlot = u.currentSlot)
    (source : v.source = u.source) (cache : v.cache = u.cache) : v.Seated := by
  unfold Seated
  rw [current, source, cache]
  exact seated

/-- What comes of severing the current slot of an updater. -/
structure Severs (u : Updater) (w : World) (severed : After Updater (Option SlotId)) : Prop where
  answer : severed.answer = u.currentSlot
  object : severed.object = { u with cache := severed.object.cache, currentSlot := none }
  cache : u.cache.Emptied u.currentSlot severed.object.cache
  contexts : severed.world.contexts = w.contexts
  textures : ∀ t, u.activeTexture ≠ some t → severed.world.texture? t = w.texture? t
  history : severed.world.history = w.history ++ u.severance w

/-- Severing the active slot severs it, and leaves the rest. -/
theorem severActiveSlot_severs (entered : ∀ slot, u.currentSlot = some slot →
      (u.cache.get? slot).isSome)
    (known : ∀ t, u.activeTexture = some t → (w.texture? t).isSome) :
    u.Severs w (u.severActiveSlot w) := by
  unfold severActiveSlot activeTexture at *
  cases current : u.currentSlot with
  | none =>
    refine ⟨current.symm, ?_, ?_, rfl, fun _ _ => rfl, ?_⟩
    · dsimp only
      rw [← current]
    · rw [current]
      exact .none u.cache
    · rw [severance, current, List.append_nil]
  | some slot =>
    obtain ⟨entry, there⟩ := Option.isSome_iff_exists.1 (entered slot current)
    have texture : u.textureIn slot = entry.texture := by rw [textureIn, there, Option.bind_some]
    rw [current, Option.bind_some, texture] at known
    have world := Slot.sever_world known
    have answer := Slot.sever_answer known
    dsimp only
    rw [SlotCache.releaseQueue, there]
    dsimp only
    rw [SlotCache.clear, there]
    dsimp only
    rw [answer, entry.clear_object]
    have cache : u.cache.Emptied u.currentSlot
        { u.cache with slots := u.cache.slots.set slot (.empty entry.pipeline) } := by
      rw [current]
      exact SlotCache.emptied there
    have active : u.activeTexture = entry.texture := by
      rw [activeTexture, current, Option.bind_some, texture]
    rw [world]
    cases held : entry.texture with
    | none =>
      have silent : u.severance w = [] := by simp only [severance, current, texture, held]
      rw [Option.toList_none, drained_nil]
      refine ⟨current.symm, rfl, cache, rfl, fun v _ => rfl, ?_⟩
      rw [silent, List.append_nil]
      rfl
    | some t =>
      have told : u.severance w = w.parting .normal t ++ [.event u.id u.sink
          (.textureReleased slot .normal (if w.holders t = 1 then .freed else .shared))] := by
        simp only [severance, current, texture, held]
      rw [Option.toList_some, drained_singleton]
      refine ⟨current.symm, rfl, cache, rfl, fun v ne => ?_, ?_⟩
      · rw [active, held] at ne
        refine (texture?_onTexture w t v _).trans (if_neg fun same => ne (congrArg some same.symm))
      · rw [told, ← List.append_assoc]
        rfl

-- ==================================================== the source

/-- The entries by which an updater parts with its source: it is released if its ownership is
taken, and dropped. -/
def partings (u : Updater) : List Entry :=
  match u.source with
  | some ref =>
    (if u.consumerAttached then [.source ref .released] else []) ++ [.source ref .dropped]
  | none => []

/-- Releasing a source, written out. -/
theorem releaseSource_eq {ref : SourceRef} (has : u.source = some ref) (w : World) :
    u.releaseSource w = ⟨{ w with history := w.history ++ u.partings },
      { u with source := none, consumerAttached := false }, u.consumerAttached⟩ := by
  unfold releaseSource partings
  rw [has]
  cases u.consumerAttached with
  | false => rfl
  | true => simp [World.record]

/-- Without a source no consumer ownership is taken. -/
theorem Stands.free {k : Option (SourceRef × Phase)} (stands : u.Stands k)
    (sourceless : u.source = none) : u.consumerAttached = false := by
  cases k with
  | none => exact stands.2
  | some custody =>
    obtain ⟨ref, p⟩ := custody
    rw [stands.has_source] at sourceless
    cases sourceless

/-- What is written last by a detach, and told to the sink. -/
def leave (u : Updater) : List Entry :=
  [.note (.sourceDetached u.currentSlot),
    .event u.id u.sink (.detached u.currentSlot u.consumerAttached)]

/-- A detach of an updater without a source and a current slot does nothing. -/
theorem detach_idle (sourceless : u.source = none) (idle : u.currentSlot = none) (w : World) :
    u.detach w = (w, u) := by
  have released : u.releaseSource w = ⟨w, u, false⟩ := by rw [releaseSource, sourceless]
  have severed : u.severActiveSlot w = ⟨w, u, none⟩ := by rw [severActiveSlot, idle]
  rw [detach, released]
  dsimp only
  rw [severed, sourceless]
  rfl

/-- All that is written by a detach. With a source, the calls that part with it are made, then
those that give up the texture of the slot, of which the sink is told, and then it is told of the
detach. -/
def detachment (u : Updater) (w : World) : List Entry :=
  if u.source.isSome then u.partings ++ u.severance w ++ u.leave else []

/-- What comes of a detach. -/
structure Detached (u : Updater) (w : World) (x : World × Updater) : Prop where
  updater : x.2 = { u with
    source := none, consumerAttached := false, cache := x.2.cache, currentSlot := none }
  cache : u.cache.Emptied u.currentSlot x.2.cache
  contexts : x.1.contexts = w.contexts
  textures : ∀ t, u.activeTexture ≠ some t → x.1.texture? t = w.texture? t
  history : x.1.history = w.history ++ u.detachment w

/-- A detach detaches a seated updater. -/
theorem detach_detached (seated : u.Seated) (free : u.source = none → u.consumerAttached = false)
    (known : ∀ t, u.activeTexture = some t → (w.texture? t).isSome) :
    u.Detached w (u.detach w) := by
  cases has : u.source with
  | none =>
    have idle : u.currentSlot = none := by
      cases current : u.currentSlot with
      | none => rfl
      | some slot =>
        obtain ⟨installed, -⟩ := seated slot current
        rw [has] at installed
        cases installed
    rw [detach_idle has idle]
    refine ⟨?_, ?_, rfl, fun _ _ => rfl, ?_⟩
    · dsimp only
      rw [← has, ← free has, ← idle]
    · rw [idle]
      exact .none u.cache
    · rw [detachment, has]
      exact (List.append_nil _).symm
  | some ref =>
    have severs := severActiveSlot_severs
      (u := { u with source := none, consumerAttached := false })
      (w := { w with history := w.history ++ u.partings })
      (fun slot current => (seated slot current).2) known
    rw [detach, releaseSource_eq has]
    dsimp only
    generalize severActiveSlot _ _ = severed at severs ⊢
    rw [has, Option.isSome_some, Bool.true_or, if_pos rfl, severs.answer]
    refine ⟨severs.object, severs.cache, severs.contexts, severs.textures, ?_⟩
    have history : severed.world.history = w.history ++ u.partings ++ u.severance w :=
      severs.history
    change severed.world.history ++ [_] ++ [_] = _
    rw [history, detachment, has]
    simp [leave]

end Updater

namespace Session

variable {s s' : Session} {n : Nat} {x : World × Updater}

/-- Every deed keeps its updater seated. -/
theorem Deed.seated (deed : Deed s i u n x) (seated : u.Seated) : x.2.Seated := by
  cases deed with
  | callback callback =>
    rw [callback.untouched]
    exact seated
  | setter f_setter proper =>
    obtain ⟨cache, current⟩ := Updater.setter_slots f_setter u
    exact seated.congr current (setter_sameSource f_setter u).source cache
  | bind | answer => exact seated
  | idle live idle =>
    obtain ⟨-, cache, current⟩ := u.beginApply_slots s.world
    obtain ⟨-, source, -⟩ := Updater.beginApply_idle idle
    exact seated.congr current source cache
  | ask live asked =>
    obtain ⟨-, cache, current⟩ := u.beginApply_slots s.world
    obtain ⟨has, -, source, -⟩ := Updater.beginApply_asks asked
    exact seated.congr current (source.trans has.symm) cache
  | latch frame issued live answered =>
    obtain ⟨current, cache⟩ := u.latch_slots s.world frame issued
    obtain ⟨-, ref, -, -, has, -⟩ := answered
    intro slot now
    rw [current] at now
    cases now
    refine ⟨?_, ?_⟩
    · rw [(latch_sameSource u s.world frame issued).source, has]
      rfl
    · rw [cache, Updater.resolution, SlotCache.resolve, SlotCache.get?, Table.get?_set_self]
      rfl
  | attach name =>
    obtain ⟨cache, -, same⟩ := u.attach_object s.world ⟨s.fresh, name, i⟩
    exact .of_idle (by rw [same])
  | detach =>
    obtain ⟨cache, same⟩ := u.detach_object s.world
    exact .of_idle (by rw [same])
  | teardown mode =>
    unfold Updater.teardown
    split
    · exact seated
    · exact .of_idle rfl

/-- A law of updater `i` that its deeds keep is kept in all that a move can have to do with it. -/
theorem Deal.law {P : Updater → Prop}
    (new : ∀ c config sink, P ((Updater.new i c config).setSink sink))
    (kept : ∀ {u n x}, Deed s i u n x → P u → P x.2) (deal : Deal i none s s')
    (law : ∀ u, s.updaterOf? i = some u → P u) : ∀ u, s'.updaterOf? i = some u → P u := by
  intro v there'
  cases deal with
  | elsewhere elsewhere =>
    rw [elsewhere.same] at there'
    exact law v there'
  | opens b => exact law v there'
  | comes new' fresh world besides there =>
    rw [there] at there'
    cases there'
    exact new _ _ _
  | goes entered world fresh besides gone =>
    rw [updaterOf?, gone] at there'
    cases there'
  | deed entered deed free world fresh besides there =>
    rw [there] at there'
    cases there'
    exact kept deed (law _ (updaterOf?_of_get? entered))

/-- Wherever moves lead to, a current slot has an entry, and its source is installed. -/
theorem Occurs.seated (occurs : s.Occurs) (found : s.updaterOf? i = some u) : u.Seated := by
  have given := given_of_found occurs.inOrder found
  obtain ⟨minimal, b, moves⟩ := occurs
  refine Moves.life (I := fun s => ∀ u, s.updaterOf? i = some u → u.Seated) (inOrder_new minimal)
    (born_new minimal) ((start_moves minimal b).trans moves) (Nat.zero_le i) given ?_
    (fun _ _ _ _ deal law => deal.law (fun _ _ _ => .of_idle rfl) Deed.seated law) u found
  intro a newborn u there
  obtain ⟨c, config, sink, rfl⟩ := newborn.new u there
  exact .of_idle rfl

-- ==================================================== every run

/-- Consumer ownership is taken while its source has seen that, and has not seen it released. -/
theorem Sourced.consumerAttached_iff {h : Held Updater} (sourced : s.Sourced)
    (entered : s.updaters.get? i = some h) {ref : SourceRef} (has : h.value.source = some ref) :
    h.value.consumerAttached ↔ .taken ∈ callsTo ref (callsIn s.world.history)
      ∧ .released ∉ callsTo ref (callsIn s.world.history) := by
  obtain ⟨rfl, -⟩ := sourced.own entered has
  obtain ⟨k, custody, stands⟩ := sourced.custody ref.owner
  rw [entered] at stands
  obtain ⟨p, rfl⟩ := Updater.Stands.in_custody stands has
  rcases custody.seen ref with ⟨p', same, seen⟩ | ⟨out, -⟩
  · cases same
    rw [callsTo_callsBy] at seen
    cases p with
    | idle =>
      obtain ⟨-, free⟩ := stands
      rw [free, show callsTo ref _ = [] from seen]
      simp
    | taken => exact stands.elim
    | asked =>
      obtain ⟨-, taken, -⟩ := stands
      obtain ⟨n, seen⟩ := seen
      rw [taken, seen]
      simp
    | parted =>
      obtain ⟨-, free, -⟩ := stands
      obtain ⟨n, seen⟩ := seen
      rw [free, seen]
      simp
  · exact absurd rfl (out p)

/-- What a detach of updater `i`, which is `u`, makes of a session, and `v` of the updater. -/
structure Detaches (i : UpdaterId) (u v : Updater) (s s' : Session) : Prop where
  /-- Besides the updater and the world nothing changes. -/
  session : ∃ holds, s.updaters.get? i = some { value := u, holds }
    ∧ s' = { s with world := s'.world, updaters := s.updaters.set i { value := v, holds } }
  /-- No source is left, no consumer ownership and no current slot. The layer, all that is
  pending, the mailbox and the number of frames are what they were. -/
  updater : v = { u with
    source := none, consumerAttached := false, cache := v.cache, currentSlot := none }
  /-- The entry of the slot that was current stays, empty, and the others as they were. -/
  cache : u.cache.Emptied u.currentSlot v.cache
  contexts : s'.world.contexts = s.world.contexts
  /-- No other texture than that of the slot is touched, and all images look the same. -/
  textures : ∀ t, u.activeTexture ≠ some t → s'.world.texture? t = s.world.texture? t
  images : ∀ t, s'.world.imageView? t = s.world.imageView? t
  history : s'.world.history = s.world.history ++ u.detachment s.world
  /-- Consumer ownership is given back if it was taken, and not given back before. -/
  returned : ∀ ref, u.source = some ref → (u.consumerAttached
    ↔ .taken ∈ callsTo ref (callsIn s.world.history)
      ∧ .released ∉ callsTo ref (callsIn s.world.history))
  /-- The slot was the last holder of its texture exactly if there is no image of that. -/
  freed : ∀ t, u.activeTexture = some t → (s.world.holders t = 1 ↔ s.owners .image t = 0)

/-- A handle of an updater is the last holder of its texture if the texture has no image. -/
theorem Sound.last_holder (sound : s.Sound) (held : 0 < s.owners .handle t) :
    s.world.holders t = 1 ↔ s.owners .image t = 0 := by
  have single := sound.owned.single t
  rw [sound.owned.held t]
  unfold Owners.count
  omega

/-- The texture of the active slot is held by a handle. -/
theorem activeTexture_handle (current : u.activeTexture = some t) : 0 < u.owners .handle t := by
  obtain ⟨slot, -, texture⟩ := Option.bind_eq_some_iff.1 current
  obtain ⟨entry, entered, texture⟩ := Option.bind_eq_some_iff.1 texture
  exact slot_handle entered texture

/-- Every detach in a session that occurs detaches. -/
theorem Occurs.detaches (occurs : s.Occurs) (found : s.updaterOf? i = some u) :
    ∃ v, Detaches i u v s (s.onUpdater i fun u w => u.detach w) := by
  have order := occurs.inOrder
  have seated := occurs.seated found
  obtain ⟨held, entered, rfl⟩ := Option.map_eq_some_iff.1 found
  have handle : ∀ t, held.value.activeTexture = some t → 0 < held.value.owners .handle t :=
    fun t => activeTexture_handle
  have known : ∀ t, held.value.activeTexture = some t → (s.world.texture? t).isSome :=
    fun t current => (order.sound.own_handle entered (handle t current)).1
  have free : held.value.source = none → held.value.consumerAttached = false := by
    intro sourceless
    obtain ⟨k, -, stands⟩ := order.sourced.custody i
    rw [entered] at stands
    exact Updater.Stands.free stands sourceless
  have detached := Updater.detach_detached seated free known
  have images := fun t => Steps.imageView? (t := t) order.sound (.single (.detach i))
  rw [onUpdater_eq entered] at images ⊢
  refine ⟨_, ⟨held.holds, entered, rfl⟩, detached.updater, detached.cache, detached.contexts,
    detached.textures, fun t => ?_, detached.history, fun ref has => ?_, fun t current => ?_⟩
  · by_cases current : held.value.activeTexture = some t
    · exact images t (known t current)
    · unfold World.imageView?
      rw [detached.textures t current]
  · exact order.sourced.consumerAttached_iff entered has
  · refine order.sound.last_holder ?_
    rw [owners_eq_besides entered, Pi.add_apply, Pi.add_apply]
    exact Nat.add_pos_left (handle t current) _

/-- After a detach there is nothing left to detach. -/
theorem Detaches.again (detaches : Detaches i u v s s') :
    s'.onUpdater i (fun u w => u.detach w) = s' := by
  obtain ⟨holds, -, same⟩ := detaches.session
  have entered : s'.updaters.get? i = some { value := v, holds } := by
    rw [same]
    exact Table.get?_set_self _ _ _
  have idle : v.detach s'.world = (s'.world, v) :=
    Updater.detach_idle (by rw [detaches.updater]) (by rw [detaches.updater]) _
  rw [onUpdater_eq entered, idle]
  exact updaters_set_self entered s'.world

/-- In every run a detach severs the current slot of its updater and nothing else, and a second
one changes nothing at all. -/
theorem run_detach (minimal : Bool) (b : Backend) (commands : List Command) {name : String}
    (named : ((start minimal b).run commands).updaterNames.get? name = some i)
    (found : ((start minimal b).run commands).updaterOf? i = some u) :
    let s := (start minimal b).run commands
    let s' := (s.exec (.detach name)).1
    (∃ v, Detaches i u v s s') ∧ (s'.exec (.detach name)).1 = s' := by
  intro s s'
  have detached : s' = s.onUpdater i fun u w => u.detach w := by
    change s.onNamed name _ = _
    rw [onNamed, named]
  obtain ⟨v, detaches⟩ := (occurs_run minimal b commands).detaches found
  rw [← detached] at detaches
  obtain ⟨holds, -, same⟩ := detaches.session
  have named' : s'.updaterNames.get? name = some i := by
    rw [same]
    exact named
  refine ⟨⟨v, detaches⟩, ?_⟩
  change s'.onNamed name _ = _
  rw [onNamed, named']
  exact detaches.again

/-- After two frames the first slot keeps its texture; that of the second goes back to the queue,
and is still held by the layer. -/
theorem twoSlots_detached :
    let s := (start false {}).run twoSlots
    let s' := (s.exec (.detach "u")).1
    let source : SourceRef := ⟨2, "q", 1⟩
    (∃ u v, Detaches 1 u v s s')
      ∧ (s'.exec (.detach "u")).1 = s'
      ∧ s'.world.history = s.world.history ++ [.source source .released, .source source .dropped,
        .backend 0 (.queueReleased 2), .event 1 .none (.textureReleased ⟨1⟩ .normal .shared),
        .note (.sourceDetached (some ⟨1⟩)), .event 1 .none (.detached (some ⟨1⟩) true)]
      ∧ (s'.updaterOf? 1).map (fun v => ([⟨0⟩, ⟨1⟩].map v.textureIn, v.cache.size))
        = some ([some 1, none], 2) := by
  intro s s' source
  have named : s.updaterNames.get? "u" = some 1 := by decide
  have there : (s.updaterOf? 1).isSome := by decide
  obtain ⟨u, found⟩ := Option.isSome_iff_exists.1 there
  obtain ⟨⟨v, detaches⟩, again⟩ := run_detach false {} twoSlots named found
  exact ⟨⟨u, v, detaches⟩, again, by decide, by decide⟩

end Session

end LayerFeed
