/-
Fences and updaters as owners of textures. Making a fence or waiting for one
leaves every owner as it is. An updater is the image that its layer shows and
what its cache is, and each of its operations passes textures on between these
two and its caller: `latch` makes an image in the cache and binds it, `teardown`
and `discard` give everything up.

All of them are gentle but a teardown under a lost context, and none is loose. What an
updater puts down is its own doing (`Entry.By`), and of a buffer that comes again only
`latch` tells. Operations in which no source is called are `Quiet`: of what they remark,
nothing is a call to a source.
-/
import LayerFeed.Updater
import LayerFeed.Proofs.Object.Slots

namespace LayerFeed

open Owners World

-- ==================================================== what entries tell of

/-- The call to a source that an entry is. That a source answered is no call. -/
def Entry.sourceCall? : Entry → Option (SourceRef × SourceCall)
  | .source _ (.dequeued _) => none
  | .source ref call => some (ref, call)
  | _ => none

/-- No source is called by an entry. -/
def Entry.Quiet (e : Entry) : Prop := e.sourceCall? = none

/-- Every entry, where nothing is asked of it. -/
def Entry.Any (_ : Entry) : Prop := True

/-- The updater whose doing an entry tells of. -/
def Entry.by? : Entry → Option UpdaterId
  | .source ref _ => some ref.owner
  | .event id _ _ | .posted id | .latched id _ _ | .bound id _ _ _ _ => some id
  | _ => none

/-- No other updater than this one has a part in an entry. -/
def Entry.By (id : UpdaterId) (e : Entry) : Prop := ∀ j, e.by? = some j → j = id

/-- What becomes of the layer of an updater. -/
inductive Mark
  /-- The updater is torn down, and its layer goes. -/
  | tornDown (mode : TeardownMode)
  /-- An image is bound to the layer. -/
  | bound (image : TextureId)
deriving DecidableEq

/-- What an entry says of the layer of an updater. -/
def Entry.mark? (i : UpdaterId) : Entry → Option Mark
  | .event id _ (.tornDown mode _ _) => if id = i then some (.tornDown mode) else none
  | .bound id _ _ _ image => if id = i then some (.bound image) else none
  | _ => none

/-- The outcome of a frame that an updater took over. -/
def Entry.taken? : Entry → Option (Frame × Resolved)
  | .latched _ frame a => some (frame, a)
  | _ => none

/-- An entry of an updater by which it neither calls its source nor takes a frame over, and
nothing becomes of its layer. -/
structure Entry.Still (id : UpdaterId) (e : Entry) : Prop where
  own : e.By id
  quiet : e.Quiet
  untaken : e.taken? = none
  unmarked : ∀ i, e.mark? i = none

/-- A remark is nobody's doing. -/
theorem Entry.Still.of_note (id : UpdaterId) (d : Diagnostic) : (Entry.note d).Still id :=
  ⟨nofun, rfl, rfl, fun _ => rfl⟩

variable {P : Entry → Prop} {m : Manner} {w : World} {r : Owners} {c : ContextId} {t : TextureId}

-- ==================================================== fences

section Fences

variable (noted : ∀ d, P (.note d))

namespace FenceGate

variable (g : FenceGate) (display : Option DisplayId)

include noted

/-- A native fence is asked of a context that lives. -/
theorem makeNative_passes (alive : w.alive g.context) :
    Passes P m w r (g.makeNative w display).1 r := by
  unfold makeNative
  cases (w.backend g.context).nativeError with
  | some e => exact (Passes.query _ rfl alive).trans (.remark _ rfl rfl (noted _))
  | none => exact (Passes.aside _ _ _).trans (.query _ rfl alive)

/-- So is a sync object. -/
theorem makeSync_passes (alive : w.alive g.context) :
    Passes P m w r (g.makeSync w display).1 r := by
  unfold makeSync
  cases (w.backend g.context).syncFault with
  | some e => exact (Passes.query _ rfl alive).trans (.remark _ rfl rfl (noted _))
  | none => exact (Passes.aside _ _ _).trans (.query _ rfl alive)

/-- A fence is made by calls to a living context or not at all. -/
theorem createFence_passes (useSync : Bool) :
    Passes P m w r (g.createFence w useSync).1 r := by
  unfold createFence
  by_cases alive : w.alive g.context
  · rw [if_pos alive]
    cases g.pipeline with
    | vulkan => exact g.makeNative_passes noted none alive
    | gl =>
      have asked : Passes P m w r
          ((w.call g.context .askedDisplay).call g.context .askedNativeFences) r :=
        (Passes.query _ rfl alive).trans (.query _ rfl alive)
      refine asked.trans ?_
      dsimp only
      split
      · exact g.makeNative_passes noted _ alive
      · split
        · exact g.makeSync_passes noted _ alive
        · exact .refl _ _ _ r
  · rw [if_neg alive]
    exact .refl _ _ w r

/-- Whoever waits for a fence of a dead context calls nobody. -/
theorem wait_passes (fd : FenceFd) : Passes P m w r (g.wait w fd).1 r := by
  unfold wait
  by_cases alive : w.alive g.context
  · rw [if_pos alive]
    have waited : Passes P m w r (w.call g.context (.waited fd)) r := .query _ rfl alive
    cases (w.backend g.context).waitError with
    | some e => exact waited.trans (.remark _ rfl rfl (noted _))
    | none => exact waited
  · rw [if_neg alive]
    exact .refl _ _ w r

end FenceGate

/-- A fence callback whose previous slot is gone, or still there. -/
theorem DequeueFences.createFence_transfer (f : DequeueFences) (useSync : Bool) :
    Transfer Entry.Quiet w r (f.createFence w useSync).world r := by
  refine Transfer.trans ?_
    (f.gate.createFence_passes (m := .gentle) (fun _ => rfl) useSync).transfer
  split
  · exact Slot.releaseQueue_transfer _
  · exact .refl _ w r

include noted

/-- A fence callback hands back the buffer of the previous slot, which is still there. -/
theorem DequeueFences.createFence_passes (f : DequeueFences) (useSync : Bool) :
    Passes P m w (f.previous.elim 0 Slot.owners + r) (f.createFence w useSync).world
      (f.previous.elim 0 Slot.owners + r) := by
  refine Passes.trans ?_ (f.gate.createFence_passes noted useSync)
  split
  · next slot _ previous =>
    rw [previous]
    exact slot.handBack_passes
  · exact .refl _ _ w _

end Fences

-- ==================================================== updaters

namespace Updater

variable (u : Updater)

/-- How the slot of a frame is resolved that an updater takes over. -/
def resolution (w : World) (frame : Frame) : After SlotCache Resolved :=
  u.cache.resolve w u.context frame.slot frame.buffer frame.dataspace frame.forceRecreate

/-- What an updater holds: the image that its layer shows, and its cache. -/
def owners : Owners := oneOf .image u.shownImage + u.cache.owners

/-- A layer that is resized, or made, shows what was shown. -/
@[simp] theorem sizedLayer_image : u.sizedLayer.image = u.shownImage := by
  unfold sizedLayer shownImage
  cases u.layer <;> rfl

/-- Paint is committed to the layer, which shows what it showed. -/
theorem commitPaint_owners : u.commitPaint.owners = u.owners := by
  rw [owners, shownImage, commitPaint]
  exact congrArg (oneOf .image · + u.cache.owners) u.sizedLayer_image

/-- A transform is committed to the layer, which shows what it showed. -/
theorem commitTransform_owners : u.commitTransform.owners = u.owners := by
  unfold commitTransform
  cases u.transform with
  | none => rfl
  | some a => exact congrArg (oneOf .image · + u.cache.owners) u.sizedLayer_image

/-- An image that is bound passes to the layer, which lets go of the one it showed. -/
theorem bind_passes (forceFilter : Bool) (transform : TextureTransform) (crop : Rect)
    (told : P (.bound u.id forceFilter transform crop t)) :
    let bound := u.bind w forceFilter transform crop t
    Passes P m w (one .image t + (u.owners + r)) bound.1 (bound.2.owners + r) := by
  refine Passes.trans (.remark (.bound u.id forceFilter transform crop t) rfl rfl told)
    ((Passes.letGoOf u.sizedLayer.image).of_eq ?_ rfl)
  rw [owners, sizedLayer_image]
  change _ = oneOf .image u.shownImage + (one .image t + u.cache.owners + r)
  abel

section Still

variable (still : ∀ e : Entry, e.Still u.id → P e)

include still

/-- A post is a remark. -/
theorem post_passes : Passes P m w r (u.post w).1 r :=
  .remark _ rfl rfl (still _ ⟨fun _ same => (Option.some.inj same).symm, rfl, rfl, fun _ => rfl⟩)

/-- The slot that is severed gives its handle up. -/
theorem severActiveSlot_passes :
    let severed := u.severActiveSlot w
    Passes P m w (u.owners + r) severed.world (severed.object.owners + r) := by
  unfold severActiveSlot
  cases u.currentSlot with
  | none => exact .refl _ _ w _
  | some slot =>
    dsimp only
    have handedBack := u.cache.handBack_passes (P := P) (m := m) (w := w)
      (r := oneOf .image u.shownImage + r) slot
    have cleared := u.cache.clear_passes (P := P) (m := m)
      (w := (u.cache.releaseQueue w slot).1) (r := oneOf .image u.shownImage + r) slot .normal
      (.inl rfl)
    refine Passes.trans ((handedBack.trans cleared).of_eq (by rw [owners]; abel) rfl) ?_
    refine Passes.of_eq (f := oneOf .image u.shownImage + _ + r) ?_ (by abel) rfl
    split
    · refine .trace _ _ _ (still _ ⟨?_, rfl, rfl, fun _ => rfl⟩)
      exact fun _ same => (Option.some.inj same).symm
    · exact .refl _ _ _ _

/-- All that follows the release of the source before: the current slot is severed
and the cache is emptied. -/
theorem clearQueue_passes :
    let severed := u.severActiveSlot w
    let cleared := severed.object.cache.clearAll severed.world .normal
    Passes P m w (u.owners + r)
      (if cleared.answer > 0 then cleared.world.note (.staleSlotsDropped cleared.answer)
        else cleared.world)
      (({ severed.object with cache := cleared.object } : Updater).owners + r) := by
  intro severed cleared
  have emptied : Passes P m severed.world (severed.object.owners + r) cleared.world
      (oneOf .image severed.object.shownImage + 0 + r) := by
    refine (severed.object.cache.clearAll_passes .normal (.inl rfl)).of_eq
      (f := _ + (oneOf .image severed.object.shownImage + r)) ?_ ?_
    · rw [owners]
      abel
    · abel
  refine (u.severActiveSlot_passes still).trans (emptied.trans ?_)
  split
  · exact .remark _ rfl rfl (still _ (.of_note _ _))
  · exact .refl _ _ _ _

/-- A latched frame makes an image in the cache, which the layer shows from now on;
where there is none the layer keeps what it shows. -/
theorem latch_passes (frame : Frame) (issued : Option FenceClass)
    (told : P (.latched u.id frame (u.resolution w frame).answer))
    (bound : ∀ forceFilter transform crop t, P (.bound u.id forceFilter transform crop t)) :
    let latched := u.latch w frame issued
    Passes P m w (u.owners + r) latched.1 (latched.2.owners + r) := by
  intro latched
  have resolved := u.cache.resolve_latched_passes (P := P) (m := m) (w := w) (c := u.context)
    (r := oneOf .image u.shownImage + r) (fun _ _ => still _ (.of_note _ _)) frame.slot
    frame.buffer frame.dataspace frame.forceRecreate u.id frame told
  generalize hafter : u.cache.resolve w u.context frame.slot frame.buffer frame.dataspace
    frame.forceRecreate = after at resolved
  refine Passes.trans (resolved.of_eq (by rw [owners]; abel) rfl) ?_
  unfold latched latch
  dsimp only
  rw [hafter]
  have traced : ∀ news f, Passes P m (after.world.record (.latched u.id frame after.answer)) f
      ((after.world.record (.latched u.id frame after.answer)).trace u.id u.sink
        (.frameLatched news)) f := by
    refine fun news f => .trace u.id u.sink _ (still _ ⟨?_, rfl, rfl, fun _ => rfl⟩)
    exact fun _ same => (Option.some.inj same).symm
  cases after.answer.image? with
  | none =>
    refine (traced _ _).of_eq ?_ rfl
    rw [oneOf_none, zero_add]
    change _ = oneOf .image u.shownImage + after.object.owners + r
    abel
  | some image =>
    -- the image in hand goes to the layer, which lets go of the one before
    let showing : Updater := { u with
      currentSlot := some frame.slot
      framesLatched := u.framesLatched + 1
      cache := after.object }
    refine (traced _ _).trans ((showing.bind_passes _ _ _ (bound _ _ _ _)).of_eq ?_ rfl)
    change _ = one .image image + (oneOf .image u.shownImage + after.object.owners + r)
    rw [oneOf_some]
    abel

end Still

-- ==================================================== the source

/-- An updater that has released its source is what it was but for the source. -/
theorem releaseSource_object (w : World) : (u.releaseSource w).object
    = { u with source := none, consumerAttached := u.source.isNone && u.consumerAttached } := by
  unfold releaseSource
  cases has : u.source with
  | some source => rfl
  | none =>
    dsimp only
    rw [Option.isNone_none, Bool.true_and, ← has]

/-- No texture is held by the source. -/
theorem releaseSource_owners : (u.releaseSource w).object.owners = u.owners := by
  rw [releaseSource_object]
  rfl

/-- A slot that is severed is cleared in the cache, and is current no more. -/
theorem severActiveSlot_object (w : World) :
    ∃ cache, (u.severActiveSlot w).object = { u with cache, currentSlot := none } := by
  unfold severActiveSlot
  cases current : u.currentSlot with
  | none =>
    refine ⟨u.cache, ?_⟩
    dsimp only
    rw [← current]
  | some slot => exact ⟨_, rfl⟩

/-- A detach releases the source and severs the slot. -/
theorem detach_eq (w : World) : (u.detach w).2
    = ((u.releaseSource w).object.severActiveSlot (u.releaseSource w).world).object := by
  unfold detach
  dsimp only
  split <;> rfl

/-- A detach takes the source and the current slot off, and may change the cache. -/
theorem detach_object (w : World) : ∃ cache, (u.detach w).2
    = { u with
        source := none, consumerAttached := u.source.isNone && u.consumerAttached, cache,
        currentSlot := none } := by
  obtain ⟨cache, severed⟩ := (u.releaseSource w).object.severActiveSlot_object
    (u.releaseSource w).world
  refine ⟨cache, ?_⟩
  rw [detach_eq, severed, releaseSource_object]

/-- The updater of a new source has neither slots nor a current one. -/
theorem attach_object (w : World) (source : SourceRef) : ∃ cache : SlotCache, cache.slots = ∅
    ∧ (u.attach w source).2
      = { u with
          source := some source, consumerAttached := u.source.isNone && u.consumerAttached, cache,
          currentSlot := none } := by
  obtain ⟨cache, severed⟩ := (u.releaseSource w).object.severActiveSlot_object
    (u.releaseSource w).world
  refine ⟨{ cache with slots := ∅ }, rfl, ?_⟩
  unfold attach
  dsimp only
  rw [severed, releaseSource_object]
  rfl

theorem takeOwnership_owners (source : SourceRef) :
    (u.takeOwnership w source).2.owners = u.owners := by
  unfold takeOwnership
  split <;> rfl

/-- Up to the moment at which its source is asked, an updater holds what it held. -/
theorem beginApply_owners : (u.beginApply w).object.owners = u.owners := by
  refine Eq.trans ?_ u.commitPaint_owners
  unfold beginApply
  dsimp only
  cases u.commitPaint.source with
  | none => rfl
  | some source => exact u.commitPaint.takeOwnership_owners source

/-- The layer lets go of its image first, then all slots are cleared. -/
theorem giveUp_passes (mode : TeardownMode) (allowed : mode = .normal ∨ m ≠ .gentle) :
    Passes P m w (u.owners + r) (u.cache.clearAll (w.letGoOf u.shownImage) mode).world r := by
  refine Passes.trans ((Passes.letGoOf u.shownImage).of_eq ?_ rfl)
    (u.cache.clearAll_passes mode allowed)
  rw [owners, add_assoc]

/-- A teardown releases the source, gives up the layer and the cache, and reports it. -/
theorem teardown_history (live : ¬ u.destroyed) (w : World) (mode : TeardownMode) :
    (u.teardown w mode).1.history
      = (u.cache.clearAll ((u.releaseOwnership w).letGoOf u.shownImage) mode).world.history
        ++ [.note (.tornDown mode u.cache.liveTextures),
          .event u.id u.sink (.tornDown mode u.cache.liveTextures u.layer.isSome)] := by
  rw [teardown, if_neg live]
  dsimp only
  rw [SlotCache.clearAll_answer]
  exact List.append_assoc _ _ _

section Calls

variable (calls : ∀ ref call, u.source = some ref → P (.source ref call))

include calls

/-- What a source is told has nothing to do with textures. -/
theorem releaseSource_passes : Passes P m w r (u.releaseSource w).world r := by
  unfold releaseSource
  cases has : u.source with
  | none => exact .refl _ _ w r
  | some source =>
    refine Passes.trans ?_ (.remark _ rfl rfl (calls _ _ has))
    split
    · exact .remark _ rfl rfl (calls _ _ has)
    · exact .refl _ _ w r

/-- A source that is taken is told so. -/
theorem takeOwnership_passes (source : SourceRef) (has : u.source = some source) :
    Passes P m w r (u.takeOwnership w source).1 r := by
  unfold takeOwnership
  split
  · exact .refl _ _ w r
  · exact .remark _ rfl rfl (calls _ _ has)

theorem beginApply_passes : Passes P m w r (u.beginApply w).world r := by
  unfold beginApply
  dsimp only
  cases has : u.commitPaint.source with
  | none => exact .refl _ _ w r
  | some source => exact u.commitPaint.takeOwnership_passes calls source has

/-- A source that is released is told so. -/
theorem releaseOwnership_passes : Passes P m w r (u.releaseOwnership w) r := by
  unfold releaseOwnership
  split
  · next source _ has => exact .remark _ rfl rfl (calls _ _ has)
  · exact .refl _ _ w _

/-- A source that is dropped is told so. -/
theorem dropSource_passes : Passes P m w r (u.dropSource w) r := by
  unfold dropSource
  split
  · next source has => exact .remark _ rfl rfl (calls _ _ has)
  · exact .refl _ _ w _

variable (still : ∀ e : Entry, e.Still u.id → P e)

include still

/-- An attach gives up all handles of the cache. -/
theorem attach_passes (source : SourceRef) (installed : P (.source source .installed)) :
    let attached := u.attach w source
    Passes P m w (u.owners + r) attached.1 (attached.2.owners + r) := by
  have cleared := (u.releaseSource w).object.clearQueue_passes (P := P) (m := m)
    (w := (u.releaseSource w).world) (r := r) (by rwa [releaseSource_object])
  rw [releaseSource_owners] at cleared
  exact (u.releaseSource_passes calls).trans (cleared.trans (.remark _ rfl rfl installed))

/-- A detach gives up the handle of the current slot. -/
theorem detach_passes :
    let detached := u.detach w
    Passes P m w (u.owners + r) detached.1 (detached.2.owners + r) := by
  have severed := (u.releaseSource w).object.severActiveSlot_passes (P := P) (m := m)
    (w := (u.releaseSource w).world) (r := r) (by rwa [releaseSource_object])
  rw [releaseSource_owners] at severed
  refine Passes.trans ((u.releaseSource_passes calls).trans severed) ?_
  unfold detach
  dsimp only
  split
  · refine (Passes.remark _ rfl rfl (still _ (.of_note _ _))).trans
      (.trace _ _ _ (still _ ⟨?_, rfl, rfl, fun _ => rfl⟩))
    exact fun _ same => (Option.some.inj same).symm
  · exact .refl _ _ _ _

-- ==================================================== teardown

/-- A teardown gives up the layer and the cache. -/
theorem teardown_passes (mode : TeardownMode) (allowed : mode = .normal ∨ m ≠ .gentle)
    (told : ∀ n released, P (.event u.id u.sink (.tornDown mode n released))) :
    let down := u.teardown w mode
    Passes P m w (u.owners + r) down.1 (down.2.owners + r) := by
  unfold teardown
  by_cases gone : u.destroyed
  · rw [if_pos gone]
    exact .refl _ _ w _
  · rw [if_neg gone]
    exact (u.releaseOwnership_passes calls).trans ((u.giveUp_passes mode allowed).trans
      (Passes.trans (.remark _ rfl rfl (still _ (.of_note _ _)))
        ((Passes.trace _ _ _ (told _ _)).of_eq rfl (zero_add r))))

/-- An updater that goes away gives up all it holds. Its cache is emptied before, unless
it was torn down and its cache was filled since. -/
theorem discard_passes (harsh : m ≠ .gentle)
    (emptied : m = .loose ∨ (u.destroyed → u.cache.slots = ∅))
    (told : ∀ mode n released, P (.event u.id u.sink (.tornDown mode n released))) :
    Passes P m w (u.owners + r) (u.discard w) r := by
  unfold discard
  refine (u.teardown_passes calls still (if w.alive u.context then .normal else .contextLost)
    (.inr harsh) (told _)).trans ?_
  have source : (u.teardown w (if w.alive u.context then .normal else .contextLost)).2.source
      = u.source := by
    unfold teardown
    split <;> rfl
  have empty : m = .loose ∨ (u.teardown w
      (if w.alive u.context then .normal else .contextLost)).2.cache.slots = ∅ := by
    refine emptied.imp_right fun emptied => ?_
    unfold teardown
    split
    · next gone => exact emptied gone
    · rfl
  generalize u.teardown w (if w.alive u.context then .normal else .contextLost) = down
    at source empty
  refine (down.2.dropSource_passes (by rwa [source])).trans
    (Passes.trans ?_ (down.2.cache.discard_passes empty))
  refine (Passes.letGoOf down.2.shownImage).of_eq ?_ rfl
  rw [owners, add_assoc]

end Calls

end Updater

end LayerFeed
