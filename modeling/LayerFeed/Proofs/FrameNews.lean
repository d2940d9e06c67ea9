/-
What a sink is told of frames, and that it is true. An apply tells of one frame if its source has
one for it, and of none otherwise. The news carry the number of the frame, the slot and the buffer
of the frame, the last fence that the source got, and how the slot was resolved; this agrees with
the calls that were made, and the layer shows what was told (`run_frame_news`).

The number counts all news of the updater so far (`Session.Tallied`). Everything else is read off
the one apply, of which all that it tells of frames is known (`Delivers.frames`). Events are
counted whether or not a sink hears them, so the number is the sink's own count if the updater
has had one from the start.
-/
import LayerFeed.Proofs.Sampling
import LayerFeed.Proofs.Session.Framing
import LayerFeed.Proofs.WithheldBuffers

namespace LayerFeed

open Owners World

variable {i : UpdaterId} {e : Entry} {h es : List Entry} {w w' : World} {t : TextureId}
  {u v : Updater} {frame : Frame}

-- ==================================================== news in a history

/-- The news that a history has of updater `i`. -/
def newsIn (i : UpdaterId) (h : List Entry) : List FrameLatched := h.filterMap (Entry.newsOf? i)

/-- The news in a longer history is that of both parts. -/
theorem newsIn_append (i : UpdaterId) (h es : List Entry) :
    newsIn i (h ++ es) = newsIn i h ++ newsIn i es := List.filterMap_append

/-- What is read off entries that tell of frames is read off these alone. -/
theorem filterMap_framing {α : Type} {f : Entry → Option α} (h : List Entry)
    (others : ∀ e : Entry, ¬ e.ofFrame → f e = none) :
    (framing h).filterMap f = h.filterMap f := by
  induction h with
  | nil => rfl
  | cons e h ih =>
    unfold framing at ih ⊢
    by_cases told : e.ofFrame
    · rw [List.filter_cons_of_pos told, List.filterMap_cons, List.filterMap_cons, ih]
    · rw [List.filter_cons_of_neg told, List.filterMap_cons, others e told, ih]

/-- What tells of no frame is no news. -/
theorem newsOf?_unframed (i : UpdaterId) (e : Entry) (other : ¬ e.ofFrame) :
    e.newsOf? i = none := by
  cases e with
  | event j sink event =>
    cases event with
    | frameLatched news => exact absurd rfl other
    | _ => rfl
  | _ => rfl

/-- The news is among what is told of frames. -/
theorem newsIn_framing (i : UpdaterId) (h : List Entry) : newsIn i (framing h) = newsIn i h :=
  filterMap_framing h (newsOf?_unframed i)

/-- Without a latch there is no news. -/
theorem newsIn_unlatched (silent : ∀ e ∈ es, ¬ e.Latching i) : newsIn i es = [] :=
  List.filterMap_eq_nil_iff.2 fun e mem => newsOf?_eq_none (silent e mem)

/-- Writing unframed entries makes no news. -/
theorem World.Writes.newsIn (writes : Writes Entry.Unframed w w') :
    newsIn i w'.history = newsIn i w.history := by
  rw [← newsIn_framing, writes.framing, newsIn_framing]

/-- News that are numbered in turn, from 1 on. -/
def Sequential (news : List FrameLatched) : Prop :=
  news.map FrameLatched.frameIndex = (List.range' 1 news.length).map UInt64.ofNat

/-- News with the next number follows in sequence. -/
theorem Sequential.snoc {all : List FrameLatched} {news : FrameLatched} (numbered : Sequential all)
    (next : news.frameIndex = UInt64.ofNat (all.length + 1)) : Sequential (all ++ [news]) := by
  unfold Sequential at numbered ⊢
  rw [List.map_append, numbered, List.length_append, List.length_singleton, List.range'_1_concat,
    List.map_append, List.map_singleton, List.map_singleton, next, Nat.add_comm]

-- ==================================================== how a frame is told of

/-- All that a frame is fetched with are calls. -/
theorem Slot.Fetches.backend {s : Slot} {c : ContextId} {b : HardwareBuffer} {d : Dataspace}
    {force : Bool} {r : Resolved} {calls : List Entry} (fetches : s.Fetches w c b d force r calls) :
    ∀ e ∈ calls, ∃ c call, e = .backend c call := by
  cases fetches with
  | created | failed => exact fun e mem => ⟨_, _, List.mem_singleton.1 mem⟩
  | cached | lost => exact List.forall_mem_nil _

namespace Updater

/-- A setter leaves the number of frames. -/
theorem setter_framesLatched {f : Updater → Updater} (setter : Setter f) (u : Updater) :
    (f u).framesLatched = u.framesLatched := by
  cases setter with
  | size width height =>
    unfold setSize
    dsimp only
    split <;> rfl
  | blend blend =>
    unfold setBlend
    dsimp only
    split <;> rfl
  | commitTransform =>
    unfold commitTransform
    split <;> rfl
  | transform | paint | sink => rfl

/-- What is read off neither calls nor the taking over and the binding of a frame is read off the
news alone. -/
theorem telling_filterMap {α : Type} {f : Entry → Option α} (issued : Option FenceClass)
    {r : Resolved} {calls : List Entry} (backend : ∀ e ∈ calls, ∃ c call, e = .backend c call)
    (called : ∀ c call, f (.backend c call) = none)
    (latched : f (.latched u.id frame r) = none)
    (bound : ∀ force transform crop t, f (.bound u.id force transform crop t) = none) :
    (u.telling frame issued r calls).filterMap f
      = (f (.event u.id u.sink (.frameLatched (u.news frame issued r)))).toList := by
  have none : calls.filterMap f = [] := List.filterMap_eq_nil_iff.2 fun e mem => by
    obtain ⟨c, call, rfl⟩ := backend e mem
    exact called c call
  have none' : (r.image?.toList.map
      (.bound u.id (u.needsFilter frame) frame.transform frame.crop)).filterMap f = [] := by
    refine List.filterMap_eq_nil_iff.2 fun e mem => ?_
    obtain ⟨t, -, rfl⟩ := List.mem_map.1 mem
    exact bound _ _ _ t
  rw [telling, List.filterMap_append, List.filterMap_append, none, none', List.nil_append,
    List.append_nil, List.filterMap_cons, latched, List.filterMap_cons, List.filterMap_nil]
  cases f (.event u.id u.sink (.frameLatched (u.news frame issued r))) <;> rfl

/-- What a latch writes has one piece of news in it. -/
theorem telling_news (own : u.id = i) (issued : Option FenceClass) {r : Resolved}
    {calls : List Entry} (backend : ∀ e ∈ calls, ∃ c call, e = .backend c call) :
    newsIn i (u.telling frame issued r calls) = [u.news frame issued r] := by
  have event : (Entry.event u.id u.sink (.frameLatched (u.news frame issued r))).newsOf? i
      = some (u.news frame issued r) := if_pos own
  rw [newsIn, telling_filterMap issued backend (fun _ _ => rfl) rfl fun _ _ _ _ => rfl, event]
  rfl

/-- A latch counts one frame more. -/
theorem latch_framesLatched (u : Updater) (w : World) (frame : Frame)
    (issued : Option FenceClass) :
    (u.latch w frame issued).2.framesLatched = u.framesLatched + 1 := by
  unfold latch
  dsimp only
  split <;> rfl

/-- And tells of it once. -/
theorem latch_news (own : u.id = i) (w : World) (frame : Frame) (issued : Option FenceClass) :
    newsIn i (u.latch w frame issued).1.history
      = newsIn i w.history ++ [u.news frame issued (u.resolution w frame).answer] := by
  obtain ⟨calls, told, fetches⟩ := u.latch_framing w frame issued
  rw [← newsIn_framing i (u.latch w frame issued).1.history, told, newsIn_append, newsIn_framing,
    telling_news own issued fetches.backend]

/-- The texture that an updater has for a frame already. -/
def again? (u : Updater) (w : World) (frame : Frame) : Option TextureId :=
  (u.cache.entry frame.slot).again? w frame.buffer frame.dataspace frame.forceRecreate

end Updater

/-- What a slot has for a frame does not change as long as textures stay what they are. -/
theorem Slot.again?_stays {s : Slot}
    (known : ∀ t, s.texture = some t → ∃ x, w.texture? t = some x
      ∧ ∃ y, w'.texture? t = some y ∧ Stays x y)
    (b : HardwareBuffer) (d : Dataspace) (force : Bool) :
    s.again? w' b d force = s.again? w b d force := by
  unfold again? match?
  cases texture : s.texture with
  | none => rfl
  | some t =>
    obtain ⟨x, before, y, after, same⟩ := known t texture
    simp only [Option.filter_some, before, after, Option.any_some, same.buffer]

-- ==================================================== outcomes

/-- The call tries to import a buffer. -/
def BackendCall.isImport : BackendCall → Bool
  | imported _ _ _ | importFailed _ => true
  | _ => false

/-- What a source got from its callbacks, if the entry says so. -/
def Entry.dequeued? : Entry → Option (List CallbackResult)
  | .source _ (.dequeued results) => some results
  | _ => none

/-- How the outcome of a latch agrees with what is told of frames in an apply. -/
structure Outcomes (i : UpdaterId) (lost : Prop) (es : List Entry) (outcome : SlotOutcome) :
    Prop where
  created : outcome = .created ↔ ∃ c t b d, .backend c (.imported t b d) ∈ es
  cached : outcome = .cached
    ↔ (∃ forceFilter transform crop t, .bound i forceFilter transform crop t ∈ es)
      ∧ ∀ c call, .backend c call ∈ es → ¬ call.isImport
  unavailable : outcome = .unavailable ↔ (∃ c b, .backend c (.importFailed b) ∈ es) ∨ lost

theorem Slot.Fetches.outcomes {s : Slot} {c : ContextId} {b : HardwareBuffer} {d : Dataspace}
    {force : Bool} {r : Resolved} {calls : List Entry} (fetches : s.Fetches w c b d force r calls)
    (u : Updater) (frame : Frame) (issued : Option FenceClass) (ref : SourceRef)
    (results : List CallbackResult) :
    Outcomes u.id (¬ w.alive c ∧ s.again? w b d force = none)
      (.source ref (.dequeued results) :: u.telling frame issued r calls) r.outcome := by
  cases fetches with
  | cached again =>
    constructor <;> simp [Updater.telling, Resolved.outcome, Resolved.image?, again]
  | created new alive t =>
    constructor <;> simp [Updater.telling, Resolved.outcome, Resolved.image?, alive,
      BackendCall.isImport]
  | failed new alive =>
    constructor <;> simp [Updater.telling, Resolved.outcome, Resolved.image?]
  | lost new lost =>
    constructor <;> simp [Updater.telling, Resolved.outcome, Resolved.image?, lost, new]

/-- Whether the outcome agrees is a matter of what is told of frames. -/
theorem Outcomes.of_framing {lost : Prop} {outcome : SlotOutcome}
    (outcomes : Outcomes i lost (framing es) outcome) : Outcomes i lost es outcome := by
  have told : ∀ e : Entry, e.ofFrame → (e ∈ framing es ↔ e ∈ es) := fun e told =>
    List.mem_filter.trans (and_iff_left told)
  obtain ⟨created, cached, unavailable⟩ := outcomes
  refine ⟨?_, ?_, ?_⟩
  · rw [created]
    exact exists₄_congr fun c t b d => told _ rfl
  · rw [cached]
    refine and_congr (exists₄_congr fun _ _ _ _ => told _ rfl) (forall₂_congr fun c call => ?_)
    constructor
    · intro others mem imports
      refine others ((told _ ?_).2 mem) imports
      cases call <;> first | rfl | cases imports
    · exact fun others mem => others ((List.mem_filter.1 mem).1)
  · rw [unavailable]
    exact or_congr_left (exists₂_congr fun _ _ => told _ rfl)

theorem dequeued?_eq_none (e : Entry) (other : ¬ e.ofFrame) : e.dequeued? = none := by
  cases e with
  | source ref call =>
    cases call with
    | dequeued results => exact absurd rfl other
    | _ => rfl
  | _ => rfl

theorem Resolved.image?_of_outcome {r : Resolved} (available : r.outcome ≠ .unavailable) :
    ∃ t, r.image? = some t := by
  cases r with
  | cached t | created t => exact ⟨t, rfl⟩
  | unavailable => exact absurd rfl available

/-- A layer is there if an image is sampled. -/
theorem Updater.exists_layer {force : Bool}
    (sampling : u.sampling = Sampling.ofFrame frame force t) :
    ∃ l, u.layer = some l ∧ l.sampling = Sampling.ofFrame frame force t := by
  unfold Updater.sampling at sampling
  cases layer : u.layer with
  | none =>
    rw [layer] at sampling
    cases sampling
  | some l =>
    rw [layer] at sampling
    exact ⟨l, rfl, sampling⟩

/-- The fence that a callback answered with, if it did. -/
def CallbackResult.fence? : CallbackResult → Option ReleaseFence
  | fence f => some f
  | _ => none

/-- The last fence among the answers to callbacks. -/
def lastFence (results : List CallbackResult) : Option ReleaseFence :=
  (results.filterMap CallbackResult.fence?).getLast?

/-- The last fence of a script, by its first item. -/
theorem lastFence_cons (result : CallbackResult) (results : List CallbackResult) :
    lastFence (result :: results) = (lastFence results).or result.fence? := by
  unfold lastFence
  rw [List.filterMap_cons]
  cases result.fence? with
  | none => rw [Option.or_none]
  | some f =>
    dsimp only
    rw [List.getLast?_cons]
    cases (results.filterMap CallbackResult.fence?).getLast? <;> rfl

namespace Session

variable {s s' : Session} {n : Nat} {x : World × Updater} {held : Held Updater}

/-- The news of updater `i` grow by one where it counts a frame, which is the number of the news,
and by none otherwise. -/
inductive Counts (i : UpdaterId) (u v : Updater) (w w' : World) : Prop
  | still (news : newsIn i w'.history = newsIn i w.history)
      (count : v.framesLatched = u.framesLatched)
  | tells (news : FrameLatched) (grown : newsIn i w'.history = newsIn i w.history ++ [news])
      (number : news.frameIndex = u.framesLatched + 1)
      (count : v.framesLatched = u.framesLatched + 1)

/-- Every deed of `i` counts as many frames as it tells of. -/
theorem Deed.counts (order : s.InOrder) (entered : s.updaters.get? i = some held)
    (deed : Deed s i held.value n x) : Counts i held.value x.2 s.world x.1 := by
  have own := (order.sound.numbered.updaters i held entered).2
  have recorded : ∀ {w : World} {e : Entry}, ¬ e.Latching i →
      newsIn i (w.record e).history = newsIn i w.history := by
    intro w e silent
    have none : newsIn i [e] = [] := newsIn_unlatched (by simpa using silent)
    rw [record_history, newsIn_append, none, List.append_nil]
  cases deed with
  | callback callback =>
    cases callback with
    | post => exact .still (recorded (by simp [Entry.Latching])) rfl
    | fence f useSync => exact .still (f.createFence_unframed s.world useSync).newsIn rfl
  | setter f_setter proper =>
    exact .still rfl (Updater.setter_framesLatched f_setter held.value)
  | @bind t forceFilter transform crop held' =>
    obtain ⟨es, grown, minor⟩ :=
      (held.value.bind_minor (s.world.share t) forceFilter transform crop t).history
    refine .still ?_ rfl
    rw [grown, newsIn_append, newsIn_unlatched fun e mem => (minor e mem).not_latching,
      List.append_nil]
    rfl
  | idle live idle =>
    obtain ⟨attached, mailbox, object⟩ := beginApply_object held.value s.world
    refine .still (held.value.beginApply_unframed s.world).newsIn ?_
    rw [object]
    rfl
  | ask live asked =>
    obtain ⟨attached, mailbox, object⟩ := beginApply_object held.value s.world
    refine .still ((recorded (by simp [Entry.Latching])).trans
      (held.value.beginApply_unframed s.world).newsIn) ?_
    rw [object]
    rfl
  | answer results has => exact .still (recorded (by simp [Entry.Latching])) rfl
  | latch frame issued live answered =>
    exact .tells _ (held.value.latch_news own s.world frame issued) rfl
      (held.value.latch_framesLatched s.world frame issued)
  | attach name =>
    obtain ⟨cache, -, same⟩ := held.value.attach_object s.world ⟨s.fresh, name, i⟩
    exact .still (held.value.attach_unframed s.world _).newsIn (by rw [same])
  | detach =>
    obtain ⟨cache, same⟩ := held.value.detach_object s.world
    exact .still (held.value.detach_unframed s.world).newsIn (by rw [same])
  | teardown mode =>
    refine .still (held.value.teardown_unframed s.world mode).newsIn ?_
    unfold Updater.teardown
    split <;> rfl

/-- The news of updater `i` are numbered, and it has counted them all, as far as it can count. -/
structure Tallied (s : Session) (i : UpdaterId) : Prop where
  numbered : Sequential (newsIn i s.world.history)
  counted : ∀ u, s.updaterOf? i = some u →
    u.framesLatched = UInt64.ofNat (newsIn i s.world.history).length

/-- The tally is read off the news and the count. -/
theorem Tallied.congr (tallied : s.Tallied i)
    (news : newsIn i s'.world.history = newsIn i s.world.history)
    (count : ∀ v, s'.updaterOf? i = some v →
      ∃ u, s.updaterOf? i = some u ∧ v.framesLatched = u.framesLatched) : s'.Tallied i where
  numbered := by
    rw [news]
    exact tallied.numbered
  counted v there' := by
    obtain ⟨u, there, same⟩ := count v there'
    rw [news, same, tallied.counted u there]

/-- Where nothing was done there is nothing to tally. -/
theorem tallied_of_silent (silent : ∀ e ∈ s.world.history, e.NotBy i)
    (zero : ∀ u, s.updaterOf? i = some u → u.framesLatched = 0) : s.Tallied i := by
  have none : newsIn i s.world.history = [] :=
    newsIn_unlatched fun e mem => (silent e mem).not_latching
  refine ⟨?_, fun u there => ?_⟩
  · rw [none]
    rfl
  · rw [none, zero u there]
    rfl

/-- A newborn updater is tallied. -/
theorem Newborn.tallied (newborn : s.Newborn i) : s.Tallied i := by
  refine tallied_of_silent newborn.silent fun u there => ?_
  obtain ⟨c, config, sink, rfl⟩ := newborn.new u there
  rfl

/-- And stays so over a deal. -/
theorem Deal.tallied (order : s.InOrder) (given : i < s.fresh) (deal : Deal i none s s')
    (tallied : s.Tallied i) : s'.Tallied i := by
  cases deal with
  | elsewhere elsewhere =>
    obtain ⟨es, grown, others⟩ := elsewhere.history order.sound
    refine tallied.congr ?_ fun v there' => ⟨v, elsewhere.same ▸ there', rfl⟩
    rw [grown, newsIn_append, newsIn_unlatched fun e mem => (others e mem).not_latching,
      List.append_nil]
  | opens b => exact tallied.congr rfl fun v there' => ⟨v, there', rfl⟩
  | comes new => exact absurd new (Nat.ne_of_lt given)
  | @goes _ h entered world fresh besides gone =>
    refine tallied.congr ?_ fun v there' => ?_
    · rw [world]
      exact (h.value.discard_unframed s.world).newsIn
    · rw [updaterOf?, gone] at there'
      cases there'
  | deed entered deed free world fresh besides there =>
    have before := updaterOf?_of_get? entered
    cases deed.counts order entered with
    | still news count =>
      refine tallied.congr (by rw [world, news]) fun v there' => ?_
      rw [there] at there'
      cases there'
      exact ⟨_, before, count⟩
    | tells news grown number count =>
      rw [tallied.counted _ before] at number count
      constructor
      · rw [world, grown]
        exact tallied.numbered.snoc (number.trans (UInt64.ofNat_add _ 1).symm)
      · intro v there'
        rw [there] at there'
        cases there'
        rw [world, grown, List.length_append, List.length_singleton, count, UInt64.ofNat_add]
        rfl

/-- In every run the news of all updaters are numbered. -/
theorem run_tallied (minimal : Bool) (b : Backend) (commands : List Command) (i : UpdaterId) :
    ((start minimal b).run commands).Tallied i := by
  rcases Nat.lt_or_ge i ((start minimal b).run commands).fresh with given | unborn
  · exact run_life (fun _ => Newborn.tallied)
      (fun _ _ order given deal => deal.tallied order given) minimal b commands given
  · have absent := updaterOf?_of_unborn (kept_run minimal b commands).order unborn
    refine tallied_of_silent (run_notBy minimal b commands unborn) fun u there => ?_
    rw [absent] at there
    cases there

-- ==================================================== a frame that is delivered

theorem exec_apply {name : String} (named : s.updaterNames.get? name = some i) :
    (s.exec (.apply name)).1 = s.apply i := by
  simp only [exec, named]

/-- An updater is found under its own number. -/
theorem id_of_found (kept : s.Kept) (found : s.updaterOf? i = some u) : u.id = i := by
  obtain ⟨h, entered, rfl⟩ := Option.map_eq_some_iff.1 found
  exact (kept.order.sound.numbered.updaters i h entered).2

/-- What is told of frames is all of that in what is written. -/
theorem framing_of_frames {told : List Entry} (grown : s'.world.history = s.world.history ++ es)
    (frames : s'.frames = s.frames ++ told) : framing es = told := by
  refine List.append_cancel_left (Eq.trans ?_ frames)
  rw [Session.frames, Session.frames, grown, framing_append]

variable {ref : SourceRef} {source : Source}

/-- A script issues the class of its last fence, or leaves what was issued. -/
theorem runScript_issued (s : Session) (owner : Option UpdaterId) (state : Option ContextId)
    (fences : DequeueFences) (script : List ScriptItem) :
    (s.runScript owner state fences script).fences.issued
      = ((lastFence (s.runScript owner state fences script).answer).map
          ReleaseFence.fenceClass).or fences.issued := by
  induction script generalizing s fences with
  | nil => rfl
  | cons item items ih =>
    rw [runScript]
    dsimp only
    rw [ih, lastFence_cons]
    cases lastFence _ with
    | some f => rfl
    | none =>
      cases item with
      | fence | wait | adjust => rfl
      | notify => cases owner <;> rfl
      | destroy => cases state <;> rfl

/-- What an apply comes to that gets a frame: the source has answered, the updater is what it was
but for its paint, its source and its mailbox, and it takes the frame over. -/
structure Delivers (s : Session) (i : UpdaterId) (u : Updater) (frame : Frame) (ref : SourceRef)
    (source : Source) (x : Updater) : Prop where
  there : (s.replied i u ref source).updaterOf? i = some x
  same : ∃ attached mailbox, x = { u.commitPaint with consumerAttached := attached, mailbox }
  steps : Steps s (s.heard i u ref source).session
  apply : s.apply i = ((s.replied i u ref source).onUpdater i fun v w => v.latch w frame
    ((lastFence (s.heard i u ref source).answer).map ReleaseFence.fenceClass)).finish i

/-- An apply to which a frame is delivered latches it. -/
theorem apply_delivers (kept : s.Kept) (found : s.updaterOf? i = some u)
    (delivered : s.delivery i u = some frame) :
    ∃ ref source x, Delivers s i u frame ref source x := by
  obtain ⟨ref, source, live, asks, there, next, heard⟩ := delivery_some delivered
  obtain ⟨h, entered, rfl⟩ := Option.map_eq_some_iff.1 found
  obtain ⟨moves, h', asked, same⟩ := asking_asked kept entered live asks source
  obtain ⟨ran, h'', asked', same', -⟩ := runScript_goes asked source.context source.script
  obtain ⟨attached, mailbox, object⟩ := beginApply_object h.value s.world
  have applied := apply_heard found live asks there heard
  rw [next] at applied
  have issued : (s.heard i h.value ref source).fences.issued
      = (lastFence (s.heard i h.value ref source).answer).map ReleaseFence.fenceClass := by
    refine (runScript_issued _ _ _ _ _).trans ?_
    rw [show h.value.fences.issued = none from rfl, Option.or_none]
    rfl
  refine ⟨ref, source, h''.value, updaterOf?_of_get? asked'.entered,
    ⟨attached, h''.value.mailbox, ?_⟩, Moves.steps (moves.trans ran.moves.unlock), ?_⟩
  · have whole := same.trans same'
    unfold Untouched at whole
    rw [whole, object]
  · rw [applied, issued]
    rfl

theorem finish_alive (s : Session) (i : UpdaterId) (c : ContextId) :
    (s.finish i).world.alive c = s.world.alive c := by
  have committed : (s.onUpdater i fun u w => (w, u.commitTransform)).world = s.world := by
    unfold onUpdater
    cases s.updaters.get? i <;> rfl
  exact ((letGo_history _ _).alive c).trans (congrArg (World.alive · c) committed)

/-- All that an apply tells of frames that gets one. -/
theorem Delivers.frames {x : Updater} (delivers : Delivers s i u frame ref source x) :
    let results := (s.heard i u ref source).answer
    let issued := (lastFence results).map ReleaseFence.fenceClass
    let w := (s.replied i u ref source).world
    ∃ calls, (s.apply i).frames = s.frames ++ .source ref (.dequeued results)
          :: x.telling frame issued (x.resolution w frame).answer calls
      ∧ (x.cache.entry frame.slot).Fetches w x.context frame.buffer frame.dataspace
        frame.forceRecreate (x.resolution w frame).answer calls := by
  intro results issued w
  obtain ⟨calls, told, fetches⟩ := x.latch_framing w frame issued
  refine ⟨calls, ?_, fetches⟩
  obtain ⟨held, entered, rfl⟩ := Option.map_eq_some_iff.1 delivers.there
  rw [delivers.apply, frames_finish, onUpdater_eq entered]
  refine told.trans ?_
  rw [show framing w.history = _ from s.frames_replied i u ref source, List.append_assoc]
  rfl

/-- What an updater is apart from its paint, its source and its mailbox, it stays. -/
theorem Delivers.keeps {x : Updater} (delivers : Delivers s i u frame ref source x) :
    x.id = u.id ∧ x.context = u.context ∧ x.sink = u.sink ∧ x.framesLatched = u.framesLatched
      ∧ x.cache = u.cache := by
  obtain ⟨attached, mailbox, same⟩ := delivers.same
  rw [same]
  exact ⟨rfl, rfl, rfl, rfl, rfl⟩

/-- No context is lost in the latch, or after it. -/
theorem Delivers.alive {x : Updater} (delivers : Delivers s i u frame ref source x)
    (c : ContextId) : (s.apply i).world.alive c = (s.replied i u ref source).world.alive c := by
  obtain ⟨h, entered, rfl⟩ := Option.map_eq_some_iff.1 delivers.there
  rw [delivers.apply, finish_alive, onUpdater_eq entered]
  exact (h.value.latch_writes _ frame _).alive c

/-- The answer to a dequeue does not change what the updater has for a frame. -/
theorem Delivers.again? {x : Updater} (kept : s.Kept) (found : s.updaterOf? i = some u)
    (delivers : Delivers s i u frame ref source x) :
    x.again? (s.replied i u ref source).world frame = u.again? s.world frame := by
  obtain ⟨h, entered, rfl⟩ := Option.map_eq_some_iff.1 found
  obtain ⟨-, -, -, -, cache⟩ := delivers.keeps
  unfold Updater.again?
  rw [cache]
  refine Slot.again?_stays (fun t texture => ?_) _ _ _
  have handle := slot_handle (SlotCache.get?_of_entry texture) texture
  obtain ⟨a, known⟩ := Option.isSome_iff_exists.1
    (kept.order.sound.own_handle entered handle).1
  obtain ⟨b, after, stays⟩ := Steps.stays kept.order.sound delivers.steps known
  exact ⟨a, known, b, after, stays⟩

/-- What a sink is told of a frame that an apply of updater `u` gets, where `es` is all that the
apply writes. -/
structure TellsOf (s s' : Session) (i : UpdaterId) (u : Updater) (frame : Frame) (es : List Entry)
    (news : FrameLatched) : Prop where
  /-- There are no other news. -/
  only : newsIn i es = [news]
  /-- They go to the sink that the updater has. -/
  sink : .event i u.sink (.frameLatched news) ∈ es
  /-- They are numbered, and tell of the slot and the buffer of the frame. -/
  number : news.frameIndex = UInt64.ofNat (newsIn i (s.world.history ++ es)).length
  slot : news.slot = frame.slot
  buffer : news.buffer = frame.buffer.id
  /-- How the slot was resolved agrees with the calls for imports and with what was bound. -/
  outcome : Outcomes i (¬ s'.world.alive u.context ∧ u.again? s.world frame = none) es news.outcome
  /-- The source was asked once, and the fence is the last that it got. -/
  fence : ∃ results, es.filterMap Entry.dequeued? = [results]
    ∧ news.releaseFence = (lastFence results).map ReleaseFence.fenceClass
  /-- The updater shows what was told, if it is there still. -/
  shown : ∀ v, s'.updaterOf? i = some v →
    v.currentSlot = some news.slot ∧ v.framesLatched = news.frameIndex
      ∧ (news.outcome ≠ .unavailable → ∃ l t view, v.layer = some l ∧ l.image = some t
        ∧ s'.world.imageView? t = some view ∧ view.buffer = news.buffer
        ∧ l.forceFilter = news.forceFilter)

/-- What the sinks are told of frames in an apply of updater `u`. -/
structure FrameNews (s s' : Session) (i : UpdaterId) (u : Updater) (es : List Entry) : Prop where
  history : s'.world.history = s.world.history ++ es
  /-- All news of the updater so far are numbered. -/
  numbered : Sequential (newsIn i s'.world.history)
  /-- Nothing is told, if the source has no frame. -/
  silent : s.delivery i u = none → newsIn i es = []
  told : ∀ frame, s.delivery i u = some frame → ∃ news, TellsOf s s' i u frame es news

/-- What the updater of an apply shows of the frame that it took over: all that belongs to it, if it
was resolved to an image. -/
theorem Delivers.shows {x v : Updater} (delivers : Delivers s i u frame ref source x)
    (found : (s.apply i).updaterOf? i = some v) :
    v.currentSlot = some frame.slot ∧ v.framesLatched = x.framesLatched + 1
      ∧ ∀ t, (x.resolution (s.replied i u ref source).world frame).answer.image? = some t →
        ∃ l, v.layer = some l ∧ l.sampling = Sampling.ofFrame frame (x.needsFilter frame) t := by
  rw [delivers.apply] at found
  obtain ⟨y, there, rfl, -⟩ := commit_found found
  obtain ⟨x', there', latched⟩ := onUpdater_found there
  rw [delivers.there] at there'
  cases there'
  obtain ⟨-, rfl⟩ := Prod.mk.inj latched
  have same : ∀ y : Updater, y.commitTransform.currentSlot = y.currentSlot
      ∧ y.commitTransform.framesLatched = y.framesLatched := by
    intro y
    unfold Updater.commitTransform
    split <;> exact ⟨rfl, rfl⟩
  refine ⟨?_, ?_, fun t image => Updater.exists_layer ?_⟩
  · rw [(same _).1]
    exact (x.latch_slots _ frame _).1
  · rw [(same _).2]
    exact x.latch_framesLatched _ frame _
  · rw [Updater.commitTransform_sampling]
    refine (x.latch_sampling _ frame _).trans ?_
    rw [image]
    rfl

/-- The news of the frame of an apply are right. -/
theorem Delivers.tells {x : Updater} (kept : s.Kept) (found : s.updaterOf? i = some u)
    (delivers : Delivers s i u frame ref source x)
    (grown : (s.apply i).world.history = s.world.history ++ es) (tallied : s.Tallied i)
    (resolved : (s.apply i).world.ResolvedFor i) :
    ∃ news, TellsOf s (s.apply i) i u frame es news := by
  have own := id_of_found kept found
  obtain ⟨id, context, sink, count, -⟩ := delivers.keeps
  obtain ⟨calls, frames, fetches⟩ := delivers.frames
  have shows := fun v => delivers.shows (v := v)
  have again := delivers.again? kept found
  have alive := delivers.alive u.context
  rw [own] at id
  generalize (s.heard i u ref source).answer = results at frames
  generalize fence : (lastFence results).map ReleaseFence.fenceClass = issued at frames
  generalize (s.replied i u ref source).world = w at frames fetches shows again alive
  generalize resolves : (x.resolution w frame).answer = r at frames fetches shows
  -- all that the apply tells of frames
  have told : framing es = .source ref (.dequeued results) :: x.telling frame issued r calls :=
    framing_of_frames grown frames
  have among : ∀ e ∈ x.telling frame issued r calls, e ∈ es := fun e mem =>
    (List.mem_filter.1 (told ▸ List.mem_cons_of_mem _ mem)).1
  have only : newsIn i es = [x.news frame issued r] := by
    rw [← newsIn_framing, told]
    exact Updater.telling_news id issued fetches.backend
  have counted : x.framesLatched + 1
      = UInt64.ofNat (newsIn i (s.world.history ++ es)).length := by
    rw [newsIn_append, only, List.length_append, List.length_singleton, UInt64.ofNat_add,
      ← tallied.counted u found, count]
    rfl
  refine ⟨x.news frame issued r, only, ?_, counted, rfl, rfl, ?_, ⟨results, ?_, fence.symm⟩,
    fun v there => ?_⟩
  · rw [← id, ← sink]
    exact among _ (by simp [Updater.telling])
  · rw [alive, ← again, ← context, ← id]
    refine Outcomes.of_framing ?_
    rw [told]
    exact fetches.outcomes x frame issued ref results
  · rw [← filterMap_framing es dequeued?_eq_none, told]
    exact congrArg (results :: ·) (Updater.telling_filterMap issued fetches.backend
      (fun _ _ => rfl) rfl fun _ _ _ _ => rfl)
  · obtain ⟨slot, latched, shown⟩ := shows v there
    refine ⟨slot, latched, fun available => ?_⟩
    obtain ⟨t, image⟩ := Resolved.image?_of_outcome available
    obtain ⟨l, layer, same⟩ := shown t image
    obtain ⟨y, known, buffer, -⟩ := resolved frame t r (by
      rw [grown, ← id]
      exact List.mem_append_right _ (among _ (by simp [Updater.telling]))) image
    exact ⟨l, t, _, layer, congrArg Sampling.image same, congrArg (Option.map _) known, buffer,
      congrArg Sampling.forceFilter same⟩

/-- In every run an apply tells of one frame if its source has one and of none otherwise, and what
it tells is so. -/
theorem run_frame_news (minimal : Bool) (b : Backend) (commands : List Command) {name : String}
    (named : ((start minimal b).run commands).updaterNames.get? name = some i)
    (found : ((start minimal b).run commands).updaterOf? i = some u) :
    let s := (start minimal b).run commands
    FrameNews s (s.exec (.apply name)).1 i u (s.written (.apply name)) := by
  intro s
  have kept : s.Kept := kept_run minimal b commands
  obtain ⟨es, grown⟩ := (exec_goes kept (.apply name)).moves.steps.history kept.order.sound
  rw [written_of_grown grown]
  have resolved : (s.exec (.apply name)).1.world.ResolvedFor i := by
    rw [← run_snoc]
    exact (run_rooted minimal b (commands ++ [.apply name]) i).resolved
  have tallied : (s.exec (.apply name)).1.Tallied i := by
    rw [← run_snoc]
    exact run_tallied minimal b (commands ++ [.apply name]) i
  rw [exec_apply named] at grown resolved tallied ⊢
  refine ⟨grown, tallied.numbered, fun none => ?_, fun frame delivered => ?_⟩
  · obtain ⟨answers, frames, others⟩ := apply_frames_none found none
    rw [← newsIn_framing, framing_of_frames grown frames]
    refine newsIn_unlatched fun e mem => ?_
    obtain ⟨ref, results, rfl⟩ := others e mem
    exact fun latching => latching
  · obtain ⟨ref, source, x, delivers⟩ := apply_delivers kept found delivered
    exact delivers.tells kept found grown (run_tallied minimal b commands i) resolved

/-- On Vulkan a first frame is shown. The next has another buffer, and before it comes the source
asks for a fence and destroys the context. -/
def secondLost : List Command :=
  let frame := Frame.ofBuffer ⟨0⟩ ⟨⟨1⟩, ⟨64, 32, 1⟩, none⟩ .srgb
  let other := Frame.ofBuffer ⟨0⟩ ⟨⟨2⟩, ⟨64, 32, 1⟩, none⟩ .srgb
  [.newUpdater "u" { pipeline := .vulkan } (.unregistered "s") (.recorder "r"),
    .attach "u" "q" { frames := [frame] } (some "s"), .apply "u",
    .setScript "q" [.fence false, .destroy], .push "q" [other], .post "u"]

/-- The second frame has no image, as its buffer cannot be imported any more. -/
theorem secondLost_told :
    let s := (start false {}).run secondLost
    (∃ u, s.updaterOf? 1 = some u ∧ s.updaterNames.get? "u" = some 1
        ∧ FrameNews s (s.exec (.apply "u")).1 1 u (s.written (.apply "u")))
      ∧ ((s.updaterOf? 1).bind (s.delivery 1)).map (·.buffer.id) = some ⟨2⟩
      ∧ newsIn 1 (s.written (.apply "u"))
        = [⟨2, .vulkan, ⟨0⟩, ⟨2⟩, .unavailable, some .native, true⟩] := by
  intro s
  obtain ⟨u, found⟩ := Option.isSome_iff_exists.1 (show (s.updaterOf? 1).isSome by decide)
  have named : s.updaterNames.get? "u" = some 1 := by decide
  exact ⟨⟨u, found, named, run_frame_news false {} secondLost named found⟩, by decide, by decide⟩

end Session

end LayerFeed
