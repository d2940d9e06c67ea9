/-
What a history tells of frames: that a source delivered or not, that a buffer was imported or could
not be, that a frame was taken over, that the sink was told of it, and that an image was bound
(`Entry.ofFrame`). Few operations write any of this. Fences, teardowns and the setting up of
sources do not, and nor does anything that a source can bring about by its callbacks, a context
that is destroyed included (`Session.frames_runScript`). So all that an apply tells of frames is
what the source answers (`Session.frames_replied`), and then what comes of the latch
(`Updater.latch_framing`).
-/
import LayerFeed.Proofs.Object.Resolution
import LayerFeed.Proofs.Session.Asking

namespace LayerFeed

open World

variable {e : Entry} {h es : List Entry} {w w' : World}

-- ==================================================== entries

/-- The entry tells of a frame, or of an import or an image that is bound. -/
def Entry.ofFrame : Entry → Bool
  | .backend _ (.imported _ _ _) | .backend _ (.importFailed _) | .source _ (.dequeued _)
  | .latched _ _ _ | .event _ _ (.frameLatched _) | .bound _ _ _ _ _ => true
  | _ => false

/-- All that a history tells of frames. -/
def framing (h : List Entry) : List Entry := h.filter Entry.ofFrame

/-- The entry tells of no frame. -/
def Entry.Unframed (e : Entry) : Prop := e.ofFrame = false

/-- A longer history tells of frames what both its parts tell. -/
theorem framing_append (h es : List Entry) : framing (h ++ es) = framing h ++ framing es :=
  List.filter_append _ _

/-- Unframed entries tell of none. -/
theorem framing_unframed (unframed : ∀ e ∈ es, e.Unframed) : framing es = [] :=
  List.filter_eq_nil_iff.2 fun e mem => Bool.eq_false_iff.1 (unframed e mem)

/-- Writing unframed entries leaves what the history tells of frames. -/
theorem World.Writes.framing (writes : Writes Entry.Unframed w w') :
    framing w'.history = framing w.history := by
  obtain ⟨es, grown, unframed⟩ := writes.history
  rw [grown, framing_append, framing_unframed unframed, List.append_nil]

/-- A call that ends the hold of a texture tells of no frame. -/
theorem unframed_calls (c : ContextId) (call : BackendCall) (ends : call.ended?.isSome) :
    (Entry.backend c call).Unframed := by
  cases call <;> first | rfl | cases ends

-- ==================================================== objects

theorem FenceGate.createFence_unframed (g : FenceGate) (w : World) (useSync : Bool) :
    Writes Entry.Unframed w (g.createFence w useSync).1 := by
  have native : ∀ (v : World) display, Writes Entry.Unframed v (g.makeNative v display).1 := by
    intro v display
    have failed : Writes Entry.Unframed v (v.call g.context (.nativeFence none)) := .record rfl
    unfold makeNative
    split
    · exact failed.andRecord rfl
    · exact ⟨rfl, [_], rfl, by simp [Entry.Unframed, Entry.ofFrame]⟩
  have sync : ∀ (v : World) display, Writes Entry.Unframed v (g.makeSync v display).1 := by
    intro v display
    have failed : Writes Entry.Unframed v (v.call g.context (.syncFence none)) := .record rfl
    unfold makeSync
    split
    · exact failed.andRecord rfl
    · exact ⟨rfl, [_], rfl, by simp [Entry.Unframed, Entry.ofFrame]⟩
  unfold createFence
  split
  · split
    · exact native w none
    · have shown : Writes Entry.Unframed w (w.call g.context .askedDisplay) := .record rfl
      have asked : Writes Entry.Unframed w
          ((w.call g.context .askedDisplay).call g.context .askedNativeFences) :=
        shown.andRecord rfl
      dsimp only
      split
      · exact asked.trans (native _ _)
      · split
        · exact asked.trans (sync _ _)
        · exact asked
  · exact .refl w

theorem FenceGate.wait_unframed (g : FenceGate) (w : World) (fd : FenceFd) :
    Writes Entry.Unframed w (g.wait w fd).1 := by
  have waited : Writes Entry.Unframed w (w.call g.context (.waited fd)) := .record rfl
  unfold wait
  split
  · dsimp only
    split
    · exact waited.andRecord rfl
    · exact waited
  · exact .refl w

theorem DequeueFences.createFence_unframed (f : DequeueFences) (w : World) (useSync : Bool) :
    Writes Entry.Unframed w (f.createFence w useSync).world := by
  unfold createFence
  dsimp only
  split
  · exact (Slot.releaseQueue_writes unframed_calls _ w).trans
      (f.gate.createFence_unframed _ useSync)
  · exact f.gate.createFence_unframed w useSync

namespace Updater

variable (u : Updater)

theorem severActiveSlot_unframed (w : World) :
    Writes Entry.Unframed w (u.severActiveSlot w).world := by
  unfold severActiveSlot
  split
  · exact .refl w
  · next slot _ =>
    have cleared := (u.cache.releaseQueue_writes unframed_calls w slot).trans
      (u.cache.clear_writes unframed_calls _ slot .normal)
    dsimp only
    split
    · exact cleared.trans (.trace rfl)
    · exact cleared

/-- Attaching a source tells of no frame. -/
theorem attach_unframed (w : World) (source : SourceRef) :
    Writes Entry.Unframed w (u.attach w source).1 := by
  have released := u.releaseSource_writes (P := Entry.Unframed) (fun _ => rfl) (fun _ => rfl) w
  have cleared := (released.trans ((u.releaseSource w).object.severActiveSlot_unframed _)).trans
    (SlotCache.clearAll_writes unframed_calls
      ((u.releaseSource w).object.severActiveSlot (u.releaseSource w).world).object.cache _ .normal)
  unfold attach
  dsimp only
  split
  · exact (cleared.andRecord (e := .note (.staleSlotsDropped _)) rfl).andRecord rfl
  · exact cleared.andRecord rfl

/-- Nor does a detach. -/
theorem detach_unframed (w : World) : Writes Entry.Unframed w (u.detach w).1 := by
  have released := u.releaseSource_writes (P := Entry.Unframed) (fun _ => rfl) (fun _ => rfl) w
  have severed := released.trans ((u.releaseSource w).object.severActiveSlot_unframed _)
  unfold detach
  dsimp only
  split
  · exact (severed.andRecord (e := .note (.sourceDetached _)) rfl).trans (.trace rfl)
  · exact severed

/-- Nor does a teardown. -/
theorem teardown_unframed (w : World) (mode : TeardownMode) :
    Writes Entry.Unframed w (u.teardown w mode).1 := by
  unfold teardown
  split
  · exact .refl w
  · have freed := (u.releaseOwnership_writes (P := Entry.Unframed) (fun _ => rfl) w).trans
      (letGoOf_writes unframed_calls _ u.shownImage)
    have cleared := freed.trans (u.cache.clearAll_writes unframed_calls _ mode)
    exact (cleared.andRecord (e := .note (.tornDown mode _)) rfl).trans (.trace rfl)

/-- Nor does the end of an updater. -/
theorem discard_unframed (w : World) : Writes Entry.Unframed w (u.discard w) :=
  (((u.teardown_unframed w _).trans (dropSource_writes _ (fun _ => rfl) _)).trans
    (letGoOf_writes unframed_calls _ _)).trans (SlotCache.discard_writes unframed_calls _ _)

/-- The start of an apply tells of no frame yet. -/
theorem beginApply_unframed (w : World) : Writes Entry.Unframed w (u.beginApply w).world :=
  u.beginApply_writes (fun _ => rfl) w

end Updater

-- ==================================================== latches

namespace Slot

variable {s : Slot} {c : ContextId} {b : HardwareBuffer} {d : Dataspace} {force : Bool}

/-- The texture that a slot has for a frame already. -/
def again? (s : Slot) (w : World) (b : HardwareBuffer) (d : Dataspace) (force : Bool) :
    Option TextureId := if force then none else s.match? w b d

/-- How a frame is resolved, and which calls are made for it: none if the slot has its texture, and
an import if not, unless the context is lost. -/
inductive Fetches (s : Slot) (w : World) (c : ContextId) (b : HardwareBuffer) (d : Dataspace)
    (force : Bool) : Resolved → List Entry → Prop
  | cached {t : TextureId} (again : s.again? w b d force = some t) :
      Fetches s w c b d force (.cached t) []
  | created (new : s.again? w b d force = none) (alive : w.alive c) (t : TextureId) :
      Fetches s w c b d force (.created t) [.backend c (.imported t b d)]
  | failed (new : s.again? w b d force = none) (alive : w.alive c) :
      Fetches s w c b d force .unavailable [.backend c (.importFailed b.id)]
  | lost (new : s.again? w b d force = none) (lost : ¬ w.alive c) :
      Fetches s w c b d force .unavailable []

/-- All that a resolution tells of frames is the call for an import. -/
theorem resolve_fetches (s : Slot) (w : World) (c : ContextId) (b : HardwareBuffer) (d : Dataspace)
    (force : Bool) : ∃ calls,
      framing (s.resolve w c b d force).world.history = framing w.history ++ calls
        ∧ s.Fetches w c b d force (s.resolve w c b d force).answer calls := by
  have clears := s.clear_writes unframed_calls w .normal
  have cleared : framing (s.clear w .normal).world.history = framing w.history := clears.framing
  have alive_same : (s.clear w .normal).world.alive c = w.alive c := clears.alive c
  unfold resolve
  cases again : s.again? w b d force with
  | some t =>
    rw [show (if force then none else s.match? w b d) = some t from again]
    exact ⟨[], (List.append_nil _).symm, .cached again⟩
  | none =>
    rw [show (if force then none else s.match? w b d) = none from again]
    dsimp only
    generalize s.clear w .normal = after at cleared alive_same
    unfold fill
    by_cases alive : w.alive c
    · rw [alive] at alive_same
      cases works : (after.world.backend c).importError with
      | none =>
        have history := importTexture_history after.object.pipeline b d alive_same works
        dsimp only
        rw [importTexture_answer _ b d alive_same works]
        refine ⟨[_], ?_, .created again alive _⟩
        show framing (importTexture _ _ _ _ _).1.history = _
        rw [history, framing_append, cleared]
        rfl
      | some e =>
        simp only [importTexture, if_pos alive_same, works]
        refine ⟨[_], ?_, .failed again alive⟩
        show framing (after.world.history ++ [_] ++ [_]) = _
        rw [framing_append, framing_append, cleared]
        exact List.append_nil _
    · rw [Bool.eq_false_iff.2 alive] at alive_same
      simp only [importTexture, alive_same]
      refine ⟨[], ?_, .lost again alive⟩
      show framing (after.world.history ++ [_]) = _
      rw [framing_append, cleared]
      rfl

end Slot

namespace Updater

/-- What the sink of an updater is told of a frame that it takes over. -/
def news (u : Updater) (frame : Frame) (issued : Option FenceClass) (r : Resolved) :
    FrameLatched where
  frameIndex := u.framesLatched + 1
  pipeline := u.config.pipeline
  slot := frame.slot
  buffer := frame.buffer.id
  outcome := r.outcome
  releaseFence := issued
  forceFilter := u.needsFilter frame

/-- All that is told of a frame that an updater takes over: the calls to import it, the frame and
the news of it, and the image that is bound. -/
def telling (u : Updater) (frame : Frame) (issued : Option FenceClass) (r : Resolved)
    (calls : List Entry) : List Entry :=
  calls ++ [.latched u.id frame r, .event u.id u.sink (.frameLatched (u.news frame issued r))]
    ++ r.image?.toList.map (.bound u.id (u.needsFilter frame) frame.transform frame.crop)

/-- Binding an image tells of itself alone. -/
theorem bind_framing (u : Updater) (w : World) (forceFilter : Bool) (transform : TextureTransform)
    (crop : Rect) (t : TextureId) : framing (u.bind w forceFilter transform crop t).1.history
      = framing w.history ++ [.bound u.id forceFilter transform crop t] := by
  refine (letGoOf_writes unframed_calls _ _).framing.trans ?_
  rw [record_history, framing_append]
  rfl

/-- A latch tells of its frame, and of nothing else. -/
theorem latch_framing (u : Updater) (w : World) (frame : Frame) (issued : Option FenceClass) :
    ∃ calls, framing (u.latch w frame issued).1.history
        = framing w.history ++ u.telling frame issued (u.resolution w frame).answer calls
      ∧ (u.cache.entry frame.slot).Fetches w u.context frame.buffer frame.dataspace
        frame.forceRecreate (u.resolution w frame).answer calls := by
  obtain ⟨calls, grown, fetches⟩ := (u.cache.entry frame.slot).resolve_fetches w u.context
    frame.buffer frame.dataspace frame.forceRecreate
  refine ⟨calls, ?_, fetches⟩
  have resolved : framing (u.resolution w frame).world.history = framing w.history ++ calls := grown
  unfold latch telling
  dsimp only
  change framing (resolution u w frame).world.history = _ at resolved
  unfold resolution at resolved ⊢
  generalize u.cache.resolve w u.context frame.slot frame.buffer frame.dataspace
    frame.forceRecreate = after at resolved ⊢
  have told : framing ((after.world.record (.latched u.id frame after.answer)).trace u.id
      u.sink (.frameLatched (u.news frame issued after.answer))).history
        = framing w.history ++ (calls ++ [.latched u.id frame after.answer,
          .event u.id u.sink (.frameLatched (u.news frame issued after.answer))]) := by
    show framing (after.world.history ++ [_] ++ [_]) = _
    rw [framing_append, framing_append, resolved, List.append_assoc, List.append_assoc]
    rfl
  cases shown : after.answer.image? with
  | none =>
    rw [Option.toList_none, List.map_nil, List.append_nil]
    exact told
  | some t =>
    dsimp only
    rw [bind_framing, Option.toList_some, List.map_singleton, ← List.append_assoc]
    exact congrArg (· ++ [_]) told

end Updater

-- ==================================================== sessions

namespace Session

variable {s : Session} {i : UpdaterId} {locked : Option UpdaterId}

/-- All that the history of a session tells of frames. -/
def frames (s : Session) : List Entry := framing s.world.history

/-- A list of steps that leave the frames. -/
theorem frames_foldl {α : Type} {f : Session → α → Session}
    (h : ∀ s a, (f s a).frames = s.frames) (as : List α) (s : Session) :
    (as.foldl f s).frames = s.frames := by
  induction as generalizing s with
  | nil => rfl
  | cons a as ih => exact (ih _).trans (h s a)

/-- Writing an unframed entry leaves the frames. -/
theorem frames_record (s : Session) (unframed : e.Unframed) : (s.record e).frames = s.frames :=
  (Writes.record unframed).framing

/-- And so does a function that writes only such. -/
theorem frames_onUpdater {f : Updater → World → World × Updater}
    (writes : ∀ u w, Writes Entry.Unframed w (f u w).1) (s : Session) (id : UpdaterId) :
    (s.onUpdater id f).frames = s.frames := by
  unfold onUpdater
  split
  · exact (writes _ _).framing
  · rfl

theorem frames_hold (s : Session) (p : Participant) : (s.hold p).frames = s.frames := by
  cases p <;> rfl

theorem frames_letGo (s : Session) (p : Participant) : (s.letGo p).frames = s.frames := by
  unfold letGo
  cases p with
  | updater id =>
    dsimp only
    split
    · split
      · exact (Updater.discard_unframed _ _).framing
      · rfl
    · rfl
  | observer id =>
    dsimp only
    split
    · split <;> rfl
    · rfl

theorem frames_dropUpdater (s : Session) (name : String) :
    (s.dropUpdater name).frames = s.frames := by
  unfold dropUpdater
  split
  · exact frames_letGo _ _
  · rfl

theorem frames_dropObserver (s : Session) (name : String) :
    (s.dropObserver name).frames = s.frames := by
  unfold dropObserver
  split
  · exact frames_letGo _ _
  · rfl

section Destroy

variable {destroy : Destroyer} (destroys : ∀ s c, (destroy s c).1.frames = s.frames)

include destroys

/-- Whatever an observer does, the frames stay. -/
theorem frames_act (s : Session) (o : Observer) (action : ObserverAction) :
    (act destroy s o action).frames = s.frames := by
  have acted : ∀ (s' : Session) r, (s'.record (.acted o.name action r)).frames = s'.frames :=
    fun s' r => frames_record s' rfl
  cases action with
  | count => exact acted s _
  | destroy => exact (acted _ _).trans (destroys s o.context)
  | register name =>
    refine (acted _ _).trans ?_
    cases s.observerNames.get? name <;> rfl
  | letGo name =>
    exact (acted _ _).trans ((frames_dropUpdater _ name).trans (frames_dropObserver s name))

/-- Telling a participant leaves the frames. -/
theorem frames_notify (c : ContextId) (s : Session) (p : Participant) :
    (notify destroy locked c s p).frames = s.frames := by
  unfold notify
  split
  · rfl
  · have told : (s.record (.told c p)).frames = s.frames := frames_record s rfl
    cases p with
    | updater id =>
      exact (frames_onUpdater (fun u w => u.teardown_unframed w .contextLost) _ id).trans told
    | observer id =>
      dsimp only
      split
      · refine (frames_foldl (fun s => frames_act destroys s _) _ _).trans ?_
        exact (frames_record (e := .notified _ _ _) _ rfl).trans told
      · exact told

end Destroy

/-- The destruction of a context leaves the frames. -/
theorem frames_destroyWithin (locked : Option UpdaterId) (depth : Nat) (s : Session)
    (c : ContextId) : (destroyWithin locked depth s c).1.frames = s.frames := by
  induction depth generalizing s c with
  | zero => rfl
  | succ depth ih =>
    unfold destroyWithin
    split
    · refine (frames_foldl frames_letGo _ _).trans ?_
      refine (frames_foldl (frames_notify ih c) _ _).trans ?_
      refine (frames_foldl frames_hold _ _).trans ?_
      exact frames_record (e := .note (.contextDestroyed c _)) s rfl
    · rfl

/-- Callbacks tell of no frame, whatever they bring about. -/
theorem frames_runScript (s : Session) (owner : Option UpdaterId) (state : Option ContextId)
    (fences : DequeueFences) (script : List ScriptItem) :
    (s.runScript owner state fences script).session.frames = s.frames := by
  induction script generalizing s fences with
  | nil => rfl
  | cons item items ih =>
    refine (ih _ _).trans ?_
    cases item with
    | fence useSync => exact (fences.createFence_unframed s.world useSync).framing
    | wait fd => exact (fences.gate.wait_unframed s.world fd).framing
    | adjust settings => rfl
    | notify =>
      cases owner with
      | none => rfl
      | some id =>
        exact frames_onUpdater (f := fun u w => u.post w) (fun _ _ => .record rfl) s id
    | destroy =>
      cases state with
      | none => rfl
      | some c =>
        exact (frames_record (e := .destroyed _) _ rfl).trans (frames_destroyWithin owner _ s c)

-- ==================================================== an apply

variable {u : Updater} {ref : SourceRef} {source : Source} {frame : Frame}

/-- The start of an apply leaves the frames. -/
theorem frames_begun (s : Session) (i : UpdaterId) (u : Updater) :
    (s.begun i u).frames = s.frames := by
  have taken : ((s.hold (.updater i)).onUpdater i fun u w =>
      ((u.beginApply w).world, (u.beginApply w).object)).frames = s.frames :=
    (frames_onUpdater (fun u w => u.beginApply_unframed w) _ i).trans (frames_hold s (.updater i))
  unfold begun
  dsimp only
  cases (u.beginApply s.world).answer with
  | none => exact taken
  | some ref => exact (frames_record (e := .source ref .dequeueBegun) _ rfl).trans taken

/-- And so does its end. -/
theorem frames_finish (s : Session) (i : UpdaterId) : (s.finish i).frames = s.frames :=
  (frames_letGo _ _).trans (frames_onUpdater (fun _ w => .refl w) s i)

/-- A source that is heard tells what it got, and its script tells nothing of frames. -/
theorem frames_replied (s : Session) (i : UpdaterId) (u : Updater) (ref : SourceRef)
    (source : Source) : (s.replied i u ref source).frames
      = s.frames ++ [.source ref (.dequeued (s.heard i u ref source).answer)] := by
  have asking : (s.asking i u ref source).frames = s.frames := frames_begun s i u
  have heard : (s.heard i u ref source).session.frames = s.frames :=
    (frames_runScript _ _ _ _ _).trans asking
  rw [← heard]
  exact framing_append _ _

/-- A source that is asked answers with its next frame. -/
theorem dequeue_answer (s : Session) (i : UpdaterId) (ref : SourceRef) (fences : DequeueFences) :
    (s.dequeue i ref fences).answer
      = (s.sources.get? ref.id).bind fun source => source.next.1 := by
  cases there : s.sources.get? ref.id with
  | none =>
    unfold dequeue
    dsimp only
    rw [show (s.record _).sources = s.sources from rfl, there]
    rfl
  | some source =>
    rw [Option.bind_some]
    by_cases heard : source.isHeard
    · rw [dequeue_heard there heard]
    · have silent : ¬ (source.next.1.isSome || source.always) := heard
      unfold dequeue
      dsimp only
      rw [show (s.record _).sources = s.sources from rfl, there]
      dsimp only
      rw [if_neg silent]
      cases next : source.next.1 with
      | none => rfl
      | some frame => simp [next] at silent

/-- The frame that an apply of updater `i`, which is `u`, gets from its source, if it asks it. -/
def delivery (s : Session) (i : UpdaterId) (u : Updater) : Option Frame :=
  if u.destroyed then none
  else (u.beginApply s.world).answer.bind fun ref =>
    (((s.hold (.updater i)).onUpdater i fun u w =>
      ((u.beginApply w).world, (u.beginApply w).object)).dequeue i ref u.fences).answer

/-- An apply delivers the next frame of its source if the updater lives and asks. -/
theorem delivery_eq (s : Session) (i : UpdaterId) (u : Updater) : s.delivery i u
    = if u.destroyed then none
      else (u.beginApply s.world).answer.bind fun ref =>
        (s.sources.get? ref.id).bind fun source => source.next.1 := by
  unfold delivery
  simp only [dequeue_answer, onUpdater_sources]
  rfl

/-- An apply that gets no frame tells of none, but perhaps of what the source got. -/
theorem apply_frames_none (found : s.updaterOf? i = some u) (none : s.delivery i u = none) :
    ∃ answers, (s.apply i).frames = s.frames ++ answers
      ∧ ∀ e ∈ answers, ∃ ref results, e = .source ref (.dequeued results) := by
  have still : ∀ {t : Session}, t.frames = s.frames → ∃ answers, t.frames = s.frames ++ answers
      ∧ ∀ e ∈ answers, ∃ ref results, e = .source ref (.dequeued results) := fun same =>
    ⟨[], by rw [same, List.append_nil], List.forall_mem_nil _⟩
  have finished : ((s.begun i u).finish i).frames = s.frames :=
    (frames_finish _ i).trans (frames_begun s i u)
  by_cases live : u.destroyed
  · have ignored : s.apply i = s.onWorld (·.note .applyIgnored) := by
      unfold apply
      rw [found]
      exact if_pos live
    rw [ignored]
    exact still (frames_record (e := .note .applyIgnored) s rfl)
  · rw [delivery_eq, if_neg live] at none
    cases asks : (u.beginApply s.world).answer with
    | none =>
      rw [apply_unasked found live asks]
      exact still finished
    | some ref =>
      rw [asks, Option.bind_some] at none
      by_cases heard : ∃ source, s.sources.get? ref.id = some source ∧ source.isHeard
      · obtain ⟨source, there, heard⟩ := heard
        rw [there, Option.bind_some] at none
        rw [apply_heard found live asks there heard, none]
        refine ⟨[_], (frames_finish _ i).trans (s.frames_replied i u ref source), ?_⟩
        exact fun e mem => ⟨ref, _, List.mem_singleton.1 mem⟩
      · obtain ⟨sources, same⟩ := apply_unheard found live asks fun source there heard' =>
          heard ⟨source, there, heard'⟩
        rw [same]
        exact still ((frames_finish _ i).trans (frames_begun s i u))

/-- An apply that gets a frame has asked a source that was heard. -/
theorem delivery_some (delivered : s.delivery i u = some frame) : ∃ ref source, ¬ u.destroyed
    ∧ (u.beginApply s.world).answer = some ref ∧ s.sources.get? ref.id = some source
    ∧ source.next.1 = some frame ∧ source.isHeard := by
  rw [delivery_eq] at delivered
  split at delivered
  · cases delivered
  · next live =>
    obtain ⟨ref, asks, delivered⟩ := Option.bind_eq_some_iff.1 delivered
    obtain ⟨source, there, next⟩ := Option.bind_eq_some_iff.1 delivered
    refine ⟨ref, source, live, asks, there, next, ?_⟩
    rw [Source.isHeard, next]
    rfl

end Session

end LayerFeed
