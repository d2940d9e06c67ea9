/-
How the image on a layer is sampled. Image, crop, transform and filtering come onto a layer
together or not at all: by a bind that a caller asks for, or by a latch whose frame was resolved
to an image. All that such a latch binds stands in the history, in the entry of the frame and in
what the sink is told (`latchBind?`), so what is on a layer can be read off the calls of a run:
it is the last bind since the layer was made (`run_samples`).

A frame whose texture is found in its slot is bound like any other, also when the context is
lost by then, because nothing has to be imported for it (`lostContext_samples`).
-/
import LayerFeed.Proofs.Session.Applied
import LayerFeed.Proofs.Session.Rooted

namespace LayerFeed

open World

-- ==================================================== samplings

/-- The image that a layer shows and the parameters for sampling it. -/
structure Sampling where
  image : Option TextureId
  crop : Rect
  windowTransform : TextureTransform
  forceFilter : Bool
deriving DecidableEq

namespace Sampling

/-- What a layer has that nothing was bound to. -/
def unbound : Sampling := ⟨none, .zero, .identity, false⟩

/-- What the latch of a frame binds that was resolved to an image. -/
def ofFrame (frame : Frame) (forceFilter : Bool) (t : TextureId) : Sampling :=
  ⟨some t, frame.crop, frame.transform, forceFilter⟩

end Sampling

def Layer.sampling (l : Layer) : Sampling := ⟨l.image, l.crop, l.windowTransform, l.forceFilter⟩

/-- The sampling of an updater's layer; without a layer that of a new one. -/
def Updater.sampling (u : Updater) : Sampling := u.layer.elim .unbound Layer.sampling

namespace Updater

variable {u v : Updater}

/-- How an updater samples is read off its layer. -/
theorem sampling_congr (same : v.layer = u.layer) : v.sampling = u.sampling :=
  congrArg (Option.elim · Sampling.unbound Layer.sampling) same

/-- A new size leaves the sampling. -/
theorem sizedLayer_sampling (u : Updater) : u.sizedLayer.sampling = u.sampling := by
  unfold sizedLayer sampling
  cases u.layer <;> rfl

/-- So does the paint. -/
theorem commitPaint_sampling (u : Updater) : u.commitPaint.sampling = u.sampling :=
  u.sizedLayer_sampling

/-- So does the transform. -/
theorem commitTransform_sampling (u : Updater) : u.commitTransform.sampling = u.sampling := by
  unfold commitTransform
  cases u.transform with
  | none => rfl
  | some t => exact u.sizedLayer_sampling

/-- A latch binds all that belongs to its frame, or nothing. -/
theorem latch_sampling (u : Updater) (w : World) (frame : Frame) (issued : Option FenceClass) :
    (u.latch w frame issued).2.sampling
      = ((u.resolution w frame).answer.image?.map
          (Sampling.ofFrame frame (u.needsFilter frame))).getD u.sampling := by
  unfold latch resolution
  dsimp only
  cases (u.cache.resolve w u.context frame.slot frame.buffer frame.dataspace
    frame.forceRecreate).answer.image? <;> rfl

end Updater

-- ==================================================== binds in a history

/-- The frame that updater `i` takes over, and how it was resolved, if the entry says so. -/
def Entry.latchOf? (i : UpdaterId) : Entry → Option (Frame × Resolved)
  | .latched j frame resolved => if j = i then some (frame, resolved) else none
  | _ => none

/-- What the sink of updater `i` is told of a frame, if the entry says so. -/
def Entry.newsOf? (i : UpdaterId) : Entry → Option FrameLatched
  | .event j _ (.frameLatched news) => if j = i then some news else none
  | _ => none

/-- What a latch of updater `i` bound that entries tell of: the image that the frame was resolved
to, with the frame's crop and transform and the filtering that the sink was told of. -/
def latchBind? (i : UpdaterId) (es : List Entry) : Option Sampling :=
  (es.findSome? (Entry.latchOf? i)).bind fun latch =>
    (es.findSome? (Entry.newsOf? i)).bind fun told =>
      latch.2.image?.map (.ofFrame latch.1 told.forceFilter)

variable {i : UpdaterId} {e : Entry} {es fs : List Entry}

theorem latchOf?_eq_none (other : ¬ e.Latching i) : e.latchOf? i = none := by
  cases e with
  | latched j frame resolved => exact if_neg other
  | _ => rfl

theorem newsOf?_eq_none (other : ¬ e.Latching i) : e.newsOf? i = none := by
  cases e with
  | event j sink event =>
    cases event with
    | frameLatched told => exact if_neg other
    | _ => rfl
  | _ => rfl

/-- Without a latch nothing is bound. -/
theorem latchBind?_quiet (quiet : ∀ e ∈ es, ¬ e.Latching i) : latchBind? i es = none := by
  have none : es.findSome? (Entry.latchOf? i) = none :=
    List.findSome?_eq_none_iff.2 fun e mem => latchOf?_eq_none (quiet e mem)
  rw [latchBind?, none, Option.bind_none]

theorem latchBind?_latched (quiet : ∀ e ∈ es, ¬ e.Latching i) (frame : Frame) (r : Resolved)
    (sink : Sink) (told : FrameLatched) :
    latchBind? i (es ++ .latched i frame r :: .event i sink (.frameLatched told) :: fs)
      = r.image?.map (.ofFrame frame told.forceFilter) := by
  have frames : es.findSome? (Entry.latchOf? i) = none :=
    List.findSome?_eq_none_iff.2 fun e mem => latchOf?_eq_none (quiet e mem)
  have news : es.findSome? (Entry.newsOf? i) = none :=
    List.findSome?_eq_none_iff.2 fun e mem => newsOf?_eq_none (quiet e mem)
  have frame? : (Entry.latched i frame r).latchOf? i = some (frame, r) := if_pos rfl
  have none : (Entry.latched i frame r).newsOf? i = none := rfl
  have told? : (Entry.event i sink (.frameLatched told)).newsOf? i = some told := if_pos rfl
  simp [latchBind?, List.findSome?_append, frames, news, frame?, none, told?]

theorem Entry.Minor.not_latching (minor : e.Minor) : ¬ e.Latching i := by
  cases e with
  | backend | bound | note => exact fun latching => latching
  | _ => cases minor

-- ==================================================== an apply

namespace Session

variable {s s' : Session} {u v : Updater} {w : World} {x : World × Updater}

/-- What an apply does to what is sampled, and what it tells: it takes no frame over and keeps the
sampling, or it takes one over and binds what the frame was resolved to. -/
inductive Takes (i : UpdaterId) (u v : Updater) : List Entry → Prop
  | nothing {es : List Entry} (quiet : ∀ e ∈ es, ¬ e.Latching i)
      (same : v.sampling = u.sampling) : Takes i u v es
  | frame {es fs : List Entry} (frame : Frame) (r : Resolved) (sink : Sink) (told : FrameLatched)
      (before : ∀ e ∈ es, ¬ e.Latching i) (after : ∀ e ∈ fs, ¬ e.Latching i)
      (sampling : v.sampling
        = (r.image?.map (.ofFrame frame told.forceFilter)).getD u.sampling)
      -- a texture was created by a call to the updater's context, just before
      (created : ∀ t, r = .created t →
        ∃ es' b d, es = es' ++ [.backend u.context (.imported t b d)]) :
      Takes i u v (es ++ .latched i frame r :: .event i sink (.frameLatched told) :: fs)

/-- An apply takes the sampling of what it latched. -/
theorem Applies.takes (applies : Applies i u w x) (own : u.id = i) :
    ∃ es, x.1.history = w.history ++ es ∧ Takes i u x.2 es := by
  cases applies with
  | idle attached mailbox quiet =>
    obtain ⟨es, grown, quiet⟩ := quiet
    exact ⟨es, grown, .nothing quiet u.commitPaint_sampling⟩
  | @latches w' attached mailbox frame issued quiet =>
    obtain ⟨es, grown, before⟩ := quiet
    generalize begun : ({ u.commitPaint with consumerAttached := attached, mailbox } : Updater) = v
    have id : v.id = i := by rw [← begun]; exact own
    have context : v.context = u.context := by rw [← begun]; rfl
    have sampled : v.sampling = u.sampling := by rw [← begun]; exact u.commitPaint_sampling
    obtain ⟨told, fs, history, ⟨filter, -⟩, after⟩ := v.latch_history w' frame issued
    obtain ⟨gs, grown', minor⟩ := (v.resolution_minor w' frame).history
    have before : ∀ e ∈ es ++ gs, ¬ e.Latching i := fun e mem =>
      (List.mem_append.1 mem).elim (before e) fun mem => (minor e mem).not_latching
    have after : ∀ e ∈ fs, ¬ e.Latching i := fun e mem => (after e mem).not_latching
    refine ⟨_, ?_, .frame frame (v.resolution w' frame).answer v.sink told before after ?_
      fun t created => ?_⟩
    · rw [history, grown', grown, id]
      simp only [List.append_assoc]
    · rw [v.latch_sampling, filter, sampled]
    · obtain ⟨gs', imports, -⟩ := Slot.resolve_imports created
      have imports : (v.resolution w' frame).world.history = _ := imports
      rw [grown', List.append_assoc] at imports
      refine ⟨es ++ gs', frame.buffer, frame.dataspace, ?_⟩
      rw [List.append_cancel_left imports, context, List.append_assoc]

/-- What is bound is read off what was told. -/
theorem Takes.sampling (takes : Takes i u v es) :
    v.sampling = (latchBind? i es).getD u.sampling := by
  cases takes with
  | nothing quiet same =>
    rw [latchBind?_quiet quiet, same]
    rfl
  | frame frame r sink told before after sampling => rw [latchBind?_latched before, sampling]

/-- At most one frame is taken over. -/
theorem Takes.once (takes : Takes i u v es) : (es.filterMap (Entry.latchOf? i)).length ≤ 1 := by
  have none : ∀ {es : List Entry}, (∀ e ∈ es, ¬ e.Latching i) →
      es.filterMap (Entry.latchOf? i) = [] := fun quiet =>
    List.filterMap_eq_nil_iff.2 fun e mem => latchOf?_eq_none (quiet e mem)
  cases takes with
  | nothing quiet => simp [none quiet]
  | frame frame r sink told before after =>
    simp [List.filterMap_append, List.filterMap_cons, none before, none after,
      Entry.latchOf?]

-- ==================================================== binds of a run

/-- What a command writes into the history. -/
def written (s : Session) (command : Command) : List Entry :=
  (s.exec command).1.world.history.drop s.world.history.length

/-- What a command binds to the layer of updater `i`: the image of a bind, or what an apply
latches. -/
def bindBy? (i : UpdaterId) (s : Session) (command : Command) : Option Sampling :=
  if s.recipient? command = some i then
    match command with
    | .bind _ forceFilter windowTransform crop image =>
      (s.images.get? image).map fun t => ⟨some t, crop, windowTransform, forceFilter⟩
    | .apply _ => latchBind? i (s.written command)
    | _ => none
  else none

/-- A command to another updater binds nothing for `i`. -/
theorem bindBy?_other {command : Command} (other : s.recipient? command ≠ some i) :
    bindBy? i s command = none := if_neg other

/-- The layer of updater `i`. -/
def layerOf? (s : Session) (i : UpdaterId) : Option Layer := (s.updaterOf? i).bind Updater.layer

/-- What commands bind to the layer of updater `i`, after `binds`, since the layer was made. -/
def bindsOf (i : UpdaterId) (s : Session) (binds : List Sampling) : List Command → List Sampling
  | [] => binds
  | command :: commands =>
    let after := (s.exec command).1
    bindsOf i after
      (if (after.layerOf? i).isSome then binds ++ (bindBy? i s command).toList else []) commands

/-- The binds of a run and one command more. -/
theorem bindsOf_snoc (s : Session) (binds : List Sampling) (commands : List Command)
    (command : Command) : bindsOf i s binds (commands ++ [command])
      = if ((s.run (commands ++ [command])).layerOf? i).isSome then
          bindsOf i s binds commands ++ (bindBy? i (s.run commands) command).toList
        else [] := by
  induction commands generalizing s binds with
  | nil => rfl
  | cons first commands ih => exact ih _ _

/-- The sampling of the layer of updater `i`; without a layer that of a new one. -/
def samplingOf (s : Session) (i : UpdaterId) : Sampling :=
  (s.layerOf? i).elim .unbound Layer.sampling

theorem samplingOf_of_found (found : s.updaterOf? i = some u) : s.samplingOf i = u.sampling := by
  unfold samplingOf layerOf? Updater.sampling
  rw [found, Option.bind_some]

/-- A drift keeps the sampling of a layer that is there afterwards. -/
theorem drift_sampling {exposed : Prop} (drift : Updater.Drift exposed u v)
    (layer : v.layer.isSome) : v.sampling = u.sampling := by
  cases drift with
  | untouched => rfl
  | tornDown => cases layer

/-- What a command has written is what it has added. -/
theorem written_of_grown {command : Command} {es : List Entry}
    (grown : (s.exec command).1.world.history = s.world.history ++ es) :
    s.written command = es := by
  rw [written, grown, List.drop_left]

/-- What an apply of an updater tells, it did. -/
theorem Obeys.takes {name : String} (obeys : Obeys s i u (.apply name) v) (kept : s.Kept)
    (named : s.updaterNames.get? name = some i) (found : s.updaterOf? i = some u) :
    Takes i u v (s.written (.apply name)) := by
  cases obeys with
  | ignores name gone =>
    have ignored : (s.exec (.apply name)).1.world.history
        = s.world.history ++ [.note .applyIgnored] := by
      simp only [exec, named, Session.apply, found, if_pos gone]
      rfl
    rw [written_of_grown ignored]
    exact .nothing (by simp [Entry.Latching]) rfl
  | @apply name live x applies world =>
    obtain ⟨h, entered, rfl⟩ := Option.map_eq_some_iff.1 found
    obtain ⟨es, grown, takes⟩ := applies.takes (kept.order.sound.numbered.updaters i h entered).2
    rw [written_of_grown (by rw [world, grown])]
    have same : x.2.commitTransform.sampling = x.2.sampling := x.2.commitTransform_sampling
    cases takes with
    | nothing quiet kept => exact .nothing quiet (same.trans kept)
    | frame frame r sink told before after sampling created =>
      exact .frame frame r sink told before after (same.trans sampling) created

/-- What is on an updater's layer after a command to it is what the command bound, or what was
there. -/
theorem Obeys.sampling {command : Command} (obeys : Obeys s i u command v) (kept : s.Kept)
    (addressed : s.recipient? command = some i) (found : s.updaterOf? i = some u)
    (layer : v.layer.isSome) : v.sampling = (bindBy? i s command).getD u.sampling := by
  unfold bindBy?
  rw [if_pos addressed]
  cases obeys with
  | setSink | post | setTransform | setPaint => rfl
  | setSize name width height => exact Updater.sampling_congr (setSize_layer u width height)
  | setBlend name blend => exact Updater.sampling_congr (setBlend_layer u blend)
  | attach name source queue state w ref =>
    obtain ⟨cache, -, same⟩ := u.attach_object w ref
    exact Updater.sampling_congr (by rw [same])
  | detach name w =>
    obtain ⟨cache, same⟩ := u.detach_object w
    exact Updater.sampling_congr (by rw [same])
  | teardown name w mode => exact drift_sampling (Updater.teardown_drift trivial u w mode) layer
  | contextDestroyed name w =>
    exact drift_sampling (Updater.teardown_drift trivial u w .contextLost) layer
  | bind name forceFilter transform crop image there =>
    dsimp only
    rw [there]
    rfl
  | misses name forceFilter transform crop image absent =>
    dsimp only
    rw [absent]
    rfl
  | ignores name gone => exact (Obeys.takes (.ignores name gone) kept addressed found).sampling
  | apply name live applies world =>
    exact (Obeys.takes (.apply name live applies world) kept addressed found).sampling

/-- What is on a layer after a command is what the command bound, or what was there. -/
theorem exec_sampling (kept : s.Kept) {command : Command}
    (layer : ((s.exec command).1.layerOf? i).isSome) :
    (s.exec command).1.samplingOf i = (bindBy? i s command).getD (s.samplingOf i) := by
  unfold layerOf? at layer
  cases found : (s.exec command).1.updaterOf? i with
  | none =>
    rw [found] at layer
    cases layer
  | some v =>
    rw [found, Option.bind_some] at layer
    rw [samplingOf_of_found found]
    by_cases addressed : s.recipient? command = some i
    · obtain ⟨u, there, obeys⟩ := exec_obeys kept addressed found
      rw [samplingOf_of_found there]
      exact obeys.sampling kept addressed there layer
    · rw [bindBy?_other addressed, Option.getD_none]
      rcases exec_drifts addressed with drifts | ⟨new, comes⟩
      · obtain ⟨u, there, drift⟩ := drifts v found
        rw [samplingOf_of_found there]
        exact drift_sampling drift layer
      · obtain ⟨c, config, sink, drift⟩ := comes v found
        have absent := updaterOf?_of_unborn kept.order (Nat.le_of_eq new.symm)
        rw [drift_sampling drift layer, samplingOf, layerOf?, absent]
        rfl

/-- What is on a layer was bound last since the layer was made. -/
theorem run_sampling (kept : s.Kept) (absent : s.updaterOf? i = none) (commands : List Command) :
    (s.run commands).samplingOf i = (bindsOf i s [] commands).getLast?.getD .unbound := by
  induction commands using List.reverseRecOn with
  | nil =>
    show s.samplingOf i = _
    rw [samplingOf, layerOf?, absent]
    rfl
  | append_singleton commands command ih =>
    rw [bindsOf_snoc]
    split
    · next layer =>
      rw [run_snoc] at layer ⊢
      rw [exec_sampling (kept.run commands) layer, ih]
      cases bindBy? i (s.run commands) command with
      | none => rw [Option.toList_none, List.append_nil, Option.getD_none]
      | some bound =>
        rw [Option.toList_some, List.getLast?_concat, Option.getD_some, Option.getD_some]
    · next none =>
      rw [samplingOf, Option.not_isSome_iff_eq_none.1 none]
      rfl

-- ==================================================== every run

/-- How the layer of updater `i` is sampled, in the session that commands lead to and with one
more command. -/
structure Samples (i : UpdaterId) (s₀ : Session) (commands : List Command) : Prop where
  /-- A layer has all that was bound last since it was made, and what a new layer has if nothing
  was bound. -/
  bound : ∀ l, (s₀.run commands).layerOf? i = some l →
    l.sampling = (bindsOf i s₀ [] commands).getLast?.getD .unbound
  /-- A command that binds nothing to the layer leaves its sampling as it is. -/
  stays : ∀ command l l', (s₀.run commands).layerOf? i = some l →
    (s₀.run (commands ++ [command])).layerOf? i = some l' →
    bindBy? i (s₀.run commands) command = none → l'.sampling = l.sampling
  /-- So does an apply that takes no frame over, or one for which the import failed; and under a
  lost context every frame is such a one that did not find its texture. An apply takes at most
  one frame over. -/
  failed : ∀ name u l l', (s₀.run commands).updaterNames.get? name = some i →
    (s₀.run commands).updaterOf? i = some u → u.layer = some l →
    (s₀.run (commands ++ [.apply name])).layerOf? i = some l' →
    let told := (s₀.run commands).written (.apply name)
    (told.filterMap (Entry.latchOf? i)).length ≤ 1
      ∧ ((∀ before frame r after, told = before ++ .latched i frame r :: after →
          r = .unavailable
            ∨ LostIn u.context ((s₀.run commands).world.history ++ before)
              ∧ ∀ t, r ≠ .cached t) →
        l'.sampling = l.sampling)
  /-- The image that a frame was resolved to is of the frame's buffer and dataspace, from then
  on. -/
  shows : ∀ frame r t, .latched i frame r ∈ (s₀.run commands).world.history →
    r.image? = some t → ∃ view, (s₀.run commands).world.imageView? t = some view
      ∧ view.buffer = frame.buffer.id ∧ view.dataspace = frame.dataspace

/-- Nothing is imported under a lost context. -/
theorem Ledger.not_imported {w : World} (ledger : w.Ledger) {pre post : List Entry}
    {c : ContextId} {t : TextureId} {b : HardwareBuffer} {d : Dataspace}
    (split : w.history = pre ++ .backend c (.imported t b d) :: post) : ¬ LostIn c pre := by
  intro lost
  obtain ⟨t', abandons⟩ := ledger.silent pre _ post split c _ rfl lost
  cases abandons

/-- An apply that takes no frame over whose texture it found or imported. -/
theorem Takes.failed (takes : Takes i u v es) {w : World} (ledger : w.Ledger) {h : List Entry}
    (grown : w.history = h ++ es)
    (fails : ∀ before frame r after, es = before ++ .latched i frame r :: after →
      r = .unavailable ∨ LostIn u.context (h ++ before) ∧ ∀ t, r ≠ .cached t) :
    v.sampling = u.sampling := by
  cases takes with
  | nothing quiet same => exact same
  | @frame es fs frame r sink told before after sampling created =>
    rw [sampling]
    rcases fails es frame r _ rfl with rfl | ⟨lost, uncached⟩
    · rfl
    · cases r with
      | unavailable => rfl
      | cached t => exact absurd rfl (uncached t)
      | created t =>
        obtain ⟨es', b, d, rfl⟩ := created t rfl
        have imported : w.history = (h ++ es') ++ .backend u.context (.imported t b d)
            :: .latched i frame (.created t) :: .event i sink (.frameLatched told) :: fs := by
          rw [grown]
          simp
        refine absurd ?_ (Ledger.not_imported ledger imported)
        obtain ⟨n, mem⟩ := lost
        exact ⟨n, by simpa [or_assoc] using mem⟩

/-- In every run the image on a layer and the parameters for sampling it are those of one bind,
the last since the layer was made. -/
theorem run_samples (minimal : Bool) (b : Backend) (commands : List Command) (i : UpdaterId) :
    Samples i (start minimal b) commands := by
  have kept := kept_run minimal b
  have sampling : ∀ {s : Session} {l}, s.layerOf? i = some l → s.samplingOf i = l.sampling := by
    intro s l layer
    rw [samplingOf, layer]
    rfl
  refine ⟨fun l layer => ?_, fun command l l' layer layer' none => ?_, ?_, ?_⟩
  · rw [← sampling layer]
    exact run_sampling (kept_start minimal b) rfl commands
  · rw [← sampling layer, ← sampling layer']
    rw [run_snoc] at layer' ⊢
    rw [exec_sampling (kept commands) (by rw [layer']; rfl), none, Option.getD_none]
  · intro name u l l' named found layer layer'
    have before : u.sampling = l.sampling := by rw [Updater.sampling, layer]; rfl
    rw [run_snoc] at layer'
    obtain ⟨v, found', layer'⟩ := Option.bind_eq_some_iff.1 layer'
    have after : v.sampling = l'.sampling := by rw [Updater.sampling, layer']; rfl
    have addressed : ((start minimal b).run commands).recipient? (.apply name) = some i := named
    obtain ⟨u', there, obeys⟩ := exec_obeys (kept commands) addressed found'
    rw [found] at there
    cases there
    have takes := obeys.takes (kept commands) named found
    obtain ⟨es, grown⟩ := (exec_goes (kept commands) (.apply name)).moves.steps.history
      (kept commands).order.sound
    have sound := (kept commands).order.sound
    have ledger := (Steps.sound sound (exec_goes (kept commands) (.apply name)).moves.steps).ledger
    refine ⟨takes.once, fun fails => ?_⟩
    rw [← before, ← after]
    rw [written_of_grown grown] at takes fails
    exact takes.failed ledger grown fails
  · intro frame r t mem image
    obtain ⟨x, known, buffer, dataspace⟩ :=
      (run_rooted minimal b commands i).resolved frame t r mem image
    exact ⟨_, congrArg (Option.map _) known, buffer, dataspace⟩

/-- A frame, the loss of the context, and the same frame with another crop. -/
def lostContext : List Command :=
  let frame := Frame.ofBuffer ⟨0⟩ ⟨⟨1⟩, ⟨64, 32, 1⟩, none⟩ .srgb
  [.newUpdater "u" {} (.unregistered "s") .unchanged, .attach "u" "q" { frames := [frame] } none,
    .apply "u", .destroy "s", .push "q" [{ frame with crop := .zero }], .post "u"]

/-- A latch under a lost context binds a frame whose texture it finds: the crop on the layer is
the new one. -/
theorem lostContext_samples :
    let s := (start false {}).run lostContext
    let s' := (s.exec (.apply "u")).1
    (s.updaterOf? 1).map (fun u => s.world.alive u.context) = some false
      ∧ ((s.written (.apply "u")).filterMap (Entry.latchOf? 1)).map Prod.snd = [.cached 1]
      ∧ (s.layerOf? 1).map Layer.sampling = some ⟨some 1, .ofSize 64 32, .identity, true⟩
      ∧ (s'.layerOf? 1).map Layer.sampling = some ⟨some 1, .zero, .identity, true⟩ := by
  decide

end Session

end LayerFeed
