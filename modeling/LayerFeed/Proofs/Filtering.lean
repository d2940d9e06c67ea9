/-
Whether a layer is sampled with filtering. The flag is set as a frame is bound, for the size that
the layer has then (`boundSize?`), and nothing but another bind changes it. The size of the layer
may change all the same: an apply brings a new size onto the layer whether or not it binds a frame.
So the flag is right as long as the size of the image differs from that of the layer exactly if it
did so when the image was bound (`run_filtering`), and wrong otherwise: a layer of the image's size
that grows is sampled without filtering until the next frame is bound (`outgrown_filtering`).

What the layer shows was imported for a frame, perhaps for another one than the frame that was
bound, but for a frame with the same buffer. So the two have the same size if buffers with one
number have one description (`Coherent`).
-/
import LayerFeed.Proofs.Commitment
import LayerFeed.Proofs.FrameNews
import LayerFeed.Proofs.Session.Homed

namespace LayerFeed

open World

variable {i : UpdaterId} {h es : List Entry} {t : TextureId}

-- ==================================================== sizes

/-- Width and height of an image as they are shown, after the transform. -/
def ImageView.shownSize (view : ImageView) (transform : TextureTransform) : UInt32 × UInt32 :=
  if transform.swapsAxes then (view.height, view.width) else (view.width, view.height)

/-- Whether an image has to be sampled with filtering on a layer of the given size. -/
def Config.filters (config : Config) (view : ImageView) (transform : TextureTransform)
    (size : UInt32 × UInt32) : Bool :=
  config.filterOnSizeMismatch && view.shownSize transform != size

/-- The layer is sampled with filtering exactly if it has to be. -/
def Layer.Matches (l : Layer) (config : Config) (view : ImageView) : Prop :=
  l.forceFilter = config.filters view l.windowTransform (l.width, l.height)

/-- The flags for two sizes are the same if both or none of them is that of the image. -/
theorem Config.filters_eq_iff (config : Config) (view : ImageView) (transform : TextureTransform)
    (size size' : UInt32 × UInt32) :
    config.filters view transform size = config.filters view transform size'
      ↔ (config.filterOnSizeMismatch →
          (view.shownSize transform = size' ↔ view.shownSize transform = size)) := by
  unfold filters
  cases config.filterOnSizeMismatch with
  | false => simp
  | true =>
    rw [Bool.true_and, Bool.true_and, Bool.eq_iff_iff, bne_iff_ne, bne_iff_ne]
    exact ⟨fun same _ => (not_iff_not.1 same).symm, fun same => not_congr (same rfl).symm⟩

-- ==================================================== descriptions of buffers

/-- Among the frames that updater `i` took over, buffers with one number have one description. -/
def Coherent (i : UpdaterId) (h : List Entry) : Prop :=
  ∀ latch ∈ h.filterMap (Entry.latchOf? i), ∀ latch' ∈ h.filterMap (Entry.latchOf? i),
    latch.1.buffer.id = latch'.1.buffer.id → latch.1.buffer.desc = latch'.1.buffer.desc

theorem Coherent.of_append (coherent : Coherent i (h ++ es)) : Coherent i h := by
  have before : ∀ {latch}, latch ∈ h.filterMap (Entry.latchOf? i) →
      latch ∈ (h ++ es).filterMap (Entry.latchOf? i) := fun mem => by
    rw [List.filterMap_append]
    exact List.mem_append_left _ mem
  exact fun latch mem latch' mem' => coherent latch (before mem) latch' (before mem')

theorem Coherent.desc {frame frame' : Frame} {r r' : Resolved} (coherent : Coherent i h)
    (mem : .latched i frame r ∈ h) (mem' : .latched i frame' r' ∈ h)
    (same : frame.buffer.id = frame'.buffer.id) : frame.buffer.desc = frame'.buffer.desc :=
  have latch : ∀ {frame r}, .latched i frame r ∈ h → (frame, r) ∈ h.filterMap (Entry.latchOf? i) :=
    fun mem => List.mem_filterMap.2 ⟨_, mem, if_pos rfl⟩
  coherent _ (latch mem) _ (latch mem') same

/-- The command binds an image of the caller's. -/
def Command.isBind : Command → Bool
  | .bind _ _ _ _ _ => true
  | _ => false

-- ==================================================== an apply

theorem latchBind?_framing (i : UpdaterId) (h : List Entry) :
    latchBind? i (framing h) = latchBind? i h := by
  have latches : ∀ e : Entry, ¬ e.ofFrame → e.latchOf? i = none := by
    intro e other
    cases e with
    | latched => exact absurd rfl other
    | _ => rfl
  simp only [latchBind?, ← List.head?_filterMap, filterMap_framing h latches,
    filterMap_framing h (newsOf?_unframed i)]

namespace Session

variable {s s' : Session} {u v x : Updater} {frame : Frame} {ref : SourceRef} {source : Source}

/-- What an apply binds is its frame, with the image that the frame was resolved to. -/
theorem Delivers.binds (delivers : Delivers s i u frame ref source x) (own : x.id = i)
    (grown : (s.apply i).world.history = s.world.history ++ es) :
    latchBind? i es = (x.resolution (s.replied i u ref source).world frame).answer.image?.map
      (Sampling.ofFrame frame (x.needsFilter frame)) := by
  obtain ⟨calls, frames, fetches⟩ := delivers.frames
  generalize (x.resolution (s.replied i u ref source).world frame).answer = r at frames fetches ⊢
  rw [← latchBind?_framing, framing_of_frames grown frames, Updater.telling, own,
    List.append_assoc, ← List.cons_append]
  refine latchBind?_latched (fun e mem => ?_) frame r x.sink _
  rcases List.mem_cons.1 mem with rfl | mem
  · exact fun latching => latching
  · obtain ⟨c, call, rfl⟩ := fetches.backend e mem
    exact fun latching => latching

/-- What is imported for a frame, or was imported for an earlier one and is found, has the
description of the frame's buffer. -/
theorem Delivers.described (delivers : Delivers s i u frame ref source x) (own : x.id = i)
    (sound : (s.apply i).Sound) (rooted : (s.apply i).Rooted i)
    (coherent : Coherent i (s.apply i).world.history)
    (image : (x.resolution (s.replied i u ref source).world frame).answer.image? = some t) :
    ∃ y, (s.apply i).world.texture? t = some y ∧ y.buffer.desc = frame.buffer.desc := by
  obtain ⟨calls, frames, fetches⟩ := delivers.frames
  generalize (x.resolution (s.replied i u ref source).world frame).answer = r
    at frames fetches image
  have told : ∀ e, e ∈ x.telling frame
      ((lastFence (s.heard i u ref source).answer).map ReleaseFence.fenceClass) r calls →
      e ∈ (s.apply i).world.history := by
    intro e mem
    have among : e ∈ (s.apply i).frames := by
      rw [frames]
      exact List.mem_append_right _ (List.mem_cons_of_mem _ mem)
    exact (List.mem_filter.1 among).1
  have taken : .latched i frame r ∈ (s.apply i).world.history :=
    told _ (by simp [Updater.telling, own])
  cases fetches with
  | failed | lost => cases image
  | created new alive t' =>
    cases image
    obtain ⟨y, known, -, buffer, -⟩ := sound.ledger.origin x.context t frame.buffer frame.dataspace
      (told _ (by simp [Updater.telling]))
    exact ⟨y, known, congrArg HardwareBuffer.desc buffer⟩
  | cached again =>
    cases image
    obtain ⟨pre, post, split⟩ := List.append_of_mem taken
    obtain ⟨-, origin, -, imported⟩ := rooted.told pre _ post split frame t rfl
    obtain ⟨before, c, frame', since, rfl, -, same, -⟩ := imported
    obtain ⟨y, known, -, buffer, -⟩ := sound.ledger.origin c t frame'.buffer frame'.dataspace
      (by simp [split])
    have taken' : .latched i frame' (.created t) ∈ (s.apply i).world.history := by simp [split]
    exact ⟨y, known, (congrArg HardwareBuffer.desc buffer).trans
      (coherent.desc taken' taken same)⟩

/-- An image of a buffer with the description of a frame's is shown in the frame's size. -/
theorem filters_of_described {w : World} {y : Texture} {view : ImageView}
    (known : w.texture? t = some y) (desc : y.buffer.desc = frame.buffer.desc)
    (seen : w.imageView? t = some view) :
    u.config.filters view frame.transform (u.width, u.height) = u.needsFilter frame := by
  rw [imageView?, known, Option.map_some, desc] at seen
  cases seen
  rfl

/-- What an updater shows after an apply that bound the frame is sampled as it has to be. -/
theorem Delivers.matches {l : Layer} {view : ImageView}
    (delivers : Delivers s i u frame ref source x) (committed : Updater.Committed u v)
    (config : v.config = u.config) (found' : (s.apply i).updaterOf? i = some v)
    (image : (x.resolution (s.replied i u ref source).world frame).answer.image? = some t)
    (described : ∃ y, (s.apply i).world.texture? t = some y ∧ y.buffer.desc = frame.buffer.desc)
    (layer : v.layer = some l)
    (seen : l.image.bind (s.apply i).world.imageView? = some view) : l.Matches v.config view := by
  have flag : x.needsFilter frame = u.needsFilter frame := by
    obtain ⟨attached, mailbox, same⟩ := delivers.same
    rw [same]
    rfl
  obtain ⟨l', layer', size, -⟩ := committed.layer
  rw [layer] at layer'
  cases layer'
  obtain ⟨-, -, shows⟩ := delivers.shows found'
  obtain ⟨l', layer', same⟩ := shows t image
  rw [layer] at layer'
  cases layer'
  have shown : l.image = some t := congrArg Sampling.image same
  have transform : l.windowTransform = frame.transform := congrArg Sampling.windowTransform same
  obtain ⟨y, known, desc⟩ := described
  rw [shown, Option.bind_some] at seen
  rw [Layer.Matches, config, size, transform, filters_of_described known desc seen, ← flag]
  exact congrArg Sampling.forceFilter same

/-- No command configures an updater anew. -/
theorem exec_config (kept : s.Kept) {command : Command} (found : s.updaterOf? i = some u)
    (found' : (s.exec command).1.updaterOf? i = some v) : v.config = u.config := by
  have start : ∀ v, s.updaterOf? i = some v → v.config = u.config := by
    intro v there
    rw [found] at there
    cases there
    rfl
  refine Moves.course (I := fun s => ∀ v, s.updaterOf? i = some v → v.config = u.config)
    kept.order (exec_goes kept command).moves (given_of_found kept.order found) start ?_ v found'
  intro a b order given deal before v there'
  cases deal with
  | elsewhere elsewhere =>
    rw [elsewhere.same] at there'
    exact before v there'
  | opens => exact before v there'
  | comes new => exact absurd new (Nat.ne_of_lt given)
  | goes entered world fresh besides gone =>
    rw [updaterOf?, gone] at there'
    cases there'
  | deed entered deed free world fresh besides there =>
    rw [there] at there'
    cases there'
    exact deed.home.2.trans (before _ (updaterOf?_of_get? entered))

/-- Right after an apply that binds a frame a layer is sampled as it has to be. -/
theorem apply_matches {name : String} {l : Layer} {view : ImageView} (kept : s.Kept)
    (named : s.updaterNames.get? name = some i) (apply : s' = (s.exec (.apply name)).1)
    (found' : s'.updaterOf? i = some v) (binds : (bindBy? i s (.apply name)).isSome)
    (rooted : s'.Rooted i) (coherent : Coherent i s'.world.history) (layer : v.layer = some l)
    (seen : l.image.bind s'.world.imageView? = some view) : l.Matches v.config view := by
  have moves := (exec_goes kept (.apply name)).moves.steps
  obtain ⟨es, grown⟩ := moves.history kept.order.sound
  have addressed : s.recipient? (.apply name) = some i := named
  rw [bindBy?, if_pos addressed, written_of_grown grown] at binds
  rw [← apply] at moves grown
  obtain ⟨u, found, obeys⟩ := exec_obeys kept addressed (apply ▸ found')
  have config := exec_config kept found (apply ▸ found')
  rw [exec_apply named] at apply
  subst apply
  cases delivered : s.delivery i u with
  | none =>
    obtain ⟨answers, frames, others⟩ := apply_frames_none found delivered
    rw [← latchBind?_framing, framing_of_frames grown frames, latchBind?_quiet] at binds
    · cases binds
    · intro e mem
      obtain ⟨ref, results, rfl⟩ := others e mem
      exact fun latching => latching
  | some frame =>
    obtain ⟨-, -, live, -⟩ := delivery_some delivered
    obtain ⟨ref, source, x, delivers⟩ := apply_delivers kept found delivered
    have own : x.id = i := delivers.keeps.1.trans (id_of_found kept found)
    rw [delivers.binds own grown, Option.isSome_map] at binds
    obtain ⟨t, image⟩ := Option.isSome_iff_exists.1 binds
    exact delivers.matches (obeys.applied live) config found' image
      (delivers.described own (moves.sound kept.order.sound) rooted coherent image) layer seen

-- ==================================================== every run

/-- The size that the layer of updater `i` had when an image was bound to it last, after commands
that start with one of that `size`. -/
def boundSize? (i : UpdaterId) (s : Session) (size : Option (UInt32 × UInt32)) :
    List Command → Option (UInt32 × UInt32)
  | [] => size
  | command :: commands =>
    let after := (s.exec command).1
    boundSize? i after ((after.layerOf? i).bind fun l =>
      if (bindBy? i s command).isSome then some (l.width, l.height) else size) commands

theorem boundSize?_snoc (i : UpdaterId) (s : Session) (size : Option (UInt32 × UInt32))
    (commands : List Command) (command : Command) : boundSize? i s size (commands ++ [command])
      = ((s.run (commands ++ [command])).layerOf? i).bind fun l =>
          if (bindBy? i (s.run commands) command).isSome then some (l.width, l.height)
          else boundSize? i s size commands := by
  induction commands generalizing s size with
  | nil => rfl
  | cons first commands ih => exact ih _ _

/-- What is bound by a command that is no bind is bound by an apply. -/
theorem bindBy?_apply {command : Command} (binds : (bindBy? i s command).isSome)
    (unbound : s.recipient? command = some i → ¬ command.isBind) :
    ∃ name, command = .apply name ∧ s.updaterNames.get? name = some i := by
  unfold bindBy? at binds
  split at binds
  · next addressed =>
    cases command with
    | apply name => exact ⟨name, rfl, addressed⟩
    | bind => exact absurd rfl (unbound addressed)
    | _ => cases binds
  · cases binds

/-- A layer that nothing is bound to keeps what is sampled. -/
theorem exec_unbound (kept : s.Kept) {command : Command} {l : Layer} {view : ImageView}
    (unbound : ¬ (bindBy? i s command).isSome) (found' : (s.exec command).1.updaterOf? i = some v)
    (layer : v.layer = some l)
    (seen : l.image.bind (s.exec command).1.world.imageView? = some view) :
    ∃ u l', s.updaterOf? i = some u ∧ u.layer = some l' ∧ l'.sampling = l.sampling
      ∧ l'.image.bind s.world.imageView? = some view ∧ v.config = u.config := by
  obtain ⟨t, image, seen⟩ := Option.bind_eq_some_iff.1 seen
  have there : (s.exec command).1.layerOf? i = some l :=
    Option.bind_eq_some_iff.2 ⟨v, found', layer⟩
  have sampled : s.samplingOf i = l.sampling := by
    have after := exec_sampling kept (by rw [there]; rfl)
    rw [Option.not_isSome_iff_eq_none.1 unbound, Option.getD_none, samplingOf, there] at after
    exact after.symm
  cases there : s.layerOf? i with
  | none =>
    rw [samplingOf, there] at sampled
    have bare : none = l.image := congrArg Sampling.image sampled
    rw [image] at bare
    cases bare
  | some l' =>
    rw [samplingOf, there] at sampled
    have same : l'.sampling = l.sampling := sampled
    obtain ⟨u, found, layer'⟩ := Option.bind_eq_some_iff.1 there
    have image' : l'.image = some t := (congrArg Sampling.image same).trans image
    have shown : u.shownImage = some t := Option.bind_eq_some_iff.2 ⟨l', layer', image'⟩
    obtain ⟨a, known, -⟩ := kept.order.sound.owned.found (held_of_shown found shown)
    refine ⟨u, l', found, layer', same, ?_, exec_config kept found found'⟩
    rw [image', Option.bind_some, ← seen]
    exact ((exec_goes kept command).moves.steps.imageView? kept.order.sound
      (by rw [known]; rfl)).symm

/-- The flag of a layer that shows an image is right for the size that it had when the image was
bound. -/
theorem run_flag (minimal : Bool) (b : Backend) (commands : List Command)
    (unbound : ∀ call ∈ callsOf i (start minimal b) commands, ¬ call.isBind)
    (coherent : Coherent i ((start minimal b).run commands).world.history)
    {l : Layer} {view : ImageView} (found : ((start minimal b).run commands).updaterOf? i = some u)
    (layer : u.layer = some l)
    (seen : l.image.bind ((start minimal b).run commands).world.imageView? = some view) :
    ∃ size, boundSize? i (start minimal b) none commands = some size
      ∧ l.forceFilter = u.config.filters view l.windowTransform size := by
  induction commands using List.reverseRecOn generalizing u l with
  | nil =>
    rw [show (start minimal b).run [] = start minimal b from rfl] at found
    cases found
  | append_singleton commands command ih =>
    have kept := kept_run minimal b commands
    have there : ((start minimal b).run (commands ++ [command])).layerOf? i = some l :=
      Option.bind_eq_some_iff.2 ⟨u, found, layer⟩
    have rooted := run_rooted minimal b (commands ++ [command]) i
    rw [boundSize?_snoc, there, Option.bind_some]
    rw [run_snoc] at *
    rw [callsOf_snoc] at unbound
    by_cases binds : (bindBy? i ((start minimal b).run commands) command).isSome
    · obtain ⟨name, rfl, named⟩ := bindBy?_apply binds fun addressed =>
        unbound command (by simp [addressed])
      rw [if_pos binds]
      exact ⟨_, rfl, apply_matches kept named rfl found binds rooted coherent layer seen⟩
    · obtain ⟨v, l', found', layer', same, seen', config⟩ :=
        exec_unbound kept binds found layer seen
      rw [if_neg binds]
      obtain ⟨es, grown⟩ := (exec_goes kept command).moves.steps.history kept.order.sound
      rw [grown] at coherent
      obtain ⟨size, bound, flag⟩ := ih (fun call mem => unbound call (List.mem_append_left _ mem))
        coherent.of_append found' layer' seen'
      refine ⟨size, bound, ?_⟩
      have force : l'.forceFilter = l.forceFilter := congrArg Sampling.forceFilter same
      have transform : l'.windowTransform = l.windowTransform :=
        congrArg Sampling.windowTransform same
      rw [config, ← force, ← transform, flag]

/-- How the flag of a layer agrees with sizes, in the session that commands lead to. The layer
is of an updater of that configuration, and shows that image. -/
structure Filtering (i : UpdaterId) (s₀ : Session) (commands : List Command) (config : Config)
    (l : Layer) (view : ImageView) : Prop where
  /-- The flag is right for the size that the layer had when the image was bound. -/
  bound : ∃ size, boundSize? i s₀ none commands = some size
    ∧ l.forceFilter = config.filters view l.windowTransform size
  /-- So it is right, unless filtering is not asked for, exactly if the image has the size of the
  layer now if and only if it had it then. -/
  right : l.Matches config view ↔ (config.filterOnSizeMismatch →
    (some (view.shownSize l.windowTransform) = boundSize? i s₀ none commands
      ↔ view.shownSize l.windowTransform = (l.width, l.height)))
  /-- Right after an apply that bound the image it is right. -/
  fresh : ∀ before name, commands = before ++ [.apply name] →
    (bindBy? i (s₀.run before) (.apply name)).isSome → l.Matches config view

/-- In every run without images of the caller's a layer is sampled with filtering if it had to be
when its image was bound, and only then. -/
theorem run_filtering (minimal : Bool) (b : Backend) (commands : List Command)
    (unbound : ∀ call ∈ callsOf i (start minimal b) commands, ¬ call.isBind)
    (coherent : Coherent i ((start minimal b).run commands).world.history)
    {l : Layer} {view : ImageView} (found : ((start minimal b).run commands).updaterOf? i = some u)
    (layer : u.layer = some l)
    (seen : l.image.bind ((start minimal b).run commands).world.imageView? = some view) :
    Filtering i (start minimal b) commands u.config l view := by
  obtain ⟨size, bound, flag⟩ := run_flag minimal b commands unbound coherent found layer seen
  have right : l.Matches u.config view ↔ (u.config.filterOnSizeMismatch →
      (view.shownSize l.windowTransform = size
        ↔ view.shownSize l.windowTransform = (l.width, l.height))) := by
    rw [Layer.Matches, flag, eq_comm, Config.filters_eq_iff]
  refine ⟨⟨size, bound, flag⟩, ?_, ?_⟩
  · rw [right, bound, Option.some_inj]
  · rintro before name rfl binds
    have there : ((start minimal b).run (before ++ [.apply name])).layerOf? i = some l :=
      Option.bind_eq_some_iff.2 ⟨u, found, layer⟩
    rw [boundSize?_snoc, there, Option.bind_some, if_pos binds] at bound
    cases bound
    exact right.2 fun _ => Iff.rfl

/-- A frame of the layer's size is shown, and then the layer grows and no frame comes. -/
def outgrown : List Command :=
  let frame := Frame.ofBuffer ⟨0⟩ ⟨⟨1⟩, ⟨64, 32, 1⟩, none⟩ .srgb
  [.newUpdater "u" {} (.registered "s") .unchanged, .setSize "u" 64 32,
    .attach "u" "q" { frames := [frame] } none, .apply "u", .setSize "u" 128 64, .apply "u"]

/-- The layer is not sampled with filtering, though it has another size than its image. -/
theorem outgrown_filtering :
    let s := (start false {}).run outgrown
    (∃ u l view, s.updaterOf? 1 = some u ∧ u.layer = some l
        ∧ l.image.bind s.world.imageView? = some view
        ∧ Filtering 1 (start false {}) outgrown u.config l view ∧ ¬ l.Matches u.config view)
      ∧ boundSize? 1 (start false {}) none outgrown = some (64, 32)
      ∧ (s.layerOf? 1).map (fun l => ((l.width, l.height), l.forceFilter))
        = some ((128, 64), false) := by
  intro s
  have shown : ((s.updaterOf? 1).bind fun u => u.layer.bind fun l =>
      (l.image.bind s.world.imageView?).map fun view =>
        (l.forceFilter, u.config.filters view l.windowTransform (l.width, l.height)))
      = some (false, true) := by decide
  obtain ⟨u, found, shown⟩ := Option.bind_eq_some_iff.1 shown
  obtain ⟨l, layer, shown⟩ := Option.bind_eq_some_iff.1 shown
  obtain ⟨view, seen, flags⟩ := Option.map_eq_some_iff.1 shown
  obtain ⟨flag, due⟩ := Prod.mk.inj flags
  have coherent : Coherent 1 s.world.history := by
    unfold Coherent
    decide
  refine ⟨⟨u, l, view, found, layer, seen, ?_, ?_⟩, by decide, by decide⟩
  · exact run_filtering false {} outgrown (by decide) coherent found layer seen
  · rw [Layer.Matches, flag, due]
    exact Bool.false_ne_true

end Session

end LayerFeed
