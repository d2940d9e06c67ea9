/-
How the properties that callers set come onto a layer. Setters only change what is pending. An
apply brings all of it onto the layer at once, and makes the layer if there is none: the size,
the blend flag and the paint that were set last, and the transform that is pending, which is
pending no longer then. So the layer after an apply can be read off the commands that were
addressed to its updater (`Updater.Staging`): the last of each setter, and the last transform
that an apply found.

Nothing but an apply, an image that is bound and the teardown touches a layer that is there,
and an image that is bound brings only the size and the blend flag along (`run_commits`).
-/
import LayerFeed.Proofs.LayerAfterTeardown
import LayerFeed.Proofs.Session.Applied

namespace LayerFeed

open World

variable {i : UpdaterId} {calls : List Command} {call : Command}

-- ==================================================== what calls say

/-- What was said last by calls, or `first` if nothing was. -/
def lastSaid {α : Type} (said : Command → Option α) (first : α) (calls : List Command) : α :=
  (calls.filterMap said).getLast?.getD first

theorem lastSaid_snoc {α : Type} (said : Command → Option α) (first : α) (calls : List Command)
    (call : Command) : lastSaid said first (calls ++ [call])
      = (said call).getD (lastSaid said first calls) := by
  unfold lastSaid
  rw [List.filterMap_append, List.filterMap_cons, List.filterMap_nil]
  cases said call with
  | none => rw [List.append_nil, Option.getD_none]
  | some a => rw [List.getLast?_concat, Option.getD_some, Option.getD_some]

namespace Command

/-- The size that a command sets. -/
def size? : Command → Option (UInt32 × UInt32)
  | .setSize _ width height => some (width, height)
  | _ => none

/-- The blend flag that a command sets. -/
def blend? : Command → Option Bool
  | .setBlend _ blend => some blend
  | _ => none

/-- The paint that a command sets; opaque source over destination, without a filter, stands for
none. -/
def paint? : Command → Option Paint
  | .setPaint _ paint =>
    some (paint.getD { alpha := 255, blendMode := .srcOver, colorFilter := none })
  | _ => none

/-- The transform that a command sets, if it sets one. -/
def transform? : Command → Option Affine
  | .setTransform _ transform => transform
  | _ => none

end Command

/-- The size set last; empty if none was. -/
def sizeSet (calls : List Command) : UInt32 × UInt32 := lastSaid Command.size? (0, 0) calls

/-- The blend flag set last; off if none was. -/
def blendSet (calls : List Command) : Bool := lastSaid Command.blend? false calls

/-- The paint set last; opaque source over destination, without a filter, if none was. -/
def paintSet (calls : List Command) : Paint :=
  lastSaid Command.paint? { alpha := 255, blendMode := .srcOver, colorFilter := none } calls

/-- The transform that calls leave pending, and those that applies among them found. -/
structure Staged where
  pending : Option Affine := none
  /-- The transforms that applies found pending, oldest first. -/
  taken : List Affine := []
deriving DecidableEq

/-- A setter replaces the transform that is pending, or discards it; an apply takes it. -/
def Staged.after (staged : Staged) : Command → Staged
  | .setTransform _ transform => { staged with pending := transform }
  | .apply _ => { pending := none, taken := staged.taken ++ staged.pending.toList }
  | _ => staged

/-- What becomes of the transforms that calls set. -/
def staged (calls : List Command) : Staged := calls.foldl Staged.after {}

theorem staged_snoc (calls : List Command) (call : Command) :
    staged (calls ++ [call]) = (staged calls).after call := by
  unfold staged
  rw [List.foldl_append, List.foldl_cons, List.foldl_nil]

/-- Every transform that is taken was set, and is taken once; so is the one that is pending. -/
theorem staged_sublist (calls : List Command) :
    ((staged calls).taken ++ (staged calls).pending.toList).Sublist
      (calls.filterMap Command.transform?) := by
  induction calls using List.reverseRecOn with
  | nil => exact List.Sublist.refl _
  | append_singleton calls call ih =>
    rw [staged_snoc, List.filterMap_append]
    have still : ((staged calls).taken ++ (staged calls).pending.toList).Sublist
        (calls.filterMap Command.transform? ++ [call].filterMap Command.transform?) :=
      ih.trans (List.sublist_append_left _ _)
    cases call with
    | setTransform name transform =>
      have set : [Command.setTransform name transform].filterMap Command.transform?
          = transform.toList := by
        cases transform <;> rfl
      rw [set]
      exact ((List.sublist_append_left _ _).trans ih).append (List.Sublist.refl _)
    | apply name => simpa [Staged.after] using still
    | _ => exact still

/-- Without an apply nothing is taken. -/
theorem foldl_untaken {calls : List Command} (none : ∀ name, .apply name ∉ calls)
    (staged : Staged) : (calls.foldl Staged.after staged).taken = staged.taken := by
  induction calls generalizing staged with
  | nil => rfl
  | cons call calls ih =>
    rw [List.foldl_cons, ih fun name mem => none name (List.mem_cons_of_mem _ mem)]
    cases call with
    | apply name => exact absurd List.mem_cons_self (none name)
    | _ => rfl

/-- A transform that is replaced before an apply might as well not have been set. -/
theorem staged_replaced {between : List Command} (none : ∀ name, .apply name ∉ between)
    (before after : List Command) (first second : String) (t t' : Option Affine) :
    staged (before ++ .setTransform first t :: between ++ .setTransform second t' :: after)
      = staged (before ++ between ++ .setTransform second t' :: after) := by
  have replaced : ∀ s s' : Staged, s.taken = s'.taken →
      s.after (.setTransform second t') = s'.after (.setTransform second t') := by
    intro s s' same
    simp only [Staged.after, same]
  unfold staged
  simp only [List.foldl_append, List.foldl_cons]
  refine congrArg (after.foldl Staged.after) (replaced _ _ ?_)
  rw [foldl_untaken none, foldl_untaken none]
  rfl

-- ==================================================== what is pending

namespace Updater

variable {u v : Updater}

/-- What is pending in an updater, and the transform of its layer, are what the calls to it
said. -/
structure Staging (calls : List Command) (u : Updater) : Prop where
  size : (u.width, u.height) = sizeSet calls
  blend : u.blend = blendSet calls
  paint : u.paint = paintSet calls
  pending : ¬ u.destroyed → u.transform = (staged calls).pending
  committed : ¬ u.destroyed → u.layer.bind Layer.transform = (staged calls).taken.getLast?

theorem Staging.new (i : UpdaterId) (c : ContextId) (config : Config) (sink : Sink) :
    Staging [] ((Updater.new i c config).setSink sink) :=
  ⟨rfl, rfl, rfl, fun _ => rfl, fun _ => rfl⟩

/-- What comes from afar changes nothing that is pending. -/
theorem Staging.drift {exposed : Prop} (staging : u.Staging calls) (drift : Drift exposed u v) :
    v.Staging calls := by
  cases drift with
  | untouched => exact ⟨staging.size, staging.blend, staging.paint, staging.pending,
      staging.committed⟩
  | tornDown => exact ⟨staging.size, staging.blend, staging.paint, fun live => absurd rfl live,
      fun live => absurd rfl live⟩

/-- One more call. -/
theorem Staging.snoc (staging : u.Staging calls)
    (size : (v.width, v.height) = call.size?.getD (u.width, u.height))
    (blend : v.blend = call.blend?.getD u.blend) (paint : v.paint = call.paint?.getD u.paint)
    (live : ¬ v.destroyed → ¬ u.destroyed ∧ ∀ staged : Staged, u.transform = staged.pending →
      u.layer.bind Layer.transform = staged.taken.getLast? →
      v.transform = (staged.after call).pending
        ∧ v.layer.bind Layer.transform = (staged.after call).taken.getLast?) :
    v.Staging (calls ++ [call]) where
  size := by rw [sizeSet, lastSaid_snoc, size, staging.size, sizeSet]
  blend := by rw [blendSet, lastSaid_snoc, blend, staging.blend, blendSet]
  paint := by rw [paintSet, lastSaid_snoc, paint, staging.paint, paintSet]
  pending living := by
    rw [staged_snoc]
    exact ((live living).2 _ (staging.pending (live living).1)
      (staging.committed (live living).1)).1
  committed living := by
    rw [staged_snoc]
    exact ((live living).2 _ (staging.pending (live living).1)
      (staging.committed (live living).1)).2

-- ==================================================== an apply

/-- An updater whose layer was brought up to what was pending in `u`, but for the transform. -/
structure Fitted (u x : Updater) : Prop where
  size : (x.width, x.height) = (u.width, u.height)
  blend : x.blend = u.blend
  paint : x.paint = u.paint
  transform : x.transform = u.transform
  destroyed : x.destroyed = u.destroyed
  layer : ∃ l, x.layer = some l ∧ (l.width, l.height) = (u.width, u.height) ∧ l.blend = u.blend
    ∧ l.paint = u.paint ∧ l.transform = u.layer.bind Layer.transform

theorem commitPaint_fitted (u : Updater) (attached : Bool) (mailbox : Mailbox) :
    Fitted u { u.commitPaint with consumerAttached := attached, mailbox } := by
  refine ⟨rfl, rfl, rfl, rfl, rfl, _, rfl, rfl, rfl, rfl, ?_⟩
  unfold sizedLayer
  cases u.layer <;> rfl

/-- A frame that is latched, and shown if it can be, changes no more of the layer than what is
sampled. -/
theorem Fitted.latch (fitted : Fitted u v) (w : World) (frame : Frame)
    (issued : Option FenceClass) : Fitted u (v.latch w frame issued).2 := by
  obtain ⟨l, layer, -, -, paint, transform⟩ := fitted.layer
  unfold Updater.latch
  dsimp only
  split
  · refine { fitted with layer := ⟨_, rfl, fitted.size, fitted.blend, ?_, ?_⟩ }
    · simpa only [sizedLayer, layer, Option.getD_some] using paint
    · simpa only [sizedLayer, layer, Option.getD_some] using transform
  · exact { fitted with }

/-- What an updater is right after an apply: nothing is pending but what is on the layer. -/
structure Committed (u v : Updater) : Prop where
  size : (v.width, v.height) = (u.width, u.height)
  blend : v.blend = u.blend
  paint : v.paint = u.paint
  transform : v.transform = none
  destroyed : v.destroyed = u.destroyed
  layer : ∃ l, v.layer = some l ∧ (l.width, l.height) = (u.width, u.height) ∧ l.blend = u.blend
    ∧ l.paint = u.paint ∧ l.transform = u.transform.or (u.layer.bind Layer.transform)

theorem Fitted.commitTransform (fitted : Fitted u v) : Committed u v.commitTransform := by
  obtain ⟨l, layer, size, blend, paint, transform⟩ := fitted.layer
  unfold Updater.commitTransform
  cases pending : v.transform with
  | none =>
    refine ⟨fitted.size, fitted.blend, fitted.paint, pending, fitted.destroyed, l, layer, size,
      blend, paint, ?_⟩
    rw [← fitted.transform, pending, Option.none_or, transform]
  | some t =>
    refine ⟨fitted.size, fitted.blend, fitted.paint, rfl, fitted.destroyed, _, rfl, fitted.size,
      fitted.blend, ?_, ?_⟩
    · simpa only [sizedLayer, layer, Option.getD_some] using paint
    · rw [← fitted.transform, pending, Option.some_or]

end Updater

-- ==================================================== what else touches a layer

/-- The command is an apply, or binds an image to a layer. -/
def Command.Draws : Command → Prop
  | .apply _ | .bind _ _ _ _ _ => True
  | _ => False

/-- By what the history tells updater `i` was torn down. -/
def TornDownIn (i : UpdaterId) (h : List Entry) : Prop :=
  ∃ sink mode n released, .event i sink (.tornDown mode n released) ∈ h

/-- Updater `i` was torn down for the first time. -/
def FirstTeardown (i : UpdaterId) (before after : List Entry) : Prop :=
  ¬ TornDownIn i before ∧ TornDownIn i after

namespace Session

variable {s s' : Session} {u v : Updater}

theorem Applies.fitted {w : World} {x : World × Updater} (applies : Applies i u w x) :
    Updater.Fitted u x.2 := by
  cases applies with
  | idle attached mailbox => exact u.commitPaint_fitted attached mailbox
  | latches attached mailbox frame issued =>
    exact (u.commitPaint_fitted attached mailbox).latch _ frame issued

-- ==================================================== commands

theorem getLast?_toList_or {α : Type} (as : List α) (o : Option α) :
    (as ++ o.toList).getLast? = o.or as.getLast? := by
  cases o with
  | none => rw [Option.toList_none, List.append_nil, Option.none_or]
  | some a => rw [Option.toList_some, List.getLast?_concat, Option.some_or]

/-- A command that is addressed to an updater is one more that it has obeyed. -/
theorem Obeys.staging (obeys : Obeys s i u call v) (staging : u.Staging calls) :
    v.Staging (calls ++ [call]) := by
  cases obeys with
  | setSink | post | misses =>
    exact staging.snoc rfl rfl rfl fun live => ⟨live, fun _ pending taken => ⟨pending, taken⟩⟩
  | setTransform name transform =>
    exact staging.snoc rfl rfl rfl fun live => ⟨live, fun _ _ taken => ⟨rfl, taken⟩⟩
  | setPaint name paint =>
    exact staging.snoc rfl rfl rfl fun live => ⟨live, fun _ pending taken => ⟨pending, taken⟩⟩
  | setSize name width height =>
    unfold Updater.setSize
    split
    · next same =>
      exact staging.snoc (by rw [same.1, same.2]; rfl) rfl rfl fun live =>
        ⟨live, fun _ pending taken => ⟨pending, taken⟩⟩
    · exact staging.snoc rfl rfl rfl fun live => ⟨live, fun _ pending taken => ⟨pending, taken⟩⟩
  | setBlend name blend =>
    unfold Updater.setBlend
    split
    · next same =>
      exact staging.snoc rfl same rfl fun live => ⟨live, fun _ pending taken => ⟨pending, taken⟩⟩
    · exact staging.snoc rfl rfl rfl fun live => ⟨live, fun _ pending taken => ⟨pending, taken⟩⟩
  | attach name source queue state w ref =>
    obtain ⟨cache, -, same⟩ := u.attach_object w ref
    rw [same]
    exact staging.snoc rfl rfl rfl fun live => ⟨live, fun _ pending taken => ⟨pending, taken⟩⟩
  | detach name w =>
    obtain ⟨cache, same⟩ := u.detach_object w
    rw [same]
    exact staging.snoc rfl rfl rfl fun live => ⟨live, fun _ pending taken => ⟨pending, taken⟩⟩
  | ignores name gone => exact staging.snoc rfl rfl rfl fun live => absurd gone live
  | apply name live applies world =>
    have committed := applies.fitted.commitTransform
    obtain ⟨l, layer, -, -, -, transform⟩ := committed.layer
    refine staging.snoc committed.size committed.blend committed.paint fun _ =>
      ⟨live, fun staged pending taken => ⟨committed.transform, ?_⟩⟩
    rw [layer, Option.bind_some, transform, pending, taken]
    exact (getLast?_toList_or _ _).symm
  | bind name forceFilter transform crop image there =>
    refine staging.snoc rfl rfl rfl fun live =>
      ⟨live, fun _ pending taken => ⟨pending, Eq.trans ?_ taken⟩⟩
    unfold Updater.bind Updater.sizedLayer
    cases u.layer <;> rfl
  | teardown | contextDestroyed =>
    unfold Updater.teardown
    split
    · exact staging.snoc rfl rfl rfl fun live => ⟨live, fun _ pending taken => ⟨pending, taken⟩⟩
    · exact staging.snoc rfl rfl rfl fun live => absurd rfl live

/-- What is pending in an updater after a run is what the calls to it said. -/
theorem run_staging (kept : s.Kept) (absent : s.updaterOf? i = none) (commands : List Command)
    (found : (s.run commands).updaterOf? i = some u) : u.Staging (callsOf i s commands) := by
  induction commands using List.reverseRecOn generalizing u with
  | nil =>
    rw [show s.run [] = s from rfl, absent] at found
    cases found
  | append_singleton commands command ih =>
    rw [run_snoc] at found
    rw [callsOf_snoc]
    split
    · next addressed =>
      obtain ⟨u₀, there, obeys⟩ := exec_obeys (kept.run commands) addressed found
      exact obeys.staging (ih there)
    · next other =>
      rw [List.append_nil]
      rcases exec_drifts other with drifts | ⟨new, comes⟩
      · obtain ⟨u₀, there, drift⟩ := drifts u found
        exact (ih there).drift drift
      · obtain ⟨c, config, sink, drift⟩ := comes u found
        rw [callsOf_unborn kept (Nat.le_of_eq new.symm)]
        exact (Updater.Staging.new i c config sink).drift drift

-- ==================================================== what else touches a layer

theorem tornDownIn_iff {h : List Entry} :
    TornDownIn i h ↔ ∃ mode, .tornDown mode ∈ marksOf i h := by
  unfold marksOf
  constructor
  · rintro ⟨sink, mode, n, released, mem⟩
    exact ⟨mode, List.mem_filterMap.2 ⟨_, mem, if_pos rfl⟩⟩
  · rintro ⟨mode, mem⟩
    obtain ⟨e, mem, mark⟩ := List.mem_filterMap.1 mem
    cases e with
    | event id sink event =>
      cases event with
      | tornDown mode' n released =>
        rw [Entry.mark?] at mark
        split at mark
        · next same => exact ⟨sink, mode', n, released, same ▸ mem⟩
        · cases mark
      | _ => cases mark
    | bound id forceFilter transform crop image =>
      rw [Entry.mark?] at mark
      split at mark <;> simp at mark
    | _ => cases mark

/-- After a run an updater is destroyed exactly if the history has a teardown of it. -/
theorem run_destroyed_iff (minimal : Bool) (b : Backend) (commands : List Command)
    (found : ((start minimal b).run commands).updaterOf? i = some u) :
    u.destroyed ↔ TornDownIn i ((start minimal b).run commands).world.history := by
  have given := given_of_found (kept_run minimal b commands).order found
  have fate : ((start minimal b).run commands).LayerFate i :=
    run_life (fun _ => Newborn.layerFate) (fun _ _ order given deal fate =>
      deal.layerFate order given fate) minimal b commands given
  rw [tornDownIn_iff]
  constructor
  · intro gone
    obtain ⟨before, mode, images, marks, -⟩ := (fate u found).tornDown gone
    exact ⟨mode, by rw [marks]; simp⟩
  · rintro ⟨mode, mem⟩
    by_contra live
    exact (fate u found).living live mode mem

/-- A command that is no apply and binds no image leaves a layer alone, or it is a teardown. -/
theorem Obeys.layer (obeys : Obeys s i u call v) (still : ¬ call.Draws) :
    v.layer = u.layer ∨ ¬ u.destroyed ∧ v.destroyed := by
  cases obeys with
  | ignores | apply | bind | misses => exact absurd trivial still
  | setSink | post | setTransform | setPaint => exact .inl rfl
  | setSize name width height => exact .inl (setSize_layer u width height)
  | setBlend name blend => exact .inl (setBlend_layer u blend)
  | attach name source queue state w ref =>
    obtain ⟨cache, -, same⟩ := u.attach_object w ref
    exact .inl (by rw [same])
  | detach name w =>
    obtain ⟨cache, same⟩ := u.detach_object w
    exact .inl (by rw [same])
  | teardown name w mode => exact (Updater.teardown_drift trivial u w mode).layer
  | contextDestroyed name w => exact (Updater.teardown_drift trivial u w .contextLost).layer

/-- An apply of an updater that is not destroyed leaves a layer on which all is committed. -/
theorem Obeys.applied {name : String} (obeys : Obeys s i u (.apply name) v)
    (live : ¬ u.destroyed) : Updater.Committed u v := by
  cases obeys with
  | ignores name gone => exact absurd gone live
  | apply name live applies world => exact applies.fitted.commitTransform

/-- What is on a layer is what the calls said, right after an apply. -/
theorem Committed.said (committed : Updater.Committed u v) (live : ¬ u.destroyed)
    (staging : v.Staging calls) : ¬ v.destroyed ∧ ∃ l, v.layer = some l
      ∧ (l.width, l.height) = sizeSet calls ∧ l.blend = blendSet calls
      ∧ l.paint = paintSet calls ∧ l.transform = (staged calls).taken.getLast? := by
  have live' : ¬ v.destroyed := by rwa [committed.destroyed]
  obtain ⟨l, layer, size, blend, paint, -⟩ := committed.layer
  refine ⟨live', l, layer, ?_, ?_, ?_, ?_⟩
  · rw [size, ← committed.size, staging.size]
  · rw [blend, ← committed.blend, staging.blend]
  · rw [paint, ← committed.paint, staging.paint]
  · rw [← staging.committed live', layer, Option.bind_some]

/-- A bind of an image that is there, to a layer that is there. -/
theorem Obeys.bound {name image : String} {forceFilter : Bool} {transform : TextureTransform}
    {crop : Rect} {t : TextureId} {l : Layer}
    (obeys : Obeys s i u (.bind name forceFilter transform crop image) v)
    (shows : s.images.get? image = some t) (layer : u.layer = some l) :
    v.layer = some { l with
      forceFilter, windowTransform := transform, crop, image := some t
      width := u.width, height := u.height, blend := u.blend } := by
  cases obeys with
  | bind _ _ _ _ _ there =>
    rw [there] at shows
    cases shows
    unfold Updater.bind Updater.sizedLayer
    rw [layer]
    rfl
  | misses _ _ _ _ _ absent =>
    rw [absent] at shows
    cases shows

/-- A command that draws nothing on an updater leaves its layer alone, or tears it down. -/
theorem exec_layer (kept : s.Kept) {command : Command} (found : s.updaterOf? i = some u)
    (found' : (s.exec command).1.updaterOf? i = some v)
    (other : ¬ (command.Draws ∧ s.recipient? command = some i)) :
    v.layer = u.layer ∨ ¬ u.destroyed ∧ v.destroyed := by
  by_cases addressed : s.recipient? command = some i
  · obtain ⟨u', there, obeys⟩ := exec_obeys kept addressed found'
    rw [found] at there
    cases there
    exact obeys.layer fun draws => other ⟨draws, addressed⟩
  · rcases exec_drifts addressed with drifts | ⟨new, -⟩
    · obtain ⟨u', there, drift⟩ := drifts v found'
      rw [found] at there
      cases there
      exact drift.layer
    · exact absurd new (Nat.ne_of_lt (given_of_found kept.order found))

-- ==================================================== every run

/-- How calls to updater `i` come onto its layer, in the session that commands lead to and with
one more command. -/
structure Commits (i : UpdaterId) (s₀ : Session) (commands : List Command) : Prop where
  /-- Right after an apply of an updater that is not destroyed the layer is there, if the updater
  is, and carries what was set last and the last transform that an apply found pending. The
  updater is there if a name leads to it still. -/
  applied : ∀ name u, (s₀.run commands).updaterNames.get? name = some i →
    (s₀.run commands).updaterOf? i = some u → ¬ u.destroyed →
    let s := s₀.run (commands ++ [.apply name])
    let calls := callsOf i s₀ (commands ++ [.apply name])
    ((∃ other, s.updaterNames.get? other = some i) → ∃ v, s.updaterOf? i = some v)
      ∧ ∀ v, s.updaterOf? i = some v → ¬ v.destroyed ∧ ∃ l, v.layer = some l
        ∧ (l.width, l.height) = sizeSet calls ∧ l.blend = blendSet calls
        ∧ l.paint = paintSet calls ∧ l.transform = (staged calls).taken.getLast?
  /-- The transforms that applies found are among those that were set, and each of them was
  found once. -/
  once : (staged (callsOf i s₀ commands)).taken.Sublist
    ((callsOf i s₀ commands).filterMap Command.transform?)
  /-- A transform that was replaced, or discarded, before an apply was never found. -/
  replaced : ∀ before first t between second t' after,
    callsOf i s₀ commands
      = before ++ .setTransform first t :: between ++ .setTransform second t' :: after →
    (∀ name, .apply name ∉ between) →
    (staged (callsOf i s₀ commands)).taken
      = (staged (before ++ between ++ .setTransform second t' :: after)).taken
  /-- Any command but an apply of the updater, or a bind to it, leaves the layer as it is, and
  the image that it shows, unless the updater is torn down for the first time. -/
  stays : ∀ command u v, (s₀.run commands).updaterOf? i = some u →
    (s₀.run (commands ++ [command])).updaterOf? i = some v →
    ¬ (command.Draws ∧ (s₀.run commands).recipient? command = some i) →
    ¬ FirstTeardown i (s₀.run commands).world.history
      (s₀.run (commands ++ [command])).world.history →
    v.layer = u.layer ∧ ∀ t, u.shownImage = some t →
      (s₀.run (commands ++ [command])).world.imageView? t = (s₀.run commands).world.imageView? t
  /-- An image that is bound to a layer changes what is sampled, and brings along the size and
  the blend flag that were set last. -/
  bound : ∀ name forceFilter transform crop image t u v l,
    (s₀.run commands).updaterNames.get? name = some i →
    (s₀.run commands).images.get? image = some t →
    (s₀.run commands).updaterOf? i = some u → u.layer = some l →
    (s₀.run (commands ++ [.bind name forceFilter transform crop image])).updaterOf? i = some v →
    v.layer = some { l with
      forceFilter, windowTransform := transform, crop, image := some t
      width := (sizeSet (callsOf i s₀ commands)).1, height := (sizeSet (callsOf i s₀ commands)).2
      blend := blendSet (callsOf i s₀ commands) }

/-- In every run calls come onto a layer by applies, and a layer that is there is changed by
nothing but an apply, a bind and the first teardown. -/
theorem run_commits (minimal : Bool) (b : Backend) (commands : List Command) (i : UpdaterId) :
    Commits i (start minimal b) commands := by
  have kept := kept_run minimal b commands
  have staging := fun commands u =>
    run_staging (i := i) (u := u) (kept_start minimal b) rfl commands
  have destroyed := fun commands u => run_destroyed_iff (i := i) (u := u) minimal b commands
  -- the updater that obeys is the one that was found
  have obeys : ∀ command {u v}, ((start minimal b).run commands).recipient? command = some i →
      ((start minimal b).run commands).updaterOf? i = some u →
      ((start minimal b).run (commands ++ [command])).updaterOf? i = some v →
      Obeys ((start minimal b).run commands) i u command v := by
    intro command u v addressed found found'
    rw [run_snoc] at found'
    obtain ⟨u', there, obeys⟩ := exec_obeys kept addressed found'
    rw [found] at there
    cases there
    exact obeys
  refine ⟨fun name u named found live => ⟨fun ⟨other, leads⟩ => ?_, fun v found' => ?_⟩,
    (List.sublist_append_left _ _).trans (staged_sublist _), ?_,
    fun command u v found found' other still => ⟨?_, fun t shown => ?_⟩, ?_⟩
  · exact (kept_run minimal b _).named leads
  · have committed := (obeys (.apply name) named found found').applied live
    exact Committed.said committed live (staging _ v found')
  · intro before first t between second t' after split none
    rw [split, staged_replaced none]
  · have torn := (not_congr (destroyed _ u found)).and (destroyed _ v found')
    rw [run_snoc] at found'
    exact (exec_layer kept found found' other).resolve_right fun gone => still (torn.1 gone)
  · have counted := held_of_shown found shown
    obtain ⟨a, known, -⟩ := kept.order.sound.owned.found counted
    rw [run_snoc]
    exact (exec_goes kept command).moves.steps.imageView? kept.order.sound (by rw [known]; rfl)
  · intro name forceFilter transform crop image t u v l named shows found layer found'
    have said := staging _ u found
    have bound := (obeys (.bind name _ _ _ image) named found found').bound shows layer
    rw [bound, ← said.size, ← said.blend]

end Session

end LayerFeed
