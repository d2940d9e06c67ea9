/-
The layer of an updater that is torn down. A teardown happens once and takes the layer
away, and no apply brings it back. But an image can still be bound to the updater, and
that makes a layer again: the layer is then there exactly if an image was bound since, and
it keeps the last of these images, which is all that the updater holds (`run_layer_fate`).

The proof follows the marks that the history bears of the updater's layer: a teardown, or
an image that is bound. Every other deed leaves the marks as they are, and the layer too,
if the updater is torn down.
-/
import LayerFeed.Proofs.Session.Course

namespace LayerFeed

open Owners World

/-- What a history says of the layer of an updater, in order. -/
def marksOf (i : UpdaterId) (h : List Entry) : List Mark := h.filterMap (Entry.mark? i)

/-- The marks in a longer history are those of both parts. -/
theorem marksOf_append (i : UpdaterId) (h es : List Entry) :
    marksOf i (h ++ es) = marksOf i h ++ marksOf i es :=
  List.filterMap_append

/-- Without a mark by `i` there are none. -/
theorem marksOf_eq_nil {i : UpdaterId} {es : List Entry} (none : ∀ e ∈ es, e.mark? i = none) :
    marksOf i es = [] :=
  List.filterMap_eq_nil_iff.2 none

/-- The marks after one entry more. -/
theorem marksOf_concat (i : UpdaterId) (h : List Entry) (e : Entry) :
    marksOf i (h ++ [e]) = marksOf i h ++ (e.mark? i).toList := by
  rw [marksOf_append]
  refine congrArg (marksOf i h ++ ·) ?_
  unfold marksOf
  rw [List.filterMap_cons]
  cases e.mark? i <;> rfl

variable {i : UpdaterId} {m : Manner} {w w' : World} {f f' r : Owners}
  {t : TextureId}

/-- Passes that leave no mark. -/
theorem World.Passes.marks (h : Passes (fun e => e.mark? i = none) m w f w' f')
    (owned : w.Owned (f + r)) : marksOf i w'.history = marksOf i w.history := by
  obtain ⟨es, grown, told⟩ := h.history owned
  have silent : marksOf i es = [] := by
    refine marksOf_eq_nil fun e mem => ?_
    by_cases remark : e.isRemark
    · exact told e mem remark
    · exact e.mark?_of_not_remark remark i
  rw [grown, marksOf_append, silent, List.append_nil]

/-- No teardown is among the marks of a layer. -/
def Untorn (marks : List Mark) : Prop := ∀ mode, .tornDown mode ∉ marks

/-- Passes without a teardown leave an updater that was not torn down so. -/
theorem World.Passes.untorn
    (h : Passes (fun e => ∀ mode, e.mark? i ≠ some (.tornDown mode)) m w f w' f')
    (owned : w.Owned (f + r)) (untorn : Untorn (marksOf i w.history)) :
    Untorn (marksOf i w'.history) := by
  obtain ⟨es, grown, told⟩ := h.history owned
  intro mode mem
  rw [grown, marksOf_append] at mem
  rcases List.mem_append.1 mem with mem | mem
  · exact untorn mode mem
  · obtain ⟨e, mem, mark⟩ := List.mem_filterMap.1 mem
    by_cases remark : e.isRemark
    · exact told e mem remark mode mark
    · rw [e.mark?_of_not_remark remark] at mark
      cases mark

/-- How the layer of an updater stands to what the history says of it. -/
structure Updater.LayerFate (u : Updater) (marks : List Mark) : Prop where
  living : ¬ u.destroyed → Untorn marks
  /-- The teardown is the only one, and the layer is what was bound since. -/
  tornDown : u.destroyed → ∃ before mode images,
    marks = before ++ .tornDown mode :: images.map .bound ∧ Untorn before
      ∧ (u.layer.isSome ↔ images ≠ []) ∧ u.shownImage = images.getLast?

namespace Updater.LayerFate

variable {u v : Updater} {marks : List Mark}

/-- Nothing becomes of the layer of an updater that is torn down. -/
theorem congr (fate : u.LayerFate marks) (destroyed : v.destroyed = u.destroyed)
    (layer : u.destroyed → v.layer = u.layer) : v.LayerFate marks where
  living := by
    rw [destroyed]
    exact fate.living
  tornDown gone := by
    rw [destroyed] at gone
    unfold shownImage
    rw [layer gone]
    exact fate.tornDown gone

/-- A living updater that was not torn down has the fate of one. -/
theorem of_living (live : ¬ u.destroyed) (untorn : Untorn marks) : u.LayerFate marks :=
  ⟨fun _ => untorn, fun gone => absurd gone live⟩

/-- An image is bound to the layer. -/
theorem bound (fate : u.LayerFate marks) {layer : Layer} {t : TextureId}
    (destroyed : v.destroyed = u.destroyed) (shows : v.layer = some layer)
    (image : layer.image = some t) : v.LayerFate (marks ++ [.bound t]) where
  living live := by
    rw [destroyed] at live
    intro mode mem
    rcases List.mem_append.1 mem with mem | mem
    · exact fate.living live mode mem
    · cases List.mem_singleton.1 mem
  tornDown gone := by
    rw [destroyed] at gone
    obtain ⟨before, mode, images, split, untorn, -, -⟩ := fate.tornDown gone
    refine ⟨before, mode, images ++ [t], ?_, untorn, ?_, ?_⟩
    · rw [split, List.map_append, List.append_assoc]
      rfl
    · rw [shows]
      simp
    · rw [shownImage, shows, List.getLast?_concat]
      exact image

/-- A teardown takes the layer away. -/
theorem teardown (fate : u.LayerFate marks) (live : ¬ u.destroyed) (gone : v.destroyed)
    (layer : v.layer = none) (mode : TeardownMode) :
    v.LayerFate (marks ++ [.tornDown mode]) where
  living live' := absurd gone live'
  tornDown _ := by
    refine ⟨marks, mode, [], rfl, fate.living live, ?_, ?_⟩
    · rw [layer]
      simp
    · rw [shownImage, layer]
      rfl

end Updater.LayerFate

-- ==================================================== one deed

namespace Updater

variable (u : Updater)

/-- The one entry of a teardown that tells of the layer is its event. -/
theorem teardown_marks (live : ¬ u.destroyed) (owned : w.Owned (u.owners + r))
    (mode : TeardownMode) :
    marksOf u.id (u.teardown w mode).1.history = marksOf u.id w.history ++ [.tornDown mode] := by
  have released := u.releaseOwnership_passes (P := fun e => e.mark? u.id = none) (m := .loose)
    (w := w) (r := u.owners) (fun _ _ _ => rfl)
  have emptied := released.trans ((u.giveUp_passes (r := 0) (w := u.releaseOwnership w) mode
    (.inr (by decide))).of_eq (add_zero _).symm rfl)
  have told : marksOf u.id [.note (.tornDown mode u.cache.liveTextures),
      .event u.id u.sink (.tornDown mode u.cache.liveTextures u.layer.isSome)]
      = [.tornDown mode] := by
    show (if u.id = u.id then some (Mark.tornDown mode) else none).toList = _
    rw [if_pos rfl]
    rfl
  rw [u.teardown_history live, marksOf_append, emptied.marks owned, told]

/-- Binding an image leaves one mark. -/
theorem bind_marks (owned : w.Owned (one .image t + (u.owners + r))) (forceFilter : Bool)
    (transform : TextureTransform) (crop : Rect) :
    marksOf u.id (u.bind w forceFilter transform crop t).1.history
      = marksOf u.id w.history ++ [.bound t] := by
  obtain ⟨-, owned'⟩ := (Passes.remark (P := Entry.Any) (m := .loose)
    (f := one .image t + (u.owners + r)) (.bound u.id forceFilter transform crop t) rfl rfl
    trivial).transfer owned
  have shape : one .image t + (u.owners + r)
      = oneOf .image u.sizedLayer.image + 0 + (one .image t + u.cache.owners + r) := by
    rw [owners, sizedLayer_image]
    abel
  rw [shape] at owned'
  have emptied := Passes.letGoOf (P := fun e => e.mark? u.id = none) (m := .loose)
    (w := w.record (.bound u.id forceFilter transform crop t)) (f := 0) u.sizedLayer.image
  refine (emptied.marks owned').trans ?_
  rw [record_history, marksOf_concat, Entry.mark?, if_pos rfl]
  rfl

end Updater

-- ==================================================== a session

namespace Session

variable {s s' : Session} {u : Updater} {n : Nat} {x : World × Updater} {h : Held Updater}

/-- A deed bears marks as it changes the layer. -/
theorem Deed.layerFate (sound : s.Sound) (entered : s.updaters.get? i = some h)
    (deed : Deed s i h.value n x)
    (fate : h.value.LayerFate (marksOf i s.world.history)) :
    x.2.LayerFate (marksOf i x.1.history) := by
  obtain ⟨-, own⟩ := sound.numbered.updaters i h entered
  have owned := sound.owned
  rw [owners_eq_besides entered] at owned
  have still : ∀ e : Entry, e.Still h.value.id → e.mark? i = none := fun _ still => still.unmarked i
  have calls : ∀ ref call, h.value.source = some ref →
      (Entry.source ref call).mark? i = none := fun _ _ _ => rfl
  -- a deed that bears no mark
  have silent : ∀ {v : World} {g : Owners},
      Passes (fun e => e.mark? i = none) .loose s.world (h.value.owners + 0) v g →
      marksOf i v.history = marksOf i s.world.history := fun passes =>
    passes.marks (r := s.besides i) (by rwa [add_zero])
  -- a deed on a living updater that is no teardown
  have alive : ∀ {v : World} {g : Owners}, ¬ h.value.destroyed →
      Passes (fun e => ∀ mode, e.mark? i ≠ some (.tornDown mode)) .loose s.world
        (h.value.owners + 0) v g → Untorn (marksOf i v.history) := fun live passes =>
    passes.untorn (r := s.besides i) (by rwa [add_zero]) (fate.living live)
  cases deed with
  | callback callback =>
    cases callback with
    | post =>
      rw [silent (h.value.post_passes still)]
      exact fate.congr rfl fun _ => rfl
    | fence f useSync gate previous =>
      obtain ⟨others, owners⟩ := previous_owners h.value
      have fenced := f.createFence_passes (P := fun e => e.mark? i = none) (m := .loose)
        (w := s.world) (r := others) (fun _ => rfl) useSync
      rw [previous, ← owners] at fenced
      rw [silent (fenced.of_eq (add_zero _) rfl)]
      exact fate
  | setter f_setter proper =>
    refine fate.congr (setter_sameSource f_setter h.value).destroyed fun gone => ?_
    exact proper.resolve_left fun live => live gone
  | @bind t forceFilter transform crop held =>
    have counted : 0 < s.world.holders t := by rwa [sound.owned.held]
    have shared : Passes Entry.Any .loose s.world (h.value.owners + s.besides i) (s.world.share t)
        (one .image t + (h.value.owners + s.besides i)) := .single (.share (.inr counted))
    have marks := h.value.bind_marks (shared.transfer owned).2 forceFilter transform crop
    rw [own] at marks
    rw [marks]
    exact fate.bound rfl rfl rfl
  | idle live idle =>
    have same := (Updater.beginApply_idle idle).2.2.2
    rw [silent (h.value.beginApply_passes calls)]
    exact fate.congr same fun gone => absurd gone live
  | @ask ref live asked =>
    have same := (Updater.beginApply_asks asked).2.2.2.2
    have passes := (h.value.beginApply_passes (P := fun e => e.mark? i = none) (m := .loose)
      (w := s.world) (r := h.value.owners + 0) calls).trans
        (.remark (.source ref .dequeueBegun) rfl rfl rfl)
    rw [silent passes]
    exact fate.congr same fun gone => absurd gone live
  | @answer ref results has =>
    have passes : Passes (fun e => e.mark? i = none) .loose s.world (h.value.owners + 0)
        (s.world.record (.source ref (.dequeued results))) (h.value.owners + 0) :=
      .remark _ rfl rfl rfl
    rw [silent passes]
    exact fate
  | latch frame issued live answered =>
    have passes := h.value.latch_passes (P := fun e => ∀ mode, e.mark? i ≠ some (.tornDown mode))
      (m := .loose) (w := s.world) (r := 0)
      (fun _ still _ => by rw [still.unmarked i]; nofun) frame issued nofun ?_
    · refine .of_living ?_ (alive live passes)
      rwa [latch_destroyed]
    · intro forceFilter transform crop t mode
      rw [Entry.mark?]
      split <;> nofun
  | attach name =>
    rw [silent (h.value.attach_passes calls still _ rfl)]
    obtain ⟨cache, -, same⟩ := h.value.attach_object s.world ⟨s.fresh, name, i⟩
    rw [same]
    exact fate.congr rfl fun _ => rfl
  | detach =>
    rw [silent (h.value.detach_passes calls still)]
    obtain ⟨cache, same⟩ := h.value.detach_object s.world
    rw [same]
    exact fate.congr rfl fun _ => rfl
  | teardown mode =>
    by_cases live : h.value.destroyed
    · have same : h.value.teardown s.world mode = (s.world, h.value) := by
        rw [Updater.teardown, if_pos live]
      rw [same]
      exact fate
    · have marks := h.value.teardown_marks live owned mode
      rw [own] at marks
      rw [marks]
      refine fate.teardown live ?_ ?_ mode
      · exact (Updater.teardown_source live s.world mode).2.2
      · rw [Updater.teardown, if_neg live]

/-- In a session updater `i`, if it is there, stands to its layer as the history says. -/
def LayerFate (s : Session) (i : UpdaterId) : Prop :=
  ∀ u, s.updaterOf? i = some u → u.LayerFate (marksOf i s.world.history)

/-- A newborn updater lives and was not torn down. -/
theorem Newborn.layerFate (newborn : s.Newborn i) : s.LayerFate i := by
  intro u there
  have silent : marksOf i s.world.history = [] := marksOf_eq_nil fun e mem =>
    e.mark?_of_notBy (newborn.silent e mem)
  obtain ⟨c, config, sink, rfl⟩ := newborn.new u there
  rw [silent]
  exact .of_living (by nofun) nofun

/-- Every deal keeps the layer in step with the marks. -/
theorem Deal.layerFate (order : s.InOrder) (given : i < s.fresh) (deal : Deal i none s s')
    (fate : s.LayerFate i) : s'.LayerFate i := by
  intro u there'
  cases deal with
  | elsewhere elsewhere =>
    obtain ⟨es, grown, others⟩ := elsewhere.history order.sound
    have silent : marksOf i es = [] := marksOf_eq_nil fun e mem => e.mark?_of_notBy (others e mem)
    rw [grown, marksOf_append, silent, List.append_nil]
    rw [elsewhere.same] at there'
    exact fate u there'
  | opens b => exact fate u there'
  | comes new => exact absurd new (Nat.ne_of_lt given)
  | goes entered world fresh besides gone =>
    rw [updaterOf?, gone] at there'
    cases there'
  | deed entered deed free world fresh besides there =>
    rw [there] at there'
    cases there'
    rw [world]
    exact deed.layerFate order.sound entered (fate _ (updaterOf?_of_get? entered))

/-- After every run an updater stands to its layer as the history says: as long as it is not
torn down no teardown is behind it, and if it is torn down it was so once and shows the last
image that was bound to it since. That image is then all that it holds. -/
theorem run_layer_fate (minimal : Bool) (b : Backend) (commands : List Command) {u : Updater}
    (found : ((start minimal b).run commands).updaterOf? i = some u) :
    u.LayerFate (marksOf i ((start minimal b).run commands).world.history)
      ∧ (u.destroyed → u.owners = oneOf .image u.shownImage) := by
  have given := given_of_found (kept_run minimal b commands).order found
  obtain ⟨fate, bare⟩ := run_life (I := fun s => s.LayerFate i ∧ s.Bare i) (i := i)
    (fun s newborn => ⟨newborn.layerFate, newborn.bare⟩)
    (fun s s' order given deal ⟨fate, bare⟩ => ⟨deal.layerFate order given fate, deal.bare bare⟩)
    minimal b commands given
  refine ⟨fate u found, fun gone => ?_⟩
  rw [Updater.owners, SlotCache.owners, (bare u found gone).1]
  exact add_zero _

/-- An image is bound to an updater that is torn down. -/
def boundAfterTeardown : List Command :=
  [.newUpdater "u" {} (.registered "s") .unchanged,
    .importTexture "t" "s" .gl ⟨⟨1⟩, ⟨64, 32, 1⟩, none⟩ .srgb, .handleImage "t" "i",
    .teardown "u" .normal, .bind "u" false .identity .zero "i"]

theorem boundAfterTeardown_layer :
    let s := (start false {}).run boundAfterTeardown
    ∃ u, s.updaterOf? 1 = some u ∧ u.destroyed ∧ u.shownImage = some 1
      ∧ u.LayerFate (marksOf 1 s.world.history)
      ∧ (u.destroyed → u.owners = oneOf .image u.shownImage) := by
  intro s
  have shown : (s.updaterOf? 1).map (fun u => (u.destroyed, u.shownImage))
      = some (true, some 1) := by decide
  obtain ⟨u, found, same⟩ := Option.map_eq_some_iff.1 shown
  obtain ⟨gone, shows⟩ := Prod.mk.inj same
  exact ⟨u, found, gone, shows, run_layer_fate false {} boundAfterTeardown found⟩

end Session

end LayerFeed
