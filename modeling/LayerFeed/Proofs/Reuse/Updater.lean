/-
Updaters that differ in their textures alone. Two updaters are `Updater.Twins` if their layers
show the same, their slots show the same, and they are equal in all else. What is done to both of
them alike leaves twins (`attach_twins`, `teardown_twins`, ...), in whatever worlds this happens,
because no world has a say in what becomes of the updaters.

A latch is the exception: it looks for the texture in the slot. There the second updater is forced
to import the frame again; if imports work, the two show the same frame all the same
(`latch_twins`).
-/
import LayerFeed.Proofs.Reuse.Sights
import LayerFeed.Proofs.Session.Step

namespace LayerFeed

open World

variable {h h' k k' : List Entry} {t t' : TextureId} {A : Sight → Prop}

-- ==================================================== layers

/-- Two layers differ in their images alone, and these show the same. -/
inductive Layer.Twins (h h' : List Entry) (l : Layer) : Layer → Prop
  | mk {image : Option TextureId} (shown : Option.Rel (SameSight h h') l.image image) :
      Twins h h' l { l with image }

/-- What holds of related values holds of options of them. -/
theorem optionRel_mono {α β : Type} {R S : α → β → Prop} {o : Option α} {o' : Option β}
    (weaker : ∀ a b, R a b → S a b) (rel : Option.Rel R o o') : Option.Rel S o o' := by
  cases rel with
  | none => exact .none
  | some related => exact .some (weaker _ _ related)

/-- Twin layers remain so as the histories grow. -/
theorem Layer.Twins.mono {l l' : Layer} (more : h ⊆ k) (more' : h' ⊆ k')
    (twins : Layer.Twins h h' l l') : Layer.Twins k k' l l' := by
  cases twins with
  | mk shown => exact .mk (optionRel_mono (fun _ _ same => same.mono more more') shown)

/-- A change of a layer that leaves the image alone. -/
theorem Layer.Twins.change {l l' : Layer} {f : Layer → Layer} (twins : Layer.Twins h h' l l')
    (commutes : ∀ l image, f { l with image } = { f l with image }) :
    Layer.Twins h h' (f l) (f l') := by
  cases twins with
  | @mk image shown =>
    have kept := congrArg Layer.image (commutes l l.image)
    have kept : (f l).image = l.image := kept
    rw [commutes l image]
    refine .mk ?_
    rwa [kept]

-- ==================================================== updaters

/-- A frame whose texture has to be imported anew. -/
def Frame.forced (f : Frame) : Frame := { f with forceRecreate := true }

namespace Updater

/-- Two updaters differ in the textures of their layers and slots alone, and these show the same;
the slots show what is allowed. -/
inductive Twins (A : Sight → Prop) (h h' : List Entry) (u : Updater) : Updater → Prop
  | mk {layer : Option Layer} {cache : SlotCache}
      (layers : Option.Rel (Layer.Twins h h') u.layer layer)
      (caches : u.cache.Twins A h h' cache) : Twins A h h' u { u with layer, cache }

variable {u u' : Updater}

/-- A new updater is its own twin. -/
theorem new_twins (id : UpdaterId) (c : ContextId) (config : Config) :
    Twins A h h' (.new id c config) (.new id c config) :=
  .mk .none (SlotCache.twins_empty _)

/-- Twin updaters remain so as the histories grow. -/
theorem Twins.mono (more : h ⊆ k) (more' : h' ⊆ k') (twins : Twins A h h' u u') :
    Twins A k k' u u' := by
  cases twins with
  | mk layers caches =>
    exact .mk (optionRel_mono (fun _ _ same => same.mono more more') layers)
      (caches.mono more more')

variable (twins : Twins A h h' u u')

include twins

/-- Twins are of one context. -/
theorem context_twins : u'.context = u.context := by
  cases twins
  rfl

-- ==================================================== pending properties

/-- With layers of the same size. -/
theorem sizedLayer_twins : Layer.Twins h h' u.sizedLayer u'.sizedLayer := by
  cases twins with
  | @mk layer cache layers caches =>
    have layers : Layer.Twins h h' (u.layer.getD (.new u.width u.height u.blend))
        (layer.getD (.new u.width u.height u.blend)) := by
      generalize u.layer = o at layers ⊢
      cases layers with
      | none => exact .mk .none
      | some same => exact same
    exact layers.change (f := fun l =>
      { l with width := u.width, height := u.height, blend := u.blend }) fun _ _ => rfl

/-- And with images that look the same. -/
theorem shownImage_twins : Option.Rel (SameSight h h') u.shownImage u'.shownImage := by
  cases twins with
  | @mk layer cache layers caches =>
    unfold shownImage
    dsimp only
    generalize u.layer = o at layers ⊢
    cases layers with
    | none => exact .none
    | some same => cases same with | mk shown => exact shown

/-- The paint committed on both sides. -/
theorem commitPaint_twins : Twins A h h' u.commitPaint u'.commitPaint := by
  have sized := sizedLayer_twins twins
  cases twins with
  | mk layers caches =>
    exact .mk (.some (sized.change (f := fun l => { l with paint := u.paint })
      fun _ _ => rfl)) caches

/-- The transform committed on both sides. -/
theorem commitTransform_twins : Twins A h h' u.commitTransform u'.commitTransform := by
  have sized := sizedLayer_twins twins
  cases twins with
  | mk layers caches =>
    unfold commitTransform
    dsimp only
    split
    · next transform _ =>
      exact .mk (.some (sized.change (f := fun l => { l with transform := some transform })
        fun _ _ => rfl)) caches
    · exact .mk layers caches

/-- A change to what is pending. -/
theorem setter_twins {f : Updater → Updater} (setter : Setter f) :
    Twins A h h' (f u) (f u') := by
  cases setter with
  | size width height =>
    cases twins with
    | mk layers caches =>
      unfold setSize
      dsimp only
      split <;> exact .mk layers caches
  | blend blend =>
    cases twins with
    | mk layers caches =>
      unfold setBlend
      dsimp only
      split <;> exact .mk layers caches
  | transform | paint | sink =>
    cases twins with
    | mk layers caches => exact .mk layers caches
  | commitTransform => exact commitTransform_twins twins

/-- A post on both sides. -/
theorem post_twins (w w' : World) : Twins A h h' (u.post w).2 (u'.post w').2 := by
  cases twins with
  | mk layers caches => exact .mk layers caches

/-- Images that show the same are bound. -/
theorem bind_twins (same : SameSight h h' t t') (w w' : World) (forceFilter : Bool)
    (windowTransform : TextureTransform) (crop : Rect) :
    Twins A h h' (u.bind w forceFilter windowTransform crop t).2
      (u'.bind w' forceFilter windowTransform crop t').2 := by
  have sized := sizedLayer_twins twins
  cases twins with
  | @mk layer cache layers caches =>
    refine .mk (.some ?_) caches
    have bound : ∀ {l l' : Layer}, Layer.Twins h h' l l' →
        Layer.Twins h h' { l with forceFilter, windowTransform, crop, image := some t }
          { l' with forceFilter, windowTransform, crop, image := some t' } := by
      rintro l l' ⟨-⟩
      exact .mk (.some same)
    exact bound sized

-- ==================================================== the source

/-- The source released on both sides. -/
theorem releaseSource_twins (w w' : World) :
    Twins A h h' (u.releaseSource w).object (u'.releaseSource w').object
      ∧ (u'.releaseSource w').answer = (u.releaseSource w).answer := by
  cases twins with
  | mk layers caches =>
    unfold releaseSource
    dsimp only
    split <;> exact ⟨.mk layers caches, rfl⟩

/-- The active slot severed on both sides. -/
theorem severActiveSlot_twins (w w' : World) :
    Twins A h h' (u.severActiveSlot w).object (u'.severActiveSlot w').object := by
  cases twins with
  | mk layers caches =>
    unfold severActiveSlot
    dsimp only
    split
    · exact .mk layers caches
    · next slot _ => exact .mk layers (caches.clear _ _ slot .normal)

/-- A source attached on both sides. -/
theorem attach_twins (w w' : World) (source : SourceRef) :
    Twins A h h' (u.attach w source).2 (u'.attach w' source).2 := by
  have severed := severActiveSlot_twins (releaseSource_twins twins w w').1
    (u.releaseSource w).world (u'.releaseSource w').world
  unfold attach
  dsimp only
  generalize (u.releaseSource w).object.severActiveSlot _ = a at severed ⊢
  generalize (u'.releaseSource w').object.severActiveSlot _ = a' at severed ⊢
  obtain ⟨v, u, slot⟩ := a
  obtain ⟨v', u', slot'⟩ := a'
  cases severed with
  | mk layers caches => exact .mk layers (caches.clearAll v v' .normal)

/-- A detach on both sides. -/
theorem detach_twins (w w' : World) : Twins A h h' (u.detach w).2 (u'.detach w').2 := by
  have severed := severActiveSlot_twins (releaseSource_twins twins w w').1
    (u.releaseSource w).world (u'.releaseSource w').world
  have object : ∀ (u : Updater) (w : World), (u.detach w).2
      = ((u.releaseSource w).object.severActiveSlot (u.releaseSource w).world).object := by
    intro u w
    unfold detach
    dsimp only
    split <;> rfl
  rw [object, object]
  exact severed

-- ==================================================== applying

/-- An apply started on both sides, which asks in both or in neither. -/
theorem beginApply_twins (w w' : World) :
    Twins A h h' (u.beginApply w).object (u'.beginApply w').object
      ∧ (u'.beginApply w').answer = (u.beginApply w).answer := by
  have painted := commitPaint_twins twins
  unfold beginApply
  dsimp only
  generalize u.commitPaint = u at painted ⊢
  generalize u'.commitPaint = u' at painted ⊢
  cases painted with
  | mk layers caches =>
    dsimp only
    split
    · exact ⟨.mk layers caches, rfl⟩
    · unfold takeOwnership
      dsimp only
      split <;> exact ⟨.mk layers caches, rfl⟩

omit twins in
/-- A frame is latched alike, whether its texture is found or has to be imported anew, where
imports work. -/
theorem latch_twins {w w' : World} (twins : Twins A w.history w'.history u u')
    (described : ∀ a b, A a → A b → a.buffer = b.buffer → a.desc = b.desc) (ledger : w.Ledger)
    (ledger' : w'.Ledger) (serves : w.serves u.context) (serves' : w'.serves u.context)
    {frame : Frame} (allowed : A frame.sight) (issued issued' : Option FenceClass) :
    Twins A (u.latch w frame issued).1.history (u'.latch w' frame.forced issued').1.history
      (u.latch w frame issued).2 (u'.latch w' frame.forced issued').2 := by
  have agrees : Sight.Agrees A frame.sight frame.forceRecreate (w.serves u.context) true
      (w'.serves u.context) := by
    rw [serves, serves']
    exact Sight.agrees_served (fun v shown => described v _ shown allowed) allowed _ _
  cases twins with
  | @mk layer cache layers caches =>
    obtain ⟨taken, image⟩ := caches.resolve ledger ledger' u.context frame.slot frame.buffer
      frame.dataspace agrees
    have more := (u.cache.resolve_writes w u.context frame.slot frame.buffer frame.dataspace
      frame.forceRecreate).subset
    have more' := (cache.resolve_writes w' u.context frame.slot frame.buffer frame.dataspace
      true).subset
    unfold latch Frame.forced
    dsimp only
    generalize u.cache.resolve w u.context frame.slot frame.buffer frame.dataspace
      frame.forceRecreate = a at taken image more ⊢
    generalize cache.resolve w' u.context frame.slot frame.buffer frame.dataspace true = a'
      at taken image more' ⊢
    have layers := optionRel_mono (fun _ _ same => Layer.Twins.mono more more' same) layers
    have counted : Twins A a.world.history a'.world.history
        { u with
          currentSlot := some frame.slot
          framesLatched := u.framesLatched + 1
          cache := a.object }
        { u with
          currentSlot := some frame.slot
          framesLatched := u.framesLatched + 1
          cache := a'.object
          layer } := .mk layers taken
    generalize a.answer.image? = i at image ⊢
    generalize a'.answer.image? = i' at image ⊢
    have told : ∀ (w : World) (e : Entry) (event : Event),
        w.history ⊆ ((w.record e).trace u.id u.sink event).history := fun w e event mem old =>
      List.mem_append_left _ (List.mem_append_left _ old)
    cases image with
    | none => exact counted.mono (told a.world _ _) (told a'.world _ _)
    | some same =>
      refine Twins.mono (bind_writes _ _ _ _ _ _).subset (bind_writes _ _ _ _ _ _).subset ?_
      exact bind_twins (counted.mono (told a.world _ _) (told a'.world _ _))
        (same.mono (told a.world _ _) (told a'.world _ _)) _ _ _ _ _

-- ==================================================== teardown

/-- A teardown on both sides. -/
theorem teardown_twins (w w' : World) (mode : TeardownMode) :
    Twins A h h' (u.teardown w mode).2 (u'.teardown w' mode).2 := by
  cases twins with
  | mk layers caches =>
    unfold teardown
    dsimp only
    split
    · exact .mk layers caches
    · exact .mk .none (caches.clearAll w w' mode)

end Updater

end LayerFeed
