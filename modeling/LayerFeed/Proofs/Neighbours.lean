/-
Updaters beside one another. Images can be copied out of the layer of one updater and bound to
that of another, so two updaters may hold the same texture, and each lets go of it in its own
time. Still, whatever is done with one of them, short of the loss of a context, leaves the other
one what it was (`exec_undisturbed`): what it knows of itself, the records of the textures in
its slots and the image on its layer. Only the count of holders of a texture can tell, and it
changes by what the acting updater took or gave up.

What carries this is that the acting updater has only its own holdings as its footprint
(`Within`): a texture has one handle, so a handle in a slot of the other is none of its, and a
texture leaves its backend with its last holder.
-/
import LayerFeed.Proofs.Session.Within

namespace LayerFeed

open Owners World

/-- The updater that a notifier posts to. -/
def Notifier.updater? : Notifier → Option UpdaterId
  | .updater id => some id
  | .mailbox _ => none

namespace Session

variable {s s' : Session} {i j : UpdaterId} {u : Updater} {h : Held Updater} {t : TextureId}
  {command : Command}

/-- The updater that a command deals with: the one that it is addressed to or posts to, or the
one that the session holds no longer. -/
def dealtWith? (s : Session) : Command → Option UpdaterId
  | .dropUpdater name => s.updaterNames.get? name
  | .notify notifier => (s.notifiers.get? notifier).bind Notifier.updater?
  | command => s.recipient? command

/-- The updater that a change deals with. -/
def changes? (s : Session) : Change → Option UpdaterId
  | .dropUpdater name => s.updaterNames.get? name
  | .notify notifier => (s.notifiers.get? notifier).bind Notifier.updater?
  | change => change.addressed?.bind s.updaterNames.get?

/-- A command deals with the updater that its change deals with. -/
theorem changes?_change (s : Session) (command : Command) :
    s.changes? command.change = s.dealtWith? command := by
  cases command <;> rfl

-- ==================================================== commands

/-- A function on a named updater stays within it. -/
theorem onNamed_within {name : String} {f : Updater → World → World × Updater}
    (named : s.updaterNames.get? name = some i) (within : Within i s (s.onUpdater i f)) :
    Within i s (s.onNamed name f) := by
  unfold onNamed
  rw [named]
  exact within

/-- Choosing a sink stays within the updater. -/
theorem chooseSink_within (s : Session) (updater : String) (choice : SinkChoice) :
    Within i s (s.chooseSink updater choice).1 := by
  cases choice with
  | recorder name =>
    unfold chooseSink recorder
    dsimp only
    cases s.recorderNames.get? name with
    | none => exact .of_same rfl rfl (fun _ => .aside _ _ _) fun _ => rfl
    | some id => exact .refl i s
  | text name limit => exact .traces _
  | unchanged | discard | standardError | history => exact .refl i s

/-- So does attaching a source. -/
theorem attach_within (s : Session) (ref : SourceRef) :
    Within i s (s.onUpdater i fun u w => u.attach w ref) :=
  .onUpdater (fun u _ _ => u.attach_passes (fun _ _ _ => trivial) (fun _ _ => trivial) ref
      trivial)
    fun u => (u.attach_writes s.world ref).alive

/-- So does a teardown. -/
theorem teardown_within (mode : TeardownMode) :
    Within i s (s.onUpdater i fun u w => u.teardown w mode) :=
  .onUpdater (fun u _ _ => u.teardown_passes (fun _ _ _ => trivial) (fun _ _ => trivial) mode
      (.inr (by decide)) fun _ _ => trivial)
    fun u => (u.teardown_writes s.world mode).alive

/-- An image that is there is bound. The layer is one more holder of its texture. -/
theorem bind_within (sound : s.Sound) {updater : String}
    (named : s.updaterNames.get? updater = some i) (forceFilter : Bool)
    (transform : TextureTransform) (crop : Rect) (image : String) :
    Within i s (s.bind updater forceFilter transform crop image) := by
  unfold Session.bind
  rw [named]
  cases there : s.images.get? image with
  | none => exact .refl i s
  | some t =>
    dsimp only
    split
    · next here =>
      obtain ⟨h, entered⟩ := Option.isSome_iff_exists.1 here
      have counted : 0 < s.world.holders t := by
        rw [sound.owned.held]
        exact held_of_image there
      have entered' : (s.onWorld (·.share t)).updaters.get? i = some h := entered
      rw [onUpdater_eq entered']
      refine .set_updater entered (fun r => ?_) ?_
      · exact Relation.ReflTransGen.trans (.single (.share (.inr counted)))
          (h.value.bind_passes forceFilter transform crop trivial)
      · exact (h.value.bind_writes (s.world.share t) forceFilter transform crop t).alive
    · exact .refl i s

/-- A treatment of an updater stays within it. -/
theorem treatment_within (treatment : Treatment) :
    Within i s (s.onUpdater i (·.treat · treatment)) := by
  cases treatment with
  | post => exact .post
  | detach =>
    exact .onUpdater (fun u _ _ => u.detach_passes (fun _ _ _ => trivial) fun _ _ => trivial)
      fun u => (u.detach_writes s.world).alive
  | teardown mode => exact teardown_within mode

/-- A change that deals with an updater is that updater's business, unless a context is lost. -/
theorem change_within (sound : s.Sound) {change : Change} (dealt : s.changes? change = some i) :
    Within i s (s.after change) ∨ Loses s (s.after change) := by
  cases change with
  | sink updater choice =>
    left
    have chosen : Within i s (s.chooseSink updater choice).1 := chooseSink_within s updater choice
    unfold after setSink
    dsimp only
    split
    · refine chosen.trans (onNamed_within ?_ (.setter (.sink _)))
      rw [chooseSink_names]
      exact dealt
    · exact chosen
  | setting updater setting =>
    exact .inl (onNamed_within dealt (.setter (setting_setter setting)))
  | treatment updater treatment => exact .inl (onNamed_within dealt (treatment_within treatment))
  | attach updater name source state =>
    left
    unfold after attach
    dsimp only
    rw [show s.updaterNames.get? updater = some i from dealt]
    refine Within.trans ?_ (attach_within _ _)
    exact .of_world rfl rfl rfl
  | apply updater =>
    unfold after
    dsimp only
    rw [show s.updaterNames.get? updater = some i from dealt]
    exact apply_within i s
  | bind updater forceFilter transform crop image =>
    exact .inl (bind_within sound dealt forceFilter transform crop image)
  | dropUpdater name =>
    left
    unfold after dropUpdater
    dsimp only
    rw [show s.updaterNames.get? name = some i from dealt]
    refine Within.trans ?_ (.letGo i _)
    exact .of_world rfl rfl rfl
  | notify notifier =>
    left
    obtain ⟨n, there, posts⟩ := Option.bind_eq_some_iff.1 dealt
    unfold after
    dsimp only
    rw [there]
    cases n with
    | mailbox id => cases posts
    | updater id =>
      cases posts
      exact .post
  | _ => cases dealt

/-- And so is a command that deals with it. -/
theorem exec_within (sound : s.Sound) (dealt : s.dealtWith? command = some i) :
    Within i s (s.exec command).1 ∨ Loses s (s.exec command).1 := by
  rw [exec_change]
  exact change_within sound ((s.changes?_change command).trans dealt)

-- ==================================================== the neighbours

/-- What updater `i` did in between left updater `j` what it was. -/
structure Undisturbed (i j : UpdaterId) (s s' : Session) : Prop where
  /-- Its state, what is pending in it, its layer and its slots. -/
  updater : s'.updaterOf? j = s.updaterOf? j
  /-- The texture in a slot has the record that it had, but for the count of its holders. -/
  cached : ∀ u slot entry t, s.updaterOf? j = some u → u.cache.get? slot = some entry →
    entry.texture = some t → ∃ x, s.world.texture? t = some x
      ∧ s'.world.texture? t = some { x with holders := s'.world.holders t }
  /-- The image on the layer looks as it did. -/
  shown : ∀ u t, s.updaterOf? j = some u → u.shownImage = some t →
    (s.world.imageView? t).isSome ∧ s'.world.imageView? t = s.world.imageView? t
  /-- What it holds has not left its backend. -/
  unfreed : ∀ t, 0 < (s.holdings j).count t →
    0 < s'.world.holders t ∧ t ∉ freesIn s'.world.history
  /-- A texture has as many holders more or less as `i` holds it more or less often. -/
  counted : ∀ t, s'.world.holders t + (s.holdings i).count t
    = s.world.holders t + (s'.holdings i).count t
  /-- Its context is as alive as it was, and so are all others. -/
  alive : ∀ c, s'.world.alive c = s.world.alive c

/-- What another updater holds stands besides the one that acts. -/
theorem holdings_le_besides (s : Session) (ne : j ≠ i) (k : Holder) (t : TextureId) :
    s.holdings j k t ≤ s.besides i k t := by
  unfold holdings updaterOf?
  cases entered : s.updaters.get? j with
  | none => exact Nat.zero_le _
  | some h =>
    rw [besides_of_ne entered (Ne.symm ne)]
    exact Nat.le_add_right _ _

/-- What another updater holds is held besides `i`. -/
theorem count_holdings_le (s : Session) (ne : j ≠ i) (t : TextureId) :
    (s.holdings j).count t ≤ (s.besides i).count t :=
  Nat.add_le_add (holdings_le_besides s ne .handle t) (holdings_le_besides s ne .image t)

/-- The handle in a slot is one of the updater's holdings. -/
theorem handle_of_cached {slot : SlotId} {entry : Slot} (found : s.updaterOf? j = some u)
    (stands : u.cache.get? slot = some entry) (texture : entry.texture = some t) :
    0 < s.holdings j .handle t := by
  unfold holdings
  rw [found, Option.elim_some, Updater.owners, SlotCache.owners_of_get? stands, Slot.owners,
    texture, oneOf_some]
  simp only [Pi.add_apply, one_handle_apply, if_pos]
  omega

theorem image_of_shown (found : s.updaterOf? j = some u) (shown : u.shownImage = some t) :
    0 < (s.holdings j).count t := by
  unfold holdings
  rw [found, Option.elim_some, Updater.owners, shown, oneOf_some]
  exact le_count_one_add .image t _

/-- What is one updater's business disturbs no other. -/
theorem Within.undisturbed (within : Within i s s') (ne : j ≠ i) (sound : s.Sound)
    (sound' : s'.Sound) (steps : Steps s s') : Undisturbed i j s s' := by
  have owned := sound.owned
  have owned' := sound'.owned
  rw [owners_eq_holdings s i] at owned
  rw [owners_eq_holdings s' i, within.besides] at owned'
  have known : ∀ t, 0 < (s.holdings j).count t → (s.world.texture? t).isSome := by
    intro t holds
    have counted := count_holdings_le s ne t
    obtain ⟨x, found, -⟩ := owned.found (t := t) (by rw [count_add]; omega)
    rw [found]
    rfl
  have held : ∀ t, 0 < (s.holdings j).count t → 0 < s'.world.holders t := by
    intro t holds
    have counted := count_holdings_le s ne t
    rw [owned'.held, count_add]
    omega
  refine ⟨within.others j ne, ?_, ?_, ?_, ?_, within.alive⟩
  · intro u slot entry t found stands texture
    have handle := handle_of_cached found stands texture
    have holds : 0 < (s.holdings j).count t := Nat.add_pos_left handle _
    -- there is one handle, and `j` has it
    have none : s.holdings i .handle t = 0 := by
      have single := owned.single t
      have other := holdings_le_besides s ne .handle t
      rw [Pi.add_apply, Pi.add_apply] at single
      omega
    have passes := (within.passes 0).of_eq (add_zero _).symm (add_zero _).symm
    obtain ⟨x, there⟩ := Option.isSome_iff_exists.1 (known t holds)
    obtain ⟨n, there'⟩ := (passes.spares owned none (known t holds)).1 x there
    exact ⟨x, there, by rw [holders_eq there', there']⟩
  · intro u t found shown
    have view := Steps.imageView? sound steps (known t (image_of_shown found shown))
    refine ⟨?_, view⟩
    unfold World.imageView?
    rw [Option.isSome_map]
    exact known t (image_of_shown found shown)
  · intro t holds
    refine ⟨held t holds, fun freed => ?_⟩
    exact Nat.ne_of_gt (held t holds) (sound'.ledger.mem_freesIn.1 freed).2
  · intro t
    rw [owned.held, owned'.held, count_add, count_add]
    omega

/-- In every run a command that deals with one updater, and by which no context is lost, leaves
every other updater what it was, and keeps what that one holds on its backend. -/
theorem exec_undisturbed (minimal : Bool) (b : Backend) (commands : List Command)
    (command : Command)
    (dealt : ((start minimal b).run commands).dealtWith? command = some i)
    (spared : ∀ c, ((start minimal b).run commands).world.alive c →
      ((start minimal b).run (commands ++ [command])).world.alive c)
    (ne : j ≠ i) :
    Undisturbed i j ((start minimal b).run commands)
      ((start minimal b).run (commands ++ [command])) := by
  have kept := kept_run minimal b commands
  have kept' := kept_run minimal b (commands ++ [command])
  rw [run_snoc] at spared kept' ⊢
  rcases exec_within kept.order.sound dealt with within | ⟨c, living, lost⟩
  · exact within.undisturbed ne kept.order.sound kept'.order.sound
      (exec_goes kept command).moves.steps
  · exact absurd (spared c living) lost

/-- An image of the only texture of updater 1 is on the layer of updater 3 as well. -/
def borrowed : List Command :=
  let frame := Frame.ofBuffer ⟨0⟩ ⟨⟨7⟩, ⟨64, 32, 1⟩, none⟩ .srgb
  [.newUpdater "a" { pipeline := .vulkan } (.registered "s") .unchanged,
    .attach "a" "q" { frames := [frame] } none, .apply "a",
    .newUpdater "b" {} (.registered "s") .unchanged, .keepLayerImage "a" "image",
    .bind "b" false .identity .zero "image", .dropImage "image"]

/-- The one that imported the texture goes away, and the other one has it still. -/
theorem borrowed_undisturbed :
    let s := (start false {}).run borrowed
    let s' := (start false {}).run (borrowed ++ [.dropUpdater "a"])
    s.dealtWith? (.dropUpdater "a") = some 1 ∧ (∀ c, s.world.alive c → s'.world.alive c)
      ∧ s'.updaterOf? 1 = none ∧ (s.world.holders 1, s'.world.holders 1) = (3, 1)
      ∧ ((s.updaterOf? 3).bind (·.shownImage)) = some 1 ∧ Undisturbed 1 3 s s' := by
  intro s s'
  have dealt : s.dealtWith? (.dropUpdater "a") = some 1 := by decide
  have spared : ∀ c, s.world.alive c → s'.world.alive c := by
    intro c living
    rwa [alive_congr (show s'.world.contexts = s.world.contexts by decide)]
  exact ⟨dealt, spared, by decide, by decide, by decide,
    exec_undisturbed false {} borrowed (.dropUpdater "a") dealt spared (by decide)⟩

end Session

end LayerFeed
