/-
What an apply does to its own updater. The paint is committed, the source may be asked, a frame
may be latched, and the transform is committed: whatever the source does in between, the
updater stays what it was but for its mailbox, because it is locked. So an updater that is
there after the apply is what these deeds make of it (`apply_applies`), and the apply tells of
a latch of it exactly where there is one (`Quiets`).
-/
import LayerFeed.Proofs.Session.Addressed
import LayerFeed.Proofs.World.Writes

namespace LayerFeed

open Owners World

variable {i : UpdaterId} {e : Entry}

-- ==================================================== entries of a latch

/-- The entry tells that updater `i` latches a frame. -/
def Entry.Latching (i : UpdaterId) : Entry → Prop
  | .latched j _ _ | .event j _ (.frameLatched _) => j = i
  | _ => False

/-- An entry by another updater is no latch of `i`. -/
theorem Entry.NotBy.not_latching (other : e.NotBy i) : ¬ e.Latching i := by
  intro latching
  cases e with
  | latched j frame resolved => exact other (congrArg some latching)
  | event j sink event =>
    cases event with
    | frameLatched told => exact other (congrArg some latching)
    | _ => exact latching
  | _ => exact latching

namespace World

variable {w w' w'' : World}

/-- Nothing is told of a latch of updater `i`. -/
def Quiets (i : UpdaterId) (w w' : World) : Prop :=
  ∃ es, w'.history = w.history ++ es ∧ ∀ e ∈ es, ¬ e.Latching i

namespace Quiets

/-- The same history. -/
theorem of_history (same : w'.history = w.history) : Quiets i w w' :=
  ⟨[], by rw [same, List.append_nil], List.forall_mem_nil _⟩

/-- An entry that is no latch of `i`. -/
theorem record (other : ¬ e.Latching i) : Quiets i w (w.record e) :=
  ⟨[e], rfl, by simpa using other⟩

/-- One after the other. -/
theorem trans (first : Quiets i w w') (second : Quiets i w' w'') : Quiets i w w'' := by
  obtain ⟨es, grown, before⟩ := first
  obtain ⟨fs, grown', after⟩ := second
  refine ⟨es ++ fs, by rw [grown', grown, List.append_assoc], fun e mem => ?_⟩
  exact (List.mem_append.1 mem).elim (before e) (after e)

/-- Passes that write no latch of `i`. -/
theorem of_passes {P : Entry → Prop} {m : Manner} {f f' r : Owners} (passes : Passes P m w f w' f')
    (owned : w.Owned (f + r)) (silent : ∀ e, P e → ¬ e.Latching i) : Quiets i w w' := by
  obtain ⟨es, grown, told⟩ := passes.history owned
  refine ⟨es, grown, fun e mem => ?_⟩
  by_cases remark : e.isRemark
  · exact silent e (told e mem remark)
  · exact (e.notBy_of_not_remark remark i).not_latching

end Quiets

end World

-- ==================================================== under a lock

namespace Session

variable {s s' : Session} {u v : Updater} {h : Held Updater} {locked : Option UpdaterId}

/-- While an updater is locked nothing is told of a latch of it. -/
theorem Move.quiets (order : s.InOrder) (move : Move (some i) s s') (given : i < s.fresh)
    (there : (s'.updaters.get? i).isSome) : Quiets i s.world s'.world := by
  cases move.deal order.sound order.sourced i with
  | elsewhere elsewhere =>
    obtain ⟨es, grown, others⟩ := elsewhere.history order.sound
    exact ⟨es, grown, fun e mem => (others e mem).not_latching⟩
  | opens b => exact .of_history rfl
  | comes new => exact absurd new (Nat.ne_of_lt given)
  | goes entered world fresh besides gone =>
    rw [gone] at there
    cases there
  | @deed _ h n x entered deed free world fresh besides there' =>
    rw [world]
    cases free rfl with
    | post => exact .record (by simp [Entry.Latching])
    | fence f useSync gate previous =>
      obtain ⟨others, owners⟩ := previous_owners h.value
      have owned := order.sound.owned
      rw [owners_eq_besides entered, owners, ← previous] at owned
      exact .of_passes (f.createFence_passes (P := fun e => e.NotBy i) (m := .loose)
        (fun d => by simp [Entry.NotBy, Entry.by?]) useSync) owned fun e => Entry.NotBy.not_latching

/-- Moves with `i` locked latch nothing for it. -/
theorem Moves.quiets (order : s.InOrder) (moves : Moves (some i) s s') (given : i < s.fresh)
    (there : (s'.updaters.get? i).isSome) : Quiets i s.world s'.world := by
  induction moves with
  | refl => exact .of_history rfl
  | @tail a b before move ih =>
    have given' := Nat.lt_of_lt_of_le given (Moves.fresh before)
    have there' : (a.updaters.get? i).isSome := by
      by_contra absent
      rw [move.absent given' (Option.not_isSome_iff_eq_none.1 absent)] at there
      cases there
    exact (ih there').trans (move.quiets (order.steps (Moves.steps before)) given' there)

-- ==================================================== the source is asked

/-- What follows once a source is asked happens under a lock, and then it may say what it
answered. -/
theorem dequeue_locked {ref : SourceRef} {fences : DequeueFences}
    (asked : (s.record (.source ref .dequeueBegun)).Asked i h fences) :
    ∃ a, Goes (some i) (s.record (.source ref .dequeueBegun)) a
      ∧ ((s.dequeue i ref fences).session = a
        ∨ ∃ results, (s.dequeue i ref fences).session
          = a.record (.source ref (.dequeued results))) := by
  unfold dequeue
  dsimp only
  generalize s.record (.source ref .dequeueBegun) = s at asked
  cases s.sources.get? ref.id with
  | none => exact ⟨s, .refl _ s, .inl rfl⟩
  | some source =>
    have taken : Goes (some i) s { s with sources := s.sources.set ref.id source.next.2 } :=
      .beside ⟨rfl, Nat.le_refl _⟩ rfl
    dsimp only
    split
    · obtain ⟨h', asked', -⟩ := asked.goes taken rfl rfl
      obtain ⟨ran, -⟩ := runScript_goes asked' source.context source.script
      exact ⟨_, taken.trans ran, .inr ⟨_, rfl⟩⟩
    · exact ⟨_, taken, .inl rfl⟩

/-- While its source is asked an updater is untouched but for its mailbox, and nothing is told
of a latch. -/
theorem dequeue_untouched {ref : SourceRef} {fences : DequeueFences}
    (asked : (s.record (.source ref .dequeueBegun)).Asked i h fences)
    (found : (s.dequeue i ref fences).session.updaterOf? i = some u) :
    u = { h.value with mailbox := u.mailbox }
      ∧ Quiets i s.world (s.dequeue i ref fences).session.world := by
  obtain ⟨a, goes, ends⟩ := dequeue_locked asked
  have begun : Quiets i s.world (s.record (.source ref .dequeueBegun)).world :=
    .record (by simp [Entry.Latching])
  have given := (asked.order.sound.numbered.updaters i h asked.entered).1
  have answered : a.updaterOf? i = some u
      ∧ Quiets i a.world (s.dequeue i ref fences).session.world := by
    rcases ends with same | ⟨results, same⟩
    · rw [same] at found ⊢
      exact ⟨found, .of_history rfl⟩
    · rw [same] at found ⊢
      exact ⟨found, .record (by simp [Entry.Latching])⟩
  obtain ⟨found, answers⟩ := answered
  obtain ⟨h', entered, rfl⟩ := Option.map_eq_some_iff.1 found
  refine ⟨?_, begun.trans ((goes.moves.quiets asked.order given (by rw [entered]; rfl)).trans
    answers)⟩
  rcases goes.moves.untouched given asked.entered with absent | ⟨v, there, same⟩
  · rw [absent] at entered
    cases entered
  · rw [there] at entered
    cases entered
    exact same

-- ==================================================== an apply

/-- What an apply makes of updater `u` before its transform is committed: a source may be taken,
posts may come in, and a frame may be latched. -/
inductive Applies (i : UpdaterId) (u : Updater) (w : World) : World × Updater → Prop
  | idle {w' : World} (attached : Bool) (mailbox : Mailbox) (quiet : Quiets i w w') :
      Applies i u w (w', { u.commitPaint with consumerAttached := attached, mailbox })
  | latches {w' : World} (attached : Bool) (mailbox : Mailbox) (frame : Frame)
      (issued : Option FenceClass) (quiet : Quiets i w w') :
      Applies i u w ({ u.commitPaint with
        consumerAttached := attached, mailbox }.latch w' frame issued)

/-- The start of an apply commits the paint, and sets the attachment and the mailbox at most. -/
theorem beginApply_object (u : Updater) (w : World) : ∃ attached mailbox,
    (u.beginApply w).object = { u.commitPaint with consumerAttached := attached, mailbox } := by
  unfold Updater.beginApply Updater.takeOwnership
  dsimp only
  split
  · exact ⟨_, _, rfl⟩
  · split <;> exact ⟨_, _, rfl⟩

/-- The start of an apply latches nothing. -/
theorem beginApply_quiets (u : Updater) (w : World) : Quiets i w (u.beginApply w).world :=
  (u.beginApply_writes (P := fun e => ¬ e.Latching i) (fun _ latching => latching) w).history

/-- An updater that is there after one holder let go of it is what it was. -/
theorem letGo_found (found : (s.letGo (.updater i)).updaterOf? i = some u) :
    s.updaterOf? i = some u ∧ (s.letGo (.updater i)).world = s.world := by
  unfold letGo at found ⊢
  dsimp only at found ⊢
  cases entered : s.updaters.get? i with
  | none =>
    rw [entered] at found
    exact ⟨found, rfl⟩
  | some h =>
    rw [entered] at found
    dsimp only at found ⊢
    split at found
    · rw [updaterOf?, Table.get?_erase_self] at found
      cases found
    · next more =>
      rw [updaterOf?, Table.get?_set_self] at found
      rw [if_neg more]
      exact ⟨(updaterOf?_of_get? entered).trans found, rfl⟩

/-- An updater that is found after a function was applied comes from that function. -/
theorem onUpdater_found {f : Updater → World → World × Updater}
    (found : (s.onUpdater i f).updaterOf? i = some v) :
    ∃ u, s.updaterOf? i = some u ∧ ((s.onUpdater i f).world, v) = f u s.world := by
  cases entered : s.updaters.get? i with
  | none =>
    simp only [onUpdater, entered, updaterOf?, Option.map_none] at found
    cases found
  | some h =>
    rw [onUpdater_eq entered] at found ⊢
    rw [updaterOf?, Table.get?_set_self] at found
    cases found
    exact ⟨h.value, updaterOf?_of_get? entered, rfl⟩

/-- The answer of a source that is asked, and the frame that is latched if there is one. -/
theorem latchFrame_applies {ref : SourceRef} {fences : DequeueFences} {w : World} {attached : Bool}
    {mailbox : Mailbox} (asked : (s.record (.source ref .dequeueBegun)).Asked i h fences)
    (begun : h.value = { u.commitPaint with consumerAttached := attached, mailbox })
    (quiet : Quiets i w s.world) (found : (s.latchFrame i ref fences).updaterOf? i = some v) :
    Applies i u w ((s.latchFrame i ref fences).world, v) := by
  unfold latchFrame at found ⊢
  dsimp only at found ⊢
  cases answer : (s.dequeue i ref fences).answer with
  | none =>
    rw [answer] at found
    obtain ⟨same, quiet'⟩ := dequeue_untouched asked found
    rw [same, begun]
    exact .idle attached v.mailbox (quiet.trans quiet')
  | some frame =>
    rw [answer] at found
    obtain ⟨x, there, latched⟩ := onUpdater_found found
    obtain ⟨same, quiet'⟩ := dequeue_untouched asked there
    dsimp only
    rw [latched, same, begun]
    exact .latches attached x.mailbox frame _ (quiet.trans quiet')

/-- The end of an apply: the transform is committed, and the updater is held no longer. -/
theorem commit_found (found : ((s.onUpdater i fun u w => (w, u.commitTransform)).letGo
      (.updater i)).updaterOf? i = some v) :
    ∃ x, s.updaterOf? i = some x ∧ v = x.commitTransform
      ∧ ((s.onUpdater i fun u w => (w, u.commitTransform)).letGo (.updater i)).world = s.world := by
  obtain ⟨committed, kept⟩ := letGo_found found
  obtain ⟨x, there, same⟩ := onUpdater_found committed
  obtain ⟨world, same⟩ := Prod.mk.inj same
  exact ⟨x, there, same, kept.trans world⟩

/-- An updater that is there after an apply of it is what its deeds made of it. -/
theorem apply_applies (kept : s.Kept) (found : s.updaterOf? i = some u) (live : ¬ u.destroyed)
    (found' : (s.apply i).updaterOf? i = some v) :
    ∃ x, Applies i u s.world x ∧ v = x.2.commitTransform ∧ (s.apply i).world = x.1 := by
  obtain ⟨h, entered, rfl⟩ := Option.map_eq_some_iff.1 found
  have here : s.isLive (.updater i) := by
    show (s.updaters.get? i).isSome
    rw [entered]
    rfl
  have holding : Moves none s (s.hold (.updater i)) := hold_moves s (.updater i)
  have order := kept.order.steps holding.steps
  have owed := (kept.backed i).hold here
  rw [count_updater, if_pos rfl] at owed
  have held : (s.hold (.updater i)).updaters.get? i = some { h with holds := h.holds + 1 } := by
    rw [hold_get?, if_pos rfl, entered, Option.map_some]
  have world : (s.hold (.updater i)).world = s.world := rfl
  obtain ⟨attached, mailbox, object⟩ := beginApply_object h.value s.world
  have quiet := beginApply_quiets (i := i) h.value s.world
  unfold apply at found' ⊢
  rw [found] at found' ⊢
  dsimp only at found' ⊢
  rw [if_neg live] at found' ⊢
  generalize s.hold (.updater i) = s₁ at *
  rw [← world] at object quiet ⊢
  cases asked : (h.value.beginApply s₁.world).answer with
  | none =>
    rw [asked] at found'
    obtain ⟨x, there, rfl, same⟩ := commit_found found'
    obtain ⟨y, there, began⟩ := onUpdater_found there
    rw [updaterOf?_of_get? held] at there
    cases there
    refine ⟨(_, x), ?_, rfl, same⟩
    dsimp only
    rw [began, object]
    exact .idle attached mailbox quiet
  | some ref =>
    rw [asked] at found'
    obtain ⟨x, there, rfl, same⟩ := commit_found found'
    obtain ⟨-, waits⟩ := ask_goes order held live asked owed
    refine ⟨(_, x), latchFrame_applies waits object ?_ there, rfl, same⟩
    rw [onUpdater_eq held]
    exact quiet

-- ==================================================== commands to one updater

/-- What becomes of updater `i`, which is `u`, by a command that is addressed to it. -/
inductive Obeys (s : Session) (i : UpdaterId) (u : Updater) : Command → Updater → Prop
  | setSink (name : String) (choice : SinkChoice) (sink : Sink) :
      Obeys s i u (.setSink name choice) (u.setSink sink)
  | setSize (name : String) (width height : UInt32) :
      Obeys s i u (.setSize name width height) (u.setSize width height).1
  | setBlend (name : String) (blend : Bool) :
      Obeys s i u (.setBlend name blend) (u.setBlend blend).1
  | setTransform (name : String) (transform : Option Affine) :
      Obeys s i u (.setTransform name transform) (u.setTransform transform)
  | setPaint (name : String) (paint : Option Paint) :
      Obeys s i u (.setPaint name paint) (u.setPaint paint)
  | attach (name source : String) (queue : Source) (state : Option String) (w : World)
      (ref : SourceRef) : Obeys s i u (.attach name source queue state) (u.attach w ref).2
  | post (name : String) (w : World) : Obeys s i u (.post name) (u.post w).2
  | ignores (name : String) (gone : u.destroyed) : Obeys s i u (.apply name) u
  | apply (name : String) (live : ¬ u.destroyed) {x : World × Updater}
      (applies : Applies i u s.world x) (world : (s.exec (.apply name)).1.world = x.1) :
      Obeys s i u (.apply name) x.2.commitTransform
  | bind (name : String) (forceFilter : Bool) (transform : TextureTransform) (crop : Rect)
      (image : String) {t : TextureId} (there : s.images.get? image = some t) :
      Obeys s i u (.bind name forceFilter transform crop image)
        (u.bind (s.world.share t) forceFilter transform crop t).2
  | misses (name : String) (forceFilter : Bool) (transform : TextureTransform) (crop : Rect)
      (image : String) (absent : s.images.get? image = none) :
      Obeys s i u (.bind name forceFilter transform crop image) u
  | detach (name : String) (w : World) : Obeys s i u (.detach name) (u.detach w).2
  | teardown (name : String) (w : World) (mode : TeardownMode) :
      Obeys s i u (.teardown name mode) (u.teardown w mode).2
  | contextDestroyed (name : String) (w : World) :
      Obeys s i u (.contextDestroyed name) (u.teardown w .contextLost).2

/-- And so for the updater that a name means. -/
theorem onNamed_found {name : String} {f : Updater → World → World × Updater}
    (named : s.updaterNames.get? name = some i)
    (found : (s.onNamed name f).updaterOf? i = some v) :
    ∃ u, s.updaterOf? i = some u ∧ v = (f u s.world).2 := by
  unfold onNamed at found
  rw [named] at found
  obtain ⟨u, there, same⟩ := onUpdater_found found
  exact ⟨u, there, (Prod.mk.inj same).2⟩

/-- A command that is addressed to an updater does to it what it says, if the updater is there
afterwards. -/
theorem exec_obeys {command : Command} (kept : s.Kept) (addressed : s.recipient? command = some i)
    (found : (s.exec command).1.updaterOf? i = some v) :
    ∃ u, s.updaterOf? i = some u ∧ Obeys s i u command v := by
  cases command with
  | setSink name choice =>
    have same : (s.chooseSink name choice).1.updaterOf? i = s.updaterOf? i :=
      updaterOf?_congr (by rw [chooseSink_keeps])
    have named : (s.chooseSink name choice).1.updaterNames.get? name = some i := by
      rw [chooseSink_names]
      exact addressed
    unfold exec at found
    dsimp only at found
    cases chosen : (s.chooseSink name choice).2 with
    | none =>
      rw [chosen] at found
      exact ⟨v, same.symm.trans found, .setSink name choice v.sink⟩
    | some sink =>
      rw [chosen] at found
      obtain ⟨u, there, rfl⟩ := onNamed_found named found
      exact ⟨u, same.symm.trans there, .setSink name choice sink⟩
  | setSize name width height =>
    obtain ⟨u, there, rfl⟩ := onNamed_found addressed found
    exact ⟨u, there, .setSize name width height⟩
  | setBlend name blend =>
    obtain ⟨u, there, rfl⟩ := onNamed_found addressed found
    exact ⟨u, there, .setBlend name blend⟩
  | setTransform name transform =>
    obtain ⟨u, there, rfl⟩ := onNamed_found addressed found
    exact ⟨u, there, .setTransform name transform⟩
  | setPaint name paint =>
    obtain ⟨u, there, rfl⟩ := onNamed_found addressed found
    exact ⟨u, there, .setPaint name paint⟩
  | post name =>
    obtain ⟨u, there, rfl⟩ := onNamed_found addressed found
    exact ⟨u, there, .post name s.world⟩
  | detach name =>
    obtain ⟨u, there, rfl⟩ := onNamed_found addressed found
    exact ⟨u, there, .detach name s.world⟩
  | teardown name mode =>
    obtain ⟨u, there, rfl⟩ := onNamed_found addressed found
    exact ⟨u, there, .teardown name s.world mode⟩
  | contextDestroyed name =>
    obtain ⟨u, there, rfl⟩ := onNamed_found addressed found
    exact ⟨u, there, .contextDestroyed name s.world⟩
  | attach name source queue state =>
    have named : s.updaterNames.get? name = some i := addressed
    unfold exec attach at found
    dsimp only at found
    rw [named] at found
    obtain ⟨u, there, same⟩ := onUpdater_found found
    obtain ⟨-, rfl⟩ := Prod.mk.inj same
    exact ⟨u, there, .attach name source queue state _ _⟩
  | bind name forceFilter transform crop image =>
    have named : s.updaterNames.get? name = some i := addressed
    unfold exec bind at found
    dsimp only at found
    rw [named] at found
    cases there : s.images.get? image with
    | none =>
      rw [there] at found
      exact ⟨v, found, .misses name forceFilter transform crop image there⟩
    | some t =>
      rw [there] at found
      dsimp only at found
      split at found
      · obtain ⟨u, here, same⟩ := onUpdater_found found
        obtain ⟨-, rfl⟩ := Prod.mk.inj same
        exact ⟨u, here, .bind name forceFilter transform crop image there⟩
      · next absent =>
        obtain ⟨h, entered, -⟩ := Option.map_eq_some_iff.1 found
        rw [Table.contains, entered] at absent
        exact absurd rfl absent
  | apply name =>
    have named : s.updaterNames.get? name = some i := addressed
    have same : (s.exec (.apply name)).1 = s.apply i := by
      unfold exec
      dsimp only
      rw [named]
    rw [same] at found
    cases there : s.updaterOf? i with
    | none =>
      unfold apply at found
      rw [there] at found
      dsimp only at found
      rw [there] at found
      cases found
    | some u =>
      refine ⟨u, rfl, ?_⟩
      by_cases live : u.destroyed
      · unfold apply at found
        rw [there] at found
        dsimp only at found
        rw [if_pos live] at found
        cases there.symm.trans found
        exact .ignores name live
      · obtain ⟨x, applies, rfl, world⟩ := apply_applies kept there live found
        exact .apply name live applies (by rw [same, world])
  | _ => cases addressed

end Session

end LayerFeed
