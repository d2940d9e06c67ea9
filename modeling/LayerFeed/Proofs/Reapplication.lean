/-
An apply uses up what there was to do. It brings the pending paint, size, blend flag and transform
onto the layer, takes consumer ownership of the source and takes the post out of the mailbox;
whether its frame was latched, or its import failed, or there was none, the updater is at rest
afterwards (`apply_rests`). An updater at rest without a post is a fixed point of the apply
(`apply_at_rest`), so between two posts only the first apply does anything (`run_apply_again`).

A post that comes in while the source is asked stays in the mailbox for the next apply. Nothing
else of the updater changes then, because it is locked.
-/
import LayerFeed.Proofs.Commitment
import LayerFeed.Proofs.FrameNews
import LayerFeed.Proofs.Session.Asking
import LayerFeed.Proofs.Session.Notice
import LayerFeed.Proofs.Tables

namespace LayerFeed

open World

variable {i : UpdaterId} {u v : Updater} {w : World}

-- ==================================================== updaters at rest

namespace Updater

/-- An updater of which an apply finds nothing to bring onto its layer, and no source whose
ownership it would have to take. -/
structure AtRest (u : Updater) : Prop where
  painted : u.commitPaint = u
  settled : u.transform = none
  owned : u.source.isSome → u.consumerAttached

/-- A layer that was brought up to what is pending needs no more paint. -/
theorem Committed.commitPaint (committed : Committed u v) : v.commitPaint = v := by
  obtain ⟨l, layer, size, blend, paint, -⟩ := committed.layer
  rw [← committed.size] at size
  obtain ⟨width, height⟩ := Prod.mk.inj size
  have same : { v.sizedLayer with paint := v.paint } = l := by
    rw [sizedLayer, layer, Option.getD_some, committed.blend, committed.paint, ← width, ← height,
      ← blend, ← paint]
  rw [Updater.commitPaint, same, ← layer]

theorem AtRest.commitTransform (rests : u.AtRest) : u.commitTransform = u := by
  rw [Updater.commitTransform, rests.settled]

/-- An updater at rest without a post asks nobody, and stays as it is. -/
theorem AtRest.beginApply (rests : u.AtRest) (idle : ¬ u.mailbox.pending) (w : World) :
    u.beginApply w = ⟨w, u, none⟩ := by
  rw [Bool.not_eq_true] at idle
  have emptied : { u with mailbox := u.mailbox.take } = u := by
    have taken : u.mailbox.take = u.mailbox := by rw [Mailbox.take, ← idle]
    rw [taken]
  unfold Updater.beginApply
  dsimp only
  rw [rests.painted]
  cases has : u.source with
  | none => rfl
  | some ref =>
    have attached : u.consumerAttached := rests.owned (by rw [has]; rfl)
    dsimp only
    rw [takeOwnership, if_pos attached]
    dsimp only
    rw [emptied, idle]
    rfl

/-- Once an apply has begun, consumer ownership of a source that is installed is taken. -/
theorem beginApply_owned (u : Updater) (w : World)
    (has : (u.beginApply w).object.source.isSome) : (u.beginApply w).object.consumerAttached := by
  unfold Updater.beginApply at has ⊢
  dsimp only at has ⊢
  generalize u.commitPaint = v at has ⊢
  cases source : v.source with
  | none =>
    rw [source] at has
    simp [source] at has
  | some ref =>
    show (v.takeOwnership w ref).2.consumerAttached
    unfold takeOwnership
    split
    · next attached => exact attached
    · rfl

end Updater

namespace Session

variable {s s' : Session} {h : Held Updater}

-- ==================================================== what an apply leaves

/-- What an updater is after an apply, but for the transform that is committed at its end: as the
apply began, with other posts, and with a frame latched or without. -/
theorem apply_found (kept : s.Kept) (found : s.updaterOf? i = some u) (live : ¬ u.destroyed)
    (found' : (s.apply i).updaterOf? i = some v) : ∃ mailbox x, v = x.commitTransform
      ∧ (x = { (u.beginApply s.world).object with mailbox } ∨ ∃ w frame issued,
        x = ({ (u.beginApply s.world).object with mailbox }.latch w frame issued).2) := by
  obtain ⟨h, entered, rfl⟩ := Option.map_eq_some_iff.1 found
  cases asked : (h.value.beginApply s.world).answer with
  | none =>
    rw [apply_unasked found live asked] at found'
    obtain ⟨x, there, rfl, -⟩ := commit_found found'
    rw [begun, asked, Option.elim_none] at there
    obtain ⟨y, there, began⟩ := onUpdater_found there
    have held : (s.hold (.updater i)).updaters.get? i = some { h with holds := h.holds + 1 } := by
      rw [hold_get?, if_pos rfl, entered, Option.map_some]
    rw [updaterOf?_of_get? held] at there
    cases there
    exact ⟨(h.value.beginApply s.world).object.mailbox, x, rfl, .inl (Prod.mk.inj began).2⟩
  | some ref =>
    obtain ⟨taken, begins, -, same⟩ := apply_latches found live asked
    obtain ⟨-, waits⟩ := begun_asked kept entered live asked
    rw [same] at found'
    obtain ⟨x, there, rfl, -⟩ := commit_found found'
    rw [← begins] at waits
    unfold latchFrame at there
    dsimp only at there
    cases answer : (taken.dequeue i ref h.value.fences).answer with
    | none =>
      rw [answer] at there
      obtain ⟨untouched, -⟩ := dequeue_untouched waits there
      exact ⟨x.mailbox, x, rfl, .inl untouched⟩
    | some frame =>
      rw [answer] at there
      obtain ⟨y, there, latched⟩ := onUpdater_found there
      obtain ⟨untouched, -⟩ := dequeue_untouched waits there
      obtain ⟨-, latched⟩ := Prod.mk.inj latched
      rw [untouched] at latched
      exact ⟨y.mailbox, x, rfl, .inr ⟨_, frame, _, latched⟩⟩

/-- An updater that is there after an apply of it is at rest, unless it is destroyed. -/
theorem apply_rests (kept : s.Kept) (found' : (s.apply i).updaterOf? i = some v)
    (live : ¬ v.destroyed) : v.AtRest := by
  cases found : s.updaterOf? i with
  | none =>
    rw [Session.apply, found] at found'
    cases found.symm.trans found'
  | some u =>
    have living : ¬ u.destroyed := by
      intro gone
      rw [Session.apply, found] at found'
      dsimp only at found'
      rw [if_pos gone] at found'
      cases found.symm.trans found'
      exact live gone
    obtain ⟨y, applies, same, -⟩ := apply_applies kept found living found'
    have committed : Updater.Committed u v := by
      rw [same]
      exact applies.fitted.commitTransform
    obtain ⟨mailbox, x, rfl, ends⟩ := apply_found kept found living found'
    have begins := u.beginApply_owned s.world
    -- neither a latch nor the commit of the transform deals with the source
    have source : ({ (u.beginApply s.world).object with mailbox } : Updater).SameSource x := by
      rcases ends with rfl | ⟨w, frame, issued, rfl⟩
      · exact .refl _
      · exact latch_sameSource _ w frame issued
    have commits := setter_sameSource .commitTransform x
    refine ⟨committed.commitPaint, committed.transform, fun has => ?_⟩
    rw [commits.source, source.source] at has
    rw [commits.consumerAttached, source.consumerAttached]
    exact begins has

-- ==================================================== a second apply

/-- An apply of an updater at rest without a post does nothing at all. -/
theorem apply_at_rest (entered : s.updaters.get? i = some h) (upheld : 0 < h.holds)
    (live : ¬ h.value.destroyed) (rests : h.value.AtRest) (idle : ¬ h.value.mailbox.pending) :
    s.apply i = s := by
  have held : (s.hold (.updater i)).updaters.get? i = some { h with holds := h.holds + 1 } := by
    rw [hold_get?, if_pos rfl, entered, Option.map_some]
  have begins := rests.beginApply idle
  have same : ∀ f : Updater → World → World × Updater, f h.value s.world = (s.world, h.value) →
      (s.hold (.updater i)).onUpdater i f = s.hold (.updater i) := by
    intro f does
    rw [onUpdater_eq held, show (s.hold (.updater i)).world = s.world from rfl, does]
    exact updaters_set_self held _
  unfold apply
  rw [updaterOf?_of_get? entered]
  dsimp only
  rw [if_neg live, show (s.hold (.updater i)).world = s.world from rfl, begins]
  dsimp only
  rw [same _ (by rw [begins]), same _ (by rw [rests.commitTransform])]
  -- the holder that comes for the apply goes with it, and is never the last one
  have more : ¬ h.holds + 1 ≤ 1 := by omega
  have back : h.holds + 1 - 1 = h.holds := by omega
  unfold letGo
  dsimp only
  rw [held]
  dsimp only
  rw [if_neg more, back]
  have updaters : (s.hold (.updater i)).updaters.set i h = s.updaters := by
    show (s.updaters.modify i _).set i h = s.updaters
    rw [Table.modify, entered]
    dsimp only
    rw [Table.set_set, Table.set_of_get? entered]
  show { s with updaters := (s.hold (.updater i)).updaters.set i h } = s
  rw [updaters]

/-- In every run, if no post is in the mailbox after an apply, a second apply leaves the updater
and everything else as it is: it calls no backend and no source, and tells no sink. Only a
destroyed updater leaves a remark that it was ignored. -/
theorem run_apply_again (minimal : Bool) (b : Backend) (commands : List Command) {name : String} :
    let s := (start minimal b).run commands
    let s' := (s.exec (.apply name)).1
    let s'' := (s'.exec (.apply name)).1
    s.updaterNames.get? name = some i → s'.updaterNames.get? name = some i →
      s'.updaterOf? i = some u → ¬ u.mailbox.pending →
        s'' = (if u.destroyed then s'.onWorld (·.note .applyIgnored) else s')
          ∧ s''.updaterOf? i = some u
          ∧ s''.world.history
            = s'.world.history ++ if u.destroyed then [.note .applyIgnored] else [] := by
  intro s s' s'' named named' found idle
  have again : s'' = s'.apply i := exec_apply named'
  have first : s' = s.apply i := exec_apply named
  have same : s'' = if u.destroyed then s'.onWorld (·.note .applyIgnored) else s' := by
    by_cases gone : u.destroyed
    · rw [again, Session.apply, found, if_pos gone]
      exact if_pos gone
    · obtain ⟨h, entered, rfl⟩ := Option.map_eq_some_iff.1 found
      have occurs := occurs_run minimal b (commands ++ [.apply name])
      rw [run_snoc] at occurs
      have upheld : 0 < h.holds := occurs.upheld i h entered
      rw [first] at found
      have rests := apply_rests (kept_run minimal b commands) found gone
      rw [if_neg gone, again]
      exact apply_at_rest entered upheld gone rests idle
  refine ⟨same, ?_, ?_⟩
  · rw [same]
    split <;> exact found
  · rw [same]
    split
    · rfl
    · exact (List.append_nil _).symm

/-- The context is lost while the second frame is asked for, so its import fails and the layer
keeps what it showed. There is nothing left to do after that either. -/
theorem secondLost_applied_again :
    let s := (start false {}).run secondLost
    let s' := (s.exec (.apply "u")).1
    ∃ u, s'.updaterOf? 1 = some u ∧ ¬ u.destroyed ∧ u.framesLatched = 2
      ∧ ¬ s'.world.alive u.context ∧ (s'.exec (.apply "u")).1 = s' := by
  intro s s'
  have there : (s'.updaterOf? 1).isSome := by decide
  obtain ⟨u, found⟩ := Option.isSome_iff_exists.1 there
  have facts : (s'.updaterOf? 1).map (fun u => (u.destroyed, u.framesLatched,
      s'.world.alive u.context, u.mailbox.pending)) = some (false, 2, false, false) := by decide
  rw [found, Option.map_some, Option.some_inj] at facts
  simp only [Prod.mk.injEq] at facts
  obtain ⟨live, latched, lost, idle⟩ := facts
  have named : s.updaterNames.get? "u" = some 1 := by decide
  have named' : s'.updaterNames.get? "u" = some 1 := by decide
  obtain ⟨same, -⟩ := run_apply_again false {} secondLost named named' found (by simp [idle])
  rw [live] at same
  exact ⟨u, found, by simp [live], latched, by simp [lost], same⟩

end Session

end LayerFeed
