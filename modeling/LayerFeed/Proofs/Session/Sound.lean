/-
Every reachable session is `Sound`: its world keeps the ledger, the holders that
its textures count are the handles, images, slots, caches and updaters that are
there, and no number is given out twice.

# Updaters between two steps

`Settled s s'` says that no updater came, went or dealt with its source, except
for one that is new. All calm steps are of this kind (`Calm.settled`); each of the
others deals with one updater.
-/
import LayerFeed.Proofs.Session.Transfer
import LayerFeed.Proofs.World.Ledger

namespace LayerFeed

-- ==================================================== updaters between two steps

/-- An updater that is the same in its number and in how it stands with its source. -/
structure Updater.SameSource (u u' : Updater) : Prop where
  id : u'.id = u.id
  source : u'.source = u.source
  consumerAttached : u'.consumerAttached = u.consumerAttached
  destroyed : u'.destroyed = u.destroyed

theorem Updater.SameSource.refl (u : Updater) : u.SameSource u := ⟨rfl, rfl, rfl, rfl⟩

namespace Session

variable {s s' : Session} {id : UpdaterId}

/-- No updater came, went or dealt with its source, but for one that is new. -/
structure Settled (s s' : Session) : Prop where
  fresh : s.fresh ≤ s'.fresh
  updaters : ∀ id,
    Option.Rel (fun h h' => h.value.SameSource h'.value) (s.updaters.get? id) (s'.updaters.get? id)
      ∨ id = s.fresh ∧ s.fresh < s'.fresh
        ∧ ∃ h c config, s'.updaters.get? id = some h ∧ (Updater.new id c config).SameSource h.value

/-- Where updaters are what they were, they are settled. -/
theorem Settled.of_eq (updaters : s'.updaters = s.updaters) (fresh : s.fresh ≤ s'.fresh) :
    Settled s s' where
  fresh := fresh
  updaters id := by
    rw [updaters]
    cases s.updaters.get? id with
    | none => exact .inl .none
    | some h => exact .inl (.some (.refl _))

/-- An operation on an updater changes that one. -/
theorem onUpdater_get? (s : Session) (id j : UpdaterId) (f : Updater → World → World × Updater) :
    (s.onUpdater id f).updaters.get? j
      = if j = id then (s.updaters.get? id).map fun h => { h with value := (f h.value s.world).2 }
        else s.updaters.get? j := by
  unfold onUpdater
  cases found : s.updaters.get? id with
  | some h => exact Table.get?_set _ _ _ _
  | none =>
    by_cases hj : j = id
    · rw [if_pos hj, hj]
      exact found
    · rw [if_neg hj]

/-- An operation on an updater gives out no number. -/
theorem onUpdater_fresh (s : Session) (id : UpdaterId) (f : Updater → World → World × Updater) :
    (s.onUpdater id f).fresh = s.fresh := by
  unfold onUpdater
  cases s.updaters.get? id <;> rfl

/-- An operation that leaves source and number alone leaves the updaters settled. -/
theorem Settled.onUpdater {f : Updater → World → World × Updater}
    (same : ∀ u : Updater, u.SameSource (f u s.world).2) : Settled s (s.onUpdater id f) where
  fresh := Nat.le_of_eq (onUpdater_fresh s id f).symm
  updaters j := by
    refine .inl ?_
    rw [onUpdater_get?]
    split
    · next hj =>
      rw [hj]
      cases s.updaters.get? id with
      | none => exact .none
      | some h => exact .some (same h.value)
    · cases s.updaters.get? j with
      | none => exact .none
      | some h => exact .some (.refl _)

/-- What is pending has nothing to do with the source. -/
theorem setter_sameSource {f : Updater → Updater} (setter : Updater.Setter f) (u : Updater) :
    u.SameSource (f u) := by
  cases setter with
  | size width height =>
    unfold Updater.setSize
    dsimp only
    split <;> exact ⟨rfl, rfl, rfl, rfl⟩
  | blend blend =>
    unfold Updater.setBlend
    dsimp only
    split <;> exact ⟨rfl, rfl, rfl, rfl⟩
  | commitTransform =>
    unfold Updater.commitTransform
    split <;> exact ⟨rfl, rfl, rfl, rfl⟩
  | transform | paint | sink => exact ⟨rfl, rfl, rfl, rfl⟩

/-- A latch has nothing to do with the source. -/
theorem latch_sameSource (u : Updater) (w : World) (frame : Frame) (issued : Option FenceClass) :
    u.SameSource (u.latch w frame issued).2 := by
  unfold Updater.latch
  dsimp only
  split <;> exact ⟨rfl, rfl, rfl, rfl⟩

/-- Where images, handles, slots and caches change, no updater does. -/
theorem kept_settled (updaters : s'.updaters = s.updaters) (fresh : s'.fresh = s.fresh) :
    Settled s s' :=
  .of_eq updaters (Nat.le_of_eq fresh.symm)

/-- A calm change leaves all updaters settled. -/
theorem Calm.settled (h : Calm s s') : Settled s s' := by
  cases h with
  | aside h => exact .of_eq h.parts.2.1 h.fresh
  | remark | traces | adjustBackend | loseContext | createFence | waitFence | releaseQueue
  | copyImage | dropImage | dropHandle => exact kept_settled rfl rfl
  | importTexture name context p b d =>
    unfold Session.importTexture
    split
    · exact kept_settled rfl rfl
    · dsimp only
      split <;> exact kept_settled rfl rfl
  | releaseHandle name mode =>
    unfold Session.releaseHandle
    split <;> exact kept_settled rfl rfl
  | newSlot name p =>
    unfold Session.keepSlot discardSlot
    split <;> exact kept_settled rfl rfl
  | resolveSlot name context frame image =>
    unfold Session.resolveSlot keepOrDropImage
    split
    · dsimp only
      split <;> exact kept_settled rfl rfl
    · exact kept_settled rfl rfl
  | clearSlot name mode =>
    unfold Session.clearSlot
    split <;> exact kept_settled rfl rfl
  | dropSlot name =>
    unfold Session.dropSlot discardSlot
    split <;> exact kept_settled rfl rfl
  | newCache name p =>
    unfold Session.keepCache discardCache
    split <;> exact kept_settled rfl rfl
  | resolveCached name context frame image =>
    unfold Session.resolveCached keepOrDropImage
    split
    · dsimp only
      split <;> exact kept_settled rfl rfl
    · exact kept_settled rfl rfl
  | clearCached name slot mode =>
    unfold Session.clearCached
    split <;> exact kept_settled rfl rfl
  | clearCache name mode =>
    unfold Session.clearCache
    split <;> exact kept_settled rfl rfl
  | dropCache name =>
    unfold Session.dropCache discardCache
    split <;> exact kept_settled rfl rfl
  | newUpdater c config sink =>
    refine ⟨Nat.le_succ _, fun id => ?_⟩
    dsimp only
    rw [Table.get?_set]
    split
    · next new =>
      refine .inr ⟨new, Nat.lt_succ_self _, _, c, config, rfl, ?_⟩
      rw [new]
      exact ⟨rfl, rfl, rfl, rfl⟩
    · cases s.updaters.get? id with
      | none => exact .inl .none
      | some h => exact .inl (.some (.refl _))
  | hold id =>
    refine ⟨Nat.le_refl _, fun j => .inl ?_⟩
    unfold Session.hold
    dsimp only
    rw [Table.get?_modify]
    split
    · next same =>
      rw [same]
      cases s.updaters.get? id with
      | none => exact .none
      | some h => exact .some (.refl _)
    · cases s.updaters.get? j with
      | none => exact .none
      | some h => exact .some (.refl _)
  | setter id setter => exact .onUpdater fun u => setter_sameSource setter u
  | post id => exact .onUpdater fun u => ⟨rfl, rfl, rfl, rfl⟩
  | latch id frame issued => exact .onUpdater fun u => latch_sameSource u _ frame issued
  | @bind id t forceFilter transform crop held there =>
    have bound : Settled (s.onWorld (·.share t)) ((s.onWorld (·.share t)).onUpdater id
        fun u w => u.bind w forceFilter transform crop t) :=
      .onUpdater fun u => ⟨rfl, rfl, rfl, rfl⟩
    exact ⟨bound.fresh, bound.updaters⟩

-- ==================================================== numbers

/-- Numbers of contexts and updaters were given out before. -/
structure Numbered (s : Session) : Prop where
  contexts : ∀ c, (s.world.contexts.get? c).isSome → c < s.fresh
  updaters : ∀ id h, s.updaters.get? id = some h → id < s.fresh ∧ h.value.id = id

/-- The next number is no context yet. -/
theorem Numbered.unused (h : s.Numbered) : s.world.contexts.get? s.fresh = none := by
  cases found : s.world.contexts.get? s.fresh with
  | none => rfl
  | some x => exact absurd (h.contexts s.fresh (by rw [found]; rfl)) (Nat.lt_irrefl _)

/-- The next number is no updater yet. -/
theorem Numbered.unnamed (h : s.Numbered) : s.updaters.get? s.fresh = none := by
  cases found : s.updaters.get? s.fresh with
  | none => rfl
  | some v => exact absurd (h.updaters s.fresh v found).1 (Nat.lt_irrefl _)

/-- Settled updaters keep their numbers. -/
theorem Settled.numbered (h : Settled s s') (numbered : s.Numbered) :
    ∀ id v, s'.updaters.get? id = some v → id < s'.fresh ∧ v.value.id = id := by
  intro id v found
  rcases h.updaters id with same | ⟨rfl, lt, h', c, config, found', same⟩
  · rw [found] at same
    generalize before : s.updaters.get? id = o at same
    cases same with
    | some same =>
      obtain ⟨lt, own⟩ := numbered.updaters id _ before
      exact ⟨Nat.lt_of_lt_of_le lt h.fresh, same.id.trans own⟩
  · rw [found] at found'
    cases found'
    exact ⟨lt, same.id⟩

/-- An operation that keeps the number of its updater keeps all numbers. -/
theorem numbered_onUpdater {f : Updater → World → World × Updater}
    (numbered : ∀ id v, s.updaters.get? id = some v → id < s.fresh ∧ v.value.id = id)
    (same : ∀ u w, (f u w).2.id = u.id) (j : UpdaterId) :
    ∀ id v, (s.onUpdater j f).updaters.get? id = some v →
      id < (s.onUpdater j f).fresh ∧ v.value.id = id := by
  intro id v found
  rw [onUpdater_get?] at found
  rw [onUpdater_fresh]
  split at found
  · next hj =>
    obtain ⟨h, before, rfl⟩ := Option.map_eq_some_iff.1 found
    rw [hj]
    obtain ⟨lt, own⟩ := numbered j h before
    exact ⟨lt, (same _ _).trans own⟩
  · exact numbered id v found

theorem beginApply_id (u : Updater) (w : World) : (u.beginApply w).object.id = u.id := by
  unfold Updater.beginApply Updater.takeOwnership
  dsimp only
  split
  · rfl
  · split <;> rfl

theorem attach_id (u : Updater) (w : World) (source : SourceRef) :
    (u.attach w source).2.id = u.id := by
  obtain ⟨cache, -, same⟩ := u.attach_object w source
  rw [same]

theorem detach_id (u : Updater) (w : World) : (u.detach w).2.id = u.id := by
  obtain ⟨cache, same⟩ := u.detach_object w
  rw [same]

theorem teardown_id (u : Updater) (w : World) (mode : TeardownMode) :
    (u.teardown w mode).2.id = u.id := by
  unfold Updater.teardown
  split <;> rfl

/-- A step gives numbers to new updaters only. -/
theorem Step.updaters_numbered (numbered : s.Numbered) (h : Step s s') :
    s.fresh ≤ s'.fresh
      ∧ ∀ id v, s'.updaters.get? id = some v → id < s'.fresh ∧ v.value.id = id := by
  have kept : ∀ {f : Updater → World → World × Updater} (j : UpdaterId),
      (∀ u w, (f u w).2.id = u.id) → s.fresh ≤ (s.onUpdater j f).fresh ∧
        ∀ id v, (s.onUpdater j f).updaters.get? id = some v →
          id < (s.onUpdater j f).fresh ∧ v.value.id = id := by
    intro f j same
    have fresh : s.fresh ≤ (s.onUpdater j f).fresh := Nat.le_of_eq (onUpdater_fresh _ _ _).symm
    exact ⟨fresh, numbered_onUpdater numbered.updaters same j⟩
  cases h with
  | calm h => exact ⟨h.settled.fresh, h.settled.numbered numbered⟩
  | makeContext b =>
    refine ⟨Nat.le_succ _, fun id v found => ?_⟩
    obtain ⟨lt, own⟩ := numbered.updaters id v found
    exact ⟨Nat.lt_succ_of_lt lt, own⟩
  | idle => exact kept _ fun u w => beginApply_id u w
  | @ask id u ref => exact kept id fun u w => beginApply_id u w
  | attach id name =>
    refine ⟨?_, numbered_onUpdater (s := { s with fresh := s.fresh + 1 })
      (fun id v found => ?_) (fun u w => attach_id u w _) id⟩
    · rw [onUpdater_fresh]
      exact Nat.le_succ _
    · obtain ⟨lt, own⟩ := numbered.updaters id v found
      exact ⟨Nat.lt_succ_of_lt lt, own⟩
  | detach id => exact kept id fun u w => detach_id u w
  | teardown id mode => exact kept id fun u w => teardown_id u w mode
  | letGo id =>
    unfold Session.letGo
    dsimp only
    cases found : s.updaters.get? id with
    | none => exact ⟨Nat.le_refl _, numbered.updaters⟩
    | some v =>
      dsimp only
      split
      · refine ⟨Nat.le_refl _, fun j u entered => ?_⟩
        rw [Table.get?_erase] at entered
        split at entered
        · cases entered
        · exact numbered.updaters j u entered
      · refine ⟨Nat.le_refl _, fun j u entered => ?_⟩
        rw [Table.get?_set] at entered
        split at entered
        · next same =>
          cases entered
          rw [same]
          exact numbered.updaters id v found
        · exact numbered.updaters j u entered

-- ==================================================== sound sessions

/-- A session whose history, records and owners agree. -/
structure Sound (s : Session) : Prop where
  ledger : s.world.Ledger
  owned : s.world.Owned s.owners
  numbered : s.Numbered

/-- A session is sound with one context more. -/
theorem Sound.makeContext (sound : s.Sound) (b : Backend) : (s.makeContext b).1.Sound := by
  obtain ⟨fresh, updaters⟩ := Step.updaters_numbered sound.numbered (.makeContext b)
  refine ⟨sound.ledger.openContext _ sound.numbered.unused, ?_, ?_, updaters⟩
  · exact ⟨sound.owned.numbered, sound.owned.held, sound.owned.single⟩
  · intro c known
    rw [show (s.makeContext b).1.world.contexts.get? c = _ from Table.get?_set _ _ _ _] at known
    split at known
    · next new => exact Nat.lt_succ_of_le (Nat.le_of_eq new)
    · exact Nat.lt_succ_of_lt (sound.numbered.contexts c known)

/-- A step keeps a session sound. -/
theorem Step.sound (sound : s.Sound) (h : Step s s') : s'.Sound := by
  obtain ⟨fresh, updaters⟩ := h.updaters_numbered sound.numbered
  -- only the opening of a context is no sequence of steps of the world
  rcases h.transfer sound.numbered.unnamed with ⟨b, rfl⟩ | transfer
  · exact sound.makeContext b
  · obtain ⟨steps, owned⟩ := transfer sound.owned
    refine ⟨sound.ledger.steps steps, owned, ?_, updaters⟩
    intro c known
    rw [steps.contexts] at known
    exact Nat.lt_of_lt_of_le (sound.numbered.contexts c known) fresh

/-- The history only grows. -/
theorem Step.history (sound : s.Sound) (h : Step s s') :
    ∃ es, s'.world.history = s.world.history ++ es := by
  rcases h.transfer sound.numbered.unnamed with ⟨b, rfl⟩ | transfer
  · exact ⟨[], (List.append_nil _).symm⟩
  · obtain ⟨es, grown, -⟩ := (transfer sound.owned).1.history
    exact ⟨es, grown⟩

/-- So do steps. -/
theorem Steps.sound (sound : s.Sound) (h : Steps s s') : s'.Sound := by
  induction h with
  | refl => exact sound
  | tail _ step ih => exact step.sound ih

/-- Steps add to the history. -/
theorem Steps.history (sound : s.Sound) (h : Steps s s') :
    ∃ es, s'.world.history = s.world.history ++ es := by
  induction h with
  | refl => exact ⟨[], (List.append_nil _).symm⟩
  | tail before step ih =>
    obtain ⟨es, grown⟩ := ih
    obtain ⟨fs, grown'⟩ := step.history (Steps.sound sound before)
    exact ⟨es ++ fs, by rw [grown', grown, List.append_assoc]⟩

/-- A session without objects is sound. -/
theorem sound_new (minimal : Bool) : ({ minimal } : Session).Sound where
  ledger := World.ledger_default
  owned := by
    refine ⟨?_, fun t => rfl, fun t => Nat.zero_le _⟩
    intro t
    constructor
    · intro recorded
      cases recorded
    · rintro ⟨pos, le⟩
      exact absurd (Nat.lt_of_lt_of_le pos le) (Nat.lt_irrefl 0)
  numbered :=
    { contexts := fun c known => by cases known
      updaters := fun id v found => by cases found }

/-- The first session is made by steps from one without objects. -/
theorem start_steps (minimal : Bool) (b : Backend) : Steps { minimal } (start minimal b) :=
  .tail (.single (.makeContext b)) (.calm (.aside ⟨rfl, Nat.le_refl _⟩))

/-- Every session that can be reached is sound. -/
theorem Reachable.sound (h : s.Reachable) : s.Sound := by
  obtain ⟨minimal, b, steps⟩ := h
  exact Steps.sound (sound_new minimal) ((start_steps minimal b).trans steps)

end Session

end LayerFeed
