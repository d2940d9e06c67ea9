/-
Who holds an updater. Every name that leads to an updater is one of its holders, and so is
every apply and every notification under way. `Backed s i k` says that all these are
counted, with `k` holders that have no name. What an operation holds for a time it gives
back, so operations keep every backing (`Goes`), and an updater whose source is being asked
for a frame, which is held for that, does not go away.
-/
import LayerFeed.Proofs.Session.Elsewhere

namespace LayerFeed.Session

variable {s s' s'' : Session} {id i : UpdaterId} {h : Held Updater} {k : Nat}
  {locked : Option UpdaterId} {p : Participant}

/-- How many names lead to an updater. -/
def namesOf (s : Session) (i : UpdaterId) : Nat :=
  s.updaterNames.total fun j => if i = j then 1 else 0

/-- How many holders an updater counts. -/
def holdsOf (s : Session) (i : UpdaterId) : Nat := (s.updaters.get? i).elim 0 Held.holds

/-- An updater counts its names, and `k` holders beside them. -/
def Backed (s : Session) (i : UpdaterId) (k : Nat) : Prop := s.namesOf i + k ≤ s.holdsOf i

/-- An updater is backed as its names and its holders say. -/
theorem Backed.congr (backed : s.Backed i k) (names : s'.updaterNames = s.updaterNames)
    (holds : s'.holdsOf i = s.holdsOf i) : s'.Backed i k := by
  unfold Backed namesOf at backed ⊢
  rw [names, holds]
  exact backed

/-- Who is backed is there. -/
theorem Backed.there (backed : s.Backed i (k + 1)) : ∃ h, s.updaters.get? i = some h := by
  unfold Backed holdsOf at backed
  cases found : s.updaters.get? i with
  | some h => exact ⟨h, rfl⟩
  | none =>
    rw [found] at backed
    exact absurd backed (Nat.not_succ_le_zero _)

-- ==================================================== holding and letting go

theorem hold_names (s : Session) (p : Participant) : (s.hold p).updaterNames = s.updaterNames := by
  cases p <;> rfl

/-- Whoever lets go of a participant leaves names alone. -/
theorem letGo_names (s : Session) (p : Participant) :
    (s.letGo p).updaterNames = s.updaterNames := by
  cases p with
  | updater id =>
    unfold Session.letGo
    dsimp only
    cases s.updaters.get? id with
    | none => rfl
    | some h =>
      dsimp only
      split <;> rfl
  | observer id =>
    unfold Session.letGo
    dsimp only
    cases s.observers.get? id with
    | none => rfl
    | some h =>
      dsimp only
      split <;> rfl

/-- Whoever lets go of an observer leaves updaters alone. -/
theorem letGo_observer_updaters (s : Session) (id : ObserverId) :
    (s.letGo (.observer id)).updaters = s.updaters := by
  unfold Session.letGo
  dsimp only
  cases s.observers.get? id with
  | none => rfl
  | some h =>
    dsimp only
    split <;> rfl

theorem count_observer (id : ObserverId) (i : UpdaterId) :
    [Participant.observer id].count (.updater i) = 0 :=
  List.count_eq_zero.2 (by simp)

/-- An updater is held once where it is held. -/
theorem count_updater (id i : UpdaterId) :
    [Participant.updater id].count (.updater i) = if i = id then 1 else 0 := by
  rw [List.count_singleton]
  by_cases same : i = id
  · rw [same, if_pos rfl, if_pos (beq_self_eq_true _)]
  · rw [if_neg same, if_neg]
    simpa using Ne.symm same

/-- Who is held counts one holder more. -/
theorem holdsOf_hold (live : s.isLive p) (i : UpdaterId) :
    s.holdsOf i + [p].count (.updater i) ≤ (s.hold p).holdsOf i := by
  cases p with
  | observer id => rw [count_observer]; exact Nat.le_refl _
  | updater id =>
    rw [count_updater]
    unfold holdsOf
    rw [hold_get?]
    split
    · next same =>
      obtain ⟨h, entered⟩ := Option.isSome_iff_exists.1 live
      rw [same, entered]
      exact Nat.le_refl _
    · exact Nat.le_refl _

/-- Who is let go counts at most one holder less. -/
theorem holdsOf_letGo (s : Session) (p : Participant) (i : UpdaterId) :
    s.holdsOf i ≤ (s.letGo p).holdsOf i + [p].count (.updater i) := by
  cases p with
  | observer id =>
    unfold holdsOf
    rw [letGo_observer_updaters]
    exact Nat.le_add_right _ _
  | updater id =>
    rw [count_updater]
    unfold holdsOf
    rw [letGo_get?]
    split
    · next same =>
      rw [same]
      cases s.updaters.get? id with
      | none => exact Nat.zero_le _
      | some h =>
        rw [Option.bind_some]
        split
        · next last => exact last.trans (Nat.le_add_left _ _)
        · show h.holds ≤ h.holds - 1 + 1
          omega
    · exact Nat.le_refl _

/-- Whoever is held is backed once more. -/
theorem Backed.hold (backed : s.Backed i k) (live : s.isLive p) :
    (s.hold p).Backed i (k + [p].count (.updater i)) := by
  have more := holdsOf_hold live i
  unfold Backed namesOf at backed ⊢
  rw [hold_names]
  omega

/-- Whoever is let go of was backed once more. -/
theorem Backed.letGo (backed : s.Backed i (k + [p].count (.updater i))) :
    (s.letGo p).Backed i k := by
  have less := holdsOf_letGo s p i
  unfold Backed namesOf at backed ⊢
  rw [letGo_names]
  omega

/-- Nobody comes or goes by being held. -/
theorem isLive_hold (s : Session) (p q : Participant) : (s.hold p).isLive q = s.isLive q := by
  cases p with
  | updater id =>
    cases q with
    | observer j => rfl
    | updater j =>
      show ((s.hold (.updater id)).updaters.get? j).isSome = (s.updaters.get? j).isSome
      rw [hold_get?]
      split
      · next same => rw [same, Option.isSome_map]
      · rfl
  | observer id =>
    cases q with
    | updater j => rfl
    | observer j =>
      show ((s.observers.modify id _).get? j).isSome = (s.observers.get? j).isSome
      rw [Table.get?_modify]
      split
      · next same => rw [same, Option.isSome_map]
      · rfl

/-- Whoever is held keeps his names. -/
theorem holdAll_names (s : Session) (ps : List Participant) :
    (ps.foldl Session.hold s).updaterNames = s.updaterNames := by
  induction ps generalizing s with
  | nil => rfl
  | cons p ps ih => exact (ih _).trans (hold_names s p)

theorem count_cons_participant (p : Participant) (ps : List Participant) (i : UpdaterId) :
    (p :: ps).count (.updater i) = ps.count (.updater i) + [p].count (.updater i) := by
  rw [List.count_cons, List.count_singleton]

/-- All who are held count their holders. -/
theorem holdsOf_holdAll {ps : List Participant} (live : ∀ p ∈ ps, s.isLive p) (i : UpdaterId) :
    s.holdsOf i + ps.count (.updater i) ≤ (ps.foldl Session.hold s).holdsOf i := by
  induction ps generalizing s with
  | nil => exact Nat.le_refl _
  | cons p ps ih =>
    have first := holdsOf_hold (live p List.mem_cons_self) i
    have rest := ih (s := s.hold p) fun q mem => by
      rw [isLive_hold]
      exact live q (List.mem_cons_of_mem p mem)
    rw [count_cons_participant, List.foldl_cons]
    omega

/-- Whoever is held for a time is backed for that time. -/
theorem Backed.holdAll {ps : List Participant} (backed : s.Backed i k)
    (live : ∀ p ∈ ps, s.isLive p) :
    (ps.foldl Session.hold s).Backed i (k + ps.count (.updater i)) := by
  have more := holdsOf_holdAll live i
  unfold Backed namesOf at backed ⊢
  rw [holdAll_names]
  omega

/-- All who are let go of were backed so often. -/
theorem Backed.letGoAll {ps : List Participant}
    (backed : s.Backed i (k + ps.count (.updater i))) :
    (ps.foldl Session.letGo s).Backed i k := by
  induction ps generalizing s with
  | nil => exact backed
  | cons p ps ih =>
    rw [count_cons_participant, ← Nat.add_assoc] at backed
    exact ih backed.letGo

-- ==================================================== operations that keep backing

/-- An operation made of moves that gives back whatever it holds for a time. -/
structure Goes (locked : Option UpdaterId) (s s' : Session) : Prop where
  moves : Moves locked s s'
  backed : ∀ i k, s.Backed i k → s'.Backed i k

namespace Goes

/-- What does nothing goes. -/
theorem refl (locked : Option UpdaterId) (s : Session) : Goes locked s s :=
  ⟨.refl, fun _ _ backed => backed⟩

/-- One operation goes after another. -/
theorem trans (first : Goes locked s s') (second : Goes locked s' s'') : Goes locked s s'' :=
  ⟨first.moves.trans second.moves, fun i k backed => second.backed i k (first.backed i k backed)⟩

/-- What goes under the lock goes without it. -/
theorem unlock (goes : Goes locked s s') : Goes none s s' := ⟨goes.moves.unlock, goes.backed⟩

/-- A move that changes neither names nor who holds whom. -/
theorem of_move (move : Move locked s s') (names : s'.updaterNames = s.updaterNames)
    (holds : ∀ i, s'.holdsOf i = s.holdsOf i) : Goes locked s s' :=
  ⟨.single move, fun i _ backed => backed.congr names (holds i)⟩

/-- What leaves updaters alone goes under any lock. -/
theorem aloof (h : Aloof s s') : Goes locked s s' :=
  of_move (.aloof h) h.names fun i => by
    unfold holdsOf
    rw [h.updaters]

theorem beside (h : Beside s s') (names : s'.updaterNames = s.updaterNames) :
    Goes locked s s' :=
  aloof (.beside h names)

theorem remark {e : Entry} (remark : e.isRemark) (plain : e.Plain) :
    Goes locked s (s.record e) :=
  aloof (.remark remark plain)

/-- A deed goes, under the lock if it is a callback. -/
theorem deed {n : Nat} {x : World × Updater} (entered : s.updaters.get? id = some h)
    (deed : Deed s id h.value n x) (free : locked = some id → h.value.Callback s.world x) :
    Goes locked s { s with
      fresh := n
      world := x.1
      updaters := s.updaters.set id { h with value := x.2 } } := by
  refine of_move (.deed entered deed free) rfl fun i => ?_
  unfold holdsOf
  dsimp only
  rw [Table.get?_set]
  split
  · next same => rw [same, entered]; rfl
  · rfl

/-- An operation on an updater that may be there. -/
theorem onUpdater {f : Updater → World → World × Updater}
    (deeds : ∀ h, s.updaters.get? id = some h → Deed s id h.value s.fresh (f h.value s.world))
    (free : locked = some id →
      ∀ h, s.updaters.get? id = some h → h.value.Callback s.world (f h.value s.world)) :
    Goes locked s (s.onUpdater id f) := by
  cases entered : s.updaters.get? id with
  | none =>
    simp only [Session.onUpdater, entered]
    exact refl locked s
  | some h =>
    rw [onUpdater_eq entered]
    exact deed entered (deeds h entered) fun same => free same h entered

/-- Operations that go well, done for all members of a list. -/
theorem foldl {α : Type} {f : Session → α → Session} (h : ∀ s a, Goes locked s (f s a))
    (l : List α) (s : Session) : Goes locked s (l.foldl f s) := by
  induction l generalizing s with
  | nil => exact refl locked s
  | cons a l ih => exact (h s a).trans (ih _)

end Goes

end LayerFeed.Session
