/-
Who is registered with a render state. A registry forgets participants that are gone whenever
another one registers, and all of them as its context is lost. The roll forgets nothing, and
`enrolled` reads off it what a registry would hold that is drained but never pruned.

The two agree on all who are there still (`Attended.rows`), so that pruning cannot be seen:
neither in how many are counted (`Attended.observerCount`) nor in who is told of the loss of
the context (`Attended.attending`). What this rests on is that nobody comes back: a number is
given once, and names lead to participants that are there or that are gone for good.
-/
import LayerFeed.Proofs.Session.Routine

namespace LayerFeed

variable {c d : ContextId} {roll : List RollEntry} {p q : Participant} {k : Option UpdaterId}

-- ==================================================== the roll

/-- The participant that an entry registers with context `c`. -/
def RollEntry.registers? (c : ContextId) : RollEntry → Option Participant
  | registered d p => if d = c then some p else none
  | gone _ | lost _ _ => none

/-- Who was registered with a context, once for each registration, in order. -/
def registeredIn (c : ContextId) (roll : List RollEntry) : List Participant :=
  roll.filterMap (RollEntry.registers? c)

/-- Whether somebody is registered by the entry. -/
def RollEntry.isRegistration : RollEntry → Bool
  | registered _ _ => true
  | gone _ | lost _ _ => false

/-- All registrations of a roll, in order, with whatever contexts. -/
def registrations (roll : List RollEntry) : List RollEntry := roll.filter RollEntry.isRegistration

/-- Who was registered with a context can be read off the registrations alone. -/
theorem registeredIn_registrations (c : ContextId) (roll : List RollEntry) :
    registeredIn c (registrations roll) = registeredIn c roll := by
  rw [registeredIn, registrations, List.filterMap_filter]
  refine List.filterMap_congr fun e _ => ?_
  cases e <;> rfl

/-- The registrations of a longer roll are those of both parts. -/
theorem registrations_append (roll more : List RollEntry) :
    registrations (roll ++ more) = registrations roll ++ registrations more :=
  List.filter_append _ _

/-- The participant is not gone. -/
def stays (roll : List RollEntry) (p : Participant) : Bool := .gone p ∉ roll

/-- Whoever is registered with a context and not gone, once for each registration, in order. -/
def attendees (c : ContextId) (roll : List RollEntry) : List Participant :=
  (registeredIn c roll).filter (stays roll)

/-- What an entry does to a registry that is not pruned. -/
def enroll (c : ContextId) (rows : List Participant) : RollEntry → List Participant
  | .registered d p => if d = c then rows ++ [p] else rows
  | .lost d _ => if d = c then [] else rows
  | .gone _ => rows

/-- The registry of a context as it would be if it were never pruned. -/
def enrolled (c : ContextId) (roll : List RollEntry) : List Participant := roll.foldl (enroll c) []

/-- The registry after one entry more. -/
theorem enrolled_snoc (c : ContextId) (roll : List RollEntry) (e : RollEntry) :
    enrolled c (roll ++ [e]) = enroll c (enrolled c roll) e := by
  rw [enrolled, List.foldl_append]
  rfl

/-- As long as the context stands, all that were registered are enrolled. -/
theorem enrolled_of_standing (standing : ∀ k, .lost c k ∉ roll) :
    enrolled c roll = registeredIn c roll := by
  induction roll using List.reverseRecOn with
  | nil => rfl
  | append_singleton roll e ih =>
    have before : ∀ k, .lost c k ∉ roll := fun k mem => standing k (List.mem_append_left _ mem)
    rw [enrolled_snoc, ih before, registeredIn, registeredIn, List.filterMap_append]
    cases e with
    | registered d p =>
      simp only [enroll, List.filterMap_cons, List.filterMap_nil, RollEntry.registers?]
      split <;> simp
    | gone p => exact (List.append_nil _).symm
    | lost d k =>
      have other : d ≠ c := by
        rintro rfl
        exact standing k (List.mem_append_right _ List.mem_cons_self)
      rw [enroll, if_neg other]
      exact (List.append_nil _).symm

/-- Whoever is enrolled was registered. -/
theorem registered_of_enrolled (mem : p ∈ enrolled c roll) : .registered c p ∈ roll := by
  induction roll using List.reverseRecOn with
  | nil => cases mem
  | append_singleton roll e ih =>
    rw [enrolled_snoc] at mem
    cases e with
    | registered d q =>
      rw [enroll] at mem
      split at mem
      · next same =>
        rcases List.mem_append.1 mem with mem | mem
        · exact List.mem_append_left _ (ih mem)
        · rw [List.mem_singleton.1 mem, same]
          exact List.mem_append_right _ List.mem_cons_self
      · exact List.mem_append_left _ (ih mem)
    | gone q => exact List.mem_append_left _ (ih mem)
    | lost d k =>
      rw [enroll] at mem
      split at mem
      · cases mem
      · exact List.mem_append_left _ (ih mem)

/-- Only a departure changes who stays. -/
theorem stays_snoc {e : RollEntry} (other : ∀ p, e ≠ .gone p) :
    stays (roll ++ [e]) = stays roll := by
  funext p
  simp only [stays, List.mem_append, List.mem_singleton, (other p).symm, or_false]

/-- After a departure everyone else stays. -/
theorem stays_gone :
    stays (roll ++ [.gone p]) = fun q => decide (q ≠ p) && stays roll q := by
  funext q
  rw [Bool.eq_iff_iff]
  simp only [stays, List.mem_append, List.mem_singleton, RollEntry.gone.injEq, Bool.and_eq_true,
    decide_eq_true_eq, not_or]
  exact and_comm

namespace Session

open World

variable {s s' : Session} {P : Entry → Prop}

-- ==================================================== going away

/-- A participant goes away, and that is all that is known of it. -/
structure Departs (p : Participant) (s s' : Session) : Prop where
  was : s.isLive p
  roll : s'.roll = s.roll ++ [.gone p]
  live : ∀ q, s'.isLive q = (decide (q ≠ p) && s.isLive q)
  registries : s'.registries = s.registries
  updaterNames : s'.updaterNames = s.updaterNames
  observerNames : s'.observerNames = s.observerNames
  fresh : s'.fresh = s.fresh
  alive : ∀ c, s'.world.alive c = s.world.alive c

/-- What an erased table still has. -/
private theorem contains_erase {α : Type} (t : Table Nat α) (i j : Nat) :
    (t.erase i).contains j = (decide (j ≠ i) && t.contains j) := by
  unfold Table.contains
  rw [Table.get?_erase]
  by_cases same : j = i <;> simp [same]

/-- Storing under a key in use opens no other key. -/
private theorem contains_set {α : Type} {t : Table Nat α} {i : Nat} {a b : α}
    (found : t.get? i = some a) (j : Nat) : (t.set i b).contains j = t.contains j := by
  unfold Table.contains
  rw [Table.get?_set]
  split
  · next same => rw [same, found]; rfl
  · rfl

/-- Who lets go of a participant leaves it there, or was its last holder. -/
theorem letGo_cases (s : Session) (p : Participant) :
    Apart Entry.Ordinary s (s.letGo p) ∨ Departs p s (s.letGo p) := by
  have writes := letGo_history s p
  cases p with
  | updater id =>
    unfold Session.letGo at writes ⊢
    dsimp only at writes ⊢
    cases found : s.updaters.get? id with
    | none => exact .inl (.refl s)
    | some h =>
      rw [found] at writes
      dsimp only at writes ⊢
      split at writes
      · next last =>
        rw [if_pos last]
        refine .inr ⟨?_, rfl, fun q => ?_, rfl, rfl, rfl, rfl, writes.alive⟩
        · show (s.updaters.get? id).isSome
          rw [found]
          rfl
        · cases q with
          | updater j =>
            refine (contains_erase s.updaters id j).trans ?_
            simp [isLive]
          | observer j => simp [isLive]
      · next more =>
        rw [if_neg more]
        refine .inl ⟨rfl, rfl, rfl, rfl, fun q => ?_, Nat.le_refl _, fun _ => rfl, ⟨[], by simp⟩⟩
        cases q with
        | updater j => exact contains_set found j
        | observer j => rfl
  | observer id =>
    unfold Session.letGo
    dsimp only
    cases found : s.observers.get? id with
    | none => exact .inl (.refl s)
    | some h =>
      dsimp only
      split
      · refine .inr ⟨?_, rfl, fun q => ?_, rfl, rfl, rfl, rfl, fun _ => rfl⟩
        · show (s.observers.get? id).isSome
          rw [found]
          rfl
        · cases q with
          | updater j => simp [isLive]
          | observer j =>
            refine (contains_erase s.observers id j).trans ?_
            simp [isLive]
      · exact .inl (.observer found)

/-- A new context lives, and the others as before. -/
theorem makeContext_alive (s : Session) (b : Backend) (c : ContextId) :
    (s.makeContext b).1.world.alive c = (decide (c = s.fresh) || s.world.alive c) := by
  show (World.openContext _ _ _).alive c = _
  unfold World.alive openContext
  dsimp only
  rw [Table.get?_set]
  by_cases same : c = s.fresh <;> simp [same]

/-- An affair adds to the roll. -/
theorem Affair.roll_grows (affair : Affair P s s') : ∃ es, s'.roll = s.roll ++ es := by
  cases affair with
  | apart apart => exact ⟨[], by rw [apart.roll, List.append_nil]⟩
  | registers c known => exact ⟨[_], rfl⟩
  | letGo p =>
    rcases letGo_cases s p with apart | departs
    · exact ⟨[], by rw [apart.roll, List.append_nil]⟩
    · exact ⟨[_], departs.roll⟩
  | loses locked alive allowed => exact ⟨[_], rfl⟩
  | _ => exact ⟨[], (List.append_nil _).symm⟩

/-- Affairs only add to the roll. -/
theorem Affairs.roll_grows (affairs : Affairs P s s') : ∃ es, s'.roll = s.roll ++ es := by
  induction affairs with
  | refl => exact ⟨[], (List.append_nil _).symm⟩
  | tail _ affair ih =>
    obtain ⟨es, grown⟩ := ih
    obtain ⟨fs, grown'⟩ := affair.roll_grows
    exact ⟨es ++ fs, by rw [grown', grown, List.append_assoc]⟩

-- ==================================================== the registry and the roll

/-- The registry of every context, its participants and their names, as the roll tells of them. -/
structure Attended (s : Session) : Prop where
  /-- What pruning takes out is gone. -/
  rows : ∀ c, (s.registry c).filter (stays s.roll) = (enrolled c s.roll).filter (stays s.roll)
  gone : ∀ p, .gone p ∈ s.roll → ¬ s.isLive p ∧ p.number < s.fresh
  registered : ∀ c p, .registered c p ∈ s.roll → s.isLive p ∨ .gone p ∈ s.roll
  named : ∀ p, s.Named p → s.isLive p ∨ .gone p ∈ s.roll
  given : ∀ p, s.isLive p → p.number < s.fresh
  opened : ∀ c, s.world.alive c → c < s.fresh
  lost : ∀ c k, .lost c k ∈ s.roll → ¬ s.world.alive c ∧ c < s.fresh

namespace Attended

/-- Whoever is enrolled is there exactly if he is not gone. -/
theorem live_iff (attended : s.Attended) (mem : .registered c p ∈ s.roll) :
    s.isLive p = stays s.roll p := by
  rw [Bool.eq_iff_iff, stays, decide_eq_true_iff]
  exact ⟨fun live gone => (attended.gone p gone).1 live,
    fun there => (attended.registered c p mem).resolve_right there⟩

/-- Those of a registry who are there are those who are not gone. -/
theorem registry_live (attended : s.Attended) (c : ContextId) :
    s.attending c = (s.registry c).filter (stays s.roll) := by
  refine List.filter_congr fun p mem => ?_
  by_cases there : stays s.roll p
  · have enrolled : p ∈ (enrolled c s.roll).filter (stays s.roll) := by
      rw [← attended.rows]
      exact List.mem_filter.2 ⟨mem, there⟩
    exact attended.live_iff (registered_of_enrolled (List.mem_filter.1 enrolled).1)
  · have gone : RollEntry.gone p ∈ s.roll := by simpa [stays] using there
    rw [Bool.eq_false_iff.2 there, Bool.eq_false_iff]
    exact (attended.gone p gone).1

/-- Those that attend a registry are those of the registry that is never pruned. -/
theorem attending_eq (attended : s.Attended) (c : ContextId) :
    s.attending c = (enrolled c s.roll).filter (stays s.roll) :=
  (attended.registry_live c).trans (attended.rows c)

/-- The number that the registry announces is the number of those enrolled who stay. -/
theorem observerCount (attended : s.Attended) (c : ContextId) :
    s.observerCount c = ((enrolled c s.roll).filter (stays s.roll)).length := by
  rw [← length_attending, attended.attending_eq]

/-- While its context stands, whoever was registered and is not gone attends. -/
theorem attending (attended : s.Attended) (standing : ∀ k, .lost c k ∉ s.roll) :
    s.attending c = attendees c s.roll := by
  rw [attended.attending_eq, enrolled_of_standing standing]
  rfl

/-- No living context has been lost. -/
theorem standing (attended : s.Attended) (alive : s.world.alive c) (k : Option UpdaterId) :
    .lost c k ∉ s.roll := fun mem => (attended.lost c k mem).1 alive

-- ==================================================== what affairs do to it

/-- Nobody comes or goes, and the registries are what they were. -/
theorem apart (attended : s.Attended) (apart : Apart P s s') : s'.Attended where
  rows c := by
    have same : s'.registry c = s.registry c :=
      congrArg (fun t => (t.get? c).getD []) apart.registries
    rw [same, apart.roll]
    exact attended.rows c
  gone p mem := by
    rw [apart.roll] at mem
    rw [apart.live]
    exact (attended.gone p mem).imp_right fun h => Nat.lt_of_lt_of_le h apart.fresh
  registered c p mem := by
    rw [apart.roll] at mem ⊢
    rw [apart.live]
    exact attended.registered c p mem
  named p named := by
    rw [apart.roll, apart.live]
    refine attended.named p ?_
    cases p with
    | updater id => rwa [Named, ← apart.updaterNames]
    | observer id => rwa [Named, ← apart.observerNames]
  given p live := by
    rw [apart.live] at live
    exact Nat.lt_of_lt_of_le (attended.given p live) apart.fresh
  opened c alive := by
    rw [apart.alive] at alive
    exact Nat.lt_of_lt_of_le (attended.opened c alive) apart.fresh
  lost c k mem := by
    rw [apart.roll] at mem
    rw [apart.alive]
    exact (attended.lost c k mem).imp_right fun h => Nat.lt_of_lt_of_le h apart.fresh

/-- One more participant, with the next number. -/
theorem comes (attended : s.Attended) (registries : s'.registries = s.registries)
    (roll : s'.roll = s.roll) (named : ∀ p, s'.Named p → s.Named p)
    (world : s'.world = s.world) (fresh : s'.fresh = s.fresh + 1)
    (live : ∀ p, s'.isLive p ↔ s.isLive p ∨ p = q) (next : q.number = s.fresh) : s'.Attended where
  rows c := by
    have same : s'.registry c = s.registry c := congrArg (fun t => (t.get? c).getD []) registries
    rw [same, roll]
    exact attended.rows c
  gone p mem := by
    rw [roll] at mem
    have old := attended.gone p mem
    refine ⟨fun there => ?_, by omega⟩
    rcases (live p).1 there with there | rfl
    · exact old.1 there
    · omega
  registered c p mem := by
    rw [roll] at mem ⊢
    exact (attended.registered c p mem).imp_left fun there => (live p).2 (.inl there)
  named p name := by
    rw [roll]
    exact (attended.named p (named p name)).imp_left fun there => (live p).2 (.inl there)
  given p there := by
    rcases (live p).1 there with there | rfl
    · have := attended.given p there
      omega
    · omega
  opened c alive := by
    rw [world] at alive
    rw [fresh]
    exact Nat.lt_succ_of_lt (attended.opened c alive)
  lost c k mem := by
    rw [roll] at mem
    rw [world, fresh]
    exact (attended.lost c k mem).imp_right Nat.lt_succ_of_lt

/-- Names change, and lead to participants that are there. -/
theorem names {updaterNames : Table String UpdaterId} {observerNames : Table String ObserverId}
    (attended : s.Attended)
    (named : ∀ p, ({ s with updaterNames, observerNames } : Session).Named p →
      s.Named p ∨ s.isLive p) : ({ s with updaterNames, observerNames } : Session).Attended :=
  { attended with named := fun p name => (named p name).elim (attended.named p) .inl }

/-- A registration keeps the registry as the roll has it, when the participant is known. -/
theorem registers (attended : s.Attended) (c : ContextId) (known : s.isLive p ∨ s.Named p) :
    (s.register c p).Attended where
  rows d := by
    have others : (s.register c p).registry d
        = if d = c then s.attending c ++ [p] else s.registry d := by
      unfold register registry
      rw [Table.get?_set]
      split <;> rfl
    rw [others, show (s.register c p).roll = s.roll ++ [.registered c p] from rfl,
      stays_snoc (by simp), enrolled_snoc, enroll]
    by_cases same : d = c
    · subst same
      rw [if_pos rfl, if_pos rfl, List.filter_append, List.filter_append, attended.attending_eq,
        List.filter_filter]
      simp only [Bool.and_self]
    · rw [if_neg same, if_neg (Ne.symm same)]
      exact attended.rows d
  gone q mem := by
    refine attended.gone q ?_
    simpa [register] using mem
  registered d q mem := by
    refine Or.imp_right (List.mem_append_left _) ?_
    rcases List.mem_append.1 mem with mem | mem
    · exact attended.registered d q mem
    · cases List.mem_singleton.1 mem
      exact known.elim .inl (attended.named p)
  named q name := (attended.named q name).imp_right (List.mem_append_left _)
  given q there := attended.given q there
  opened d alive := attended.opened d alive
  lost d k mem := by
    refine attended.lost d k ?_
    simpa [register] using mem

/-- And so does a departure. -/
theorem departs (attended : s.Attended) (departs : Departs p s s') : s'.Attended where
  rows c := by
    have same : s'.registry c = s.registry c :=
      congrArg (fun t => (t.get? c).getD []) departs.registries
    rw [same, departs.roll, enrolled_snoc, enroll]
    rw [stays_gone, ← List.filter_filter, ← List.filter_filter, attended.rows]
  gone q mem := by
    rw [departs.roll] at mem
    rw [departs.live, departs.fresh]
    rcases List.mem_append.1 mem with mem | mem
    · exact (attended.gone q mem).imp_left fun gone there => gone (Bool.and_eq_true_iff.1 there).2
    · cases List.mem_singleton.1 mem
      exact ⟨by simp, attended.given p departs.was⟩
  registered c q mem := by
    rw [departs.roll] at mem ⊢
    have old : RollEntry.registered c q ∈ s.roll := by simpa using mem
    exact departed departs (attended.registered c q old)
  named q name := by
    rw [departs.roll]
    refine departed departs (attended.named q ?_)
    cases q with
    | updater id => rwa [Named, ← departs.updaterNames]
    | observer id => rwa [Named, ← departs.observerNames]
  given q there := by
    rw [departs.live] at there
    rw [departs.fresh]
    exact attended.given q (Bool.and_eq_true_iff.1 there).2
  opened c alive := by
    rw [departs.alive] at alive
    rw [departs.fresh]
    exact attended.opened c alive
  lost c k mem := by
    rw [departs.roll] at mem
    rw [departs.alive, departs.fresh]
    exact attended.lost c k (by simpa using mem)
where
  departed {p q : Participant} {s s' : Session} (departs : Departs p s s')
      (there : s.isLive q ∨ .gone q ∈ s.roll) : s'.isLive q ∨ .gone q ∈ s.roll ++ [.gone p] := by
    by_cases same : q = p
    · exact .inr (List.mem_append_right _ (by simp [same]))
    · rw [departs.live]
      exact there.imp (fun live => by simp [same, live]) (List.mem_append_left _)

/-- And so does the loss of a context. -/
theorem loses (attended : s.Attended) (locked : Option UpdaterId) (alive : s.world.alive c) :
    (s.loses locked c).Attended where
  rows d := by
    have others : (s.loses locked c).registry d = if d = c then [] else s.registry d := by
      unfold Session.loses registry
      rw [Table.get?_set]
      split <;> rfl
    rw [others, show (s.loses locked c).roll = s.roll ++ [.lost c locked] from rfl,
      stays_snoc (by simp), enrolled_snoc, enroll]
    by_cases same : d = c
    · rw [if_pos same, if_pos same.symm]
    · rw [if_neg same, if_neg (Ne.symm same)]
      exact attended.rows d
  gone q mem := by
    refine attended.gone q ?_
    simpa [Session.loses, onWorld] using mem
  registered d q mem := by
    refine Or.imp_right (List.mem_append_left _) (attended.registered d q ?_)
    simpa [Session.loses, onWorld] using mem
  named q name := (attended.named q name).imp_right (List.mem_append_left _)
  given q there := attended.given q there
  opened d living := by
    rw [loses_alive, Bool.and_eq_true_iff] at living
    exact attended.opened d living.2
  lost d k mem := by
    rw [loses_alive]
    rcases List.mem_append.1 mem with mem | mem
    · exact (attended.lost d k mem).imp_left fun dead living =>
        dead (Bool.and_eq_true_iff.1 living).2
    · cases List.mem_singleton.1 mem
      exact ⟨by simp, attended.opened c alive⟩

/-- A context is opened, with the next number. -/
theorem opens (attended : s.Attended) (b : Backend) : (s.makeContext b).1.Attended where
  rows := attended.rows
  gone p mem := (attended.gone p mem).imp_right Nat.lt_succ_of_lt
  registered := attended.registered
  named := attended.named
  given p there := Nat.lt_succ_of_lt (attended.given p there)
  opened c alive := by
    rw [makeContext_alive, Bool.or_eq_true, decide_eq_true_eq] at alive
    rcases alive with rfl | alive
    · exact Nat.lt_succ_self _
    · exact Nat.lt_succ_of_lt (attended.opened c alive)
  lost c k mem := by
    have old := attended.lost c k mem
    rw [makeContext_alive, Bool.or_eq_true, decide_eq_true_eq]
    exact ⟨fun living => living.elim (fun same => Nat.ne_of_lt old.2 same) old.1,
      Nat.lt_succ_of_lt old.2⟩

/-- And so does any affair. -/
theorem affair (attended : s.Attended) (affair : Affair P s s') : s'.Attended := by
  cases affair with
  | apart apart => exact attended.apart apart
  | updater u =>
    refine attended.comes (q := .updater s.fresh) rfl rfl (fun _ => id) rfl rfl (fun p => ?_) rfl
    cases p with
    | updater id =>
      show (Table.contains _ _ = true) ↔ _
      rw [Table.contains, Table.get?_set]
      by_cases same : id = s.fresh <;> simp [same, isLive, Table.contains]
    | observer id => simp [isLive]
  | observer o =>
    refine attended.comes (q := .observer s.fresh) rfl rfl (fun _ => id) rfl rfl (fun p => ?_) rfl
    cases p with
    | updater id => simp [isLive]
    | observer id =>
      show (Table.contains _ _ = true) ↔ _
      rw [Table.contains, Table.get?_set]
      by_cases same : id = s.fresh <;> simp [same, isLive, Table.contains]
  | namesUpdater name live =>
    refine attended.names fun p named => ?_
    cases p with
    | observer id => exact .inl named
    | updater id =>
      obtain ⟨other, named⟩ := named
      dsimp only at named
      rw [Table.get?_set] at named
      split at named
      · cases named
        exact .inr live
      · exact .inl ⟨other, named⟩
  | namesObserver name live =>
    refine attended.names fun p named => ?_
    cases p with
    | updater id => exact .inl named
    | observer id =>
      obtain ⟨other, named⟩ := named
      dsimp only at named
      rw [Table.get?_set] at named
      split at named
      · cases named
        exact .inr live
      · exact .inl ⟨other, named⟩
  | unnamesUpdater name =>
    refine attended.names fun p named => .inl ?_
    cases p with
    | observer id => exact named
    | updater id =>
      obtain ⟨other, named⟩ := named
      dsimp only at named
      rw [Table.get?_erase] at named
      split at named
      · cases named
      · exact ⟨other, named⟩
  | unnamesObserver name =>
    refine attended.names fun p named => .inl ?_
    cases p with
    | updater id => exact named
    | observer id =>
      obtain ⟨other, named⟩ := named
      dsimp only at named
      rw [Table.get?_erase] at named
      split at named
      · cases named
      · exact ⟨other, named⟩
  | registers c known => exact attended.registers c known
  | letGo p =>
    rcases letGo_cases s p with apart | departs
    · exact attended.apart apart
    · exact attended.departs departs
  | loses locked alive allowed => exact attended.loses locked alive

/-- An empty registry has an empty roll. -/
theorem new (minimal : Bool) : ({ minimal } : Session).Attended where
  rows _ := rfl
  gone _ mem := by cases mem
  registered _ _ mem := by cases mem
  named p named := by cases p <;> (obtain ⟨_, named⟩ := named; cases named)
  given p live := by cases p <;> cases live
  opened _ alive := by cases alive
  lost _ _ mem := by cases mem

end Attended

-- ==================================================== how registrations come about

/-- To register a participant is to enter one registration more. -/
theorem register_registrations (s : Session) (c : ContextId) (p : Participant) :
    registrations (s.register c p).roll = registrations s.roll ++ [.registered c p] :=
  registrations_append _ _

/-- Nobody is registered, or taken off the roll, as a holder lets go. -/
theorem letGo_registrations (s : Session) (p : Participant) :
    registrations (s.letGo p).roll = registrations s.roll := by
  rcases letGo_cases s p with apart | departs
  · rw [apart.roll]
  · rw [departs.roll, registrations_append]
    exact List.append_nil _

/-- Dropping an updater registers nobody. -/
theorem dropUpdater_registrations (s : Session) (name : String) :
    registrations (s.dropUpdater name).roll = registrations s.roll := by
  unfold dropUpdater
  cases s.updaterNames.get? name with
  | none => rfl
  | some id => exact letGo_registrations _ _

/-- Dropping an observer registers nobody. -/
theorem dropObserver_registrations (s : Session) (name : String) :
    registrations (s.dropObserver name).roll = registrations s.roll := by
  unfold dropObserver
  cases s.observerNames.get? name with
  | none => rfl
  | some id => exact letGo_registrations _ _

/-- Naming an updater again registers nobody. -/
theorem nameUpdater_registrations (s : Session) (name : String) (id : UpdaterId) :
    registrations (s.nameUpdater name id).roll = registrations s.roll := by
  unfold nameUpdater
  cases s.updaterNames.get? name with
  | none => rfl
  | some old => exact letGo_registrations _ _

/-- Naming an observer again registers nobody. -/
theorem nameObserver_registrations (s : Session) (name : String) (id : ObserverId) :
    registrations (s.nameObserver name id).roll = registrations s.roll := by
  unfold nameObserver
  cases s.observerNames.get? name with
  | none => rfl
  | some old => exact letGo_registrations _ _

/-- The registration that a command makes, if it makes one: of a participant by its name, or of an
observer or an updater that is registered as it is made. -/
def registration? (s : Session) : Command → Option RollEntry
  | .register name state =>
    (s.participant? name).bind fun p => (s.state? state).map fun c => .registered c p
  | .newObserver _ state _ true => (s.state? state).map fun c => .registered c (.observer s.fresh)
  | .newUpdater _ _ (.registered state) _ =>
    (s.state? state).map fun c => .registered c (.updater s.fresh)
  | _ => none

/-- The command that registers adds one registration, if it finds its participant and its state. -/
theorem registerNamed_registrations (s : Session) (name state : String) :
    registrations (s.registerNamed name state).roll
      = registrations s.roll ++ (s.registration? (.register name state)).toList := by
  unfold registerNamed registration?
  dsimp only
  cases s.participant? name with
  | none => exact (List.append_nil _).symm
  | some p =>
    cases s.state? state with
    | none => exact (List.append_nil _).symm
    | some c => exact register_registrations s c p

/-- A new observer adds one if it registers with a state that there is. -/
theorem newObserver_registrations (s : Session) (name state : String)
    (actions : List ObserverAction) (registered : Bool) :
    registrations (s.newObserver name state actions registered).roll
      = registrations s.roll
        ++ (s.registration? (.newObserver name state actions registered)).toList := by
  unfold newObserver
  cases found : s.state? state with
  | none => cases registered <;> simp [registration?, found]
  | some c =>
    dsimp only
    rw [nameObserver_registrations]
    cases registered with
    | false => exact (List.append_nil _).symm
    | true =>
      rw [if_pos rfl, register_registrations]
      simp [registration?, found]

/-- A new updater adds one if it registers with a state that there is. -/
theorem newUpdater_registrations (s : Session) (name : String) (config : Config) (home : Home)
    (sink : SinkChoice) :
    registrations (s.newUpdater name config home sink).1.roll
      = registrations s.roll
        ++ (s.registration? (.newUpdater name config home sink)).toList := by
  have chosen (t : Session) : (t.chooseSink name sink).1.roll = t.roll :=
    (chooseSink_apart (P := fun _ => True) t name sink).roll
  unfold newUpdater
  cases home with
  | unregistered state | context other =>
    cases s.homeContext? _ with
    | none => exact (List.append_nil _).symm
    | some c =>
      dsimp only
      rw [nameUpdater_registrations]
      dsimp only
      rw [chosen]
      exact (List.append_nil _).symm
  | registered state =>
    rw [show s.homeContext? (.registered state) = s.state? state from rfl]
    cases found : s.state? state with
    | none => simp [registration?, found]
    | some c =>
      dsimp only
      rw [nameUpdater_registrations, register_registrations]
      dsimp only
      rw [chosen]
      simp [registration?, found]

/-- A command that stirs nothing makes the registration that is asked for, once, and no other. -/
theorem exec_registrations (s : Session) {command : Command} (calm : ¬ command.Stirs) :
    registrations (s.exec command).1.roll
      = registrations s.roll ++ (s.registration? command).toList := by
  have nobody {t : Session} (same : registrations t.roll = registrations s.roll)
      (none : s.registration? command = none) :
      registrations t.roll = registrations s.roll ++ (s.registration? command).toList := by
    rw [same, none]
    exact (List.append_nil _).symm
  by_cases concerns : command.change.Concerns
  · cases command with
    | register name state => exact registerNamed_registrations s name state
    | newObserver name state actions registered =>
      exact newObserver_registrations s name state actions registered
    | newUpdater name config home sink => exact newUpdater_registrations s name config home sink
    | newState | newContext => exact nobody rfl rfl
    | dropUpdater name => exact nobody (dropUpdater_registrations s name) rfl
    | dropObserver name => exact nobody (dropObserver_registrations s name) rfl
    | destroy | apply => exact absurd trivial calm
    | _ => exact concerns.elim
  · have aloof : Apart (fun _ => True) s (s.after command.change) :=
      change_apart (fun _ _ => trivial) (fun _ => trivial) (fun _ _ => trivial) concerns
    refine nobody (by rw [exec_change, aloof.roll]) ?_
    cases command with
    | register | newObserver | newUpdater => exact absurd trivial concerns
    | _ => rfl

/-- An observer that is told of a loss makes a registration by the action that asks for one, if
there is an observer of that name, and by no other action, unless it destroys a context. -/
theorem act_registrations (destroy : Destroyer) (s : Session) (o : Observer)
    {action : ObserverAction} (other : action ≠ .destroy) :
    registrations (act destroy s o action).roll = registrations s.roll
      ++ match action with
        | .register name => ((s.observerNames.get? name).map fun id =>
            RollEntry.registered o.context (.observer id)).toList
        | _ => [] := by
  cases action with
  | destroy => exact absurd rfl other
  | count => exact (List.append_nil _).symm
  | letGo name =>
    refine Eq.trans ?_ (List.append_nil _).symm
    exact (dropUpdater_registrations _ name).trans (dropObserver_registrations s name)
  | register name =>
    unfold act
    dsimp only
    cases s.observerNames.get? name with
    | none => exact (List.append_nil _).symm
    | some id => exact register_registrations s o.context (.observer id)

end Session

end LayerFeed
