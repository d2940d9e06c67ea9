/-
How updaters are told that their context is lost. Each of them is torn down, and says its
last words (`Updater.lastWords`): it releases its source, if it had taken it, and reports
how many textures and whether a layer it gave up. What it held is nobody's any more, all the
rest is as it was (`notify_notice`, `notifyAll_notice`), and to be told again changes nothing.

While a context is destroyed everyone who is told is held, so nobody goes away by being let
go in the end (`destroyContext_notice`). This needs that everyone had a holder before, which
is true wherever moves lead to (`Occurs.upheld`).
-/
import LayerFeed.Proofs.Session.Course
import Mathlib.Algebra.BigOperators.Group.Finset.Basic

namespace LayerFeed

open Owners World

variable {i j : UpdaterId}

-- ==================================================== the doing of one updater

/-- All that a history tells of the doing of one updater. -/
def doingsOf (i : UpdaterId) (h : List Entry) : List Entry := h.filter (·.by? = some i)

/-- The doings of an updater in a longer history are those in both parts. -/
theorem doingsOf_append (i : UpdaterId) (h es : List Entry) :
    doingsOf i (h ++ es) = doingsOf i h ++ doingsOf i es :=
  List.filter_append _ _

/-- Where nothing is by `i` it has no doings. -/
theorem doingsOf_eq_nil {es : List Entry} (others : ∀ e ∈ es, e.NotBy i) : doingsOf i es = [] := by
  refine List.filter_eq_nil_iff.2 fun e mem => ?_
  rw [decide_eq_true_iff]
  exact others e mem

/-- What is all the doing of one updater is not that of another. -/
theorem doingsOf_of_own {es : List Entry} (own : ∀ e ∈ es, e.by? = some j) :
    doingsOf i es = if i = j then es else [] := by
  by_cases same : i = j
  · rw [if_pos same]
    refine List.filter_eq_self.2 fun e mem => ?_
    rw [decide_eq_true_iff, own e mem, same]
  · rw [if_neg same]
    refine doingsOf_eq_nil fun e mem => ?_
    rw [Entry.NotBy, own e mem]
    exact fun h => same (Option.some.inj h).symm

-- ==================================================== a teardown

namespace Updater

variable {u : Updater} {w : World} {r : Owners}

/-- The updater once it is torn down. -/
def tornDown (u : Updater) : Updater :=
  if u.destroyed then u
  else { u with
    destroyed := true, consumerAttached := false, layer := none,
    cache := { u.cache with slots := ∅ }, currentSlot := none }

/-- Nothing is left of what an updater held. -/
structure Spent (u : Updater) : Prop where
  destroyed : u.destroyed
  layer : u.layer = none
  slots : u.cache.slots = ∅
  current : u.currentSlot = none
  released : u.consumerAttached = false

/-- What is left of an updater after a teardown, by either mode. -/
theorem teardown_object (u : Updater) (w : World) (mode : TeardownMode) :
    (u.teardown w mode).2 = u.tornDown := by
  unfold teardown tornDown
  split <;> rfl

/-- What is left is destroyed. -/
theorem tornDown_destroyed (u : Updater) : u.tornDown.destroyed := by
  unfold tornDown
  split
  · next gone => exact gone
  · rfl

/-- There is nothing left to tear down in a destroyed updater. -/
theorem tornDown_of_destroyed (gone : u.destroyed) : u.tornDown = u := if_pos gone

/-- What is left of a living updater is spent. -/
theorem tornDown_spent (live : ¬ u.destroyed) : u.tornDown.Spent := by
  rw [tornDown, if_neg live]
  exact ⟨rfl, rfl, rfl, rfl, rfl⟩

/-- A spent updater owns no texture. -/
theorem Spent.owners (spent : u.Spent) : u.owners = 0 := by
  unfold Updater.owners shownImage SlotCache.owners
  rw [spent.layer, spent.slots]
  exact add_zero _

/-- All that an updater does when it is torn down because its context is lost: it releases
its source, if it had taken it, and reports what it gives up. -/
def lastWords (u : Updater) : List Entry :=
  u.releases.map (fun call => .source call.1 call.2)
    ++ [.event u.id u.sink (.tornDown .contextLost u.cache.liveTextures u.layer.isSome)]

/-- Giving up the ownership calls the source, and nothing else. -/
theorem releaseOwnership_history (u : Updater) (w : World) :
    (u.releaseOwnership w).history
      = w.history ++ u.releases.map fun call => .source call.1 call.2 := by
  unfold releaseOwnership releases
  cases u.consumerAttached with
  | false => exact (List.append_nil _).symm
  | true =>
    cases u.source with
    | none => exact (List.append_nil _).symm
    | some ref => rfl

/-- In a teardown because of a lost context an updater says its last words, and nobody else
does anything. -/
theorem teardown_doings (live : ¬ u.destroyed) (owned : w.Owned (u.owners + r))
    (owner : ∀ ref, u.source = some ref → ref.owner = u.id) :
    ∃ es, (u.teardown w .contextLost).1.history = w.history ++ es
      ∧ ∀ i, doingsOf i es = if i = u.id then u.lastWords else [] := by
  obtain ⟨-, owned'⟩ := (u.releaseOwnership_passes (m := .harsh) fun _ _ _ => trivial).transfer
    (P := Entry.Any) owned
  -- no remark is made while the layer and the slots are given up
  obtain ⟨es, grown, calls⟩ := (u.giveUp_passes (P := fun _ => False) (m := .harsh)
    (w := u.releaseOwnership w) (r := 0) .contextLost (.inr (by decide))).history
    (r := r) (by rwa [add_zero])
  have silent : ∀ i, doingsOf i es = [] := fun i => doingsOf_eq_nil fun e mem => by
    exact e.notBy_of_not_remark (calls e mem) i
  refine ⟨u.releases.map (fun call => .source call.1 call.2) ++ es
    ++ [.note (.tornDown .contextLost u.cache.liveTextures),
      .event u.id u.sink (.tornDown .contextLost u.cache.liveTextures u.layer.isSome)], ?_, ?_⟩
  · rw [u.teardown_history live, grown, releaseOwnership_history, List.append_assoc,
      List.append_assoc, List.append_assoc]
  · intro i
    have own : ∀ e ∈ u.releases.map (fun call => Entry.source call.1 call.2),
        e.by? = some u.id := by
      intro e mem
      obtain ⟨call, mem, rfl⟩ := List.mem_map.1 mem
      unfold releases at mem
      split at mem
      · next ref _ has =>
        rw [List.mem_singleton.1 mem]
        exact congrArg some (owner ref has)
      · cases mem
    have told : doingsOf i [.note (.tornDown .contextLost u.cache.liveTextures),
        .event u.id u.sink (.tornDown .contextLost u.cache.liveTextures u.layer.isSome)]
        = doingsOf i [.event u.id u.sink
          (.tornDown .contextLost u.cache.liveTextures u.layer.isSome)] := rfl
    rw [doingsOf_append, doingsOf_append, silent, told, List.append_nil,
      doingsOf_of_own own, doingsOf_of_own (j := u.id) (by simp [Entry.by?])]
    split <;> rfl

end Updater

namespace Session

variable {s s' s'' : Session} {c : ContextId} {ids : List UpdaterId} {h : Held Updater}
  {u : Updater} {locked : Option UpdaterId}

-- ==================================================== who is told

/-- What becomes of a session whose updaters `ids` are told that their context is lost. -/
structure Notice (ids : List UpdaterId) (s s' : Session) : Prop where
  updaters : ∀ i, s'.updaterOf? i
    = if i ∈ ids then (s.updaterOf? i).map Updater.tornDown else s.updaterOf? i
  history : ∃ es, s'.world.history = s.world.history ++ es ∧ ∀ i u, s.updaterOf? i = some u →
    doingsOf i es = if i ∈ ids ∧ ¬ u.destroyed then u.lastWords else []
  owners : s.owners = ∑ i ∈ ids.toFinset, s.holdings i + s'.owners

/-- Nobody was told yet. -/
theorem Notice.nil (s : Session) : Notice [] s s where
  updaters _ := (if_neg List.not_mem_nil).symm
  history :=
    ⟨[], (List.append_nil _).symm, fun _ _ _ => (if_neg fun h => List.not_mem_nil h.1).symm⟩
  owners := (zero_add _).symm

/-- One updater is told, and then others. -/
theorem Notice.cons (first : Notice [j] s s') (freed : s'.holdings j = 0)
    (rest : Notice ids s' s'') : Notice (j :: ids) s s'' where
  updaters i := by
    rw [rest.updaters, first.updaters]
    by_cases same : i = j
    · rw [if_pos (List.mem_singleton.2 same), if_pos (List.mem_cons.2 (.inl same)), Option.map_map]
      split
      · exact congrArg (Option.map · _) (funext fun u =>
          Updater.tornDown_of_destroyed u.tornDown_destroyed)
      · rfl
    · rw [if_neg (mt List.mem_singleton.1 same)]
      by_cases mem : i ∈ ids
      · rw [if_pos mem, if_pos (List.mem_cons_of_mem _ mem)]
      · rw [if_neg mem, if_neg (mt List.mem_cons.1 (not_or_intro same mem))]
  history := by
    obtain ⟨es, grown, told⟩ := first.history
    obtain ⟨fs, grown', told'⟩ := rest.history
    refine ⟨es ++ fs, by rw [grown', grown, List.append_assoc], fun i u there => ?_⟩
    have there' := first.updaters i
    rw [doingsOf_append, told i u there]
    by_cases same : i = j
    · rw [if_pos (List.mem_singleton.2 same), there, Option.map_some] at there'
      -- who was told is torn down, and says no more
      have silent : doingsOf i fs = [] := by
        rw [told' i _ there', if_neg fun h => h.2 u.tornDown_destroyed]
      rw [silent, List.append_nil, same]
      exact if_congr (and_congr_left' (iff_of_true List.mem_cons_self List.mem_cons_self)) rfl rfl
    · rw [if_neg (mt List.mem_singleton.1 same), there] at there'
      rw [told' i u there', if_neg fun h => same (List.mem_singleton.1 h.1), List.nil_append]
      exact if_congr (and_congr_left' (List.mem_cons.trans (or_iff_right same)).symm) rfl rfl
  owners := by
    have others : ∀ i ∈ ids.toFinset.erase j, s.holdings i = s'.holdings i := by
      intro i mem
      unfold holdings
      rw [first.updaters, if_neg (mt List.mem_singleton.1 (Finset.ne_of_mem_erase mem))]
    have told := first.owners
    rw [rest.owners] at told
    rw [told, ← Finset.sum_erase ids.toFinset freed, List.toFinset_cons, List.toFinset_cons,
      List.toFinset_nil, ← Finset.add_sum_erase _ _ (Finset.mem_insert_self j ids.toFinset),
      Finset.erase_insert_eq_erase, Finset.sum_congr rfl others, ← add_assoc]
    rfl

/-- An updater that is told is torn down. -/
theorem notify_eq (destroy : Destroyer) (free : locked ≠ some j)
    (entered : s.updaters.get? j = some h) (c : ContextId) :
    notify destroy locked c s (.updater j) = { s with
      world := (h.value.teardown (s.world.record (.told c (.updater j))) .contextLost).1
      updaters := s.updaters.set j { h with value := h.value.tornDown } } := by
  have free' : locked.map Participant.updater ≠ some (.updater j) := by
    intro same
    obtain ⟨k, is, same⟩ := Option.map_eq_some_iff.1 same
    cases same
    exact free is
  rw [notify, if_neg free', ← Updater.teardown_object h.value]
  exact onUpdater_eq (s := s.record (.told c (.updater j))) entered _

/-- Telling `j` changes no share. -/
theorem notify_holds (destroy : Destroyer) (free : locked ≠ some j)
    (entered : s.updaters.get? j = some h) (c : ContextId) (i : UpdaterId) :
    (notify destroy locked c s (.updater j)).holdsOf i = s.holdsOf i := by
  unfold holdsOf
  rw [notify_eq destroy free entered]
  dsimp only
  rw [Table.get?_set]
  split
  · next same => rw [same, entered]; rfl
  · rfl

/-- Telling `j` is a notice of `j` alone, and leaves it without a texture. -/
theorem notify_notice (order : s.InOrder) (destroy : Destroyer) (free : locked ≠ some j)
    (entered : s.updaters.get? j = some h) (freed : h.value.tornDown.owners = 0) (c : ContextId) :
    Notice [j] s (notify destroy locked c s (.updater j))
      ∧ (notify destroy locked c s (.updater j)).holdings j = 0 := by
  obtain ⟨-, own⟩ := order.sound.numbered.updaters j h entered
  have there := updaterOf?_of_get? entered
  have there' : (notify destroy locked c s (.updater j)).updaterOf? j = some h.value.tornDown := by
    rw [notify_eq destroy free entered, updaterOf?, Table.get?_set_self, Option.map_some]
  have none : (notify destroy locked c s (.updater j)).holdings j = 0 := by
    unfold holdings
    rw [there']
    exact freed
  refine ⟨⟨?_, ?_, ?_⟩, none⟩
  · intro i
    by_cases same : i = j
    · rw [if_pos (List.mem_singleton.2 same), same, there', there, Option.map_some]
    · rw [if_neg (mt List.mem_singleton.1 same), notify_eq destroy free entered]
      exact updaterOf?_congr (Table.get?_set_ne _ _ same)
  · rw [notify_eq destroy free entered]
    by_cases gone : h.value.destroyed
    · refine ⟨[.told c (.updater j)], ?_, fun i u found => ?_⟩
      · dsimp only
        rw [Updater.teardown, if_pos gone]
        rfl
      · rw [if_neg]
        · rfl
        · rintro ⟨mem, live⟩
          rw [List.mem_singleton.1 mem, there] at found
          cases found
          exact live gone
    · have owned := order.sound.owned
      rw [owners_eq_besides entered] at owned
      obtain ⟨-, owned'⟩ := (Passes.remark (P := Entry.Any) (m := .harsh)
        (Entry.told c (.updater j)) rfl rfl trivial).transfer owned
      obtain ⟨es, grown, told⟩ := h.value.teardown_doings gone owned' fun ref has =>
        (order.sourced.own entered has).1.trans own.symm
      refine ⟨.told c (.updater j) :: es, ?_, fun i u found => ?_⟩
      · rw [grown, record_history, List.append_assoc]
        rfl
      · rw [show doingsOf i (.told c (.updater j) :: es) = doingsOf i es from rfl, told, own]
        by_cases same : i = j
        · rw [same, there] at found
          cases found
          rw [if_pos same, if_pos ⟨List.mem_singleton.2 same, gone⟩]
        · rw [if_neg same, if_neg fun h => same (List.mem_singleton.1 h.1)]
  · have besides : (notify destroy locked c s (.updater j)).besides j = s.besides j := by
      rw [notify_eq destroy free entered]
      exact besides_set_self s j _ s.fresh _
    rw [List.toFinset_cons, List.toFinset_nil, insert_empty_eq, Finset.sum_singleton,
      owners_eq_holdings s j, owners_eq_holdings (notify destroy locked c s (.updater j)) j, none,
      besides, zero_add]

/-- All that can be given up by a teardown is, if nothing is left of what was torn down before. -/
theorem notifyAll_notice (order : s.InOrder) (depth : Nat) (c : ContextId)
    (free : ∀ i ∈ ids, locked ≠ some i) (there : ∀ i ∈ ids, (s.updaterOf? i).isSome)
    (freed : ∀ i ∈ ids, ∀ u, s.updaterOf? i = some u → u.tornDown.owners = 0) :
    let s' := (ids.map .updater).foldl (notify (destroyWithin locked depth) locked c) s
    Notice ids s s' ∧ ∀ i, s'.holdsOf i = s.holdsOf i := by
  induction ids generalizing s with
  | nil => exact ⟨.nil s, fun _ => rfl⟩
  | cons j ids ih =>
    obtain ⟨u, found⟩ := Option.isSome_iff_exists.1 (there j List.mem_cons_self)
    obtain ⟨h, entered, rfl⟩ := Option.map_eq_some_iff.1 found
    have unlocked := free j List.mem_cons_self
    obtain ⟨first, gone⟩ := notify_notice order (destroyWithin locked depth) unlocked entered
      (freed j List.mem_cons_self _ found) c
    have holds := notify_holds (destroyWithin locked depth) unlocked entered c
    have order' := order.steps
      (notify_goes (destroyWithin_goes locked depth) c s (.updater j)).moves.steps
    rw [List.map_cons, List.foldl_cons]
    generalize notify (destroyWithin locked depth) locked c s (.updater j) = s₁ at *
    -- whoever is still to be told is what he was, or was just torn down
    have before : ∀ i u, s₁.updaterOf? i = some u →
        ∃ v, s.updaterOf? i = some v ∧ (u = v ∨ u = v.tornDown) := by
      intro i u there'
      rw [first.updaters] at there'
      split at there'
      · obtain ⟨v, there, rfl⟩ := Option.map_eq_some_iff.1 there'
        exact ⟨v, there, .inr rfl⟩
      · exact ⟨u, there', .inl rfl⟩
    obtain ⟨rest, holds'⟩ := ih order' (fun i mem => free i (List.mem_cons_of_mem j mem))
      (fun i mem => by
        rw [first.updaters]
        have there := there i (List.mem_cons_of_mem j mem)
        split
        · rwa [Option.isSome_map]
        · exact there)
      (fun i mem u there' => by
        obtain ⟨v, there, rfl | rfl⟩ := before i u there'
        · exact freed i (List.mem_cons_of_mem j mem) u there
        · rw [Updater.tornDown_of_destroyed v.tornDown_destroyed]
          exact freed i (List.mem_cons_of_mem j mem) v there)
    exact ⟨first.cons gone rest, fun i => (holds' i).trans (holds i)⟩

-- ==================================================== who is held meanwhile

/-- The sessions differ in who holds the updaters, and in nothing that the updaters are or do. -/
structure SameUpdaters (s s' : Session) : Prop where
  world : s'.world = s.world
  owners : s'.owners = s.owners
  updaters : ∀ i, s'.updaterOf? i = s.updaterOf? i

namespace SameUpdaters

theorem refl (s : Session) : SameUpdaters s s := ⟨rfl, rfl, fun _ => rfl⟩

theorem trans (first : SameUpdaters s s') (second : SameUpdaters s' s'') : SameUpdaters s s'' :=
  ⟨second.world.trans first.world, second.owners.trans first.owners,
    fun i => (second.updaters i).trans (first.updaters i)⟩

theorem holdings (same : SameUpdaters s s') (i : UpdaterId) : s'.holdings i = s.holdings i := by
  unfold Session.holdings
  rw [same.updaters]

end SameUpdaters

/-- Those who are told are the same, whoever holds them before and after. -/
theorem Notice.of_same (notice : Notice ids s s') {a b : Session} (before : SameUpdaters a s)
    (after : SameUpdaters s' b) : Notice ids a b where
  updaters i := by rw [after.updaters, notice.updaters, before.updaters]
  history := by
    obtain ⟨es, grown, told⟩ := notice.history
    refine ⟨es, by rw [after.world, grown, before.world], fun i u there => told i u ?_⟩
    rw [before.updaters, there]
  owners := by
    have owners := notice.owners
    rwa [before.owners, ← after.owners, Finset.sum_congr rfl fun i _ => before.holdings i] at owners

/-- Taking a share of an updater leaves the updaters. -/
theorem hold_same (s : Session) (j : UpdaterId) : SameUpdaters s (s.hold (.updater j)) :=
  ⟨rfl, hold_owners s j, updaterOf?_hold s (.updater j)⟩

/-- Nobody goes away by being let go, who has another holder. -/
theorem letGo_same (many : 1 < s.holdsOf j) : SameUpdaters s (s.letGo (.updater j)) := by
  unfold holdsOf at many
  unfold Session.letGo
  dsimp only
  cases entered : s.updaters.get? j with
  | none => exact .refl s
  | some h =>
    rw [entered] at many
    have many : ¬ h.holds ≤ 1 := Nat.not_le.2 many
    dsimp only
    rw [if_neg many]
    refine ⟨rfl, ?_, (Elsewhere.of_holds entered (h.holds - 1) · |>.same)⟩
    rw [owners_set_updater, owners_eq_besides entered]

/-- And so does taking a share of each of a list. -/
theorem holdAll_same (s : Session) (ids : List UpdaterId) :
    SameUpdaters s ((ids.map .updater).foldl Session.hold s) := by
  induction ids generalizing s with
  | nil => exact .refl s
  | cons j ids ih => exact (hold_same s j).trans (ih _)

/-- The participants made from a list of numbers count as the numbers do. -/
theorem count_updaters (ids : List UpdaterId) (i : UpdaterId) :
    (ids.map Participant.updater).count (.updater i) = ids.count i :=
  List.count_map_of_injective ids Participant.updater
    (fun _ _ same => Participant.updater.inj same) i

/-- Letting go of shares that are not the last leaves the updaters. -/
theorem letGoAll_same (many : ∀ i ∈ ids, ids.count i < s.holdsOf i) :
    SameUpdaters s ((ids.map .updater).foldl Session.letGo s) := by
  induction ids generalizing s with
  | nil => exact .refl s
  | cons j ids ih =>
    have first := many j List.mem_cons_self
    rw [List.count_cons_self] at first
    refine (letGo_same (Nat.lt_of_le_of_lt (Nat.le_add_left 1 _) first)).trans (ih fun i mem => ?_)
    have held := many i (List.mem_cons_of_mem j mem)
    have less := holdsOf_letGo s (.updater j) i
    rw [← count_updaters, List.map_cons, count_cons_participant, count_updaters] at held
    exact Nat.lt_of_add_lt_add_right (Nat.lt_of_lt_of_le held less)

/-- Every updater that is there has a holder. -/
def Upheld (s : Session) : Prop := ∀ i h, s.updaters.get? i = some h → 0 < h.holds

/-- A move keeps everyone upheld. -/
theorem Move.upheld (move : Move locked s s') (upheld : s.Upheld) : s'.Upheld := by
  intro i v there
  cases move with
  | aloof h =>
    rw [h.updaters] at there
    exact upheld i v there
  | beside h =>
    rw [h.parts.2.1] at there
    exact upheld i v there
  | makeContext b => exact upheld i v there
  | newUpdater c config sink =>
    dsimp only at there
    rw [Table.get?_set] at there
    split at there
    · cases there
      exact Nat.one_pos
    · exact upheld i v there
  | hold id =>
    rw [hold_get?] at there
    split at there
    · obtain ⟨h, -, rfl⟩ := Option.map_eq_some_iff.1 there
      exact Nat.succ_pos _
    · exact upheld i v there
  | letGo id =>
    rw [letGo_get?] at there
    split at there
    · obtain ⟨h, -, kept⟩ := Option.bind_eq_some_iff.1 there
      split at kept
      · cases kept
      · next many =>
        cases kept
        exact Nat.sub_pos_of_lt (Nat.lt_of_not_le many)
    · exact upheld i v there
  | deed entered deed free =>
    dsimp only at there
    rw [Table.get?_set] at there
    split at there
    · cases there
      have held := upheld _ _ entered
      exact held
    · exact upheld i v there

/-- A session that moves lead to from its start: between two commands, or in the midst of one. -/
def Occurs (s : Session) : Prop := ∃ minimal b, Moves none (start minimal b) s

/-- A session that occurs has its numbers in order. -/
theorem Occurs.inOrder (occurs : s.Occurs) : s.InOrder := by
  obtain ⟨minimal, b, moves⟩ := occurs
  exact (kept_start minimal b).order.steps moves.steps

/-- A session that occurs goes on to one that occurs. -/
theorem Occurs.moves (occurs : s.Occurs) (moves : Moves none s s') : s'.Occurs := by
  obtain ⟨minimal, b, before⟩ := occurs
  exact ⟨minimal, b, before.trans moves⟩

/-- In a session that occurs everyone is upheld. -/
theorem Occurs.upheld (occurs : s.Occurs) : s.Upheld := by
  obtain ⟨minimal, b, moves⟩ := occurs
  induction moves with
  | refl =>
    intro i h there
    cases there
  | tail _ move ih => exact move.upheld ih

/-- Every run leads to a session that occurs. -/
theorem occurs_run (minimal : Bool) (b : Backend) (commands : List Command) :
    ((start minimal b).run commands).Occurs :=
  ⟨minimal, b, (run_goes (kept_start minimal b) commands).moves⟩

/-- Wherever moves lead to, an updater that is torn down has no entries. -/
theorem Occurs.bare (occurs : s.Occurs) {u : Updater} (found : s.updaterOf? i = some u) :
    u.Bare := by
  have given := given_of_found occurs.inOrder found
  obtain ⟨minimal, b, moves⟩ := occurs
  exact Moves.life (I := fun s => s.Bare i) (inOrder_new minimal) (born_new minimal)
    ((start_moves minimal b).trans moves) (Nat.zero_le i) given
    (fun _ newborn => newborn.bare) (fun _ _ _ _ deal bare => deal.bare bare) u found

-- ==================================================== the whole destruction

/-- Where all that are registered are updaters, the destruction of a context marks it lost and
tells them all. -/
theorem destroyContext_notice (occurs : s.Occurs) (alive : s.world.alive c)
    (live : (s.registry c).filter s.isLive = ids.map .updater)
    (free : ∀ i ∈ ids, locked ≠ some i)
    (freed : ∀ i ∈ ids, ∀ u, s.updaterOf? i = some u → u.tornDown.owners = 0) :
    Notice ids (s.loses locked c) (s.destroyContext locked c).1 := by
  obtain ⟨depth, size⟩ := exists_depth alive
  have count : ((s.registry c).filter s.isLive).length = s.observerCount c :=
    List.countP_eq_length_filter.symm
  have lost : Goes none s (s.loses locked c) := loses_goes alive
  have order := occurs.inOrder.steps lost.moves.steps
  have there : ∀ p ∈ ids.map Participant.updater, (s.loses locked c).isLive p := by
    rw [← live]
    intro p mem
    have held := (List.mem_filter.1 mem).2
    cases p <;> exact held
  have entered : ∀ i ∈ ids, ∃ h, s.updaters.get? i = some h := fun i mem =>
    Option.isSome_iff_exists.1 (there _ (List.mem_map_of_mem mem))
  have upheld : ∀ i ∈ ids, 0 < (s.loses locked c).holdsOf i := by
    intro i mem
    obtain ⟨h, found⟩ := entered i mem
    show 0 < s.holdsOf i
    unfold holdsOf
    rw [found]
    exact occurs.upheld i h found
  rw [destroyContext, size, destroyWithin, if_pos alive]
  dsimp only
  rw [count, live]
  change Notice ids (s.loses locked c) (List.foldl Session.letGo (List.foldl _
    (List.foldl Session.hold (s.loses locked c) _) _) _)
  have held := holdAll_same (s.loses locked c) ids
  have more := fun i => holdsOf_holdAll there i
  have holding : Moves none (s.loses locked c) _ := holdAll_moves _ (ids.map .updater)
  have order' := order.steps holding.steps
  generalize List.foldl Session.hold (s.loses locked c) (ids.map .updater) = s₁ at *
  obtain ⟨told, holds⟩ := notifyAll_notice (s := s₁) order' depth c free
    (fun i mem => by
      obtain ⟨h, found⟩ := entered i mem
      rw [held.updaters, show (s.loses locked c).updaterOf? i = _ from updaterOf?_of_get? found]
      rfl)
    (fun i mem u there => freed i mem u (by rwa [held.updaters] at there))
  refine told.of_same held (letGoAll_same fun i mem => ?_)
  have more := more i
  have upheld := upheld i mem
  rw [count_updaters] at more
  rw [holds]
  omega

end Session

end LayerFeed
