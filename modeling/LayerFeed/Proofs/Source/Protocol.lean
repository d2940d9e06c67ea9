/-
The calls that sources see in a session. For every updater number, the calls that
were made in its name leave a `Custody`, and the updater stands as that custody
says (`Sourced`): it has the source in custody, or none, and its ownership flag is
up exactly while that source is asked for frames. Each step that calls a source
brings its own calls; all the other steps bring none, because they are quiet.
-/
import LayerFeed.Proofs.Session.Sound
import LayerFeed.Proofs.Source.Custody

namespace LayerFeed

/-- The calls to sources in a history, each with the source. -/
def callsIn (h : List Entry) : List (SourceRef × SourceCall) := h.filterMap Entry.sourceCall?

/-- The calls made in the name of one updater. -/
def callsBy (id : UpdaterId) (h : List Entry) : List (SourceRef × SourceCall) :=
  (callsIn h).filter (·.1.owner = id)

namespace World

open Owners

variable {P : Entry → Prop} {w w' : World} {f f' : Owners}

theorem callsIn_append (h es : List Entry) : callsIn (h ++ es) = callsIn h ++ callsIn es :=
  List.filterMap_append

/-- Where nobody calls a source, no calls are found. -/
theorem callsIn_eq_nil {es : List Entry} (quiet : ∀ e ∈ es, e.isRemark → e.Quiet) :
    callsIn es = [] := by
  refine List.filterMap_eq_nil_iff.2 fun e mem => ?_
  cases remark : e.isRemark with
  | true => exact quiet e mem remark
  | false =>
    cases e with
    | backend => rfl
    | note => rfl
    | _ => cases remark

/-- A quiet entry is no call. -/
theorem calls_record {e : Entry} (quiet : e.Quiet) :
    callsIn (w.record e).history = callsIn w.history := by
  have none : callsIn [e] = [] := List.filterMap_cons_none quiet
  rw [record_history, callsIn_append, none, List.append_nil]

/-- A call to a source is one call. -/
theorem calls_source {ref : SourceRef} {call : SourceCall}
    (called : (Entry.source ref call).sourceCall? = some (ref, call)) :
    callsIn (w.record (.source ref call)).history = callsIn w.history ++ [(ref, call)] := by
  rw [record_history, callsIn_append]
  exact congrArg _ (List.filterMap_cons_some called)

/-- Quiet steps call no source. -/
theorem Steps.calls (h : Steps Entry.Quiet w w') : callsIn w'.history = callsIn w.history := by
  obtain ⟨es, grown, quiet⟩ := h.history
  rw [grown, callsIn_append, callsIn_eq_nil quiet, List.append_nil]

/-- A quiet transfer calls no source. -/
theorem Transfer.calls (h : Transfer Entry.Quiet w f w' f') (owned : w.Owned f) :
    callsIn w'.history = callsIn w.history :=
  (h owned).1.calls

end World

-- ==================================================== the calls of an updater

namespace Updater

open World Owners

variable {u : Updater} {w : World} {r : Owners} {ref : SourceRef}

/-- The call by which a teardown releases the source. -/
def releases (u : Updater) : List (SourceRef × SourceCall) :=
  match u.consumerAttached, u.source with
  | true, some ref => [(ref, .released)]
  | _, _ => []

/-- The call that drops the source. -/
def drops (u : Updater) : List (SourceRef × SourceCall) :=
  match u.source with
  | some ref => [(ref, .dropped)]
  | none => []

/-- The call that takes the source, unless it was taken. -/
def takes (u : Updater) (ref : SourceRef) : List (SourceRef × SourceCall) :=
  if u.consumerAttached then [] else [(ref, .taken)]

/-- A source is released if it was taken, and dropped. -/
theorem releaseSource_calls (u : Updater) (w : World) :
    callsIn (u.releaseSource w).world.history = callsIn w.history ++ (u.releases ++ u.drops) := by
  unfold releaseSource releases drops
  cases u.source with
  | none => cases u.consumerAttached <;> exact (List.append_nil _).symm
  | some ref =>
    dsimp only
    rw [calls_source rfl]
    cases u.consumerAttached with
    | false => rfl
    | true =>
      rw [if_pos rfl, calls_source rfl, List.append_assoc]

/-- The source before is released and dropped, then the new one is installed. -/
theorem attach_calls (owned : w.Owned (u.owners + r)) (ref : SourceRef) :
    callsIn (u.attach w ref).1.history
      = callsIn w.history ++ (u.releases ++ u.drops) ++ [(ref, .installed)] := by
  obtain ⟨-, owned'⟩ := (u.releaseSource_passes (m := .gentle) fun _ _ _ => trivial).transfer
    (P := Entry.Any) owned
  have cleared := (u.releaseSource w).object.clearQueue_passes (m := .gentle)
    (w := (u.releaseSource w).world) (r := r) fun _ still => still.quiet
  rw [u.releaseSource_owners] at cleared
  rw [← releaseSource_calls, ← cleared.transfer.calls owned']
  exact calls_source rfl

/-- The source is released and dropped. -/
theorem detach_calls (owned : w.Owned (u.owners + r)) :
    callsIn (u.detach w).1.history = callsIn w.history ++ (u.releases ++ u.drops) := by
  obtain ⟨-, owned'⟩ := (u.releaseSource_passes (m := .gentle) fun _ _ _ => trivial).transfer
    (P := Entry.Any) owned
  have severed := (u.releaseSource w).object.severActiveSlot_passes (m := .gentle)
    (w := (u.releaseSource w).world) (r := r) fun _ still => still.quiet
  rw [u.releaseSource_owners] at severed
  rw [← releaseSource_calls, ← severed.transfer.calls owned']
  unfold detach
  dsimp only
  split
  · exact (calls_record (w := World.note _ _) (e := .event _ _ _) rfl).trans
      (calls_record (e := .note (.sourceDetached _)) rfl)
  · rfl

/-- The source is released if it was taken. -/
theorem releaseOwnership_calls (u : Updater) (w : World) :
    callsIn (u.releaseOwnership w).history = callsIn w.history ++ u.releases := by
  unfold releaseOwnership releases
  cases u.consumerAttached with
  | false => exact (List.append_nil _).symm
  | true =>
    cases u.source with
    | none => exact (List.append_nil _).symm
    | some ref => exact calls_source rfl

/-- The source is dropped. -/
theorem dropSource_calls (u : Updater) (w : World) :
    callsIn (u.dropSource w).history = callsIn w.history ++ u.drops := by
  unfold dropSource drops
  cases u.source with
  | none => exact (List.append_nil _).symm
  | some ref => exact calls_source rfl

/-- The first teardown releases the source, and drops it not. -/
theorem teardown_calls (owned : w.Owned (u.owners + r)) (live : ¬ u.destroyed)
    (mode : TeardownMode) :
    callsIn (u.teardown w mode).1.history = callsIn w.history ++ u.releases := by
  obtain ⟨-, owned'⟩ := (u.releaseOwnership_passes (m := .gentle) fun _ _ _ => trivial).transfer
    (P := Entry.Any) owned
  have givenUp := u.giveUp_passes (P := Entry.Quiet) (m := .harsh) (w := u.releaseOwnership w)
    (r := r) mode (.inr (by decide))
  rw [← releaseOwnership_calls, ← givenUp.transfer.calls owned']
  unfold teardown
  rw [if_neg live]
  exact (calls_record (w := World.note _ _) (e := .event _ _ _) rfl).trans
    (calls_record (e := .note (.tornDown _ _)) rfl)

/-- An updater that goes away drops its source, which it has released then or before. -/
theorem discard_calls (owned : w.Owned (u.owners + r)) :
    callsIn (u.discard w).history
      = callsIn w.history ++ ((if u.destroyed then [] else u.releases) ++ u.drops) := by
  unfold discard
  generalize (if w.alive u.context then TeardownMode.normal else .contextLost) = mode
  have down : callsIn (u.teardown w mode).1.history
      = callsIn w.history ++ (if u.destroyed then [] else u.releases) := by
    by_cases gone : u.destroyed
    · rw [teardown, if_pos gone, if_pos gone, List.append_nil]
    · rw [if_neg gone]
      exact teardown_calls owned gone mode
  have same : (u.teardown w mode).2.source = u.source := by
    unfold teardown
    split <;> rfl
  have drops : u.drops = (u.teardown w mode).2.drops := by
    unfold drops
    rw [same]
  obtain ⟨-, owned'⟩ := (u.teardown_passes (P := Entry.Any) (m := .harsh) (fun _ _ _ => trivial)
    (fun _ _ => trivial) mode (.inr (by decide)) fun _ _ => trivial).transfer owned
  rw [← List.append_assoc, ← down, drops]
  generalize u.teardown w mode = after at owned'
  obtain ⟨-, owned''⟩ := (after.2.dropSource_passes (P := Entry.Any) (m := .gentle)
    fun _ _ _ => trivial).transfer owned'
  rw [← dropSource_calls]
  refine Transfer.calls ((Transfer.letGoOf (k := .image) after.2.shownImage).trans
    (after.2.cache.discard_passes (m := .loose) (r := r) (.inl rfl)).transfer) ?_
  rwa [← add_assoc]

/-- An apply that asks its source has it, and takes it unless it was taken. -/
theorem beginApply_asks (asked : (u.beginApply w).answer = some ref) :
    u.source = some ref
      ∧ callsIn (u.beginApply w).world.history = callsIn w.history ++ u.takes ref
      ∧ (u.beginApply w).object.source = some ref
      ∧ (u.beginApply w).object.consumerAttached = true
      ∧ (u.beginApply w).object.destroyed = u.destroyed := by
  have source : u.commitPaint.source = u.source := rfl
  have attached : u.commitPaint.consumerAttached = u.consumerAttached := rfl
  have gone : u.commitPaint.destroyed = u.destroyed := rfl
  unfold beginApply at asked ⊢
  dsimp only at asked ⊢
  rw [← source, ← gone]
  unfold takes
  rw [← attached]
  generalize u.commitPaint = v at asked ⊢
  cases has : v.source with
  | none =>
    rw [has] at asked
    cases asked
  | some r =>
    rw [has] at asked
    dsimp only at asked ⊢
    split at asked
    · cases asked
      refine ⟨rfl, ?_⟩
      unfold takeOwnership
      cases taken : v.consumerAttached with
      | true => exact ⟨(List.append_nil _).symm, has, taken, rfl⟩
      | false => exact ⟨calls_source rfl, has, rfl, rfl⟩
    · cases asked

/-- An apply that asks no source changes nothing between the updater and its source. -/
theorem beginApply_idle (idle : (u.beginApply w).answer = none) :
    (u.beginApply w).world = w ∧ (u.beginApply w).object.source = u.source
      ∧ (u.beginApply w).object.consumerAttached = u.consumerAttached
      ∧ (u.beginApply w).object.destroyed = u.destroyed := by
  have source : u.commitPaint.source = u.source := rfl
  have attached : u.commitPaint.consumerAttached = u.consumerAttached := rfl
  have gone : u.commitPaint.destroyed = u.destroyed := rfl
  unfold beginApply at idle ⊢
  dsimp only at idle ⊢
  rw [← source, ← attached, ← gone]
  generalize u.commitPaint = v at idle ⊢
  cases has : v.source with
  | none => exact ⟨rfl, has, rfl, rfl⟩
  | some r =>
    rw [has] at idle
    unfold takeOwnership at idle ⊢
    dsimp only at idle ⊢
    cases taken : v.consumerAttached with
    | true => exact ⟨rfl, has, taken, rfl⟩
    | false =>
      rw [taken] at idle
      cases idle

-- ==================================================== custody of an updater

/-- How an updater stands while a source is in its custody, or none is. -/
def Stands (u : Updater) : Option (SourceRef × Phase) → Prop
  | none => u.source = none ∧ u.consumerAttached = false
  | some (ref, .idle) => u.source = some ref ∧ u.consumerAttached = false
  | some (_, .taken) => False
  | some (ref, .asked) => u.source = some ref ∧ u.consumerAttached = true ∧ u.destroyed = false
  | some (ref, .parted) => u.source = some ref ∧ u.consumerAttached = false ∧ u.destroyed = true

/-- How an updater stands is seen from its source and from two flags. -/
theorem Stands.congr {v : Updater} {k : Option (SourceRef × Phase)} (h : u.Stands k)
    (source : v.source = u.source) (attached : v.consumerAttached = u.consumerAttached)
    (destroyed : v.destroyed = u.destroyed) : v.Stands k := by
  unfold Stands at h ⊢
  rw [source, attached, destroyed]
  exact h

variable {calls : List (SourceRef × SourceCall)} {k : Option (SourceRef × Phase)}

/-- The source in custody is the one that the updater has. -/
theorem Stands.has_source {p : Phase} (h : u.Stands (some (ref, p))) : u.source = some ref := by
  cases p with
  | idle => exact h.1
  | taken => exact h.elim
  | asked => exact h.1
  | parted => exact h.1

/-- The source of an updater is in its custody. -/
theorem Stands.in_custody (h : u.Stands k) (has : u.source = some ref) :
    ∃ p, k = some (ref, p) := by
  cases k with
  | none =>
    have none : u.source = none := h.1
    rw [none] at has
    cases has
  | some e =>
    obtain ⟨r, p⟩ := e
    rw [h.has_source] at has
    cases has
    exact ⟨p, rfl⟩

/-- A release is the call that a source in custody expects. -/
theorem Stands.release (h : u.Stands k) (custody : Custody calls k) :
    ∃ k', Custody (calls ++ u.releases) k'
      ∧ ∀ v : Updater, v.source = u.source → v.consumerAttached = false → v.destroyed = true →
        v.Stands k' := by
  match k, h with
  | none, ⟨source, attached⟩ =>
    refine ⟨none, ?_, fun v hs ha hd => ⟨hs.trans source, ha⟩⟩
    rw [releases, attached, List.append_nil]
    exact custody
  | some (ref, .idle), ⟨source, attached⟩ =>
    refine ⟨some (ref, .idle), ?_, fun v hs ha hd => ⟨hs.trans source, ha⟩⟩
    rw [releases, attached, List.append_nil]
    exact custody
  | some (ref, .asked), ⟨source, attached, live⟩ =>
    refine ⟨some (ref, .parted), ?_, fun v hs ha hd => ⟨hs.trans source, ha, hd⟩⟩
    rw [releases, attached, source]
    exact custody.call .release
  | some (ref, .parted), ⟨source, attached, gone⟩ =>
    refine ⟨some (ref, .parted), ?_, fun v hs ha hd => ⟨hs.trans source, ha, hd⟩⟩
    rw [releases, attached, List.append_nil]
    exact custody

/-- The calls by which an updater parts with its source leave nothing in custody. -/
theorem Stands.part (h : u.Stands k) (custody : Custody calls k) :
    Custody (calls ++ (u.releases ++ u.drops)) none := by
  match k, h with
  | none, ⟨source, attached⟩ =>
    rw [releases, drops, attached, source, List.append_nil, List.append_nil]
    exact custody
  | some (ref, .idle), ⟨source, attached⟩ =>
    rw [releases, drops, attached, source]
    exact custody.call .dropIdle
  | some (ref, .asked), ⟨source, attached, live⟩ =>
    rw [releases, drops, attached, source, ← List.append_assoc]
    exact (custody.call .release).call .dropParted
  | some (ref, .parted), ⟨source, attached, gone⟩ =>
    rw [releases, drops, attached, source]
    exact custody.call .dropParted

/-- An updater that was torn down has released its source. -/
theorem Stands.released (h : u.Stands k) (gone : u.destroyed) : u.releases = [] := by
  match k, h with
  | none, ⟨source, attached⟩ => rw [releases, attached]
  | some (_, .idle), ⟨source, attached⟩ => rw [releases, attached]
  | some (_, .asked), ⟨source, attached, live⟩ =>
    rw [live] at gone
    cases gone
  | some (_, .parted), ⟨source, attached, _⟩ => rw [releases, attached]

/-- A source that is asked for a frame is taken before the first time. -/
theorem Stands.ask (h : u.Stands k) (live : ¬ u.destroyed) (custody : Custody calls k)
    (has : u.source = some ref) :
    Custody (calls ++ (u.takes ref ++ [(ref, .dequeueBegun)])) (some (ref, .asked)) := by
  match k, h with
  | none, ⟨source, _⟩ => rw [source] at has; cases has
  | some (r, .idle), ⟨source, attached⟩ =>
    rw [source] at has
    cases has
    rw [takes, attached, if_neg Bool.false_ne_true, ← List.append_assoc]
    exact (custody.call .take).call .ask
  | some (r, .asked), ⟨source, attached, _⟩ =>
    rw [source] at has
    cases has
    rw [takes, if_pos attached]
    exact custody.call .askAgain
  | some (r, .parted), ⟨source, attached, gone⟩ => exact absurd gone live

/-- Once its source is released and dropped, an updater has none. -/
theorem Stands.parted (h : u.Stands k) (w : World) : (u.releaseSource w).object.Stands none := by
  unfold releaseSource
  cases source : u.source with
  | some ref => exact ⟨rfl, rfl⟩
  | none =>
    cases k with
    | none => exact h
    | some e =>
      obtain ⟨r, p⟩ := e
      rw [h.has_source] at source
      cases source

/-- After a detach nothing is in custody. -/
theorem Stands.detach (h : u.Stands k) (w : World) : (u.detach w).2.Stands none := by
  obtain ⟨cache, same⟩ := u.detach_object w
  have parted := h.parted w
  rw [releaseSource_object] at parted
  rw [same]
  exact parted

/-- After an attach the new source is in custody, and idle. -/
theorem Stands.attach (h : u.Stands k) (w : World) (ref : SourceRef) :
    (u.attach w ref).2.Stands (some (ref, .idle)) := by
  obtain ⟨cache, -, same⟩ := u.attach_object w ref
  have parted := h.parted w
  rw [releaseSource_object] at parted
  rw [same]
  exact ⟨rfl, parted.2⟩

/-- A teardown leaves the source in place, released. -/
theorem teardown_source (live : ¬ u.destroyed) (w : World) (mode : TeardownMode) :
    (u.teardown w mode).2.source = u.source ∧ (u.teardown w mode).2.consumerAttached = false
      ∧ (u.teardown w mode).2.destroyed = true := by
  unfold teardown
  rw [if_neg live]
  exact ⟨rfl, rfl, rfl⟩

/-- All calls of an updater go to the source that it has. -/
theorem mem_calls_source {e : SourceRef × SourceCall} (mem : e ∈ u.releases ++ u.drops) :
    u.source = some e.1 := by
  rcases List.mem_append.1 mem with mem | mem
  · unfold releases at mem
    split at mem
    · next ref attached source => rw [source, List.mem_singleton.1 mem]
    · cases mem
  · unfold drops at mem
    split at mem
    · next ref source => rw [source, List.mem_singleton.1 mem]
    · cases mem

/-- Whatever takes a source is a call to that source. -/
theorem mem_takes {e : SourceRef × SourceCall} (mem : e ∈ u.takes ref) : e.1 = ref := by
  unfold takes at mem
  split at mem
  · cases mem
  · rw [List.mem_singleton.1 mem]

end Updater

-- ==================================================== custody in a session

namespace Session

open World

variable {s s' : Session} {id : UpdaterId} {h : Held Updater}
  {calls : List (SourceRef × SourceCall)} {k : Option (SourceRef × Phase)}

/-- How an updater stands that may be there; one that is gone has nothing in its
custody. -/
def StandsAt (o : Option (Held Updater)) (k : Option (SourceRef × Phase)) : Prop :=
  match o with
  | some h => h.value.Stands k
  | none => k = none

/-- Every updater stands as the calls made in its name say, and only sources that have
numbers were called. -/
structure Sourced (s : Session) : Prop where
  custody : ∀ id, ∃ k, Custody (callsBy id s.world.history) k ∧ StandsAt (s.updaters.get? id) k
  given : ∀ e ∈ callsIn s.world.history, e.1.id < s.fresh

/-- What is called in the name of an updater grows by its calls among all. -/
theorem callsBy_append {h' : List Entry} {hist : List Entry}
    (grown : callsIn h' = callsIn hist ++ calls) (id : UpdaterId) :
    callsBy id h' = callsBy id hist ++ calls.filter (·.1.owner = id) := by
  unfold callsBy
  rw [grown, List.filter_append]

/-- Steps without a call leave custody as it is where updaters stand as they did. -/
theorem Sourced.of_quiet (sourced : s.Sourced)
    (quiet : callsIn s'.world.history = callsIn s.world.history) (fresh : s.fresh ≤ s'.fresh)
    (stands : ∀ id k, StandsAt (s.updaters.get? id) k → StandsAt (s'.updaters.get? id) k) :
    s'.Sourced where
  custody id := by
    obtain ⟨k, custody, stand⟩ := sourced.custody id
    unfold callsBy at custody ⊢
    rw [quiet]
    exact ⟨k, custody, stands id k stand⟩
  given e mem := by
    rw [quiet] at mem
    exact Nat.lt_of_lt_of_le (sourced.given e mem) fresh

/-- A step of one updater, with the calls that it makes. -/
theorem Sourced.of_calls (sourced : s.Sourced) (id : UpdaterId)
    (grown : callsIn s'.world.history = callsIn s.world.history ++ calls)
    (own : ∀ e ∈ calls, e.1.owner = id ∧ e.1.id < s'.fresh) (fresh : s.fresh ≤ s'.fresh)
    (others : ∀ j, j ≠ id → s'.updaters.get? j = s.updaters.get? j)
    (law : ∀ k, Custody (callsBy id s.world.history) k → StandsAt (s.updaters.get? id) k →
      ∃ k', Custody (callsBy id s.world.history ++ calls) k'
        ∧ StandsAt (s'.updaters.get? id) k') : s'.Sourced where
  custody j := by
    rw [callsBy_append grown]
    by_cases hj : j = id
    · subst hj
      have all : calls.filter (·.1.owner = j) = calls := by
        refine List.filter_eq_self.2 ?_
        intro e mem
        simpa using (own e mem).1
      rw [all]
      obtain ⟨k, custody, stand⟩ := sourced.custody j
      exact law k custody stand
    · -- another updater has no part in these calls
      have none : calls.filter (·.1.owner = j) = [] := by
        refine List.filter_eq_nil_iff.2 ?_
        intro e mem same
        rw [(own e mem).1] at same
        exact hj (of_decide_eq_true same).symm
      rw [none, List.append_nil, others j hj]
      exact sourced.custody j
  given e mem := by
    rw [grown] at mem
    rcases List.mem_append.1 mem with mem | mem
    · exact Nat.lt_of_lt_of_le (sourced.given e mem) fresh
    · exact (own e mem).2

/-- The source that an updater has is its own, and has a number. -/
theorem Sourced.own (sourced : s.Sourced) (found : s.updaters.get? id = some h) {ref : SourceRef}
    (has : h.value.source = some ref) : ref.owner = id ∧ ref.id < s.fresh := by
  obtain ⟨k, custody, stand⟩ := sourced.custody id
  rw [found] at stand
  obtain ⟨p, rfl⟩ := Updater.Stands.in_custody stand has
  obtain ⟨mem, own⟩ := List.mem_filter.1 custody.installed
  exact ⟨of_decide_eq_true own, sourced.given _ mem⟩

/-- Updaters that deal with their source alike stand alike. -/
theorem standsAt_of_sameSource {u : Updater} {h : Held Updater}
    (same : u.SameSource h.value) (stands : u.Stands k) : StandsAt (some h) k :=
  stands.congr same.source same.consumerAttached same.destroyed

/-- A settled updater stands as before. -/
theorem Settled.stands (settled : Settled s s') (numbered : s.Numbered) (id : UpdaterId)
    (k : Option (SourceRef × Phase)) (stands : StandsAt (s.updaters.get? id) k) :
    StandsAt (s'.updaters.get? id) k := by
  rcases settled.updaters id with same | ⟨rfl, -, h, c, config, found, same⟩
  · generalize s.updaters.get? id = o at same stands
    generalize s'.updaters.get? id = o' at same
    cases same with
    | none => exact stands
    | some same => exact standsAt_of_sameSource same stands
  · rw [numbered.unnamed] at stands
    rw [found]
    cases stands
    exact standsAt_of_sameSource same ⟨rfl, rfl⟩

/-- The world with what one updater holds taken apart. -/
theorem Sound.owned_updater (sound : s.Sound) (found : s.updaters.get? id = some h) :
    ∃ r, s.world.Owned (h.value.owners + r) := by
  have owned := sound.owned
  rw [owners_eq_besides found] at owned
  exact ⟨_, owned⟩

/-- An operation on one updater keeps custody if the calls that it makes do. -/
theorem Sourced.onUpdater {f : Updater → World → World × Updater} (sourced : s.Sourced)
    (law : ∀ h, s.updaters.get? id = some h → ∃ calls,
      callsIn (f h.value s.world).1.history = callsIn s.world.history ++ calls
        ∧ (∀ e ∈ calls, e.1.owner = id ∧ e.1.id < s.fresh)
        ∧ ∀ k, Custody (callsBy id s.world.history) k → h.value.Stands k →
          ∃ k', Custody (callsBy id s.world.history ++ calls) k'
            ∧ (f h.value s.world).2.Stands k') : (s.onUpdater id f).Sourced := by
  cases found : s.updaters.get? id with
  | none =>
    simp only [Session.onUpdater, found]
    exact sourced
  | some h =>
    obtain ⟨calls, grown, own, law⟩ := law h found
    have world : (s.onUpdater id f).world = (f h.value s.world).1 := by
      simp only [Session.onUpdater, found]
    refine sourced.of_calls id (by rw [world, grown]) ?_ ?_ ?_ ?_
    · rw [onUpdater_fresh]
      exact own
    · rw [onUpdater_fresh]
    · intro j hj
      rw [onUpdater_get?, if_neg hj]
    · intro k custody stands
      rw [found] at stands
      rw [onUpdater_get?, if_pos rfl, found]
      exact law k custody stands

/-- An operation on one updater that makes no call keeps custody if the updater stands
as it did. -/
theorem Sourced.onUpdater_quiet {f : Updater → World → World × Updater} (sourced : s.Sourced)
    (law : ∀ h, s.updaters.get? id = some h →
      callsIn (f h.value s.world).1.history = callsIn s.world.history
        ∧ ∀ k, h.value.Stands k → (f h.value s.world).2.Stands k) :
    (s.onUpdater id f).Sourced := by
  refine sourced.onUpdater ?_
  intro h found
  obtain ⟨quiet, stands⟩ := law h found
  refine ⟨[], ?_, ?_, ?_⟩
  · rw [quiet, List.append_nil]
  · intro e mem
    cases mem
  · intro k custody standing
    rw [List.append_nil]
    exact ⟨k, custody, stands k standing⟩

/-- Calls to the source of an updater are made in its name. -/
theorem Sourced.own_calls (sourced : s.Sourced) (found : s.updaters.get? id = some h) :
    ∀ e ∈ h.value.releases ++ h.value.drops, e.1.owner = id ∧ e.1.id < s.fresh :=
  fun _ mem => sourced.own found (Updater.mem_calls_source mem)

/-- Attaching parts with the source before and installs the new one. -/
theorem Sourced.attach (sound : s.Sound) (sourced : s.Sourced) (id : UpdaterId) (name : String) :
    ({ s with fresh := s.fresh + 1 }.onUpdater id fun u w =>
      u.attach w ⟨s.fresh, name, id⟩).Sourced := by
  have counted : { s with fresh := s.fresh + 1 }.Sourced :=
    sourced.of_quiet rfl (Nat.le_succ _) fun _ _ stands => stands
  refine counted.onUpdater fun h found => ?_
  obtain ⟨r, owned⟩ := sound.owned_updater found
  refine ⟨h.value.releases ++ h.value.drops ++ [(⟨s.fresh, name, id⟩, .installed)], ?_, ?_, ?_⟩
  · rw [← List.append_assoc]
    exact Updater.attach_calls owned _
  · intro e mem
    rcases List.mem_append.1 mem with mem | mem
    · obtain ⟨own, lt⟩ := sourced.own_calls found e mem
      exact ⟨own, Nat.lt_succ_of_lt lt⟩
    · cases List.mem_singleton.1 mem
      exact ⟨rfl, Nat.lt_succ_self _⟩
  · intro k custody stands
    refine ⟨some (⟨s.fresh, name, id⟩, .idle), ?_, stands.attach _ _⟩
    rw [← List.append_assoc]
    refine (stands.part custody).install fun call mem => ?_
    -- every source before has a smaller number
    have lt : s.fresh < s.fresh := by
      rcases List.mem_append.1 mem with mem | mem
      · exact sourced.given _ (List.mem_filter.1 mem).1
      · exact (sourced.own_calls found _ mem).2
    exact Nat.lt_irrefl _ lt

theorem Sourced.detach (sound : s.Sound) (sourced : s.Sourced) (id : UpdaterId) :
    (s.onUpdater id fun u w => u.detach w).Sourced := by
  refine sourced.onUpdater ?_
  intro h found
  obtain ⟨r, owned⟩ := sound.owned_updater found
  refine ⟨_, Updater.detach_calls owned, sourced.own_calls found, ?_⟩
  intro k custody stands
  exact ⟨none, stands.part custody, stands.detach _⟩

theorem Sourced.teardown (sound : s.Sound) (sourced : s.Sourced) (id : UpdaterId)
    (mode : TeardownMode) : (s.onUpdater id fun u w => u.teardown w mode).Sourced := by
  refine sourced.onUpdater ?_
  intro h found
  obtain ⟨r, owned⟩ := sound.owned_updater found
  by_cases gone : h.value.destroyed
  · have none : h.value.teardown s.world mode = (s.world, h.value) := by
      rw [Updater.teardown, if_pos gone]
    refine ⟨[], ?_, ?_, ?_⟩
    · rw [none, List.append_nil]
    · intro e mem
      cases mem
    · intro k custody stands
      rw [none, List.append_nil]
      exact ⟨k, custody, stands⟩
  · refine ⟨_, Updater.teardown_calls owned gone mode, ?_, ?_⟩
    · intro e mem
      exact sourced.own_calls found e (List.mem_append_left _ mem)
    · intro k custody stands
      obtain ⟨k', custody', stands'⟩ := stands.release custody
      obtain ⟨source, attached, destroyed⟩ := Updater.teardown_source gone s.world mode
      exact ⟨k', custody', stands' _ source attached destroyed⟩

/-- An apply that asks no source keeps the protocol. -/
theorem Sourced.idle {u : Updater} (sourced : s.Sourced) (found : s.updaterOf? id = some u)
    (idle : (u.beginApply s.world).answer = none) :
    (s.onUpdater id fun u w => ((u.beginApply w).world, (u.beginApply w).object)).Sourced := by
  obtain ⟨h, entered, rfl⟩ := Option.map_eq_some_iff.1 found
  obtain ⟨world, source, attached, destroyed⟩ := Updater.beginApply_idle idle
  refine sourced.onUpdater_quiet ?_
  intro v hv
  rw [entered] at hv
  cases hv
  refine ⟨by rw [world], ?_⟩
  intro k stands
  exact stands.congr source attached destroyed

/-- An apply that asks its source, and takes it before that if it has to. -/
theorem Sourced.ask {u : Updater} {ref : SourceRef} (sourced : s.Sourced)
    (found : s.updaterOf? id = some u) (live : ¬ u.destroyed)
    (asked : (u.beginApply s.world).answer = some ref) :
    ((s.onUpdater id fun u w => ((u.beginApply w).world, (u.beginApply w).object)).record
      (.source ref .dequeueBegun)).Sourced := by
  obtain ⟨h, entered, rfl⟩ := Option.map_eq_some_iff.1 found
  obtain ⟨has, calls, source, attached, destroyed⟩ := Updater.beginApply_asks asked
  obtain ⟨own, lt⟩ := sourced.own entered has
  have once : (s.onUpdater id fun u w => ((u.beginApply w).world, (u.beginApply w).object)).record
      (.source ref .dequeueBegun) = s.onUpdater id fun u w =>
        ((u.beginApply w).world.record (.source ref .dequeueBegun), (u.beginApply w).object) := by
    simp only [Session.onUpdater, entered]
    rfl
  rw [once]
  refine sourced.onUpdater ?_
  intro v hv
  rw [entered] at hv
  cases hv
  refine ⟨h.value.takes ref ++ [(ref, .dequeueBegun)], ?_, ?_, ?_⟩
  · rw [calls_source rfl, calls, List.append_assoc]
  · intro e mem
    have same : e.1 = ref := by
      rcases List.mem_append.1 mem with mem | mem
      · exact Updater.mem_takes mem
      · rw [List.mem_singleton.1 mem]
    rw [same]
    exact ⟨own, lt⟩
  · intro k custody stands
    refine ⟨some (ref, .asked), stands.ask live custody has, source, attached, ?_⟩
    rw [destroyed]
    simpa using live

/-- The last holder of an updater that lets go drops its source. -/
theorem Sourced.letGo (sound : s.Sound) (sourced : s.Sourced) (id : UpdaterId) :
    (s.letGo (.updater id)).Sourced := by
  unfold Session.letGo
  dsimp only
  cases found : s.updaters.get? id with
  | none => exact sourced
  | some h =>
    obtain ⟨r, owned⟩ := sound.owned_updater found
    dsimp only
    split
    · have others : ∀ j, j ≠ id → (s.updaters.erase id).get? j = s.updaters.get? j :=
        fun j hj => Table.get?_erase_ne _ hj
      refine sourced.of_calls id (Updater.discard_calls owned) ?_ (Nat.le_refl _) others ?_
      · intro e mem
        refine sourced.own_calls found e ?_
        rcases List.mem_append.1 mem with mem | mem
        · split at mem
          · cases mem
          · exact List.mem_append_left _ mem
        · exact List.mem_append_right _ mem
      · intro k custody stands
        rw [found] at stands
        -- a destroyed updater has released its source before, and only drops it
        have parted := Updater.Stands.part stands custody
        refine ⟨none, ?_, ?_⟩
        · by_cases gone : h.value.destroyed
          · rw [stands.released gone] at parted
            rwa [if_pos gone]
          · rwa [if_neg gone]
        · show StandsAt ((s.updaters.erase id).get? id) none
          rw [Table.get?_erase_self]
          rfl
    · refine sourced.of_quiet rfl (Nat.le_refl _) ?_
      intro j k stands
      dsimp only
      rw [Table.get?_set]
      split
      · next same =>
        rw [same, found] at stands
        exact stands
      · exact stands

/-- Every step keeps custody. -/
theorem Step.sourced (sound : s.Sound) (sourced : s.Sourced) (step : Step s s') : s'.Sourced := by
  cases step with
  | calm h =>
    have quiet := (h.transfer sound.numbered.unnamed).calls sound.owned
    exact sourced.of_quiet quiet h.settled.fresh (h.settled.stands sound.numbered)
  | makeContext b => exact sourced.of_quiet rfl (Nat.le_succ _) fun _ _ stands => stands
  | idle found live idle => exact sourced.idle found idle
  | ask found live asked => exact sourced.ask found live asked
  | attach id name => exact sourced.attach sound id name
  | detach id => exact sourced.detach sound id
  | teardown id mode => exact sourced.teardown sound id mode
  | letGo id => exact sourced.letGo sound id

/-- Steps keep the protocol. -/
theorem Steps.sourced (sound : s.Sound) (sourced : s.Sourced) (h : Steps s s') : s'.Sourced := by
  induction h with
  | refl => exact sourced
  | tail before step ih => exact step.sourced (Steps.sound sound before) ih

/-- A new session has called no source. -/
theorem sourced_new (minimal : Bool) : ({ minimal } : Session).Sourced where
  custody _ := ⟨none, .nil, rfl⟩
  given e mem := by cases mem

/-- Every session that can be reached keeps the protocol. -/
theorem Reachable.sourced (h : s.Reachable) : s.Sourced := by
  obtain ⟨minimal, b, steps⟩ := h
  exact Steps.sourced (sound_new minimal) (sourced_new minimal)
    ((start_steps minimal b).trans steps)

end Session

end LayerFeed
