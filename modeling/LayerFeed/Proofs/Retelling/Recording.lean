/-
What recorders hold. The history names the sink of every event and tells when a recorder was
emptied, so what a recorder should hold can be read off it: the events that went to it since it
was last emptied (`recorded`).

That it holds just this is kept by every command (`Recording.exec`). For commands that are not
about tracing it need not be checked operation by operation. A session is the retelling of itself
with an empty history: put the old history back in front, hand what recorders held the new entries,
and let through only sinks whose recorders there are. Whatever a command does goes through that
retelling, so it left the old history in front, recorders hold what the new entries tell, and only
sinks that were there before are in use (`Told`).
-/
import LayerFeed.Proofs.Retelling.Run

namespace LayerFeed

variable {id n : RecorderId} {e : Entry} {es : List Entry}

-- ==================================================== what a recorder should hold

/-- The event that an entry tells went to a recorder. -/
def Entry.sentTo? (id : RecorderId) : Entry → Option Event
  | .event _ (.recorder r) e => if r = id then some e else none
  | _ => none

/-- The entries after the one that tells that a recorder was last emptied. -/
def sinceCleared (id : RecorderId) (history : List Entry) : List Entry :=
  (history.reverse.takeWhile fun e => decide (e ≠ .cleared id)).reverse

/-- The events that went to a recorder since it was last emptied, in order. -/
def recorded (id : RecorderId) (history : List Entry) : List Event :=
  (sinceCleared id history).filterMap (Entry.sentTo? id)

/-- A recorder is empty after it was cleared. -/
theorem recorded_cleared : recorded id (es ++ [.cleared id]) = [] := by
  simp [recorded, sinceCleared]

/-- And after any other entry has what it had, and what was sent to it. -/
theorem recorded_snoc (other : e ≠ .cleared id) :
    recorded id (es ++ [e]) = recorded id es ++ (e.sentTo? id).toList := by
  have since : sinceCleared id (es ++ [e]) = sinceCleared id es ++ [e] := by
    simp [sinceCleared, other]
  rw [recorded, since, List.filterMap_append]
  cases sent : e.sentTo? id <;> simp [recorded, sent]

/-- Hands on what an entry tells of an event or of a recorder that was emptied. -/
def Traces.tell (t : Traces) : Entry → Traces
  | .event _ k e => t.emit k e
  | .cleared r => t.clearRecorder r
  | _ => t

namespace Traces

variable {t : Traces}

/-- A change of one recorder opens none. -/
theorem contains_modify (f : List Event → List Event) (r : RecorderId) :
    (t.recorders.modify r f).contains id = t.recorders.contains id := by
  rw [Table.contains, Table.get?_modify, Table.contains]
  split
  · next same => rw [same, Option.isSome_map]
  · rfl

/-- No recorder comes or goes. -/
theorem contains_tell (t : Traces) (e : Entry) (id : RecorderId) :
    (t.tell e).recorders.contains id = t.recorders.contains id := by
  cases e with
  | event u k e =>
    cases k with
    | recorder r => exact contains_modify _ r
    | none | discard | standardError | history | text => rfl
  | cleared r => exact contains_modify _ r
  | _ => rfl

/-- A recorder that is there holds the events that went to it since it was last emptied. -/
theorem records_tell (there : t.recorders.contains id = true)
    (holds : t.records id = recorded id es) (e : Entry) :
    (t.tell e).records id = recorded id (es ++ [e]) := by
  obtain ⟨events, found⟩ := Option.isSome_iff_exists.1 there
  have held : t.records id = events := by rw [records, found, Option.getD_some]
  -- What is not about the recorder leaves it as it is, and adds nothing to what it should hold.
  have aside (same : (t.tell e).recorders.get? id = t.recorders.get? id)
      (other : e ≠ .cleared id) (unsent : e.sentTo? id = none) :
      (t.tell e).records id = recorded id (es ++ [e]) := by
    rw [recorded_snoc other, unsent, records, same, ← holds, records]
    exact (List.append_nil _).symm
  cases e with
  | event u k e =>
    cases k with
    | recorder r =>
      by_cases same : r = id
      · subst same
        have told : (t.tell (.event u (.recorder r) e)).recorders.get? r
            = some (events ++ [e]) := by
          rw [tell, emit, Table.get?_modify, if_pos rfl, found, Option.map_some]
        rw [records, told, recorded_snoc (by rintro ⟨⟩), ← holds, held]
        simp [Entry.sentTo?]
      · refine aside ?_ (by rintro ⟨⟩) (if_neg same)
        rw [tell, emit, Table.get?_modify, if_neg fun h => same h.symm]
    | none | discard | standardError | history | text => exact aside rfl (by rintro ⟨⟩) rfl
  | cleared r =>
    by_cases same : r = id
    · subst same
      have told : (t.tell (.cleared r)).recorders.get? r = some [] := by
        rw [tell, clearRecorder, Table.get?_modify, if_pos rfl, found, Option.map_some]
      rw [records, told, recorded_cleared, Option.getD_some]
    · refine aside ?_ (fun h => same (Entry.cleared.inj h)) rfl
      rw [tell, clearRecorder, Table.get?_modify, if_neg fun h => same h.symm]
  | _ => exact aside rfl (by rintro ⟨⟩) rfl

/-- Telling opens none. -/
theorem contains_tellAll (new : List Entry) (id : RecorderId) :
    (new.foldl tell t).recorders.contains id = t.recorders.contains id := by
  induction new generalizing t with
  | nil => rfl
  | cons e new ih => rw [List.foldl_cons, ih, contains_tell]

/-- A recorder that is there holds what is sent to it, entry by entry. -/
theorem records_tellAll (there : t.recorders.contains id = true)
    (holds : t.records id = recorded id es) (new : List Entry) :
    (new.foldl tell t).records id = recorded id (es ++ new) := by
  induction new generalizing t es with
  | nil => rw [List.append_nil]; exact holds
  | cons e new ih =>
    have next := ih (by rw [contains_tell]; exact there) (records_tell there holds e)
    rwa [List.append_assoc] at next

end Traces

-- ==================================================== sinks that are there

/-- A sink, if its recorder is one of the first `n`. -/
def Sink.upTo (n : RecorderId) : Sink → Sink
  | .recorder id => if id < n then .recorder id else .none
  | k => k

/-- An entry, told of with a sink that is there. -/
def Entry.upTo (n : RecorderId) : Entry → Entry
  | .event u k e => .event u (k.upTo n) e
  | e => e

theorem Sink.upTo_upTo (n : RecorderId) (k : Sink) : (k.upTo n).upTo n = k.upTo n := by
  cases k with
  | recorder id =>
    by_cases there : id < n <;> simp [Sink.upTo, there]
  | none | discard | standardError | history | text => rfl

/-- A sink below one number is below every greater one. -/
theorem Sink.upTo_mono {m : RecorderId} {k : Sink} (there : k.upTo n = k) (le : n ≤ m) :
    k.upTo m = k := by
  cases k with
  | recorder id =>
    simp only [Sink.upTo] at there ⊢
    split at there
    · next lt => rw [if_pos (Nat.lt_of_lt_of_le lt le)]
    · cases there
  | none | discard | standardError | history | text => rfl

theorem Entry.upTo_upTo (n : RecorderId) (e : Entry) : (e.upTo n).upTo n = e.upTo n := by
  cases e with
  | event u k e => exact congrArg (Entry.event u · e) (k.upTo_upTo n)
  | _ => rfl

/-- And so is an entry. -/
theorem Entry.upTo_mono {m : RecorderId} (there : e.upTo n = e) (le : n ≤ m) : e.upTo m = e := by
  cases e with
  | event u k e =>
    exact congrArg (Entry.event u · e) (Sink.upTo_mono (Entry.event.inj there).2.1 le)
  | _ => rfl

/-- No event went to a recorder that is not there yet. -/
theorem recorded_unopened (there : ∀ e ∈ es, e.upTo n = e) : recorded n es = [] := by
  have unsent : ∀ e ∈ es, e.sentTo? n = none := by
    intro e mem
    have there := there e mem
    cases e with
    | event u k e =>
      cases k with
      | recorder r =>
        refine if_neg fun same => ?_
        subst same
        simp [Entry.upTo, Sink.upTo] at there
      | none | discard | standardError | history | text => rfl
    | _ => rfl
  refine List.filterMap_eq_nil_iff.2 fun e mem => unsent e ?_
  have inside := (List.takeWhile_sublist _).mem (List.mem_reverse.1 mem)
  exact List.mem_reverse.1 inside

namespace Session

-- ==================================================== a session as its own retelling

/-- The retelling that puts `earlier` in front of the history, hands on to `traces` what the
history tells, and lets through the sinks that are there. -/
def replaying (earlier : List Entry) (traces : Traces) (names : Table String RecorderId)
    (n : RecorderId) : Retelling where
  sink := Sink.upTo n
  history es := earlier ++ es.map (Entry.upTo n)
  traces es := (es.map (Entry.upTo n)).foldl Traces.tell traces
  recorderNames _ := names
  freshRecorder _ := n
  sink_none := rfl
  history_untraced es e untraced := by
    have same : e.upTo n = e := by cases e <;> first | rfl | exact untraced.elim
    rw [List.map_append, List.map_singleton, same, List.append_assoc]
  history_event es u k e := by
    rw [List.map_append, List.append_assoc]
    rfl
  traces_untraced es e untraced := by
    have same : ∀ t : Traces, t.tell (e.upTo n) = t := by
      cases e <;> first | exact untraced.elim | exact fun _ => rfl
    rw [List.map_append, List.foldl_append]
    exact same _
  traces_event es u k e := by
    rw [List.map_append, List.foldl_append]
    rfl

variable {s s' : Session}

/-- What recorders hold is what the history tells, and only recorders that are there are named
or sent to. -/
structure Recording (s : Session) : Prop where
  named : ∀ name id, s.recorderNames.get? name = some id → id < s.freshRecorder
  opened : ∀ id, s.world.traces.recorders.contains id = true ↔ id < s.freshRecorder
  sinks : ∀ id h, s.updaters.get? id = some h → h.value.sink.upTo s.freshRecorder = h.value.sink
  sent : ∀ e ∈ s.world.history, e.upTo s.freshRecorder = e
  records : ∀ id, id < s.freshRecorder → s.world.traces.records id = recorded id s.world.history

/-- The history goes on with entries that are handed on, while the recorders stay the same. -/
structure Told (s s' : Session) : Prop where
  names : s'.recorderNames = s.recorderNames
  fresh : s'.freshRecorder = s.freshRecorder
  sinks : ∀ id h, s'.updaters.get? id = some h → h.value.sink.upTo s.freshRecorder = h.value.sink
  told : ∃ new, (∀ e ∈ new, e.upTo s.freshRecorder = e)
    ∧ s'.world.history = s.world.history ++ new
    ∧ s'.world.traces = new.foldl Traces.tell s.world.traces

/-- A session goes on recording as it tells more. -/
theorem Recording.told (recording : s.Recording) (told : s.Told s') : s'.Recording := by
  obtain ⟨names, fresh, sinks, new, there, history, traces⟩ := told
  constructor
  · rw [names, fresh]
    exact recording.named
  · intro id
    rw [traces, fresh, Traces.contains_tellAll]
    exact recording.opened id
  · rw [fresh]
    exact sinks
  · rw [fresh, history]
    exact List.forall_mem_append.2 ⟨recording.sent, there⟩
  · rw [fresh, traces, history]
    exact fun id lt =>
      Traces.records_tellAll ((recording.opened id).2 lt) (recording.records id lt) new

/-- The retelling of a session that gives back the session. -/
def itself (s : Session) : Retelling :=
  replaying s.world.history s.world.traces s.recorderNames s.freshRecorder

/-- A session at the start of its history. -/
def afresh (s : Session) : Session := { s with world.history := [] }

/-- A session told over again from nothing is itself. -/
theorem Recording.afresh_retold (recording : s.Recording) : s.afresh.retold s.itself = s := by
  have fixed : s.updaters.map (·.retold s.itself) = s.updaters :=
    Table.map_of_fixed fun id h found => by
      have sink : s.itself.sink h.value.sink = h.value.sink := recording.sinks id h found
      rw [Held.retold, Updater.retold, sink]
  have world : s.afresh.world.retold s.itself = s.world := by
    have history : s.itself.history [] = s.world.history := List.append_nil _
    have traces : s.itself.traces [] = s.world.traces := rfl
    rw [World.retold, afresh, history, traces]
  rw [retold, world]
  exact congrArg (fun updaters => { s with updaters }) fixed

/-- Whatever is done to the session as its own retelling is told. -/
theorem told_retold (s t : Session) : s.Told (t.retold s.itself) where
  names := rfl
  fresh := rfl
  sinks id h found := by
    rw [held_retold] at found
    obtain ⟨h, -, rfl⟩ := Option.map_eq_some_iff.1 found
    exact h.value.sink.upTo_upTo s.freshRecorder
  told := by
    refine ⟨t.world.history.map (Entry.upTo s.freshRecorder), ?_, rfl, rfl⟩
    intro e mem
    obtain ⟨e, -, rfl⟩ := List.mem_map.1 mem
    exact e.upTo_upTo s.freshRecorder

-- ==================================================== choosing a sink

namespace Recording

variable (recording : s.Recording)
include recording

/-- The number of the next object besides recorders does not matter. -/
theorem numbered (fresh : Nat) : ({ s with fresh } : Session).Recording :=
  ⟨recording.named, recording.opened, recording.sinks, recording.sent, recording.records⟩

/-- Recorders that are there may have other names. -/
theorem renamed {names : Table String RecorderId}
    (there : ∀ name id, names.get? name = some id → id < s.freshRecorder) :
    ({ s with recorderNames := names } : Session).Recording :=
  ⟨there, recording.opened, recording.sinks, recording.sent, recording.records⟩

theorem forgotten (name : String) :
    ({ s with recorderNames := s.recorderNames.erase name } : Session).Recording :=
  recording.renamed fun other id found => by
    rw [Table.get?_erase] at found
    split at found
    · cases found
    · exact recording.named other id found

theorem called {r : RecorderId} (there : r < s.freshRecorder) (name : String) :
    ({ s with recorderNames := s.recorderNames.set name r } : Session).Recording :=
  recording.renamed fun other id found => by
    rw [Table.get?_set] at found
    split at found
    · cases found
      exact there
    · exact recording.named other id found

/-- A new recorder is empty, and no event went to it. -/
theorem opening : ({ s with
    freshRecorder := s.freshRecorder + 1
    world.traces := s.world.traces.openRecorder s.freshRecorder } : Session).Recording where
  named name id found := Nat.lt_succ_of_lt (recording.named name id found)
  opened id := by
    have before := recording.opened id
    rw [Table.contains] at before
    change ((s.world.traces.recorders.set s.freshRecorder []).get? id).isSome = true ↔ _
    rw [Table.get?_set]
    split
    · next same => simp [same]
    · next other =>
      exact before.trans ⟨Nat.lt_succ_of_lt, fun lt =>
        Nat.lt_of_le_of_ne (Nat.le_of_lt_succ lt) other⟩
  sinks id h found := Sink.upTo_mono (recording.sinks id h found) (Nat.le_succ _)
  sent e mem := Entry.upTo_mono (recording.sent e mem) (Nat.le_succ _)
  records id lt := by
    change ((s.world.traces.recorders.set s.freshRecorder []).get? id).getD [] = _
    rw [Table.get?_set]
    split
    · next same =>
      rw [same]
      exact (recorded_unopened recording.sent).symm
    · next other =>
      exact recording.records id (Nat.lt_of_le_of_ne (Nat.le_of_lt_succ lt) other)

/-- The recorder of a name is there, be it old or new. -/
theorem recorder (name : String) :
    (s.recorder name).1.Recording ∧ (s.recorder name).2 < (s.recorder name).1.freshRecorder := by
  unfold Session.recorder
  cases found : s.recorderNames.get? name with
  | some id => exact ⟨recording, recording.named name id found⟩
  | none => exact ⟨recording.opening.called (Nat.lt_succ_self _) name, Nat.lt_succ_self _⟩

theorem newRecorder (name : String) : (s.newRecorder name).Recording :=
  ((recording.forgotten name).recorder name).1

/-- A sink that is chosen is there. -/
theorem chooseSink (updater : String) (sink : SinkChoice) :
    (s.chooseSink updater sink).1.Recording
      ∧ ∀ k, (s.chooseSink updater sink).2 = some k →
        k.upTo (s.chooseSink updater sink).1.freshRecorder = k := by
  cases sink with
  | unchanged => exact ⟨recording, nofun⟩
  | discard | standardError | history =>
    refine ⟨recording, fun k chosen => ?_⟩
    cases chosen
    rfl
  | recorder name =>
    refine ⟨(recording.recorder name).1, fun k chosen => ?_⟩
    cases chosen
    exact if_pos (recording.recorder name).2
  | text name limit =>
    have recorders : (s.world.traces.openText name limit).recorders = s.world.traces.recorders := by
      unfold Traces.openText
      split <;> rfl
    refine ⟨⟨recording.named, fun id => ?_, recording.sinks, recording.sent, fun id lt => ?_⟩,
      fun k chosen => ?_⟩
    · exact (congrArg (fun t => Table.contains t id = true) recorders) ▸ recording.opened id
    · exact (congrArg (fun t => (Table.get? t id).getD []) recorders).trans
        (recording.records id lt)
    · cases chosen
      rfl

/-- An updater may be given a sink that is there. -/
theorem setSink {k : Sink} (there : k.upTo s.freshRecorder = k) (name : String) :
    (s.onNamedAlone name (·.setSink k)).Recording := by
  unfold onNamedAlone onNamed
  cases s.updaterNames.get? name with
  | none => exact recording
  | some id =>
    dsimp only
    unfold onUpdater
    cases s.updaters.get? id with
    | none => exact recording
    | some h =>
      refine ⟨recording.named, recording.opened, fun other held found => ?_, recording.sent,
        recording.records⟩
      change (s.updaters.set id { h with value := h.value.setSink k }).get? other = _ at found
      rw [Table.get?_set] at found
      split at found
      · cases found
        exact there
      · exact recording.sinks other held found

/-- A new updater may be given a sink that is there. -/
theorem enter {u : Updater} (there : u.sink.upTo s.freshRecorder = u.sink) (name : String)
    (id : UpdaterId) (c : ContextId) (home : Home) : (s.enter name id c home u).Recording := by
  have same := enter_retold s.itself s.afresh name id c home u
  have kept : u.retold s.itself = u := congrArg (fun sink => { u with sink }) there
  rw [recording.afresh_retold, kept] at same
  rw [same]
  exact recording.told (told_retold s _)

theorem newUpdater (name : String) (config : Config) (home : Home) (sink : SinkChoice) :
    (s.newUpdater name config home sink).1.Recording := by
  rw [newUpdater_eq]
  cases s.homeContext? home with
  | none => exact recording
  | some c =>
    obtain ⟨chosen, there⟩ := (recording.numbered (s.fresh + 1)).chooseSink name sink
    refine chosen.enter ?_ name s.fresh c home
    cases found : (({ s with fresh := s.fresh + 1 } : Session).chooseSink name sink).2 with
    | none => rfl
    | some k => exact there k found

/-- The history tells of a recorder that is emptied. -/
theorem clearRecorder (id : RecorderId) : (s.onWorld (·.clearRecorder id)).Recording :=
  recording.told ⟨rfl, rfl, recording.sinks, [.cleared id], by simp [Entry.upTo], rfl, rfl⟩

-- ==================================================== commands

/-- Every command keeps that recorders hold what the history tells. -/
theorem exec (c : Command) : (s.exec c).1.Recording := by
  -- What is not about tracing goes through the session as its own retelling.
  have plain (untraced : c.untraced = some c) : (s.exec c).1.Recording := by
    have same := exec_retold s.itself s.afresh untraced
    rw [recording.afresh_retold] at same
    rw [same]
    exact recording.told (told_retold s _)
  cases c with
  | newUpdater name config home sink => exact recording.newUpdater name config home sink
  | setSink updater sink =>
    obtain ⟨chosen, there⟩ := recording.chooseSink updater sink
    simp only [Session.exec]
    split
    · next k found => exact chosen.setSink (there k found) updater
    · exact chosen
  | newRecorder name => exact recording.newRecorder name
  | cloneRecorder name copy =>
    simp only [Session.exec]
    cases found : s.recorderNames.get? name with
    | none => exact recording
    | some id => exact recording.called (recording.named name id found) copy
  | clearRecorder name =>
    simp only [Session.exec]
    cases s.recorderNames.get? name with
    | none => exact recording
    | some id => exact recording.clearRecorder id
  | records | exportRecords | text => exact recording
  | _ => exact plain rfl

end Recording

/-- A session that has just started records. -/
theorem recording_start (minimal : Bool) (b : Backend) : (start minimal b).Recording where
  named _ _ := nofun
  opened _ := ⟨nofun, nofun⟩
  sinks _ _ := nofun
  sent _ := nofun
  records _ := nofun

/-- Along every run, recorders hold what the history tells. -/
theorem Recording.run (recording : s.Recording) (cs : List Command) : (s.run cs).Recording := by
  induction cs generalizing s with
  | nil => exact recording
  | cons c cs ih => exact ih (recording.exec c)

/-- A recorder that has a name holds what the history tells. -/
theorem Recording.recorder? (recording : s.Recording) (name : String) :
    s.recorder? name = (s.recorderNames.get? name).map (recorded · s.world.history) := by
  unfold Session.recorder?
  cases found : s.recorderNames.get? name with
  | none => rfl
  | some id => exact congrArg some (recording.records id (recording.named name id found))

end Session

end LayerFeed
