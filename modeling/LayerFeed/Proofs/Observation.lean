/-
Tracing is only observation. A session is silenced by the retelling that sends every event nowhere
(`silence`): no updater has a sink, there are no recorders and texts, and the history tells neither
where events went nor which recorders were emptied. A command that is about tracing alone is not
seen in the silenced session (`exec_tracing`), and any other command does there, with the same
answer, what it did, silenced (`exec_untraced`).

So a run, silenced, is the run of the silenced session without all that the commands say of tracing
(`run_silent`), and what two runs have in common that say the same of everything else is all but
their traces (`tracing_only_observes`).
-/
import LayerFeed.Proofs.Retelling.Recording

namespace LayerFeed

/-- An entry without what it says of tracing. -/
def Entry.silent? : Entry → Option Entry
  | .event u _ e => some (.event u .none e)
  | .cleared _ => none
  | e => some e

/-- The retelling in which events go nowhere and recorders and texts are not there. -/
def silence : Retelling where
  sink _ := .none
  history es := es.filterMap Entry.silent?
  traces _ := default
  recorderNames _ := ∅
  freshRecorder _ := 0
  sink_none := rfl
  history_untraced es e untraced := by
    have kept : e.silent? = some e := by cases e <;> first | rfl | exact untraced.elim
    rw [List.filterMap_append, List.filterMap_cons_some kept, List.filterMap_nil]
  history_event es u k e := by
    rw [List.filterMap_append]
    rfl
  traces_untraced _ _ _ := rfl
  traces_event _ _ _ _ := rfl

namespace Session

variable (s : Session)

/-- The session without sinks, recorders and texts. -/
def silent : Session := s.retold silence

-- ==================================================== commands about tracing

/-- A recorder is not seen in silence. -/
theorem recorder_silent (name : String) : (s.recorder name).1.silent = s.silent := by
  unfold recorder
  cases s.recorderNames.get? name <;> rfl

/-- Nor is the choice of a sink. -/
theorem chooseSink_silent (updater : String) (sink : SinkChoice) :
    (s.chooseSink updater sink).1.silent = s.silent := by
  cases sink with
  | recorder name => exact s.recorder_silent name
  | unchanged | discard | standardError | history | text => rfl

/-- The sink of an updater is not seen. -/
theorem setSink_silent (name : String) (k : Sink) :
    (s.onNamedAlone name (·.setSink k)).silent = s.silent := by
  unfold onNamedAlone onNamed
  cases s.updaterNames.get? name with
  | none => rfl
  | some id =>
    dsimp only
    unfold onUpdater
    cases found : s.updaters.get? id with
    | none => rfl
    | some h =>
      have held : (s.updaters.map (·.retold silence)).get? id = some (h.retold silence) := by
        rw [Table.get?_map, found, Option.map_some]
      have same : (s.updaters.set id { h with value := h.value.setSink k }).map (·.retold silence)
          = s.updaters.map (·.retold silence) :=
        (Table.map_set _ _ _ _).trans (Table.set_of_get? held)
      exact congrArg (fun updaters => { s.silent with updaters }) same

theorem clearRecorder_silent (id : RecorderId) :
    (s.onWorld (·.clearRecorder id)).silent = s.silent := by
  have untold : (s.world.history ++ [Entry.cleared id]).filterMap Entry.silent?
      = s.world.history.filterMap Entry.silent? := by
    rw [List.filterMap_append, List.filterMap_cons_none rfl, List.filterMap_nil, List.append_nil]
  exact congrArg (fun history => { s.silent with world.history := history }) untold

/-- A command that is about tracing alone is not seen. -/
theorem exec_tracing {c : Command} (tracing : c.untraced = none) :
    (s.exec c).1.silent = s.silent := by
  cases c with
  | setSink updater sink =>
    simp only [exec]
    split
    · exact (setSink_silent _ updater _).trans (s.chooseSink_silent updater sink)
    · exact s.chooseSink_silent updater sink
  | newRecorder name =>
    exact recorder_silent { s with recorderNames := s.recorderNames.erase name } name
  | cloneRecorder name copy =>
    simp only [exec]
    cases s.recorderNames.get? name <;> rfl
  | clearRecorder name =>
    simp only [exec]
    cases s.recorderNames.get? name with
    | none => rfl
    | some id => exact s.clearRecorder_silent id
  | records | exportRecords | text => rfl
  | _ => cases tracing

-- ==================================================== other commands

/-- The sink that a new updater chooses is not seen. -/
theorem newUpdater_silent (name : String) (config : Config) (home : Home) (sink : SinkChoice) :
    s.silent.newUpdater name config home .unchanged
      = retoldReply silence (s.newUpdater name config home sink) := by
  have homes : s.silent.homeContext? home = s.homeContext? home := by cases home <;> rfl
  rw [newUpdater_eq, newUpdater_eq, homes]
  cases s.homeContext? home with
  | none => rfl
  | some c =>
    let chosen := ({ s with fresh := s.fresh + 1 } : Session).chooseSink name sink
    have unseen : chosen.1.silent = { s.silent with fresh := s.fresh + 1 } :=
      chooseSink_silent { s with fresh := s.fresh + 1 } name sink
    have entered := enter_retold silence chosen.1 name s.fresh c home
      ((Updater.new s.fresh c config).setSink (chosen.2.getD .none))
    rw [show chosen.1.retold silence = _ from unseen] at entered
    exact congrArg (·, Reply.config config.pipeline config.filterOnSizeMismatch) entered

/-- What else a command does and answers is the same in the silenced session. -/
theorem exec_untraced {c plain : Command} (untraced : c.untraced = some plain) :
    s.silent.exec plain = retoldReply silence (s.exec c) := by
  cases c with
  | newUpdater name config home sink =>
    cases untraced
    exact s.newUpdater_silent name config home sink
  | setSink | newRecorder | cloneRecorder | records | clearRecorder | exportRecords | text =>
    cases untraced
  | _ =>
    cases untraced
    exact exec_retold silence s rfl

-- ==================================================== two runs

/-- The replies of commands, each with the session after it. -/
def answers (s : Session) : List Command → List (Reply × Session)
  | [] => []
  | c :: cs => ((s.exec c).2, (s.exec c).1) :: (s.exec c).1.answers cs

/-- The replies of commands that are not about tracing alone, each with the session after it,
silenced. -/
def account (s : Session) : List Command → List (Reply × Session)
  | [] => []
  | c :: cs =>
    if c.untraced.isSome then ((s.exec c).2, (s.exec c).1.silent) :: (s.exec c).1.account cs
    else (s.exec c).1.account cs

/-- A run in silence is the run of its untraced commands. -/
theorem run_silent (cs : List Command) :
    (s.run cs).silent = s.silent.run (cs.filterMap Command.untraced) := by
  induction cs generalizing s with
  | nil => rfl
  | cons c cs ih =>
    refine (ih (s.exec c).1).trans ?_
    cases untraced : c.untraced with
    | none => rw [s.exec_tracing untraced, List.filterMap_cons_none untraced]
    | some plain =>
      rw [List.filterMap_cons_some untraced]
      exact congrArg (·.1.run (cs.filterMap Command.untraced)) (s.exec_untraced untraced).symm

/-- And the account of a run is the answers of those. -/
theorem account_eq (cs : List Command) :
    s.account cs = s.silent.answers (cs.filterMap Command.untraced) := by
  induction cs generalizing s with
  | nil => rfl
  | cons c cs ih =>
    rw [account, ih]
    cases untraced : c.untraced with
    | none =>
      rw [s.exec_tracing untraced, List.filterMap_cons_none untraced]
      rfl
    | some plain =>
      rw [List.filterMap_cons_some untraced, answers, s.exec_untraced untraced]
      rfl

/-- Tracing is only observation. Runs whose commands say the same of all but tracing have the same
replies to these commands, and the same sessions after each of them and in the end, but for sinks,
recorders and texts. And a recorder, however many updaters share it, holds the events that went to
it since it was last emptied, in order. -/
theorem tracing_only_observes (minimal : Bool) (b : Backend) (cs : List Command) :
    (∀ ds, cs.filterMap Command.untraced = ds.filterMap Command.untraced →
      (start minimal b).account cs = (start minimal b).account ds
        ∧ ((start minimal b).run cs).silent = ((start minimal b).run ds).silent)
    ∧ ∀ name, ((start minimal b).run cs).recorder? name
      = (((start minimal b).run cs).recorderNames.get? name).map
          (recorded · ((start minimal b).run cs).world.history) := by
  refine ⟨fun ds same => ⟨?_, ?_⟩, ((recording_start minimal b).run cs).recorder?⟩
  · rw [account_eq, account_eq, same]
  · rw [run_silent, run_silent, same]

/-- Two updaters, each of which shows a frame before the context is lost. -/
def untracedPair : List Command :=
  let frame (id : UInt64) := Frame.ofBuffer ⟨0⟩ ⟨⟨id⟩, ⟨64, 32, 1⟩, none⟩ .srgb
  [.newUpdater "u" {} (.registered "s") .unchanged,
    .newUpdater "v" {} (.registered "s") .unchanged,
    .attach "u" "q" { frames := [frame 1] } none, .apply "u",
    .attach "v" "p" { frames := [frame 2] } none, .apply "v", .detach "u", .destroy "s"]

/-- The same, with a recorder that is emptied once and comes to be shared, and with a text that
fails after three bytes. -/
def tracedPair : List Command :=
  let frame (id : UInt64) := Frame.ofBuffer ⟨0⟩ ⟨⟨id⟩, ⟨64, 32, 1⟩, none⟩ .srgb
  [.newUpdater "u" {} (.registered "s") (.recorder "r"),
    .newUpdater "v" {} (.registered "s") (.text "t" (some 3)),
    .attach "u" "q" { frames := [frame 1] } none, .apply "u", .clearRecorder "r",
    .attach "v" "p" { frames := [frame 2] } none, .apply "v",
    .setSink "v" (.recorder "r"), .detach "u", .destroy "s"]

/-- What the recorder holds came from both updaters, the text broke off, and nothing else tells the
runs apart. -/
theorem tracedPair_observed :
    let s := start false {}
    let traced := s.run tracedPair
    ((traced.recorder? "r").map List.length = some 4
        ∧ (traced.world.traces.texts.get? "t").map (·.text) = some "[la")
      ∧ s.account tracedPair = s.account untracedPair
      ∧ traced.silent = (s.run untracedPair).silent
      ∧ traced.recorder? "r"
        = (traced.recorderNames.get? "r").map (recorded · traced.world.history) := by
  have observed := tracing_only_observes false {} tracedPair
  have runs := observed.1 untracedPair rfl
  exact ⟨⟨by decide, by decide⟩, runs.1, runs.2, observed.2 "r"⟩

end Session

end LayerFeed
