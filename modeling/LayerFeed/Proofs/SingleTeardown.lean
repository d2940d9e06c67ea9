/-
That an updater is torn down once. It may be called for in many ways and any number of times: a
caller asks for it in either mode, or says that the context is gone, or a notification says so
(`dismissalsOf`), and an updater that nobody holds any more is torn down as well. The first of
these is answered and no other (`run_torn_down_once`): as long as there is none the updater is
not torn down, and from then on the history has one teardown of it, in the mode that was asked
for first.

Two things carry the proof. What comes first is followed command by command (`Standing`), from
what a command makes of an updater that is not torn down (`exec_verdict`). That nothing comes
second is read off the marks of its layer, also when it goes away (`Deal.onceAtMost`).

What is torn down may still be called, and may get a new source. It has no slots then, and
without slots no call to it leads to a backend (`exec_inert`); only an image that is bound to it
may, because it lets go of the one before.
-/
import LayerFeed.Proofs.Commitment
import LayerFeed.Proofs.Sampling
import LayerFeed.Proofs.Session.Dismissal
import LayerFeed.Proofs.Session.Notice

namespace LayerFeed

open Owners World

variable {i : UpdaterId} {h : List Entry} {w : World}

-- ==================================================== teardowns in a history

/-- The mode of a teardown that a mark tells of. -/
def Mark.mode? : Mark → Option TeardownMode
  | .tornDown mode => some mode
  | .bound _ => none

/-- The teardowns of an updater are among the marks of its layer. -/
theorem length_teardownsIn (i : UpdaterId) (h : List Entry) :
    (teardownsIn i h).length = ((marksOf i h).filterMap Mark.mode?).length := by
  have same : (teardownsIn i h).map Prod.snd = (marksOf i h).filterMap Mark.mode? := by
    unfold teardownsIn marksOf
    rw [List.map_filterMap, List.filterMap_filterMap]
    refine List.filterMap_congr fun e _ => ?_
    cases e with
    | event j sink event =>
      cases event with
      | tornDown mode n released =>
        unfold Entry.teardown? Entry.mark?
        dsimp only
        split <;> rfl
      | _ => rfl
    | bound j forceFilter transform crop t =>
      unfold Entry.teardown? Entry.mark?
      dsimp only
      split <;> rfl
    | _ => rfl
  rw [← same, List.length_map]

/-- An updater was torn down exactly if a teardown of it was told. -/
theorem tornDownIn_iff_teardowns : TornDownIn i h ↔ teardownsIn i h ≠ [] := by
  unfold teardownsIn
  rw [Ne, List.filterMap_eq_nil_iff]
  push Not
  constructor
  · rintro ⟨sink, mode, n, released, mem⟩
    refine ⟨_, mem, ?_⟩
    rw [Entry.teardown?, if_pos rfl]
    exact Option.some_ne_none _
  · rintro ⟨e, mem, torn⟩
    cases e with
    | event j sink event =>
      cases event with
      | tornDown mode n released =>
        by_cases same : j = i
        · exact ⟨sink, mode, n, released, same ▸ mem⟩
        · exact absurd (if_neg same) torn
      | _ => exact absurd rfl torn
    | _ => exact absurd rfl torn

/-- The one teardown of a history that tells of one at most. -/
theorem teardownsIn_eq {k : Sink} {m : TeardownMode} (once : (teardownsIn i h).length ≤ 1)
    (mem : (k, m) ∈ teardownsIn i h) : teardownsIn i h = [(k, m)] := by
  obtain ⟨t, same⟩ := List.length_eq_one_iff.1
    (Nat.le_antisymm once (List.length_pos_of_mem mem))
  rw [same] at mem ⊢
  rw [List.mem_singleton.1 mem]

/-- After it none follows. -/
theorem teardownsIn_still {es : List Entry} (once : (teardownsIn i (h ++ es)).length ≤ 1)
    (torn : teardownsIn i h ≠ []) : teardownsIn i (h ++ es) = teardownsIn i h := by
  rw [teardownsIn_append, List.length_append] at once
  have some := List.length_pos_iff.2 torn
  have none : teardownsIn i es = [] := List.length_eq_zero_iff.1 (by omega)
  rw [teardownsIn_append, none, List.append_nil]

/-- Marks without a teardown have no mode. -/
theorem modes_untorn {marks : List Mark} (untorn : Untorn marks) :
    marks.filterMap Mark.mode? = [] := by
  refine List.filterMap_eq_nil_iff.2 fun mark mem => ?_
  cases mark with
  | tornDown mode => exact absurd mem (untorn mode)
  | bound => rfl

/-- Where a layer fares as the history says there is at most one teardown. -/
theorem Updater.LayerFate.once {u : Updater} {marks : List Mark} (fate : u.LayerFate marks) :
    (marks.filterMap Mark.mode?).length ≤ 1 := by
  by_cases gone : u.destroyed
  · obtain ⟨before, mode, images, split, untorn, -⟩ := fate.tornDown gone
    have bound : (images.map Mark.bound).filterMap Mark.mode? = [] := by
      simp [List.filterMap_map, Function.comp_def, Mark.mode?]
    rw [split, List.filterMap_append, modes_untorn untorn, List.filterMap_cons, bound]
    rfl
  · rw [modes_untorn (fate.living gone)]
    exact Nat.zero_le 1

/-- Whoever goes away is torn down if it was not, and nothing more is told of its layer. -/
theorem Updater.discard_marks (u : Updater) (w : World) :
    marksOf i (u.discard w).history = marksOf i
      (u.teardown w (if w.alive u.context then .normal else .contextLost)).1.history := by
  have calls : ∀ c (call : BackendCall), call.ended?.isSome →
      (Entry.backend c call).mark? i = none := fun _ _ _ => rfl
  unfold discard
  generalize u.teardown w (if w.alive u.context then .normal else .contextLost) = down
  have dropped : Writes (fun e => e.mark? i = none) down.1 (down.2.dropSource down.1) :=
    down.2.dropSource_writes (fun _ => rfl) down.1
  have rest : Writes (fun e => e.mark? i = none) (down.2.dropSource down.1) _ :=
    (letGoOf_writes calls _ down.2.shownImage).trans (down.2.cache.discard_writes calls _)
  obtain ⟨es, grown, silent⟩ := (dropped.trans rest).history
  dsimp only
  rw [grown, marksOf_append, marksOf_eq_nil silent, List.append_nil]

namespace Session

variable {s s' s₀ : Session} {u v : Updater} {command : Command} {commands : List Command}
  {m : TeardownMode} {k : Sink} {ms : List TeardownMode}

/-- The history has at most one teardown of updater `i`, and its layer is what the history says. -/
def OnceAtMost (s : Session) (i : UpdaterId) : Prop :=
  s.LayerFate i ∧ ((marksOf i s.world.history).filterMap Mark.mode?).length ≤ 1

/-- A deal adds a teardown only where there was none. -/
theorem Deal.onceAtMost (order : s.InOrder) (given : i < s.fresh) (deal : Deal i none s s')
    (once : s.OnceAtMost i) : s'.OnceAtMost i := by
  have fate := deal.layerFate order given once.1
  refine ⟨fate, ?_⟩
  cases deal with
  | elsewhere elsewhere =>
    obtain ⟨es, grown, others⟩ := elsewhere.history order.sound
    have silent : marksOf i es = [] := marksOf_eq_nil fun e mem => e.mark?_of_notBy (others e mem)
    rw [grown, marksOf_append, silent, List.append_nil]
    exact once.2
  | opens b => exact once.2
  | comes new => exact absurd new (Nat.ne_of_lt given)
  | @goes _ held entered world fresh besides gone =>
    rw [world, Updater.discard_marks]
    by_cases live : held.value.destroyed
    · rw [Updater.teardown, if_pos live]
      exact once.2
    · have owned := order.sound.owned
      rw [owners_eq_besides entered] at owned
      have marks := held.value.teardown_marks live owned
        (if s.world.alive held.value.context then .normal else .contextLost)
      rw [(order.sound.numbered.updaters i held entered).2] at marks
      have untorn := modes_untorn ((once.1 _ (updaterOf?_of_get? entered)).living live)
      rw [marks, List.filterMap_append, untorn]
      exact Nat.le_refl 1
  | deed entered deed free world fresh besides there => exact (fate _ there).once

/-- No history has two teardowns of one updater. -/
theorem run_once_at_most (minimal : Bool) (b : Backend) (commands : List Command)
    (i : UpdaterId) :
    (teardownsIn i ((start minimal b).run commands).world.history).length ≤ 1 := by
  rw [length_teardownsIn]
  by_cases given : i < ((start minimal b).run commands).fresh
  · refine (run_life (I := fun s => s.OnceAtMost i) (fun s newborn => ⟨newborn.layerFate, ?_⟩)
      (fun _ _ order given deal once => deal.onceAtMost order given once)
      minimal b commands given).2
    rw [marksOf_eq_nil fun e mem => e.mark?_of_notBy (newborn.silent e mem)]
    exact Nat.zero_le 1
  · have silent := run_notBy minimal b commands (Nat.not_lt.1 given)
    rw [marksOf_eq_nil fun e mem => e.mark?_of_notBy (silent e mem)]
    exact Nat.zero_le 1

-- ==================================================== calls for a teardown

/-- The modes in which a command asks for a teardown of updater `i`: the command itself, if it is
addressed to the updater, and whoever is told by it that a context is lost. -/
def dismissalsBy (i : UpdaterId) (s : Session) (command : Command) : List TeardownMode :=
  (if s.recipient? command = some i then command.dismissal?.toList else [])
    ++ (noticesIn i (s.written command)).map fun _ => .contextLost

/-- The modes in which commands ask for a teardown of updater `i`, in order. -/
def dismissalsOf (i : UpdaterId) (s : Session) : List Command → List TeardownMode
  | [] => []
  | command :: commands => dismissalsBy i s command ++ dismissalsOf i (s.exec command).1 commands

/-- The dismissals of a run and one command more. -/
theorem dismissalsOf_snoc (i : UpdaterId) (s : Session) (commands : List Command)
    (command : Command) : dismissalsOf i s (commands ++ [command])
      = dismissalsOf i s commands ++ dismissalsBy i (s.run commands) command := by
  induction commands generalizing s with
  | nil => exact List.append_nil _
  | cons first commands ih =>
    rw [List.cons_append, dismissalsOf, dismissalsOf, ih, List.append_assoc]
    rfl

/-- No command sets the sink of updater `i`. -/
def SinkKept (i : UpdaterId) (s : Session) (commands : List Command) : Prop :=
  ∀ call ∈ callsOf i s commands, ∀ name choice, call ≠ .setSink name choice

/-- A sink that is kept over a run is kept before its last command, and by that command. -/
theorem SinkKept.of_snoc (kept : SinkKept i s (commands ++ [command])) :
    SinkKept i s commands ∧ ((s.run commands).recipient? command = some i →
      ∀ name choice, command ≠ .setSink name choice) := by
  unfold SinkKept at kept ⊢
  rw [callsOf_snoc] at kept
  refine ⟨fun call mem => kept call (List.mem_append_left _ mem), fun addressed => kept command ?_⟩
  rw [if_pos addressed]
  exact List.mem_append_right _ (List.mem_singleton.2 rfl)

/-- A command that is unheard writes no notice. -/
theorem noticesIn_written (unheard : Unheard i s.world (s.exec command).1.world) :
    noticesIn i (s.written command) = [] := by
  obtain ⟨es, grown, none⟩ := unheard
  rw [written_of_grown grown, none]

/-- Who is not addressed, and told of nothing, is not asked for. -/
theorem dismissalsBy_eq_nil (other : s.recipient? command = some i → command.dismissal? = none)
    (unheard : Unheard i s.world (s.exec command).1.world) : dismissalsBy i s command = [] := by
  rw [dismissalsBy, noticesIn_written unheard, List.map_nil, List.append_nil]
  split
  · next addressed => rw [other addressed, Option.toList_none]
  · rfl

/-- What a command makes of updater `i`, which is `u` and not torn down. -/
inductive Verdict (i : UpdaterId) (u : Updater) (s : Session) (command : Command) : Prop
  | spared {v : Updater} (uncalled : dismissalsBy i s command = [])
      (found : (s.exec command).1.updaterOf? i = some v) (live : ¬ v.destroyed)
      (context : v.context = u.context)
      (sink : (s.recipient? command = some i → ∀ name choice, command ≠ .setSink name choice) →
        v.sink = u.sink)
  | called {m : TeardownMode} {ms : List TeardownMode} (calls : dismissalsBy i s command = m :: ms)
      (ends : Ends i u.sink m (fun _ => True) s.world.history (s.exec command).1.world.history)
  | dropped (uncalled : dismissalsBy i s command = [])
      (absent : (s.exec command).1.updaterOf? i = none)
      (dropped : Dropped i u s (s.exec command).1)

/-- What one command does to a living updater. -/
theorem exec_verdict (kept : s.Kept) (found : s.updaterOf? i = some u) (live : ¬ u.destroyed)
    (opened : s.Opened u.context) (command : Command) : Verdict i u s command := by
  have given := given_of_found kept.order found
  by_cases own : s.recipient? command = some i ∧ ¬ command.Stirs
  · -- the updater obeys: nobody is told of anything
    obtain ⟨addressed, calm⟩ := own
    have unheard : Unheard i s.world (s.exec command).1.world := exec_calm_unheard calm
    cases asks : command.dismissal? with
    | none =>
      obtain ⟨v, there⟩ := exec_addressed_there kept addressed calm
      obtain ⟨u', found', obeys⟩ := exec_obeys kept addressed there
      rw [found] at found'
      cases found'
      obtain ⟨live', sink⟩ := obeys.live calm asks live
      exact .spared (dismissalsBy_eq_nil (fun _ => asks) unheard) there live' obeys.context
        fun still => sink (still addressed)
    | some m =>
      have calls : dismissalsBy i s command = [m] := by
        rw [dismissalsBy, if_pos addressed, asks, noticesIn_written unheard]
        rfl
      exact .called calls (exec_dismissal kept addressed asks found live)
  · have unasked : s.recipient? command = some i → command.dismissal? = none := by
      intro addressed
      have stirs : command.Stirs := by_contra fun calm => own ⟨addressed, calm⟩
      cases command with
      | apply | destroy => rfl
      | _ => exact stirs.elim
    have unset : s.recipient? command = some i → ∀ name choice, command ≠ .setSink name choice := by
      rintro addressed name choice rfl
      exact own ⟨addressed, id⟩
    have other : command.Stirs ∨ s.recipient? command ≠ some i := by
      by_cases stirs : command.Stirs
      · exact .inl stirs
      · exact .inr fun addressed => own ⟨addressed, stirs⟩
    have fares := exec_fares kept given other
    cases fares.live u found live opened with
    | spared found' same unheard =>
      exact .spared (dismissalsBy_eq_nil unasked unheard) found' same.live same.context
        fun _ => same.sink
    | @told es grown heard ends =>
      obtain ⟨c, cs, heard⟩ := List.exists_cons_of_ne_nil heard
      have calls : dismissalsBy i s command
          = .contextLost :: cs.map fun _ => TeardownMode.contextLost := by
        rw [dismissalsBy, written_of_grown grown, heard]
        split
        · next addressed =>
          rw [unasked addressed]
          rfl
        · rfl
      exact .called calls ends
    | dropped absent unheard dropped =>
      exact .dropped (dismissalsBy_eq_nil unasked unheard) absent dropped

-- ==================================================== what comes first

/-- How updater `i` stands after commands, which was `u` and not torn down before them. -/
inductive Standing (i : UpdaterId) (u : Updater) (s : Session) (commands : List Command) : Prop
  /-- Nobody asked for its teardown, and it is there and not torn down. -/
  | lives {v : Updater} (uncalled : dismissalsOf i s commands = [])
      (found : (s.run commands).updaterOf? i = some v) (live : ¬ v.destroyed)
      (context : v.context = u.context) (sink : SinkKept i s commands → v.sink = u.sink)
  /-- It was torn down in the mode that was asked for first. -/
  | called {k : Sink} {m : TeardownMode} {ms : List TeardownMode}
      (calls : dismissalsOf i s commands = m :: ms)
      (torn : (k, m) ∈ teardownsIn i (s.run commands).world.history)
      (sink : SinkKept i s commands → k = u.sink)
  /-- Nobody asked for its teardown, and it went away. -/
  | dropped {k : Sink} {m : TeardownMode} {n : Nat} {layer : Bool} {pre post : List Entry}
      (uncalled : dismissalsOf i s commands = [])
      (absent : (s.run commands).updaterOf? i = none)
      (told : (s.run commands).world.history = pre ++ .event i k (.tornDown m n layer) :: post)
      (mode : m = .normal ↔ ¬ LostIn u.context pre) (sink : SinkKept i s commands → k = u.sink)

/-- Where a living updater stands after a run. -/
theorem run_standing (kept : s.Kept) (housed : s.Housed) (found : s.updaterOf? i = some u)
    (live : ¬ u.destroyed) (commands : List Command) : Standing i u s commands := by
  induction commands using List.reverseRecOn with
  | nil => exact .lives rfl found live rfl fun _ => rfl
  | append_singleton commands command ih =>
    have kept' := kept.run commands
    have goes := exec_goes kept' command
    obtain ⟨es, grown⟩ := Steps.history kept'.order.sound goes.moves.steps
    have snoc := dismissalsOf_snoc i s commands command
    have runs := run_snoc s commands command
    cases ih with
    | @lives v uncalled found' live' context sink =>
      have opened := (housed.run kept commands).updaters i v found'
      have sinkKept : SinkKept i s (commands ++ [command]) → v.sink = u.sink := fun still =>
        sink still.of_snoc.1
      rw [uncalled, List.nil_append] at snoc
      cases exec_verdict kept' found' live' opened command with
      | spared none there live'' context' sink' =>
        exact .lives (snoc.trans none) (by rw [runs, there]) live'' (context'.trans context)
          fun still => (sink' still.of_snoc.2).trans (sinkKept still)
      | called calls ends =>
        exact .called (snoc.trans calls) (by rw [runs]; exact ends.mem) sinkKept
      | dropped none absent dropped =>
        obtain ⟨m, es', n, layer, fs, told, mode⟩ := dropped
        rw [context] at mode
        rw [← runs] at told absent
        exact .dropped (snoc.trans none) absent told mode sinkKept
    | @called k m ms calls torn sink =>
      have torn' : (k, m) ∈ teardownsIn i (s.run (commands ++ [command])).world.history := by
        rw [runs, grown, teardownsIn_append]
        exact List.mem_append_left _ torn
      rw [calls, List.cons_append] at snoc
      exact .called snoc torn' fun still => sink still.of_snoc.1
    | @dropped k m n layer pre post uncalled absent told mode sink =>
      have given : i < (s.run commands).fresh := Nat.lt_of_lt_of_le
        (given_of_found kept.order found) (Moves.fresh (run_goes kept commands).moves)
      have other : (s.run commands).recipient? command ≠ some i := by
        intro addressed
        obtain ⟨v, there⟩ := kept'.addressed addressed
        rw [absent] at there
        cases there
      obtain ⟨absent', unheard⟩ := (exec_fares kept' given (.inr other)).absent absent
      have none := dismissalsBy_eq_nil (fun addressed => absurd addressed other) unheard
      have told' : (s.run (commands ++ [command])).world.history
          = pre ++ .event i k (.tornDown m n layer) :: (post ++ es) := by
        rw [runs, grown, told]
        simp only [List.append_assoc, List.cons_append]
      rw [uncalled, none, List.nil_append] at snoc
      exact .dropped snoc (by rw [runs, absent']) told' mode fun still => sink still.of_snoc.1

end Session

-- ==================================================== afterwards

/-- By the entry no backend is called, no source is taken or asked for a frame, and no frame is
taken over. -/
def Entry.Inert : Entry → Prop
  | .backend _ _ | .latched _ _ _ | .source _ .taken | .source _ .dequeueBegun
  | .source _ (.dequeued _) => False
  | _ => True

namespace Updater

variable {u : Updater}

/-- Releasing the source is inert. -/
private theorem releaseSource_inert (u : Updater) (w : World) :
    Writes Entry.Inert w (u.releaseSource w).world :=
  u.releaseSource_writes (fun _ => trivial) (fun _ => trivial) w

/-- Without an active slot there is nothing to sever. -/
theorem severActiveSlot_idle (idle : u.currentSlot = none) (w : World) :
    u.severActiveSlot w = ⟨w, u, none⟩ := by
  unfold severActiveSlot
  rw [idle]

/-- Without slots a source is installed with no call to a backend. -/
theorem attach_inert (empty : u.cache.slots = ∅) (idle : u.currentSlot = none) (w : World)
    (source : SourceRef) : Writes Entry.Inert w (u.attach w source).1 := by
  have released := u.releaseSource_inert w
  have object := u.releaseSource_object (w := w)
  unfold attach
  generalize u.releaseSource w = after at released object
  have severed : after.object.severActiveSlot after.world = ⟨after.world, after.object, none⟩ :=
    severActiveSlot_idle (by rw [object]; exact idle) _
  have cleared : after.object.cache.clearAll after.world .normal
      = ⟨after.world, { after.object.cache with slots := ∅ }, 0⟩ := by
    rw [object, SlotCache.clearAll, empty]
    rfl
  dsimp only
  rw [severed]
  dsimp only
  rw [cleared]
  exact released.andRecord trivial

/-- Without a current slot a source is taken off with no call to a backend. -/
theorem detach_inert (idle : u.currentSlot = none) (w : World) :
    Writes Entry.Inert w (u.detach w).1 := by
  have released := u.releaseSource_inert w
  have object := u.releaseSource_object (w := w)
  unfold detach
  generalize u.releaseSource w = after at released object
  have severed : after.object.severActiveSlot after.world = ⟨after.world, after.object, none⟩ :=
    severActiveSlot_idle (by rw [object]; exact idle) _
  dsimp only
  rw [severed]
  dsimp only
  split
  · exact (released.andRecord (e := .note (.sourceDetached none)) trivial).trans (.trace trivial)
  · exact released

end Updater

namespace Session

variable {s s' s₀ : Session} {u v : Updater} {command : Command} {commands : List Command}

theorem chooseSink_writes {P : Entry → Prop} (s : Session) (updater : String)
    (choice : SinkChoice) : Writes P s.world (s.chooseSink updater choice).1.world := by
  cases choice with
  | recorder name =>
    unfold chooseSink recorder
    dsimp only
    cases s.recorderNames.get? name <;> exact .of_eq rfl rfl
  | unchanged | discard | standardError | history | text => exact .of_eq rfl rfl

theorem onUpdater_writes {P : Entry → Prop} {f : Updater → World → World × Updater}
    (found : s.updaterOf? i = some u) (writes : Writes P s.world (f u s.world).1) :
    Writes P s.world (s.onUpdater i f).world := by
  obtain ⟨held, entered, rfl⟩ := Option.map_eq_some_iff.1 found
  rw [onUpdater_eq entered]
  exact writes

theorem onNamed_writes {P : Entry → Prop} {name : String} {f : Updater → World → World × Updater}
    (named : s.updaterNames.get? name = some i) (found : s.updaterOf? i = some u)
    (writes : Writes P s.world (f u s.world).1) : Writes P s.world (s.onNamed name f).world := by
  unfold onNamed
  rw [named]
  exact onUpdater_writes found writes

/-- The command reaches updater `i`: it is addressed to it, or posts by a notifier of it. -/
def Reaches (i : UpdaterId) (s : Session) (command : Command) : Prop :=
  s.recipient? command = some i
    ∨ ∃ notifier, command = .notify notifier ∧ s.notifiers.get? notifier = some (.updater i)

/-- What a change does with an updater that is torn down comes to nothing, unless it binds an
image. -/
theorem change_inert {change : Change} (found : s.updaterOf? i = some u) (gone : u.destroyed)
    (bare : u.cache.slots = ∅ ∧ u.currentSlot = none)
    (addressed : change.addressed?.bind s.updaterNames.get? = some i)
    (unbound : ∀ name forceFilter transform crop image,
      change ≠ .bind name forceFilter transform crop image) :
    ∃ es, (s.after change).world.history = s.world.history ++ es ∧ ∀ e ∈ es, e.Inert := by
  cases change with
  | sink name choice =>
    have chosen : Writes Entry.Inert s.world (s.chooseSink name choice).1.world :=
      chooseSink_writes s name choice
    have named : (s.chooseSink name choice).1.updaterNames.get? name = some i := by
      rw [chooseSink_names]
      exact addressed
    have found' : (s.chooseSink name choice).1.updaterOf? i = some u :=
      (updaterOf?_congr (by rw [chooseSink_keeps])).trans found
    unfold after setSink
    dsimp only
    split
    · exact (chosen.trans (onNamed_writes named found' (.refl _))).history
    · exact chosen.history
  | setting => exact (onNamed_writes addressed found (.refl _)).history
  | treatment name treatment =>
    refine (onNamed_writes addressed found ?_).history
    cases treatment with
    | post => exact .record trivial
    | detach => exact u.detach_inert bare.2 _
    | teardown mode =>
      rw [Updater.treat, Updater.teardown, if_pos gone]
      exact .refl s.world
  | attach name source queue state =>
    have named : s.updaterNames.get? name = some i := addressed
    -- the source is entered first, which the updater does not notice
    have installed : ∀ (a : Session) (w : World), a.world = w →
        a.updaterOf? i = s.updaterOf? i → Writes Entry.Inert w
          (a.onUpdater i fun u w => u.attach w ⟨s.fresh, source, i⟩).world := by
      rintro a w rfl same
      exact onUpdater_writes (same.trans found) (u.attach_inert bare.1 bare.2 _ _)
    unfold after attach
    dsimp only
    rw [named]
    dsimp only
    refine Writes.history (installed _ _ ?_ ?_)
    · rfl
    · rfl
  | apply name =>
    have named : s.updaterNames.get? name = some i := addressed
    refine ⟨[.note .applyIgnored], ?_, by simp [Entry.Inert]⟩
    simp only [after, named, Session.apply, found, if_pos gone]
    rfl
  | bind => exact absurd rfl (unbound _ _ _ _ _)
  | _ => cases addressed

/-- What reaches an updater that is torn down comes to nothing, unless it binds an image. -/
theorem exec_inert (found : s.updaterOf? i = some u) (gone : u.destroyed)
    (bare : u.cache.slots = ∅ ∧ u.currentSlot = none) (reaches : Reaches i s command)
    (unbound : ∀ name forceFilter transform crop image,
      command ≠ .bind name forceFilter transform crop image) :
    ∃ es, (s.exec command).1.world.history = s.world.history ++ es ∧ ∀ e ∈ es, e.Inert := by
  rw [exec_change]
  rcases reaches with addressed | ⟨notifier, rfl, posts⟩
  · refine change_inert found gone bare (command.addressed?_change ▸ addressed) ?_
    rintro name forceFilter transform crop image same
    cases command with
    | bind => exact unbound _ _ _ _ _ rfl
    | _ => cases same
  · have posted : Writes Entry.Inert s.world (s.onUpdater i fun u w => u.post w).world :=
      onUpdater_writes found (.record trivial)
    simp only [Command.change, after, posts]
    exact posted.history

/-- An updater that is made is not torn down. -/
theorem exec_made (kept : s.Kept) (absent : s.updaterOf? i = none)
    (found : (s.exec command).1.updaterOf? i = some v) : ¬ v.destroyed := by
  by_cases addressed : s.recipient? command = some i
  · obtain ⟨u, there⟩ := kept.addressed addressed
    rw [absent] at there
    cases there
  · rcases exec_drifts addressed with drifts | ⟨-, comes⟩
    · obtain ⟨u, there, -⟩ := drifts v found
      rw [absent] at there
      cases there
    · obtain ⟨c, config, sink, drift⟩ := comes v found
      cases drift with
      | untouched => exact Bool.false_ne_true
      | tornDown can => exact can.elim

/-- The state is destroyed exactly for a destroyed updater. -/
theorem state_eq_destroyed (u : Updater) : u.state = .destroyed ↔ u.destroyed := by
  unfold Updater.state
  split
  · next gone => exact iff_of_true rfl gone
  · next live =>
    refine iff_of_false (fun same => ?_) live
    split at same <;> cases same

/-- After a run an updater is destroyed exactly if the history has a teardown of it, and has no
slots then. -/
theorem run_state (minimal : Bool) (b : Backend) (commands : List Command)
    (found : ((start minimal b).run commands).updaterOf? i = some v) :
    (v.state = .destroyed ↔ teardownsIn i ((start minimal b).run commands).world.history ≠ [])
      ∧ (v.state = .destroyed → v.cache.slots = ∅ ∧ v.currentSlot = none) := by
  rw [state_eq_destroyed]
  exact ⟨(run_destroyed_iff minimal b commands found).trans tornDownIn_iff_teardowns,
    (occurs_run minimal b commands).bare found⟩

-- ==================================================== every run

/-- That updater `i` is torn down once, in the session that commands lead to and in one that
further commands lead to from there. -/
structure TornDownOnce (i : UpdaterId) (s₀ : Session) (before after : List Command) : Prop where
  /-- No second teardown is ever told of. -/
  once : (teardownsIn i ((s₀.run before).run after).world.history).length ≤ 1
  /-- An updater is in the state of the destroyed exactly from its teardown on. -/
  state : ∀ v, ((s₀.run before).run after).updaterOf? i = some v →
    (v.state = .destroyed ↔ teardownsIn i ((s₀.run before).run after).world.history ≠ [])
  /-- An updater that a command makes is not torn down. -/
  made : ∀ command v, (s₀.run before).updaterOf? i = none →
    ((s₀.run before).exec command).1.updaterOf? i = some v → ¬ v.destroyed
  /-- The first call for a teardown is answered in its mode, and no other. -/
  called : ∀ u m ms, (s₀.run before).updaterOf? i = some u → ¬ u.destroyed →
    dismissalsOf i (s₀.run before) after = m :: ms →
    ∃ k, teardownsIn i ((s₀.run before).run after).world.history = [(k, m)]
      ∧ (SinkKept i (s₀.run before) after → k = u.sink)
  /-- As long as there is none the updater is not torn down. -/
  uncalled : ∀ u v, (s₀.run before).updaterOf? i = some u → ¬ u.destroyed →
    dismissalsOf i (s₀.run before) after = [] →
    ((s₀.run before).run after).updaterOf? i = some v →
    ¬ v.destroyed ∧ teardownsIn i ((s₀.run before).run after).world.history = []
  /-- Then it is torn down as it goes away, in normal mode exactly if its context was not lost by
  then. -/
  dropped : ∀ u, (s₀.run before).updaterOf? i = some u → ¬ u.destroyed →
    dismissalsOf i (s₀.run before) after = [] →
    ((s₀.run before).run after).updaterOf? i = none →
    ∃ k m n layer pre post, teardownsIn i ((s₀.run before).run after).world.history = [(k, m)]
      ∧ ((s₀.run before).run after).world.history
        = pre ++ .event i k (.tornDown m n layer) :: post
      ∧ (m = .normal ↔ ¬ LostIn u.context pre) ∧ (SinkKept i (s₀.run before) after → k = u.sink)
  /-- What is torn down stays so, with no slots and no current one. -/
  stays : ∀ u, (s₀.run before).updaterOf? i = some u → u.state = .destroyed →
    teardownsIn i ((s₀.run before).run after).world.history
        = teardownsIn i (s₀.run before).world.history
      ∧ ∀ v, ((s₀.run before).run after).updaterOf? i = some v →
        v.state = .destroyed ∧ v.cache.slots = ∅ ∧ v.currentSlot = none
  /-- A command that reaches it calls no backend, takes and asks no source, and takes no frame
  over, unless it binds an image. -/
  inert : ∀ u command, (s₀.run before).updaterOf? i = some u → u.state = .destroyed →
    Reaches i (s₀.run before) command →
    (∀ name forceFilter transform crop image,
      command ≠ .bind name forceFilter transform crop image) →
    ∀ e ∈ (s₀.run before).written command, e.Inert

/-- In every run an updater is torn down at most once, by the first call for it or else as it goes
away, and is dead to all that reaches it from then on. -/
theorem run_torn_down_once (minimal : Bool) (b : Backend) (before after : List Command)
    (i : UpdaterId) : TornDownOnce i (start minimal b) before after := by
  have kept := kept_run minimal b before
  have housed := run_housed minimal b before
  have first := fun u found => run_state (i := i) (v := u) minimal b before found
  have last := fun u found => run_state (i := i) (v := u) minimal b (before ++ after) found
  have once := run_once_at_most minimal b (before ++ after) i
  rw [show (start minimal b).run (before ++ after) = ((start minimal b).run before).run after from
    List.foldl_append] at last once
  have standing := fun u found live => run_standing (i := i) (u := u) kept housed found live after
  obtain ⟨es, grown⟩ := Steps.history kept.order.sound (run_goes kept after).moves.steps
  refine ⟨once, fun v found => (last v found).1, fun command v absent found =>
    exec_made kept absent found, fun u m ms found live calls => ?_,
    fun u v found live none there => ?_, fun u found live none absent => ?_,
    fun u found gone => ?_, fun u command found gone reaches unbound => ?_⟩
  · cases standing u found live with
    | lives none | dropped none =>
      rw [none] at calls
      cases calls
    | @called k _ _ calls' torn sink =>
      rw [calls'] at calls
      cases calls
      exact ⟨k, teardownsIn_eq once torn, sink⟩
  · cases standing u found live with
    | lives _ found' live' =>
      rw [there] at found'
      cases found'
      refine ⟨live', not_not.1 fun torn => live' ?_⟩
      exact (state_eq_destroyed v).1 ((last v there).1.2 torn)
    | dropped _ absent =>
      rw [absent] at there
      cases there
    | called calls =>
      rw [none] at calls
      cases calls
  · cases standing u found live with
    | lives _ found' =>
      rw [absent] at found'
      cases found'
    | @dropped k m n layer pre post _ _ told mode sink =>
      refine ⟨k, m, n, layer, pre, post, teardownsIn_eq once ?_, told, mode, sink⟩
      refine List.mem_filterMap.2 ⟨.event i k (.tornDown m n layer), ?_, if_pos rfl⟩
      rw [told]
      exact List.mem_append_right _ List.mem_cons_self
    | called calls =>
      rw [none] at calls
      cases calls
  · have torn := (first u found).1.1 gone
    have still := once
    rw [grown] at still
    have same := teardownsIn_still still torn
    rw [← grown] at same
    refine ⟨same, fun v there => ?_⟩
    have gone' := (last v there).1.2 (by rwa [same])
    exact ⟨gone', (last v there).2 gone'⟩
  · obtain ⟨es, grown, inert⟩ := exec_inert found ((state_eq_destroyed u).1 gone)
      ((first u found).2 gone) reaches unbound
    rw [written_of_grown grown]
    exact inert

end Session

end LayerFeed
