/-
Who is told that a context is lost, over a whole run: everyone who was registered with it and
not gone when it was destroyed for the first time, once for each registration, in the order of
registration, and nobody ever after (`Fate`). What the registry looks like meanwhile does not
matter: the roll of registrations and departures decides (`run_notices`).

While a context is being destroyed some are still to be told. The law is therefore kept with
debts (`Telling`): for each context, what the history tells of it and what is owed make up its
fate. A destruction that begins in the midst of another owes what it finds registered, pays
it, and leaves the debts of the others as they were; the induction is on how deep they nest.

Because every registration is paid for, whoever is registered twice is told twice
(`run_times_told`). The roll has one entry for each registration, by a command that registers
(`exec_registrations`) or by an observer as it is told of a loss (`act_registrations`), and
those are all that count (`registeredIn_registrations`).
-/
import LayerFeed.Proofs.Session.Notice
import LayerFeed.Proofs.Session.Registry

namespace LayerFeed

variable {c d : ContextId} {h es : List Entry} {roll : List RollEntry} {p : Participant}
  {ps : List Participant} {ns : List Nat} {k locked : Option UpdaterId}

-- ==================================================== what the history tells

/-- Who is told by an entry that context `c` is lost. -/
def Entry.told? (c : ContextId) : Entry → Option Participant
  | told d p => if d = c then some p else none
  | _ => none

/-- How many are said to be told by an entry that says that context `c` is destroyed. -/
def Entry.announces? (c : ContextId) : Entry → Option Nat
  | note (.contextDestroyed d n) => if d = c then some n else none
  | _ => none

/-- Everyone who was told that a context is lost, in order. -/
def toldIn (c : ContextId) (h : List Entry) : List Participant := h.filterMap (Entry.told? c)

/-- What the destructions of a context announced, one number for each that did anything. -/
def announcedIn (c : ContextId) (h : List Entry) : List Nat := h.filterMap (Entry.announces? c)

/-- Those told in a longer history are those told in both parts. -/
theorem toldIn_append (c : ContextId) (h es : List Entry) :
    toldIn c (h ++ es) = toldIn c h ++ toldIn c es := List.filterMap_append

/-- And so for the numbers announced. -/
theorem announcedIn_append (c : ContextId) (h es : List Entry) :
    announcedIn c (h ++ es) = announcedIn c h ++ announcedIn c es := List.filterMap_append

/-- Those told after one entry more. -/
theorem toldIn_record (c : ContextId) (h : List Entry) (e : Entry) :
    toldIn c (h ++ [e]) = toldIn c h ++ (e.told? c).toList := by
  rw [toldIn_append, toldIn, toldIn, List.filterMap_cons]
  cases e.told? c <;> rfl

/-- The numbers announced after one entry more. -/
theorem announcedIn_record (c : ContextId) (h : List Entry) (e : Entry) :
    announcedIn c (h ++ [e]) = announcedIn c h ++ (e.announces? c).toList := by
  rw [announcedIn_append, announcedIn, announcedIn, List.filterMap_cons]
  cases e.announces? c <;> rfl

/-- Entries that tell nobody of a loss add none. -/
theorem toldIn_untold (untold : ∀ e ∈ es, e.Untold) : toldIn c es = [] := by
  refine List.filterMap_eq_nil_iff.2 fun e mem => ?_
  cases e with
  | told d p => exact (untold _ mem).elim
  | _ => rfl

/-- And entries that announce none add no number. -/
theorem announcedIn_untold (untold : ∀ e ∈ es, e.Untold) : announcedIn c es = [] := by
  refine List.filterMap_eq_nil_iff.2 fun e mem => ?_
  cases e with
  | note d =>
    cases d with
    | contextDestroyed d n => exact (untold _ mem).elim
    | _ => rfl
  | _ => rfl

/-- What is announced was lost. -/
theorem lostIn_of_announced {n : Nat} (mem : n ∈ announcedIn c h) : LostIn c h := by
  obtain ⟨e, mem, announces⟩ := List.mem_filterMap.1 mem
  refine ⟨n, ?_⟩
  cases e with
  | note d =>
    cases d with
    | contextDestroyed d m =>
      rw [Entry.announces?] at announces
      split at announces
      · next same =>
        cases announces
        exact same ▸ mem
      · cases announces
    | _ => cases announces
  | _ => cases announces

-- ==================================================== the fate of a context

/-- Whether a participant can be told while updater `locked`, if any, is being applied. -/
def canHear (locked : Option UpdaterId) (p : Participant) : Bool :=
  locked.map Participant.updater ≠ some p

/-- What becomes of a context by the roll: who is told of its loss, and what its destructions
announce. Nothing, as long as it stands. If it is lost, all who were registered by then and not
gone are told, and counted, but for an updater that was just being applied, which is counted
only. -/
inductive Fate (c : ContextId) (roll : List RollEntry) : List Participant → List Nat → Prop
  | stands (never : ∀ k, .lost c k ∉ roll) : Fate c roll [] []
  | lost {pre post : List RollEntry} {k : Option UpdaterId}
      (split : roll = pre ++ .lost c k :: post) (before : ∀ j, .lost c j ∉ pre)
      (after : ∀ j, .lost c j ∉ post) :
      Fate c roll ((attendees c pre).filter (canHear k)) [(attendees c pre).length]

namespace Fate

/-- No entry but a loss changes the fate of a context. -/
theorem snoc {e : RollEntry} (fate : Fate c roll ps ns) (other : ∀ k, e ≠ .lost c k) :
    Fate c (roll ++ [e]) ps ns := by
  have none : ∀ {rs : List RollEntry}, (∀ k, .lost c k ∉ rs) → ∀ k, .lost c k ∉ rs ++ [e] := by
    intro rs never k mem
    rcases List.mem_append.1 mem with mem | mem
    · exact never k mem
    · exact other k (List.mem_singleton.1 mem).symm
  cases fate with
  | stands never => exact .stands (none never)
  | @lost pre post k split before after =>
    exact .lost (by rw [split, List.append_assoc]; rfl) before (none after)

/-- Nothing is told or owed of a context that stands. -/
theorem of_standing (fate : Fate c roll ps ns) (standing : ∀ k, .lost c k ∉ roll) :
    ps = [] ∧ ns = [] := by
  cases fate with
  | stands never => exact ⟨rfl, rfl⟩
  | @lost pre post k split before after =>
    exact absurd (by rw [split]; exact List.mem_append_right _ List.mem_cons_self) (standing k)

/-- Where somebody is told or owed, the loss was announced. -/
theorem announced (fate : Fate c roll ps ns) (some : ps ≠ []) : ns ≠ [] := by
  cases fate with
  | stands never => exact absurd rfl some
  | lost split before after => exact List.cons_ne_nil _ _

/-- The fate of a lost context is read off at its loss. -/
theorem of_lost {pre post : List RollEntry} (fate : Fate c roll ps ns)
    (split : roll = pre ++ .lost c k :: post) :
    ps = (attendees c pre).filter (canHear k) ∧ ns = [(attendees c pre).length] := by
  cases fate with
  | stands never =>
    exact absurd (by rw [split]; exact List.mem_append_right _ List.mem_cons_self) (never k)
  | @lost pre' post' k' split' before after =>
    rw [split] at split'
    rcases List.append_eq_append_iff.1 split' with ⟨mid, grown, rest⟩ | ⟨mid, grown, rest⟩
    · cases mid with
      | nil =>
        obtain ⟨same, -⟩ := List.cons.inj rest
        cases same
        rw [grown, List.append_nil]
        exact ⟨rfl, rfl⟩
      | cons e mid =>
        obtain ⟨same, -⟩ := List.cons.inj rest
        subst same
        exact absurd (by rw [grown]; exact List.mem_append_right _ List.mem_cons_self) (before k)
    · cases mid with
      | nil =>
        obtain ⟨same, -⟩ := List.cons.inj rest
        cases same
        rw [grown, List.append_nil]
        exact ⟨rfl, rfl⟩
      | cons e mid =>
        obtain ⟨-, rest⟩ := List.cons.inj rest
        exact absurd (by rw [rest]; exact List.mem_append_right _ List.mem_cons_self) (after k)

end Fate

namespace Session

open World

variable {s s' : Session} {owed : ContextId → List Participant}

/-- Affairs by which nobody is told of a loss add to the roll, but no loss. -/
theorem Affair.rolls (affair : Affair Entry.Untold s s') :
    s'.roll = s.roll ∨ ∃ e, s'.roll = s.roll ++ [e] ∧ ∀ c k, e ≠ .lost c k := by
  cases affair with
  | apart apart => exact .inl apart.roll
  | registers c known => exact .inr ⟨_, rfl, by simp⟩
  | letGo p =>
    rcases letGo_cases s p with apart | departs
    · exact .inl apart.roll
    · exact .inr ⟨_, departs.roll, by simp⟩
  | loses locked alive allowed => exact allowed.elim
  | _ => exact .inl rfl

-- ==================================================== debts

/-- For every context, who was told and who is still to be told make up its fate. Nobody is
told before the loss is announced. -/
structure Telling (owed : ContextId → List Participant) (s : Session) : Prop where
  attended : s.Attended
  fate : ∀ c, Fate c s.roll (toldIn c s.world.history ++ owed c) (announcedIn c s.world.history)
  heard : Throughout (fun pre e => ∀ c p, e = .told c p → LostIn c pre) s.world.history

namespace Telling

/-- An affair that tells nobody leaves what is owed. -/
theorem affair (telling : Telling owed s) (affair : Affair Entry.Untold s s') :
    Telling owed s' := by
  obtain ⟨es, grown, untold⟩ := affair.history fun e ordinary => ordinary.aside.1
  refine ⟨telling.attended.affair affair, fun c => ?_, ?_⟩
  · rw [grown, toldIn_append, announcedIn_append, toldIn_untold untold, announcedIn_untold untold,
      List.append_nil, List.append_nil]
    rcases affair.rolls with same | ⟨e, added, other⟩
    · rw [same]
      exact telling.fate c
    · rw [added]
      exact (telling.fate c).snoc (other c)
  · rw [grown]
    refine telling.heard.extend fun e mem pre c p told => ?_
    exact ((told ▸ untold e mem : (Entry.told c p).Untold)).elim

/-- A context that is alive owes nothing. As it is lost it owes all that attend. -/
theorem loses (telling : Telling owed s) (locked : Option UpdaterId) (alive : s.world.alive c) :
    owed c = [] ∧ s.attending c = attendees c s.roll
      ∧ Telling (Function.update owed c ((attendees c s.roll).filter (canHear locked)))
        (s.loses locked c) := by
  have standing := telling.attended.standing alive
  obtain ⟨told, announced⟩ := (telling.fate c).of_standing standing
  obtain ⟨told, owes⟩ := List.append_eq_nil_iff.1 told
  have attending := telling.attended.attending standing
  have history : (s.loses locked c).world.history
      = s.world.history ++ [.note (.contextDestroyed c (s.observerCount c))] := rfl
  refine ⟨owes, attending, telling.attended.loses locked alive, fun d => ?_, ?_⟩
  · rw [history, toldIn_record, announcedIn_record]
    change Fate d _ (_ ++ [] ++ _) (_ ++ Option.toList (if c = d then some _ else none))
    by_cases same : d = c
    · subst same
      rw [told, announced, Function.update_self, if_pos rfl, ← length_attending, attending]
      have split : (s.loses locked d).roll = s.roll ++ .lost d locked :: [] := rfl
      exact .lost split standing fun j mem => List.not_mem_nil mem
    · have others : ∀ j, RollEntry.lost c locked ≠ .lost d j := fun j same' => by
        cases same'
        exact same rfl
      rw [Function.update_of_ne same, if_neg (Ne.symm same), Option.toList_none, List.append_nil,
        List.append_nil]
      exact (telling.fate d).snoc others
  · rw [history]
    refine throughout_append.2 ⟨telling.heard, ?_⟩
    intro d p same
    cases same

/-- The first one who is owed is told. -/
theorem record_told (telling : Telling owed s) (owes : owed c = p :: ps) :
    Telling (Function.update owed c ps) (s.record (.told c p)) := by
  have fate := telling.fate c
  obtain ⟨n, announced⟩ := List.exists_mem_of_ne_nil _
    (fate.announced (by
      rw [owes]
      exact List.append_ne_nil_of_right_ne_nil _ (List.cons_ne_nil _ _)))
  refine ⟨telling.attended.affair (P := fun _ => True) (.apart (.record trivial)), fun d => ?_, ?_⟩
  · have history : (s.record (.told c p)).world.history = s.world.history ++ [.told c p] := rfl
    rw [history, toldIn_record, announcedIn_record]
    change Fate d _ (_ ++ Option.toList (if c = d then some p else none) ++ _) (_ ++ [])
    rw [List.append_nil]
    by_cases same : d = c
    · subst same
      rw [owes] at fate
      rw [if_pos rfl, Function.update_self, List.append_assoc]
      exact fate
    · rw [if_neg (Ne.symm same), Function.update_of_ne same, Option.toList_none, List.append_nil]
      exact telling.fate d
  · refine throughout_append.2 ⟨telling.heard, ?_⟩
    rintro d q same
    cases same
    exact lostIn_of_announced announced

/-- What is kept whatever is owed is kept by those who are told, if it is kept by what they
destroy. -/
theorem notifyAll {destroy : Destroyer} (locked : Option UpdaterId)
    (destroys : ∀ owed s c, Telling owed s → Telling owed (destroy s c).1) (c : ContextId)
    (ps : List Participant) (telling : Telling owed s)
    (owes : owed c = ps.filter (canHear locked)) :
    Telling (Function.update owed c []) (ps.foldl (notify destroy locked c) s) := by
  induction ps generalizing s owed with
  | nil =>
    have same : Function.update owed c [] = owed :=
      (congrArg (Function.update owed c) owes.symm).trans (Function.update_eq_self c owed)
    rw [same]
    exact telling
  | cons p ps ih =>
    rw [List.foldl_cons]
    by_cases free : locked.map Participant.updater ≠ some p
    · have hears : canHear locked p := decide_eq_true free
      rw [List.filter_cons_of_pos hears] at owes
      have told := telling.record_told owes
      have notified : Telling (Function.update owed c (ps.filter (canHear locked)))
          (notify destroy locked c s p) :=
        (notify_doings (D := fun a b => ∀ owed, Telling owed a → Telling owed b)
          (fun s d owed => destroys owed s d) free c s).kept told
          (fun a b affair telling => telling.affair (affair.mono fun _ aside => aside.1))
          (fun a b keeps telling => keeps _ telling)
      have rest := ih notified (Function.update_self _ _ _)
      rwa [Function.update_idem] at rest
    · have deaf : ¬ canHear locked p := fun free' => free (of_decide_eq_true free')
      rw [List.filter_cons_of_neg deaf] at owes
      rw [notify_locked destroy (not_not.1 free)]
      exact ih telling owes

/-- A destruction pays what it owes, and leaves the debts of others as they were. -/
theorem destroyWithin (telling : Telling owed s) (locked : Option UpdaterId) (depth : Nat)
    (c : ContextId) : Telling owed (destroyWithin locked depth s c).1 := by
  induction depth generalizing owed s c with
  | zero => exact telling
  | succ depth ih =>
    by_cases alive : s.world.alive c
    · obtain ⟨nothing, attending, lost⟩ := telling.loses locked alive
      rw [destroyWithin_alive alive, attending]
      have keeps : ∀ {owed a b}, Affairs Entry.Untold a b → Telling owed a → Telling owed b :=
        fun affairs telling => affairs.kept telling fun _ _ affair telling => telling.affair affair
      have held := keeps (Affairs.foldl (fun s p => .apart (.hold s p)) (attendees c s.roll) _) lost
      have told := held.notifyAll locked (fun owed s c telling => ih telling c) c _
        (Function.update_self _ _ _)
      rw [Function.update_idem, ← nothing, Function.update_eq_self] at told
      exact keeps (Affairs.foldl (fun s p => .single (.letGo p)) _ _) told
    · rw [destroyWithin_lost alive]
      exact telling

/-- Doings tell of whole losses. -/
theorem doings (telling : Telling owed s) (doings : Doings Entry.Untold Upheaval s s') :
    Telling owed s' := by
  refine doings.kept telling (fun _ _ affair telling => telling.affair affair)
    fun a b upheaval telling => ?_
  cases upheaval with
  | opens b => exact ⟨telling.attended.opens b, telling.fate, telling.heard⟩
  | destroys locked depth c => exact telling.destroyWithin locked depth c

end Telling

/-- After every run nothing is owed. -/
theorem telling_run (minimal : Bool) (b : Backend) (commands : List Command) :
    Telling (fun _ => []) ((start minimal b).run commands) := by
  have new : Telling (fun _ => []) ({ minimal } : Session) :=
    ⟨.new minimal, fun _ => .stands fun _ => List.not_mem_nil, throughout_nil _⟩
  exact (new.doings (start_doings minimal b)).doings (run_doings _ commands)

-- ==================================================== who is told

/-- What there is to know of those who are told that a context is lost. -/
structure Notices (c : ContextId) (s : Session) : Prop where
  /-- The roll says who was told so far, and what was announced. -/
  fate : Fate c s.roll (toldIn c s.world.history) (announcedIn c s.world.history)
  /-- Nobody is told before the loss. -/
  heard : ∀ pre p post, s.world.history = pre ++ .told c p :: post → LostIn c pre
  /-- As many are counted as are there of a registry that is never pruned. -/
  counted : s.observerCount c = ((enrolled c s.roll).filter (stays s.roll)).length
  /-- Whoever destroys the context first is answered how many were told. -/
  first : s.world.alive c → ∀ locked,
    (s.destroyContext locked c).2 = (attendees c s.roll).length
      ∧ toldIn c (s.destroyContext locked c).1.world.history
        = (attendees c s.roll).filter (canHear locked)

/-- A session that owes nothing has told of every context as its roll says. -/
theorem Telling.notices (telling : Telling (fun _ => []) s) (c : ContextId) : Notices c s where
  fate := by
    have fate := telling.fate c
    rwa [List.append_nil] at fate
  heard pre p post split := telling.heard pre _ post split c p rfl
  counted := telling.attended.observerCount c
  first alive locked := by
    obtain ⟨-, attending, -⟩ := telling.loses locked alive
    have answer : (s.destroyContext locked c).2 = (attendees c s.roll).length := by
      rw [destroyContext_eq, if_pos alive, attending]
    obtain ⟨post, grown⟩ := (destroyContext_affairs alive locked).roll_grows
    have split : (s.destroyContext locked c).1.roll = s.roll ++ .lost c locked :: post :=
      grown.trans (List.append_assoc _ _ _)
    have fate := (telling.destroyWithin locked s.world.contexts.size c).fate c
    rw [List.append_nil] at fate
    exact ⟨answer, (fate.of_lost split).1⟩

/-- A destruction that finds its context alive announces what it answers. -/
theorem destroyContext_announces (alive : s.world.alive c) (locked : Option UpdaterId) :
    ∃ es, (s.destroyContext locked c).1.world.history
      = s.world.history ++ .note (.contextDestroyed c (s.destroyContext locked c).2) :: es := by
  obtain ⟨es, grown, -⟩ := (destroyContext_affairs alive locked).history
    fun _ ordinary => ordinary.aside.2
  have answer : (s.destroyContext locked c).2 = s.observerCount c := by
    rw [destroyContext_eq, if_pos alive, length_attending]
  rw [answer]
  exact ⟨es, grown.trans (List.append_assoc _ _ _)⟩

/-- Once its loss is announced, a context is dead, and to destroy it again does nothing. -/
theorem Occurs.destroyContext_lost (occurs : s.Occurs) (lost : LostIn c s.world.history) :
    ¬ s.world.alive c ∧ ∀ locked, s.destroyContext locked c = (s, 0) := by
  have ledger := occurs.inOrder.sound.ledger
  have dead : ¬ s.world.alive c := by
    rw [(ledger.lost c (ledger.known c lost)).2 lost]
    exact Bool.false_ne_true
  exact ⟨dead, fun locked => destroyWithin_lost dead _⟩

/-- After every run those who were told of a loss are those who were registered before it and
not gone by then. What the first destruction announces it answers. Every other one, also one
that is nested in the first (`destroyContext_nested`, `act_destroy_lost`), answers zero and does
nothing. -/
theorem run_notices (minimal : Bool) (b : Backend) (commands : List Command) (c : ContextId) :
    Notices c ((start minimal b).run commands)
      ∧ (∀ t : Session, t.world.alive c → ∀ locked, ∃ es, (t.destroyContext locked c).1.world.history
          = t.world.history ++ .note (.contextDestroyed c (t.destroyContext locked c).2) :: es)
      ∧ ∀ t : Session, t.Occurs → LostIn c t.world.history →
          ¬ t.world.alive c ∧ ∀ locked, t.destroyContext locked c = (t, 0) :=
  ⟨(telling_run minimal b commands).notices c, fun _ => destroyContext_announces,
    fun _ => Occurs.destroyContext_lost⟩

-- ==================================================== how often

/-- How often a participant is told of the loss of a context that was lost after `pre`, while
`k`, if any, was being applied. -/
structure TimesTold (c : ContextId) (pre : List RollEntry) (k : Option UpdaterId)
    (told : List Participant) (announced : List Nat) : Prop where
  /-- Everyone who can be told is told as often as he was registered. -/
  often : ∀ p, told.count p
    = if stays pre p ∧ canHear k p then (registeredIn c pre).count p else 0
  /-- Once each, exactly if none of them was registered twice. -/
  once : told.Nodup ↔ ∀ p, stays pre p → canHear k p → (registeredIn c pre).count p ≤ 1
  /-- The number announced is that of those told, whoever they are, exactly if nobody who stays
  was registered twice, and all of them can be told. -/
  distinct : announced = [told.toFinset.card] ↔
    (attendees c pre).Nodup ∧ ∀ p ∈ attendees c pre, canHear k p

/-- How often each participant is told, by its own count on the roll. -/
theorem timesTold (c : ContextId) (pre : List RollEntry) (k : Option UpdaterId) :
    TimesTold c pre k ((attendees c pre).filter (canHear k)) [(attendees c pre).length] := by
  have often : ∀ p, ((attendees c pre).filter (canHear k)).count p
      = if stays pre p ∧ canHear k p then (registeredIn c pre).count p else 0 := by
    intro p
    rw [attendees, List.filter_filter]
    by_cases told : stays pre p ∧ canHear k p
    · rw [if_pos told]
      exact List.count_filter (Bool.and_eq_true_iff.2 told.symm)
    · rw [if_neg told, List.count_eq_zero]
      exact fun mem => told (Bool.and_eq_true_iff.1 (List.mem_filter.1 mem).2).symm
  refine ⟨often, ?_, ?_⟩
  · rw [List.nodup_iff_count_le_one]
    refine forall_congr' fun p => ?_
    rw [often]
    split
    · next told => exact ⟨fun le _ _ => le, fun le => le told.1 told.2⟩
    · next untold =>
      exact iff_of_true (Nat.zero_le 1) fun there hears => absurd ⟨there, hears⟩ untold
  · have fewer : ((attendees c pre).filter (canHear k)).length ≤ (attendees c pre).length :=
      List.length_filter_le _ _
    have set := List.toFinset_card_le ((attendees c pre).filter (canHear k))
    rw [List.singleton_inj]
    constructor
    · intro same
      have all : (attendees c pre).filter (canHear k) = attendees c pre :=
        List.filter_eq_self.2 (List.length_filter_eq_length_iff.1 (by omega))
      rw [all] at same
      refine ⟨Multiset.toFinset_card_eq_card_iff_nodup.1 same.symm, List.filter_eq_self.1 all⟩
    · rintro ⟨nodup, hear⟩
      rw [List.filter_eq_self.2 hear, List.toFinset_card_of_nodup nodup]

/-- After every run a participant was told of the loss of a context as often as he was
registered with it before: more than once, if he was registered more than once. -/
theorem run_times_told (minimal : Bool) (b : Backend) (commands : List Command) (c : ContextId)
    {pre post : List RollEntry} {k : Option UpdaterId}
    (lost : ((start minimal b).run commands).roll = pre ++ .lost c k :: post) :
    let s := (start minimal b).run commands
    TimesTold c pre k (toldIn c s.world.history) (announcedIn c s.world.history) := by
  have fate := (telling_run minimal b commands).fate c
  rw [List.append_nil] at fate
  obtain ⟨told, announced⟩ := fate.of_lost lost
  dsimp only
  rw [told, announced]
  exact timesTold c pre k

/-- An observer is registered as it is made, and once more; then the context is destroyed. -/
def twiceRegistered : List Command :=
  [.newObserver "o" "s" [] true, .register "o" "s", .destroy "s"]

/-- The roll of the run that registers one observer twice. -/
theorem twiceRegistered_roll : ((start false {}).run twiceRegistered).roll
    = [.registered 0 (.observer 1), .registered 0 (.observer 1)] ++ .lost 0 none :: [] := by decide

/-- And its observer is told twice. -/
theorem twiceRegistered_told :
    let s := (start false {}).run twiceRegistered
    TimesTold 0 [.registered 0 (.observer 1), .registered 0 (.observer 1)] none
        (toldIn 0 s.world.history) (announcedIn 0 s.world.history)
      ∧ toldIn 0 s.world.history = [.observer 1, .observer 1]
      ∧ announcedIn 0 s.world.history = [2] :=
  ⟨run_times_told false {} twiceRegistered 0 twiceRegistered_roll, by decide, by decide⟩

end Session

end LayerFeed
