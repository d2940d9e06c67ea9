/-
What a session does with those who take part in it. A participant comes, is given a name
and loses it, is registered with a render state, and is gone once its last holder lets go;
a context is lost. Everything else stands `Apart`: registrations, names and the living are
what they were, and so is the life of every context.

Destructions are made of such affairs (`destroyWithin_affairs`), however deep they are nested,
and so is every command, but for contexts that are opened and destroyed by it
(`exec_doings`, in the module on commands). How much may be written is known of each affair.
Only where a context is destroyed is anybody told of it (`Untold`), and only an apply takes a
source or asks it for a frame (`Unasked`).
-/
import LayerFeed.Proofs.World.Writes
import LayerFeed.Proofs.Session.Run
import Mathlib.Data.List.Perm.Subperm

namespace LayerFeed

-- ==================================================== entries

/-- By the entry nobody is told that a context is lost, and none is lost. -/
def Entry.Untold : Entry → Prop
  | .told _ _ | .note (.contextDestroyed _ _) => False
  | _ => True

/-- By the entry no source is taken, or asked for a frame. -/
def Entry.Unasked : Entry → Prop
  | .source _ .taken | .source _ .dequeueBegun => False
  | _ => True

/-- Nobody is told and no source is asked by the entry. -/
def Entry.Aside (e : Entry) : Prop := e.Untold ∧ e.Unasked

/-- An ordinary entry stands aside. -/
theorem Entry.Ordinary.aside {e : Entry} (ordinary : e.Ordinary) : e.Aside := by
  cases e with
  | note d => cases d <;> first | exact ordinary.elim | exact ⟨trivial, trivial⟩
  | source ref call => cases call <;> first | exact ordinary.elim | exact ⟨trivial, trivial⟩
  | backend | event | latched | bound => exact ⟨trivial, trivial⟩
  | posted | told | notified | acted | destroyed | cleared => exact ordinary.elim

/-- The number of a participant. -/
def Participant.number : Participant → Nat
  | updater id | observer id => id

namespace Session

open World

variable {s s' s'' : Session} {P Q : Entry → Prop}

-- ==================================================== apart

/-- All of a session that has to do with those who take part in it. -/
def company (s : Session) : Table ContextId (List Participant) × List RollEntry
    × Table UpdaterId (Held Updater) × Table String UpdaterId
    × Table ObserverId (Held Observer) × Table String ObserverId :=
  (s.registries, s.roll, s.updaters, s.updaterNames, s.observers, s.observerNames)

/-- Nobody comes, goes, is named or registered; of what is written all is allowed. -/
structure Apart (P : Entry → Prop) (s s' : Session) : Prop where
  registries : s'.registries = s.registries
  roll : s'.roll = s.roll
  updaterNames : s'.updaterNames = s.updaterNames
  observerNames : s'.observerNames = s.observerNames
  live : ∀ p, s'.isLive p = s.isLive p
  fresh : s.fresh ≤ s'.fresh
  alive : ∀ c, s'.world.alive c = s.world.alive c
  history : ∃ es, s'.world.history = s.world.history ++ es ∧ ∀ e ∈ es, P e

namespace Apart

/-- A change within the world, with the same company around it. -/
theorem of_company (same : s'.company = s.company) (fresh : s.fresh ≤ s'.fresh)
    (writes : Writes P s.world s'.world) : Apart P s s' := by
  simp only [company, Prod.mk.injEq] at same
  obtain ⟨registries, roll, updaters, updaterNames, observers, observerNames⟩ := same
  refine ⟨registries, roll, updaterNames, observerNames, fun p => ?_, fresh, writes.alive,
    writes.history⟩
  cases p with
  | updater id => exact congrArg (·.contains id) updaters
  | observer id => exact congrArg (·.contains id) observers

theorem refl (s : Session) : Apart P s s := of_company rfl (Nat.le_refl _) (.refl _)

theorem world (writes : Writes P s.world w) : Apart P s { s with world := w } :=
  of_company rfl (Nat.le_refl _) writes

/-- Writing an allowed entry. -/
theorem record {e : Entry} (allowed : P e) : Apart P s (s.record e) := world (.record allowed)

/-- A new setting of a backend leaves no entry. -/
theorem adjustBackend (c : ContextId) (settings : List BackendSetting) :
    Apart P s (s.onWorld (·.adjustBackend c settings)) where
  registries := rfl
  roll := rfl
  updaterNames := rfl
  observerNames := rfl
  live _ := rfl
  fresh := Nat.le_refl _
  alive d := by
    show (World.adjustBackend _ _ _).alive d = _
    unfold World.alive
    rw [adjustBackend_contexts]
    split
    · next same =>
      rw [same, Option.map_map]
      rfl
    · rfl
  history := ⟨[], (List.append_nil _).symm, by simp⟩

/-- Taking a share of a participant touches neither roll nor registry. -/
theorem hold (s : Session) (p : Participant) : Apart P s (s.hold p) where
  registries := by cases p <;> rfl
  roll := by cases p <;> rfl
  updaterNames := by cases p <;> rfl
  observerNames := by cases p <;> rfl
  live := isLive_hold s p
  fresh := by cases p <;> exact Nat.le_refl _
  alive c := by cases p <;> rfl
  history := ⟨[], by cases p <;> exact (List.append_nil _).symm, by simp⟩

/-- A function on an updater is apart where its writes are allowed. -/
theorem onUpdater {id : UpdaterId} {f : Updater → World → World × Updater}
    (writes : ∀ u w, Writes P w (f u w).1) : Apart P s (s.onUpdater id f) := by
  unfold Session.onUpdater
  cases entered : s.updaters.get? id with
  | none => exact refl s
  | some h =>
    have written := writes h.value s.world
    refine ⟨rfl, rfl, rfl, rfl, fun p => ?_, Nat.le_refl _, written.alive, written.history⟩
    cases p with
    | observer j => rfl
    | updater j =>
      show ((s.updaters.set id _).get? j).isSome = (s.updaters.get? j).isSome
      rw [Table.get?_set]
      split
      · next same => rw [same, entered]; rfl
      · rfl

/-- An observer that is there is what it was, or another one in its place. -/
theorem observer {id : ObserverId} {h h' : Held Observer} (entered : s.observers.get? id = some h) :
    Apart P s { s with observers := s.observers.set id h' } := by
  refine ⟨rfl, rfl, rfl, rfl, fun p => ?_, Nat.le_refl _, fun _ => rfl,
    ⟨[], (List.append_nil _).symm, by simp⟩⟩
  cases p with
  | updater j => rfl
  | observer j =>
    show ((s.observers.set id _).get? j).isSome = (s.observers.get? j).isSome
    rw [Table.get?_set]
    split
    · next same => rw [same, entered]; rfl
    · rfl

/-- Only what stands beside changes. -/
theorem beside (company : s'.company = s.company) (fresh : s.fresh ≤ s'.fresh)
    (world : s'.world = s.world) : Apart P s s' :=
  of_company company fresh (by rw [world]; exact .refl _)

/-- One after the other. -/
theorem trans {s'' : Session} (first : Apart P s s') (second : Apart P s' s'') : Apart P s s'' where
  registries := second.registries.trans first.registries
  roll := second.roll.trans first.roll
  updaterNames := second.updaterNames.trans first.updaterNames
  observerNames := second.observerNames.trans first.observerNames
  live p := (second.live p).trans (first.live p)
  fresh := Nat.le_trans first.fresh second.fresh
  alive c := (second.alive c).trans (first.alive c)
  history := by
    obtain ⟨es, grown, allowed⟩ := first.history
    obtain ⟨fs, grown', allowed'⟩ := second.history
    refine ⟨es ++ fs, by rw [grown', grown, List.append_assoc], fun e mem => ?_⟩
    exact (List.mem_append.1 mem).elim (allowed e) (allowed' e)

/-- What allows more holds of more. -/
theorem mono (h : ∀ e, P e → Q e) (apart : Apart P s s') : Apart Q s s' := by
  obtain ⟨es, grown, allowed⟩ := apart.history
  exact { apart with history := ⟨es, grown, fun e mem => h e (allowed e mem)⟩ }

end Apart

-- ==================================================== affairs

/-- A participant that some name leads to. -/
def Named (s : Session) : Participant → Prop
  | .updater id => ∃ name, s.updaterNames.get? name = some id
  | .observer id => ∃ name, s.observerNames.get? name = some id

/-- One thing that a session does with those who take part in it. Of what an affair writes
into the history all is allowed by `P`, but for the ordinary entries of an updater that goes. -/
inductive Affair (P : Entry → Prop) : Session → Session → Prop
  | apart {s s' : Session} (h : Apart P s s') : Affair P s s'
  | updater {s : Session} (u : Updater) : Affair P s { s with
      fresh := s.fresh + 1, updaters := s.updaters.set s.fresh { value := u } }
  | observer {s : Session} (o : Observer) : Affair P s { s with
      fresh := s.fresh + 1, observers := s.observers.set s.fresh { value := o } }
  | namesUpdater {s : Session} {id : UpdaterId} (name : String) (live : s.isLive (.updater id)) :
      Affair P s { s with updaterNames := s.updaterNames.set name id }
  | namesObserver {s : Session} {id : ObserverId} (name : String)
      (live : s.isLive (.observer id)) :
      Affair P s { s with observerNames := s.observerNames.set name id }
  | unnamesUpdater {s : Session} (name : String) :
      Affair P s { s with updaterNames := s.updaterNames.erase name }
  | unnamesObserver {s : Session} (name : String) :
      Affair P s { s with observerNames := s.observerNames.erase name }
  | registers {s : Session} {p : Participant} (c : ContextId) (known : s.isLive p ∨ s.Named p) :
      Affair P s (s.register c p)
  | letGo {s : Session} (p : Participant) : Affair P s (s.letGo p)
  | loses {s : Session} {c : ContextId} (locked : Option UpdaterId) (alive : s.world.alive c)
      (allowed : P (.note (.contextDestroyed c (s.observerCount c)))) :
      Affair P s (s.loses locked c)

/-- A sequence of affairs. -/
abbrev Affairs (P : Entry → Prop) : Session → Session → Prop :=
  Relation.ReflTransGen (Affair P)

theorem Affair.mono (h : ∀ e, P e → Q e) (affair : Affair P s s') : Affair Q s s' := by
  cases affair with
  | apart apart => exact .apart (apart.mono h)
  | updater u => exact .updater u
  | observer o => exact .observer o
  | namesUpdater name live => exact .namesUpdater name live
  | namesObserver name live => exact .namesObserver name live
  | unnamesUpdater name => exact .unnamesUpdater name
  | unnamesObserver name => exact .unnamesObserver name
  | registers c known => exact .registers c known
  | letGo p => exact .letGo p
  | loses locked alive allowed => exact .loses locked alive (h _ allowed)

namespace Affairs

theorem apart (h : Apart P s s') : Affairs P s s' := .single (.apart h)

theorem record {e : Entry} (allowed : P e) : Affairs P s (s.record e) := apart (.record allowed)

/-- A list of affairs, one by one. -/
theorem foldl {α : Type} {f : Session → α → Session} (h : ∀ s a, Affairs P s (f s a))
    (as : List α) (s : Session) : Affairs P s (as.foldl f s) := by
  induction as generalizing s with
  | nil => exact .refl
  | cons a as ih => exact (h s a).trans (ih _)

end Affairs

/-- What is kept by each affair is kept by all of them. -/
theorem Affairs.kept {I : Session → Prop} (affairs : Affairs P s s') (start : I s)
    (step : ∀ a b, Affair P a b → I a → I b) : I s' := by
  induction affairs with
  | refl => exact start
  | tail _ affair ih => exact step _ _ affair ih

/-- Letting go writes ordinary entries. -/
theorem letGo_history (s : Session) (p : Participant) :
    Writes Entry.Ordinary s.world (s.letGo p).world := by
  cases p with
  | updater id =>
    unfold Session.letGo
    dsimp only
    cases s.updaters.get? id with
    | none => exact .refl _
    | some h =>
      dsimp only
      split
      · exact h.value.discard_writes s.world
      · exact .refl _
  | observer id =>
    unfold Session.letGo
    dsimp only
    cases s.observers.get? id with
    | none => exact .refl _
    | some h =>
      dsimp only
      split <;> exact .refl _

/-- An affair writes what it may at the end of the history. -/
theorem Affair.history (plain : ∀ e, e.Ordinary → P e) (affair : Affair P s s') :
    ∃ es, s'.world.history = s.world.history ++ es ∧ ∀ e ∈ es, P e := by
  cases affair with
  | apart apart => exact apart.history
  | letGo p => exact ((letGo_history s p).mono plain).history
  | loses locked alive allowed => exact ⟨[_], rfl, by simpa using allowed⟩
  | _ => exact ⟨[], (List.append_nil _).symm, by simp⟩

/-- The entries that affairs write are allowed, since those of a departure are ordinary. -/
theorem Affairs.history (plain : ∀ e, e.Ordinary → P e) (affairs : Affairs P s s') :
    ∃ es, s'.world.history = s.world.history ++ es ∧ ∀ e ∈ es, P e :=
  affairs.kept (I := fun t => ∃ es, t.world.history = s.world.history ++ es ∧ ∀ e ∈ es, P e)
    ⟨[], (List.append_nil _).symm, by simp⟩ fun a b affair ⟨es, grown, allowed⟩ => by
      obtain ⟨fs, grown', allowed'⟩ := affair.history plain
      refine ⟨es ++ fs, by rw [grown', grown, List.append_assoc], fun e mem => ?_⟩
      exact (List.mem_append.1 mem).elim (allowed e) (allowed' e)

-- ==================================================== names

/-- Dropping a named updater is a departure at most. -/
theorem dropUpdater_affairs (s : Session) (name : String) : Affairs P s (s.dropUpdater name) := by
  unfold dropUpdater
  cases s.updaterNames.get? name with
  | none => exact .refl
  | some id => exact .tail (.single (.unnamesUpdater name)) (.letGo (.updater id))

/-- Dropping a named observer is a departure at most. -/
theorem dropObserver_affairs (s : Session) (name : String) :
    Affairs P s (s.dropObserver name) := by
  unfold dropObserver
  cases s.observerNames.get? name with
  | none => exact .refl
  | some id => exact .tail (.single (.unnamesObserver name)) (.letGo (.observer id))

/-- Naming a living updater again is a departure at most. -/
theorem nameUpdater_affairs {id : UpdaterId} (name : String) (live : s.isLive (.updater id)) :
    Affairs P s (s.nameUpdater name id) := by
  unfold nameUpdater
  cases s.updaterNames.get? name with
  | none => exact .single (.namesUpdater name live)
  | some old => exact .tail (.single (.namesUpdater name live)) (.letGo (.updater old))

/-- And so is naming a living observer again. -/
theorem nameObserver_affairs {id : ObserverId} (name : String) (live : s.isLive (.observer id)) :
    Affairs P s (s.nameObserver name id) := by
  unfold nameObserver
  cases s.observerNames.get? name with
  | none => exact .single (.namesObserver name live)
  | some old => exact .tail (.single (.namesObserver name live)) (.letGo (.observer old))

-- ==================================================== destruction

/-- An affair, or whatever `D` admits beside affairs. -/
inductive Doing (P : Entry → Prop) (D : Session → Session → Prop) : Session → Session → Prop
  | affair {s s' : Session} (h : Affair P s s') : Doing P D s s'
  | beyond {s s' : Session} (h : D s s') : Doing P D s s'

/-- A sequence of affairs, with anything between them that `D` admits. -/
abbrev Doings (P : Entry → Prop) (D : Session → Session → Prop) : Session → Session → Prop :=
  Relation.ReflTransGen (Doing P D)

namespace Doings

variable {D E : Session → Session → Prop}

/-- Affairs are doings that never go beyond them. -/
theorem of_affairs (affairs : Affairs P s s') : Doings P D s s' :=
  Relation.ReflTransGen.mono (fun _ _ => .affair) _ _ affairs

theorem apart (h : Apart P s s') : Doings P D s s' := .single (.affair (.apart h))

theorem beyond (h : D s s') : Doings P D s s' := .single (.beyond h)

theorem mono (allowed : ∀ e, P e → Q e) (admitted : ∀ a b, D a b → E a b)
    (doings : Doings P D s s') : Doings Q E s s' :=
  Relation.ReflTransGen.mono (fun _ _ doing => by
    cases doing with
    | affair h => exact .affair (h.mono allowed)
    | beyond h => exact .beyond (admitted _ _ h)) _ _ doings

/-- What is kept by each affair, and by all that is admitted, is kept. -/
theorem kept {I : Session → Prop} (doings : Doings P D s s') (start : I s)
    (affair : ∀ a b, Affair P a b → I a → I b) (beyond : ∀ a b, D a b → I a → I b) : I s' := by
  induction doings with
  | refl => exact start
  | tail _ doing ih =>
    cases doing with
    | affair h => exact affair _ _ h ih
    | beyond h => exact beyond _ _ h ih

/-- Where nothing is admitted but affairs, there are only affairs. -/
theorem affairs (allowed : ∀ e, P e → Q e) (doings : Doings P (Affairs Q) s s') :
    Affairs Q s s' := by
  induction doings with
  | refl => exact .refl
  | tail _ doing ih =>
    cases doing with
    | affair h => exact ih.tail (h.mono allowed)
    | beyond h => exact ih.trans h

theorem foldl {α : Type} {f : Session → α → Session} (h : ∀ s a, Doings P D s (f s a))
    (as : List α) (s : Session) : Doings P D s (as.foldl f s) := by
  induction as generalizing s with
  | nil => exact .refl
  | cons a as ih => exact (h s a).trans (ih _)

end Doings

section Destroy

variable {destroy : Destroyer} {D : Session → Session → Prop}
  (destroys : ∀ s c, D s (destroy s c).1)

include destroys

/-- The actions of an observer are doings, if the destruction they may ask for is. -/
theorem act_doings (s : Session) (o : Observer) (action : ObserverAction) :
    Doings Entry.Aside D s (act destroy s o action) := by
  have acted : ∀ s' r, Doings Entry.Aside D s s' →
      Doings Entry.Aside D s (s'.record (.acted o.name action r)) :=
    fun s' r doings => doings.trans (Doings.apart (.record ⟨trivial, trivial⟩))
  cases action with
  | count => exact acted _ _ .refl
  | destroy => exact acted _ _ (.beyond (destroys s o.context))
  | register name =>
    refine acted _ _ ?_
    cases named : s.observerNames.get? name with
    | none => exact .refl
    | some id => exact .single (.affair (.registers o.context (.inr ⟨name, named⟩)))
  | letGo name =>
    exact acted _ _ (.of_affairs ((dropObserver_affairs s name).trans
      (dropUpdater_affairs _ name)))

/-- After the entry that somebody is told, he does what he does. -/
theorem notify_doings {locked : Option UpdaterId} {p : Participant}
    (free : locked.map .updater ≠ some p) (c : ContextId) (s : Session) :
    Doings Entry.Aside D (s.record (.told c p)) (notify destroy locked c s p) := by
  rw [notify, if_neg free]
  generalize s.record (.told c p) = s
  cases p with
  | updater id =>
    exact .apart (.onUpdater fun u w =>
      (u.teardown_writes w .contextLost).mono fun _ => Entry.Ordinary.aside)
  | observer id =>
    dsimp only
    cases entered : s.observers.get? id with
    | none => exact .refl
    | some h =>
      dsimp only
      refine Relation.ReflTransGen.trans ?_ (Doings.foldl (fun s action =>
        act_doings destroys s _ action) _ _)
      exact (Doings.apart (.observer entered)).trans (Doings.apart (.record ⟨trivial, trivial⟩))

end Destroy

section Lost

variable {c : ContextId} {locked : Option UpdaterId} {depth : Nat}

/-- The locked updater is passed over. -/
theorem notify_locked (destroy : Destroyer) {p : Participant}
    (same : locked.map .updater = some p) (c : ContextId) (s : Session) :
    notify destroy locked c s p = s := if_pos same

/-- A context that is lost is destroyed no more. -/
theorem destroyWithin_lost (lost : ¬ s.world.alive c) (depth : Nat) :
    destroyWithin locked depth s c = (s, 0) := by
  cases depth with
  | zero => rfl
  | succ depth => exact if_neg lost

/-- All that are registered and there still. -/
def attending (s : Session) (c : ContextId) : List Participant := (s.registry c).filter s.isLive

/-- Those who attend are as many as the count of observers says. -/
theorem length_attending (s : Session) (c : ContextId) :
    (s.attending c).length = s.observerCount c := List.countP_eq_length_filter.symm

/-- A context that is alive is marked as lost, and all that attend are held, told and let go. -/
theorem destroyWithin_alive (alive : s.world.alive c) (depth : Nat) :
    destroyWithin locked (depth + 1) s c
      = ((s.attending c).foldl letGo ((s.attending c).foldl
          (notify (destroyWithin locked depth) locked c)
          ((s.attending c).foldl hold (s.loses locked c))), (s.attending c).length) := by
  rw [destroyWithin, if_pos alive, loses, ← length_attending]
  rfl

/-- Telling one participant is an affair, if the destruction that it may ask for is. -/
theorem notify_affairs {destroy : Destroyer}
    (destroys : ∀ s c, Affairs Entry.Unasked s (destroy s c).1) (locked : Option UpdaterId)
    (c : ContextId) (s : Session) (p : Participant) :
    Affairs Entry.Unasked s (notify destroy locked c s p) := by
  by_cases same : locked.map .updater = some p
  · rw [notify_locked _ same]
  · exact (Affairs.record trivial).trans
      ((notify_doings destroys same c s).affairs fun _ aside => aside.2)

/-- What follows once a context is marked as lost. -/
theorem told_affairs (nested : ∀ s c, Affairs Entry.Unasked s (destroyWithin locked depth s c).1)
    (alive : s.world.alive c) :
    Affairs Entry.Unasked (s.loses locked c) (destroyWithin locked (depth + 1) s c).1 := by
  rw [destroyWithin_alive alive]
  exact (Affairs.foldl (fun s p => .apart (.hold s p)) _ _).trans
    ((Affairs.foldl (notify_affairs nested locked c) _ _).trans
      (Affairs.foldl (fun _ p => .single (.letGo p)) _ _))

/-- So is the destruction of a context at every depth, by induction on the depth. -/
theorem destroyWithin_affairs (locked : Option UpdaterId) (depth : Nat) (s : Session)
    (c : ContextId) : Affairs Entry.Unasked s (destroyWithin locked depth s c).1 := by
  induction depth generalizing s c with
  | zero => exact .refl
  | succ depth ih =>
    by_cases alive : s.world.alive c
    · exact .head (.loses locked alive trivial) (told_affairs ih alive)
    · rw [destroyWithin_lost alive]

-- ==================================================== how deep destructions nest

/-- Only the context that is lost is not alive any more. -/
theorem loses_alive (s : Session) (locked : Option UpdaterId) (c d : ContextId) :
    (s.loses locked c).world.alive d = (decide (d ≠ c) && s.world.alive d) := by
  show (World.loseContext _ _ _).alive d = _
  unfold World.alive
  rw [loseContext_contexts]
  by_cases same : d = c
  · cases h : s.world.contexts.get? c <;> simp [same]
  · simp [same]

/-- No affair brings a context to life. -/
theorem Affair.alive (affair : Affair P s s') (alive : s'.world.alive c) : s.world.alive c := by
  cases affair with
  | apart apart => rwa [apart.alive] at alive
  | letGo p => rwa [(letGo_history s p).alive] at alive
  | loses locked living allowed =>
    rw [loses_alive] at alive
    exact (Bool.and_eq_true_iff.1 alive).2
  | _ => exact alive

/-- Affairs revive no context. -/
theorem Affairs.alive (affairs : Affairs P s s') (alive : s'.world.alive c) :
    s.world.alive c := by
  induction affairs with
  | refl => exact alive
  | tail _ affair ih => exact ih (affair.alive alive)

/-- The contexts that are alive. -/
def standing (s : Session) : List ContextId := s.world.contexts.keys.filter s.world.alive

/-- The standing contexts are the living ones. -/
theorem mem_standing : c ∈ s.standing ↔ s.world.alive c := by
  refine ⟨fun mem => (List.mem_filter.1 mem).2, fun alive => List.mem_filter.2 ⟨?_, alive⟩⟩
  obtain ⟨x, found, -⟩ := alive_eq_true.1 alive
  by_contra absent
  rw [Table.get?, Table.findRow_eq_none absent] at found
  cases found

/-- Where one context was lost, fewer stand. -/
theorem standing_length_le (fewer : ∀ d, s'.world.alive d → s.world.alive d ∧ d ≠ c)
    (alive : s.world.alive c) : s'.standing.length + 1 ≤ s.standing.length := by
  have nodup : (c :: s'.standing).Nodup :=
    List.nodup_cons.2 ⟨fun mem => (fewer c (mem_standing.1 mem)).2 rfl,
      s'.world.contexts.nodup.filter _⟩
  refine (List.Nodup.subperm nodup fun d mem => ?_).length_le
  rcases List.mem_cons.1 mem with rfl | mem
  · exact mem_standing.2 alive
  · exact mem_standing.2 (fewer d (mem_standing.1 mem)).1

/-- Two ways of going through a list agree if they agree wherever the first way leads. -/
theorem foldl_congr_kept {α : Type} {f g : Session → α → Session} {I : Session → Prop}
    (keeps : ∀ s a, I s → I (f s a)) (same : ∀ s a, I s → f s a = g s a) (as : List α)
    (start : I s) : as.foldl f s = as.foldl g s := by
  induction as generalizing s with
  | nil => rfl
  | cons a as ih =>
    rw [List.foldl_cons, List.foldl_cons, ← same s a start]
    exact ih (keeps s a start)

/-- Whoever is told does the same by two ways to destroy contexts, if these agree on all
contexts that are alive by then. -/
theorem notify_congr {f g : Destroyer} {I : Session → Prop}
    (down : ∀ s s', Affairs Entry.Unasked s s' → I s → I s')
    (affairs : ∀ s c, Affairs Entry.Unasked s (f s c).1) (same : ∀ s c, I s → f s c = g s c)
    (c : ContextId) (p : Participant) (start : I s) :
    notify f locked c s p = notify g locked c s p := by
  unfold notify
  split
  · rfl
  · have told := down _ _ (Affairs.record (e := .told c p) trivial) start
    cases p with
    | updater id => rfl
    | observer id =>
      dsimp only
      generalize s.record (.told c (.observer id)) = s at told
      cases entered : s.observers.get? id with
      | none => rfl
      | some h =>
        dsimp only
        refine foldl_congr_kept (I := I) (fun s action kept => ?_) (fun s action kept => ?_) _ ?_
        · exact down _ _ ((act_doings affairs s _ action).affairs fun _ aside => aside.2) kept
        · cases action with
          | destroy =>
            unfold act
            dsimp only
            rw [same _ _ kept]
          | _ => rfl
        · exact down _ _ ((Affairs.apart (.observer entered)).trans (Affairs.record trivial)) told

/-- Once a context is lost, one less is alive. -/
theorem fewer_standing {a : Session} (alive : s.world.alive c)
    (after : Affairs Entry.Unasked (s.loses locked c) a) :
    a.standing.length + 1 ≤ s.standing.length := by
  refine standing_length_le (fun d living => ?_) alive
  have living := after.alive living
  rw [loses_alive, Bool.and_eq_true_iff, decide_eq_true_iff] at living
  exact living.symm

/-- All who are told of a loss do the same by two ways to destroy contexts, if these agree
from the loss on. -/
theorem tellAll_congr {f g : Destroyer} (affairs : ∀ s c, Affairs Entry.Unasked s (f s c).1)
    (same : ∀ a d, Affairs Entry.Unasked (s.loses locked c) a → f a d = g a d)
    (ps qs : List Participant) :
    ps.foldl (notify f locked c) (qs.foldl hold (s.loses locked c))
      = ps.foldl (notify g locked c) (qs.foldl hold (s.loses locked c)) :=
  foldl_congr_kept (I := Affairs Entry.Unasked (s.loses locked c))
    (fun _ _ before => before.trans (notify_affairs affairs locked c _ _))
    (fun _ p before => notify_congr (fun _ _ after before => before.trans after) affairs same c p
      before) ps (Affairs.foldl (fun s p => .apart (.hold s p)) qs _)

/-- Destructions nest no deeper than there are contexts alive. -/
theorem destroyWithin_enough {m n : Nat} (enough : s.standing.length ≤ m)
    (enough' : s.standing.length ≤ n) :
    destroyWithin locked m s c = destroyWithin locked n s c := by
  induction m generalizing s c n with
  | zero =>
    have dead : ¬ s.world.alive c := fun alive => by
      have some := List.length_pos_of_mem (mem_standing.2 alive)
      omega
    rw [destroyWithin_lost dead, destroyWithin_lost dead]
  | succ m ih =>
    by_cases alive : s.world.alive c
    · obtain ⟨n, rfl⟩ : ∃ k, n = k + 1 := by
        have some := List.length_pos_of_mem (mem_standing.2 alive)
        exact ⟨n - 1, by omega⟩
      rw [destroyWithin_alive alive, destroyWithin_alive alive,
        tellAll_congr (destroyWithin_affairs locked m) fun a d after => ?_]
      have fewer := fewer_standing alive after
      exact ih (by omega) (by omega)
    · rw [destroyWithin_lost alive, destroyWithin_lost alive]

/-- A destruction, without a bound on how deep others are nested in it. -/
theorem destroyContext_eq (s : Session) (locked : Option UpdaterId) (c : ContextId) :
    s.destroyContext locked c
      = if s.world.alive c then
          ((s.attending c).foldl letGo ((s.attending c).foldl
            (notify (fun t d => t.destroyContext locked d) locked c)
            ((s.attending c).foldl hold (s.loses locked c))), (s.attending c).length)
        else (s, 0) := by
  have bound : ∀ t : Session, t.standing.length ≤ t.world.contexts.size := fun t =>
    (List.length_filter_le _ _).trans_eq (List.length_map _)
  by_cases alive : s.world.alive c
  · obtain ⟨depth, size⟩ := exists_depth alive
    have within := bound s
    rw [if_pos alive, destroyContext, size, destroyWithin_alive alive,
      tellAll_congr (destroyWithin_affairs locked depth) fun a d after => ?_]
    have fewer := fewer_standing alive after
    exact destroyWithin_enough (by omega) (bound a)
  · rw [if_neg alive, destroyContext, destroyWithin_lost alive]

/-- What follows in a destruction once its context is marked as lost. -/
theorem destroyContext_affairs (alive : s.world.alive c) (locked : Option UpdaterId) :
    Affairs Entry.Unasked (s.loses locked c) (s.destroyContext locked c).1 := by
  obtain ⟨depth, size⟩ := exists_depth alive
  rw [destroyContext, size]
  exact told_affairs (destroyWithin_affairs locked depth) alive

/-- In the midst of its own destruction a context is destroyed no more. Those who are told may
try to: they are answered zero, and it is as if they had not. -/
theorem destroyContext_nested (alive : s.world.alive c) :
    s.destroyContext locked c
      = ((s.attending c).foldl letGo ((s.attending c).foldl
          (notify (fun t d => if d = c then (t, 0) else t.destroyContext locked d) locked c)
          ((s.attending c).foldl hold (s.loses locked c))), (s.attending c).length) := by
  have nested (a : Session) (d : ContextId) (after : Affairs Entry.Unasked (s.loses locked c) a) :
      a.destroyContext locked d = if d = c then (a, 0) else a.destroyContext locked d := by
    split
    · next same =>
      have dead : ¬ a.world.alive d := fun living => by
        have living := after.alive living
        rw [loses_alive, same] at living
        simp at living
      rw [destroyContext_eq, if_neg dead]
    · rfl
  rw [destroyContext_eq, if_pos alive,
    tellAll_congr (f := fun t d => t.destroyContext locked d)
      (fun a d => destroyWithin_affairs locked _ a d) nested]

/-- An observer whose context is lost by then destroys nothing, and is answered zero. -/
theorem act_destroy_lost {o : Observer} (lost : ¬ s.world.alive o.context) :
    act (fun t d => t.destroyContext locked d) s o .destroy
      = s.record (.acted o.name .destroy (some 0)) := by
  unfold act
  dsimp only
  rw [destroyContext_eq, if_neg lost]

end Lost

end Session

end LayerFeed
