/-
A session: every object that a caller has made and given a name, over the world
that the objects share.

Names and objects are kept apart. A name can be given to a new object while
others still hold the old one: a render state still notifies an updater whose
name is gone, a notifier still posts to a mailbox that was dropped, a source
still belongs to its updater. So updaters, observers, sources, mailboxes and
recorders have numbers, and names lead to numbers. Objects that only their name
can hold are kept under it. Recorders are counted apart, so that no other object
has another number because events were recorded.
-/
import LayerFeed.Updater

namespace LayerFeed

/-- Number of a mailbox that stands alone. -/
abbrev MailboxId := Nat

-- ==================================================== objects of a session

/-- An object with several holders: the session, by a name, and every
notification and apply that is under way. -/
structure Held (α : Type) where
  value : α
  holds : Nat := 1

/-- An observer that follows a script when it is notified. -/
structure Observer where
  name : String
  /-- The context of its render state. -/
  context : ContextId
  actions : List ObserverAction := []
  notified : Nat := 0

/-- What a source does with its callbacks while it is asked for a frame. -/
inductive ScriptItem
  /-- Asks for a release fence. -/
  | fence (useSync : Bool)
  /-- Waits for a fence. -/
  | wait (fd : FenceFd)
  /-- Posts to the mailbox of its updater. -/
  | notify
  /-- Destroys the context of its render state. -/
  | destroy
  /-- Lets the updater's backend change its answers. -/
  | adjust (settings : List BackendSetting)

/-- A source with a queue of frames and a script. -/
structure Source where
  frames : List Frame := []
  script : List ScriptItem := []
  /-- Whether the oldest frame is taken and the others stay; else the newest is
  taken and the others are lost. -/
  fifo : Bool := false
  /-- Whether the script runs even when there is no frame. -/
  always : Bool := false
  /-- The context of its render state, if it has one. -/
  context : Option ContextId := none

/-- Takes a frame from the queue. -/
def Source.next (s : Source) : Option Frame × Source :=
  if s.fifo then (s.frames.head?, { s with frames := s.frames.tail })
  else (s.frames.getLast?, { s with frames := [] })

/-- Whose mailbox a notifier posts to. -/
inductive Notifier
  | updater (id : UpdaterId)
  | mailbox (id : MailboxId)
deriving DecidableEq

/-- What happens to those who are registered with render states. -/
inductive RollEntry
  /-- A participant is registered with the render state of a context. -/
  | registered (context : ContextId) (participant : Participant)
  /-- The last holder of a participant lets go. -/
  | gone (participant : Participant)
  /-- The context is destroyed; the apply of `locked`, if any, is under way. -/
  | lost (context : ContextId) (locked : Option UpdaterId)
deriving DecidableEq

-- ==================================================== sessions

/-- All objects, and the names that callers know them by. -/
structure Session where
  /-- Whether every backend of the session is a minimal one. -/
  minimal : Bool := false
  world : World := default
  /-- The next number to be given, except to recorders. -/
  fresh : Nat := 0
  /-- The number of the next recorder. -/
  freshRecorder : RecorderId := 0
  contextNames : Table String ContextId := ∅
  stateNames : Table String ContextId := ∅
  /-- Who is registered with the render state of a context, in order. -/
  registries : Table ContextId (List Participant) := ∅
  /-- Registrations and what became of them, oldest first. -/
  roll : List RollEntry := []
  updaters : Table UpdaterId (Held Updater) := ∅
  updaterNames : Table String UpdaterId := ∅
  observers : Table ObserverId (Held Observer) := ∅
  observerNames : Table String ObserverId := ∅
  sources : Table SourceId Source := ∅
  sourceNames : Table String SourceId := ∅
  mailboxes : Table MailboxId Mailbox := ∅
  mailboxNames : Table String MailboxId := ∅
  notifiers : Table String Notifier := ∅
  recorderNames : Table String RecorderId := ∅
  images : Table String TextureId := ∅
  handles : Table String TextureId := ∅
  slots : Table String Slot := ∅
  caches : Table String SlotCache := ∅

namespace Session

/-- Runs an operation on the world alone. -/
def onWorld (s : Session) (f : World → World) : Session := { s with world := f s.world }

/-- Adds an entry to the history. -/
def record (s : Session) (e : Entry) : Session := s.onWorld (·.record e)

-- ==================================================== contexts

/-- Makes a context over a backend. -/
def makeContext (s : Session) (b : Backend) : Session × ContextId :=
  let b := { b with minimal := s.minimal }
  ({ s with fresh := s.fresh + 1, world := s.world.openContext s.fresh b }, s.fresh)

/-- Makes a context and calls it `name`. -/
def addContext (s : Session) (name : String) (b : Backend) : Session :=
  let made := s.makeContext b
  { made.1 with contextNames := s.contextNames.set name made.2 }

/-- Makes a render state, with a context of its own, and calls it `name`. -/
def addState (s : Session) (name : String) (b : Backend) : Session :=
  let made := s.makeContext b
  { made.1 with stateNames := s.stateNames.set name made.2 }

/-- A session with one render state, `s`. -/
def start (minimal : Bool) (b : Backend) : Session := ({ minimal } : Session).addState "s" b

/-- The context of a render state. -/
def state? (s : Session) (name : String) : Option ContextId := s.stateNames.get? name

/-- The context of the given name, or else that of a render state of that name. -/
def context? (s : Session) (name : String) : Option ContextId :=
  (s.contextNames.get? name).or (s.state? name)

-- ==================================================== updaters

/-- The updater of the given number. -/
def updaterOf? (s : Session) (id : UpdaterId) : Option Updater :=
  (s.updaters.get? id).map Held.value

/-- The updater of the given name. -/
def updater? (s : Session) (name : String) : Option Updater :=
  (s.updaterNames.get? name).bind s.updaterOf?

/-- Runs an operation on an updater and the world. -/
def onUpdater (s : Session) (id : UpdaterId) (f : Updater → World → World × Updater) : Session :=
  match s.updaters.get? id with
  | some h =>
    let after := f h.value s.world
    { s with world := after.1, updaters := s.updaters.set id { h with value := after.2 } }
  | none => s

-- ==================================================== holders of participants

/-- Whether someone holds the participant. -/
def isLive (s : Session) : Participant → Bool
  | .updater id => s.updaters.contains id
  | .observer id => s.observers.contains id

/-- One more holder. -/
def hold (s : Session) : Participant → Session
  | .updater id =>
    { s with updaters := s.updaters.modify id fun h => { h with holds := h.holds + 1 } }
  | .observer id =>
    { s with observers := s.observers.modify id fun h => { h with holds := h.holds + 1 } }

/-- One holder lets go. A participant without holders goes away. -/
def letGo (s : Session) : Participant → Session
  | .updater id =>
    match s.updaters.get? id with
    | some h =>
      if h.holds ≤ 1 then
        { s with
          updaters := s.updaters.erase id
          world := h.value.discard s.world
          roll := s.roll ++ [.gone (.updater id)] }
      else { s with updaters := s.updaters.set id { h with holds := h.holds - 1 } }
    | none => s
  | .observer id =>
    match s.observers.get? id with
    | some h =>
      if h.holds ≤ 1 then
        { s with observers := s.observers.erase id, roll := s.roll ++ [.gone (.observer id)] }
      else { s with observers := s.observers.set id { h with holds := h.holds - 1 } }
    | none => s

-- ==================================================== registries

/-- The participants registered with a render state, gone ones included. -/
def registry (s : Session) (c : ContextId) : List Participant := (s.registries.get? c).getD []

/-- Registers a participant with a render state, after taking out those that
are gone. -/
def register (s : Session) (c : ContextId) (p : Participant) : Session :=
  { s with
    registries := s.registries.set c ((s.registry c).filter s.isLive ++ [p])
    roll := s.roll ++ [.registered c p] }

/-- How many registered participants are there still. -/
def observerCount (s : Session) (c : ContextId) : Nat := (s.registry c).countP s.isLive

end Session

end LayerFeed
