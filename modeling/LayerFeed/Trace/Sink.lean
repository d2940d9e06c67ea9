/-
Where the events of an updater go: nowhere, into the session's history, to a
recorder, or as lines to a text. Recorders and texts are kept here; they never
act back on what is traced.
-/
import LayerFeed.Table
import LayerFeed.Trace.Line

namespace LayerFeed

/-- Number of a recorder. -/
abbrev RecorderId := Nat

/-- The place events go to. -/
inductive Sink
  /-- No sink at all. -/
  | none
  /-- A sink that ignores every event. -/
  | discard
  /-- Lines on the standard error stream; nothing is kept. -/
  | standardError
  /-- The history, each event under the given tag. -/
  | history (tag : String)
  /-- A recorder that keeps the events. -/
  | recorder (id : RecorderId)
  /-- The text of the given name, to which lines are added. -/
  | text (name : String)
deriving DecidableEq

namespace Sink

/-- Whether events reach a sink. -/
def enabled (s : Sink) : Bool := s ≠ .none

/-- A tracer over the sink. -/
def describe (s : Sink) : String := Text.record "Tracer" [("enabled", Text.flag s.enabled)]

/-- A sink that writes lines. -/
def lineSinkDescription : String := Text.openRecord "PrettyPrintSink" []

end Sink

/-- What recorders and texts hold. -/
structure Traces where
  recorders : Table RecorderId (List Event) := ∅
  texts : Table String Text.Bounded := ∅
deriving DecidableEq

namespace Traces

instance : Inhabited Traces := ⟨{}⟩

/-- The events a recorder holds, oldest first. -/
def records (t : Traces) (id : RecorderId) : List Event := (t.recorders.get? id).getD []

/-- Sets up an empty recorder. -/
def openRecorder (t : Traces) (id : RecorderId) : Traces :=
  { t with recorders := t.recorders.set id [] }

/-- Empties a recorder. -/
def clearRecorder (t : Traces) (id : RecorderId) : Traces :=
  { t with recorders := t.recorders.modify id fun _ => [] }

/-- Sets up a text of the given name unless there is one. -/
def openText (t : Traces) (name : String) (limit : Option Nat) : Traces :=
  if t.texts.contains name then t
  else { t with texts := t.texts.set name { limit := limit } }

/-- Hands an event to a sink. -/
def emit (t : Traces) (sink : Sink) (e : Event) : Traces :=
  match sink with
  | .recorder id => { t with recorders := t.recorders.modify id (· ++ [e]) }
  | .text name => { t with texts := t.texts.modify name (·.append (Trace.line e)) }
  | .none | .discard | .standardError | .history _ => t

/-- Hands over several events in order. -/
def emitAll (t : Traces) (sink : Sink) (events : List Event) : Traces :=
  events.foldl (·.emit sink ·) t

end Traces

end LayerFeed
