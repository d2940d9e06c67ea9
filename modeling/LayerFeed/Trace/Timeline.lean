/-
The timeline of recorded events as a JSON array of instants, one object to a
record, members in the order of their names. Frames and slots have a row of
their own, named by the slot; all else stands on row 0 and spans the whole
process. Times are in microseconds.
-/
import LayerFeed.Trace.Event
import LayerFeed.Text.Json
import LayerFeed.Text.Bounded

namespace LayerFeed.Trace

/-- An event and when it came, counted from the start of the recording. -/
structure Record where
  seconds : UInt64
  nanos : UInt32
  event : Event

/-- A record at a whole number of nanoseconds. -/
def Record.atNanos (nanos : Nat) (e : Event) : Record :=
  ⟨(nanos / 1000000000).toUInt64, (nanos % 1000000000).toUInt32, e⟩

/-- The time in microseconds, each operation rounded to 64 bits. Whole seconds
among the nanoseconds count as seconds. -/
def Record.micros (r : Record) : Float :=
  let seconds := r.seconds + (r.nanos / 1000000000).toUInt64
  let nanos := r.nanos % 1000000000
  (seconds.toFloat + nanos.toFloat / 1e9) * 1e6

/-- How times are written: positional up to below 10^16, then with an exponent
and its sign; a tie between two shortest decimals goes to the even one. -/
def times : Decimal.Layout := ⟨.toEven, -5, 15, true⟩

/-- A time as a JSON value. JSON has no text for what is not finite, and null
stands for it. -/
def moment (x : Float) : Text.Json :=
  match Decimal.Format.double.read x.toBits.toNat with
  | .finite _ _ => .number (times.double x)
  | .nan | .infinite _ => .null

/-- The kind of an event. -/
def instantName : Event → String
  | .frameLatched _ => "FrameLatched"
  | .textureReleased _ _ _ => "TextureReleased"
  | .detached _ _ => "Detach"
  | .tornDown _ _ _ => "Teardown"

/-- The group an event is shown in. -/
def category : Event → String
  | .frameLatched _ => "Frame"
  | .textureReleased _ _ _ => "Slot"
  | .detached _ _ | .tornDown _ _ _ => "Lifecycle"

/-- The row of an event. -/
def row : Event → Int
  | .frameLatched f => f.slot.number.toInt
  | .textureReleased slot _ _ => slot.number.toInt
  | .detached _ _ | .tornDown _ _ _ => 0

/-- How far an instant reaches: its row, or the whole process. -/
def scope : Event → String
  | .frameLatched _ | .textureReleased _ _ _ => "t"
  | .detached _ _ | .tornDown _ _ _ => "p"

/-- What else is known of an event. -/
def details : Event → List (String × Text.Json)
  | .frameLatched f =>
    [("buffer", .nat f.buffer.number.toNat), ("force_filter", .bool f.forceFilter),
      ("frame_index", .nat f.frameIndex.toNat), ("outcome", .string f.outcome.name),
      ("pipeline", .string f.pipeline.name),
      ("release_fence", .option (fun c => .string c.name) f.releaseFence)]
  | .textureReleased _ mode release =>
    [("mode", .string mode.name), ("release", .string release.name)]
  | .detached activeSlot releasedConsumer =>
    [("active_slot", .option (fun s => .int s.number.toInt) activeSlot),
      ("released_consumer", .bool releasedConsumer)]
  | .tornDown mode releasedTextures releasedLayer =>
    [("mode", .string mode.name), ("released_layer", .bool releasedLayer),
      ("released_textures", .nat releasedTextures)]

/-- The object of a record. -/
def instant (r : Record) : Text.Json :=
  .object [("args", .object (details r.event)), ("cat", .string (category r.event)),
    ("name", .string (instantName r.event)), ("ph", .string "i"), ("pid", .nat 0),
    ("s", .string (scope r.event)), ("tid", .int (row r.event)),
    ("ts", moment r.micros)]

/-- The text of a timeline. -/
def timeline (records : List Record) : String :=
  (Text.Json.array (records.map instant)).text

end LayerFeed.Trace
