/-
Events as lines for reading, one line to an event. Something absent is shown as
a dash, which no number starts with unless a digit follows.
-/
import LayerFeed.Trace.Event
import LayerFeed.Text.Bounded

namespace LayerFeed.Trace

def outcomeWord : SlotOutcome → String
  | .cached => "cached"
  | .created => "created"
  | .unavailable => "SKIPPED"

def fenceWord : Option FenceClass → String
  | some .native => "native"
  | some .sync => "sync"
  | some .none => "NONE"
  | none => "-"

def modeWord : TeardownMode → String
  | .normal => "normal"
  | .contextLost => "context-lost"

def releaseWord : Release → String
  | .shared => "shared"
  | .freed => "freed"

def slotWord : Option SlotId → String
  | some slot => toString slot.number.toInt
  | none => "-"

/-- The line of an event, without its end. -/
def content : Event → String
  | .frameLatched f =>
    "[latch] frame=" ++ toString f.frameIndex.toNat ++ " pipeline=" ++ f.pipeline.name
      ++ " slot=" ++ toString f.slot.number.toInt ++ " buffer=" ++ toString f.buffer.number.toNat
      ++ " " ++ outcomeWord f.outcome ++ " fence=" ++ fenceWord f.releaseFence
      ++ " filter=" ++ Text.flag f.forceFilter
  | .textureReleased slot mode release =>
    "[release] slot=" ++ toString slot.number.toInt ++ " mode=" ++ modeWord mode ++ " "
      ++ releaseWord release
  | .detached activeSlot releasedConsumer =>
    "[detach] slot=" ++ slotWord activeSlot ++ " consumer_released="
      ++ Text.flag releasedConsumer
  | .tornDown mode releasedTextures releasedLayer =>
    "[teardown] mode=" ++ modeWord mode ++ " textures=" ++ toString releasedTextures
      ++ " layer=" ++ Text.flag releasedLayer

/-- The line of an event. -/
def line (e : Event) : String := content e ++ "\n"

/-- The lines of several events. -/
def lines (events : List Event) : String := String.join (events.map line)

end LayerFeed.Trace
