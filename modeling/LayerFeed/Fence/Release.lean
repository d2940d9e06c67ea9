/-
Release fences: the signal that a consumer hands back with a buffer, so that
the producer knows when it may write into it again.
-/
import LayerFeed.Frame

namespace LayerFeed

/-- The signal itself. -/
inductive FenceKind
  /-- A descriptor of the system. -/
  | native (fd : FenceFd)
  /-- A numbered sync object of the backend. -/
  | sync (object : UInt64)
  /-- No signal: the producer has to wait by other means. -/
  | none
deriving DecidableEq

/-- The kind of a signal without what it carries. -/
inductive FenceClass
  | native
  | sync
  | none
deriving DecidableEq

def FenceClass.name : FenceClass → String
  | native => "Native"
  | sync => "Sync"
  | none => "None"

def FenceKind.describe : FenceKind → String
  | native fd => Text.tuple "Native" [fd.describe]
  | sync object => Text.tuple "Sync" [Text.tuple "SyncObj" [toString object.toNat]]
  | none => "None"

/-- A signal with the display it belongs to. -/
structure ReleaseFence where
  display : Option DisplayId
  kind : FenceKind
deriving DecidableEq

namespace ReleaseFence

/-- The answer when no signal could be made. -/
def none : ReleaseFence := ⟨.none, .none⟩

/-- The kind of the signal. -/
def fenceClass (f : ReleaseFence) : FenceClass :=
  match f.kind with
  | .native _ => .native
  | .sync _ => .sync
  | .none => .none

/-- Whether there is no signal, whatever the display. -/
def isNone (f : ReleaseFence) : Bool := f.fenceClass = .none

def describe (f : ReleaseFence) : String :=
  Text.record "ReleaseFence" [("display", Text.option DisplayId.describe f.display),
    ("kind", f.kind.describe)]

end ReleaseFence

end LayerFeed
