/-
The mailbox in which producers say that a new frame is there. It holds one post:
posts that come before the next take fall together into one.
-/
import LayerFeed.Text.Record

namespace LayerFeed

/-- The receiving end of the mailbox. -/
structure Mailbox where
  pending : Bool := false
deriving DecidableEq

namespace Mailbox

instance : Inhabited Mailbox := ⟨{}⟩

/-- Posts, from either side. -/
def raise (_ : Mailbox) : Mailbox := ⟨true⟩

/-- Takes the post that may be in the mailbox. -/
def take (_ : Mailbox) : Mailbox := ⟨false⟩

def describe (m : Mailbox) : String :=
  Text.record "FrameSignal" [("pending", Text.flag m.pending)]

/-- A producer's end of a mailbox shows nothing. -/
def notifierDescription : String := Text.openRecord "FrameNotifier" []

end Mailbox

end LayerFeed
