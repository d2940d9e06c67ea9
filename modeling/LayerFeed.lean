import LayerFeed.Session.Shown
import LayerFeed.Proofs.World.Step
import LayerFeed.Proofs.World.Owners
import LayerFeed.Proofs.World.Ledger
import LayerFeed.Proofs.World.Passes
import LayerFeed.Proofs.World.Queue
import LayerFeed.Proofs.World.Guard
import LayerFeed.Proofs.Object.Slots
import LayerFeed.Proofs.Object.Updaters
import LayerFeed.Proofs.Source.Custody
import LayerFeed.Proofs.Source.Protocol
import LayerFeed.Proofs.Session.Owners
import LayerFeed.Proofs.Session.Step
import LayerFeed.Proofs.Session.Sound
import LayerFeed.Proofs.Session.Aloof
import LayerFeed.Proofs.Session.Transfer
import LayerFeed.Proofs.Session.Move
import LayerFeed.Proofs.Session.Elsewhere
import LayerFeed.Proofs.Session.Backing
import LayerFeed.Proofs.Session.Dequeue
import LayerFeed.Proofs.Session.Walk
import LayerFeed.Proofs.Session.Change
import LayerFeed.Proofs.Session.Run
import LayerFeed.Proofs.Session.Course
import LayerFeed.Proofs.Session.Lineage
import LayerFeed.Proofs.Session.Notice
import LayerFeed.Proofs.Conservation
import LayerFeed.Proofs.Silence
import LayerFeed.Proofs.LostTeardown
import LayerFeed.Proofs.SourceLifetimes
import LayerFeed.Proofs.QueueOwnership
import LayerFeed.Proofs.WithheldBuffers
import LayerFeed.Proofs.LayerAfterTeardown
import LayerFeed.Proofs.ContextDestruction
import LayerFeed.Proofs.Session.Affairs
import LayerFeed.Proofs.Session.Routine
import LayerFeed.Proofs.Session.Registry
import LayerFeed.Proofs.Notifications
import LayerFeed.Proofs.Latching
import LayerFeed.Proofs.Drawing.Updater
import LayerFeed.Proofs.Drawing.Session
import LayerFeed.Proofs.Drawing.Run
import LayerFeed.Proofs.Pictures
import LayerFeed.Proofs.Session.Addressed
import LayerFeed.Proofs.Session.Applied
import LayerFeed.Proofs.Commitment
import LayerFeed.Proofs.Object.Resolution
import LayerFeed.Proofs.Session.Rooted
import LayerFeed.Proofs.Provenance
import LayerFeed.Proofs.Sampling
import LayerFeed.Proofs.Reuse.Sights
import LayerFeed.Proofs.Reuse.Updater
import LayerFeed.Proofs.Reuse.Session
import LayerFeed.Proofs.Reuse.Apply
import LayerFeed.Proofs.Reuse.Run
import LayerFeed.Proofs.Transparency
import LayerFeed.Proofs.DrainOrder
import LayerFeed.Proofs.Session.Fixtures
import LayerFeed.Proofs.Session.Dismissal
import LayerFeed.Proofs.SingleTeardown
import LayerFeed.Proofs.ReleaseAccounts
import LayerFeed.Proofs.CacheAnswers
import LayerFeed.Proofs.Text.Numerals
import LayerFeed.Proofs.Trace.Lines
import LayerFeed.Proofs.Text.Reader
import LayerFeed.Proofs.Decimal.Numerals
import LayerFeed.Proofs.Trace.Instants
import LayerFeed.Proofs.Session.Within
import LayerFeed.Proofs.Neighbours
import LayerFeed.Proofs.Retelling.World
import LayerFeed.Proofs.Retelling.Updater
import LayerFeed.Proofs.Retelling.Session
import LayerFeed.Proofs.Retelling.Run
import LayerFeed.Proofs.Retelling.Recording
import LayerFeed.Proofs.Observation
import LayerFeed.Proofs.Detachment
import LayerFeed.Proofs.Session.Homed
import LayerFeed.Proofs.Session.Asking
import LayerFeed.Proofs.Session.Framing
import LayerFeed.Proofs.FenceCallbacks
import LayerFeed.Proofs.FrameNews
import LayerFeed.Proofs.Filtering
import LayerFeed.Proofs.Reapplication
import LayerFeed.Proofs.Consistency
import LayerFeed.Proofs.Object.Tending
import LayerFeed.Proofs.Session.Filing
import LayerFeed.Proofs.Session.Tending
import LayerFeed.Proofs.SlotContents
