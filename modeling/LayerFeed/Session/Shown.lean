/-
The part of the history that a step shows. Calls to backends and sources are
shown, except questions about displays and native fences and the failure of a
minimal backend to make a sync object; of the events those that go to the
history. Where a step clears slots whose order has no meaning, each unbroken run
of calls that end a texture's hold is sorted by texture.
-/
import LayerFeed.Session.Run

namespace LayerFeed

/-- Whether an entry is shown. -/
def Entry.isShown (minimal : Bool) : Entry → Bool
  | .backend _ .askedDisplay | .backend _ .askedNativeFences => false
  | .backend _ (.syncFence none) => !minimal
  | .event _ (.history _) _ => true
  | .source _ .installed => false
  | .event _ _ _ | .posted _ | .latched _ _ _ | .bound _ _ _ _ _ | .told _ _ | .cleared _ => false
  | _ => true

/-- The texture whose hold on the backend an entry ends. -/
def Entry.ended? : Entry → Option TextureId
  | .backend _ call => call.ended?
  | _ => none

/-- The name a call is shown under; a minimal backend just drops a texture that is
abandoned. -/
def BackendCall.word (minimal : Bool) : BackendCall → String
  | imported _ _ _ => "import"
  | importFailed _ => "import_failed"
  | deleted _ => "delete"
  | abandoned _ => if minimal then "tex_drop" else "abandon"
  | queueReleased _ => "queue_release"
  | nativeFence _ => "native_fence"
  | syncFence _ => "sync_fence"
  | waited _ => "wait"
  | askedDisplay => "display"
  | askedNativeFences => "supports_native_fence"

def SourceCall.word : SourceCall → String
  | installed => "install"
  | taken => "take"
  | dequeueBegun => "dequeue"
  | dequeued _ => "dequeued"
  | released => "release"
  | dropped => "source_drop"

namespace Session

/-- A run of entries, each with its texture, sorted by texture; entries for the
same texture keep their order. -/
def sortRun (run : List (TextureId × Entry)) : List Entry :=
  (run.mergeSort fun a b => a.1 ≤ b.1).map Prod.snd

/-- Sorts every unbroken run; `run` is the one that is being read. -/
def settleFrom (run : List (TextureId × Entry)) : List Entry → List Entry
  | [] => sortRun run
  | e :: es =>
    match e.ended? with
    | some t => settleFrom (run ++ [(t, e)]) es
    | none => sortRun run ++ e :: settleFrom [] es

/-- Sorts every unbroken run of entries that end a hold. -/
def settle (entries : List Entry) : List Entry := settleFrom [] entries

/-- Whether some updater or cache has several entries. -/
def hasSeveralEntries (s : Session) : Bool :=
  s.updaters.values.any (fun h => h.value.cache.size > 1)
    || s.caches.values.any (fun c => c.size > 1)

/-- Whether a command can clear all slots of a cache. -/
def clearsAll : Command → Bool
  | .attach _ _ _ _ | .teardown _ _ | .contextDestroyed _ | .dropUpdater _ | .destroy _
  | .clearCache _ _ | .dropCache _ => true
  | _ => false

/-- Whether an entry tells of a context destroyed by a source. -/
def tellsOfDestruction : Entry → Bool
  | .destroyed _ => true
  | _ => false

/-- Runs one command and answers the entries to be shown for it. -/
def step (s : Session) (c : Command) : Session × Reply × List Entry :=
  let after := s.exec c
  let entries := after.1.world.history.drop s.world.history.length
  let shown := entries.filter (Entry.isShown s.minimal)
  let scattered := s.hasSeveralEntries && (clearsAll c || shown.any tellsOfDestruction)
  (after.1, after.2, if scattered then settle shown else shown)

end Session

end LayerFeed
