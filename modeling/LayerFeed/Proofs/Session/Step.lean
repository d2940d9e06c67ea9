/-
What can happen in a session. Whatever commands, callbacks and notifications do,
nested in each other as they may be, is a sequence of the steps listed here
(`exec_steps`, `run_steps`), so what every step keeps is kept by every run. The
steps are coarse: they do not say who holds an updater, or whose dequeue is under
way. What depends on that is proved of the moves of a session, which are finer.

# Two kinds of step

In a `Calm` step no source is called and no context opened. Of the steps that
remain, one opens a context, and the others may call the source of one updater:
an apply that asks it for a frame, or does not get to it; attaching, detaching
and tearing down; and the last holder of an updater letting go.

Names, registrations, observers, queues of sources and mailboxes lie `Beside` what
the laws of textures and sources are about. A session may change them at any
step.
-/
import LayerFeed.Proofs.Session.Owners

namespace LayerFeed

-- ==================================================== the steps

/-- A change to what is pending in an updater, or the commit of its transform. -/
inductive Updater.Setter : (Updater → Updater) → Prop
  | size (width height : UInt32) : Setter fun u => (u.setSize width height).1
  | blend (blend : Bool) : Setter fun u => (u.setBlend blend).1
  | transform (transform : Option Affine) : Setter (·.setTransform transform)
  | paint (paint : Option Paint) : Setter (·.setPaint paint)
  | sink (sink : Sink) : Setter (·.setSink sink)
  | commitTransform : Setter Updater.commitTransform

namespace Session

/-- All of a session that textures and sources depend on. -/
def bearing (s : Session) : World × Table UpdaterId (Held Updater) × Table String TextureId
    × Table String TextureId × Table String Slot × Table String SlotCache :=
  (s.world, s.updaters, s.images, s.handles, s.slots, s.caches)

/-- The sessions differ in names, registrations, observers, sources, mailboxes and
the numbers given out. -/
structure Beside (s s' : Session) : Prop where
  bearing : s'.bearing = s.bearing
  fresh : s.fresh ≤ s'.fresh

/-- A step in which no source is called and no context opened. -/
inductive Calm : Session → Session → Prop
  | aside {s s' : Session} (h : Beside s s') : Calm s s'
  | remark {s : Session} (e : Entry) (remark : e.isRemark) (quiet : e.Quiet) :
      Calm s (s.record e)
  | traces {s : Session} (traces : Traces) : Calm s { s with world.traces := traces }
  -- contexts
  | adjustBackend {s : Session} (c : ContextId) (settings : List BackendSetting) :
      Calm s (s.onWorld (·.adjustBackend c settings))
  | loseContext {s : Session} {c : ContextId} (observers : Nat) (alive : s.world.alive c) :
      Calm s (s.onWorld (·.loseContext c observers))
  | createFence {s : Session} (f : DequeueFences) (useSync : Bool) :
      Calm s { s with world := (f.createFence s.world useSync).world }
  | waitFence {s : Session} (g : FenceGate) (fd : FenceFd) :
      Calm s { s with world := (g.wait s.world fd).1 }
  | releaseQueue {s : Session} (t : TextureId) : Calm s (s.onWorld fun w => (w.releaseQueue t).1)
  -- images and handles
  | copyImage {s : Session} {t : TextureId} (copy : String) (held : 0 < s.owners.count t) :
      Calm s ((s.onWorld (·.share t)).keepImage copy t)
  | dropImage {s : Session} (name : String) : Calm s (s.dropImage name)
  | importTexture {s : Session} (name context : String) (p : Pipeline) (b : HardwareBuffer)
      (d : Dataspace) : Calm s (s.importTexture name context p b d).1
  | releaseHandle {s : Session} (name : String) (mode : TeardownMode) :
      Calm s (s.releaseHandle name mode).1
  | dropHandle {s : Session} (name : String) : Calm s (s.dropHandle name)
  -- slots and caches that stand alone
  | newSlot {s : Session} (name : String) (p : Pipeline) : Calm s (s.keepSlot name (.empty p))
  | resolveSlot {s : Session} (name context : String) (frame : Frame) (image : Option String) :
      Calm s (s.resolveSlot name context frame image).1
  | clearSlot {s : Session} (name : String) (mode : TeardownMode) :
      Calm s (s.clearSlot name mode).1
  | dropSlot {s : Session} (name : String) : Calm s (s.dropSlot name)
  | newCache {s : Session} (name : String) (p : Pipeline) :
      Calm s (s.keepCache name (.empty p))
  | resolveCached {s : Session} (name context : String) (frame : Frame)
      (image : Option String) : Calm s (s.resolveCached name context frame image).1
  | clearCached {s : Session} (name : String) (slot : SlotId) (mode : TeardownMode) :
      Calm s (s.clearCached name slot mode).1
  | clearCache {s : Session} (name : String) (mode : TeardownMode) :
      Calm s (s.clearCache name mode).1
  | dropCache {s : Session} (name : String) : Calm s (s.dropCache name)
  -- updaters
  | newUpdater {s : Session} (c : ContextId) (config : Config) (sink : Sink) :
      Calm s { s with
        fresh := s.fresh + 1
        updaters := s.updaters.set s.fresh
          { value := (Updater.new s.fresh c config).setSink sink } }
  | hold {s : Session} (id : UpdaterId) : Calm s (s.hold (.updater id))
  | setter {s : Session} (id : UpdaterId) {f : Updater → Updater} (f_setter : Updater.Setter f) :
      Calm s (s.onUpdater id fun u w => (w, f u))
  | post {s : Session} (id : UpdaterId) : Calm s (s.onUpdater id fun u w => u.post w)
  | latch {s : Session} (id : UpdaterId) (frame : Frame) (issued : Option FenceClass) :
      Calm s (s.onUpdater id fun u w => u.latch w frame issued)
  | bind {s : Session} {id : UpdaterId} {t : TextureId} (forceFilter : Bool)
      (transform : TextureTransform) (crop : Rect) (held : 0 < s.owners.count t)
      (there : s.updaters.contains id) :
      Calm s ((s.onWorld (·.share t)).onUpdater id fun u w =>
        u.bind w forceFilter transform crop t)

/-- One thing that can happen in a session. -/
inductive Step : Session → Session → Prop
  | calm {s s' : Session} (h : Calm s s') : Step s s'
  | makeContext {s : Session} (b : Backend) : Step s (s.makeContext b).1
  /-- An apply for which no source is asked. -/
  | idle {s : Session} {id : UpdaterId} {u : Updater} (found : s.updaterOf? id = some u)
      (live : ¬ u.destroyed) (idle : (u.beginApply s.world).answer = none) :
      Step s (s.onUpdater id fun u w => ((u.beginApply w).world, (u.beginApply w).object))
  /-- An apply for which the source is asked. -/
  | ask {s : Session} {id : UpdaterId} {u : Updater} {ref : SourceRef}
      (found : s.updaterOf? id = some u) (live : ¬ u.destroyed)
      (asked : (u.beginApply s.world).answer = some ref) :
      Step s ((s.onUpdater id fun u w =>
        ((u.beginApply w).world, (u.beginApply w).object)).record (.source ref .dequeueBegun))
  | attach {s : Session} (id : UpdaterId) (name : String) :
      Step s ({ s with fresh := s.fresh + 1 }.onUpdater id fun u w =>
        u.attach w ⟨s.fresh, name, id⟩)
  | detach {s : Session} (id : UpdaterId) : Step s (s.onUpdater id fun u w => u.detach w)
  | teardown {s : Session} (id : UpdaterId) (mode : TeardownMode) :
      Step s (s.onUpdater id fun u w => u.teardown w mode)
  | letGo {s : Session} (id : UpdaterId) : Step s (s.letGo (.updater id))

/-- A sequence of steps. -/
abbrev Steps : Session → Session → Prop := Relation.ReflTransGen Step

/-- A session that steps lead to from its start. -/
def Reachable (s : Session) : Prop := ∃ minimal b, Steps (start minimal b) s

variable {s s' : Session}

-- ==================================================== readings of steps

/-- What stands beside the world, the updaters and all that holds textures changes alone. -/
theorem Beside.parts (h : Beside s s') : s'.world = s.world ∧ s'.updaters = s.updaters
    ∧ s'.images = s.images ∧ s'.handles = s.handles ∧ s'.slots = s.slots
    ∧ s'.caches = s.caches := by
  have same := h.bearing
  unfold Session.bearing at same
  simpa only [Prod.mk.injEq] using same

/-- A calm change is a step. -/
theorem Calm.steps (h : Calm s s') : Steps s s' := .single (.calm h)

/-- A change of what stands beside is a calm one. -/
theorem Beside.steps (h : Beside s s') : Steps s s' := (Calm.aside h).steps

end Session

end LayerFeed
