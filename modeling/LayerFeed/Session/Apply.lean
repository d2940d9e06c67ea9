/-
Applying an updater. Its source is asked for a frame when a post is in the
mailbox; while it looks for one, the source runs its script of callbacks.
-/
import LayerFeed.Session.Destroy

namespace LayerFeed.Session

/-- What callbacks leave: the session, the fences, and an answer. -/
structure Called (α : Type) where
  session : Session
  fences : DequeueFences
  answer : α

/-- One callback of a source, which `owner` asked for a frame. `state` is the
context of the source's render state. -/
def callback (s : Session) (owner : Option UpdaterId) (state : Option ContextId)
    (fences : DequeueFences) : ScriptItem → Called CallbackResult
  | .fence useSync =>
    let made := fences.createFence s.world useSync
    ⟨{ s with world := made.world }, made.object, .fence made.answer⟩
  | .wait fd =>
    let waited := fences.wait s.world fd
    ⟨{ s with world := waited.1 }, fences, .waited waited.2⟩
  | .notify =>
    match owner with
    | some id => ⟨s.onUpdater id fun u w => u.post w, fences, .done⟩
    | none => ⟨s, fences, .done⟩
  | .destroy =>
    match state with
    | some c =>
      let destroyed := s.destroyContext owner c
      ⟨destroyed.1.record (.destroyed destroyed.2), fences, .done⟩
    | none => ⟨s, fences, .done⟩
  | .adjust settings => ⟨s.onWorld (·.adjustBackend fences.gate.context settings), fences, .done⟩

/-- Callbacks stay with their context. -/
theorem callback_context {owner : Option UpdaterId} {state : Option ContextId}
    {fences : DequeueFences} (s : Session) (item : ScriptItem) :
    (s.callback owner state fences item).fences.gate.context = fences.gate.context := by
  cases item with
  | fence | wait | adjust => rfl
  | notify => cases owner <;> rfl
  | destroy => cases state <;> rfl

/-- All callbacks of a script, with their results in order. -/
def runScript (s : Session) (owner : Option UpdaterId) (state : Option ContextId)
    (fences : DequeueFences) : List ScriptItem → Called (List CallbackResult)
  | [] => ⟨s, fences, []⟩
  | item :: items =>
    let first := s.callback owner state fences item
    let rest := first.session.runScript owner state first.fences items
    ⟨rest.session, rest.fences, first.answer :: rest.answer⟩

/-- Asks a source for a frame, with fresh fence callbacks. A source without a
frame answers at once, unless it always runs its script. -/
def dequeue (s : Session) (id : UpdaterId) (ref : SourceRef) (fences : DequeueFences) :
    Called (Option Frame) :=
  let s := s.record (.source ref .dequeueBegun)
  match s.sources.get? ref.id with
  | none => ⟨s, fences, none⟩
  | some source =>
    let frame := source.next.1
    let s := { s with sources := s.sources.set ref.id source.next.2 }
    if frame.isSome || source.always then
      let ran := s.runScript (some id) source.context fences source.script
      ⟨ran.session.record (.source ref (.dequeued ran.answer)), ran.fences, frame⟩
    else ⟨s, fences, none⟩

/-- Asks the source of updater `id` for a frame and latches it. -/
def latchFrame (s : Session) (id : UpdaterId) (ref : SourceRef) (fences : DequeueFences) :
    Session :=
  let dequeued := s.dequeue id ref fences
  match dequeued.answer with
  | some frame =>
    dequeued.session.onUpdater id fun u w => u.latch w frame dequeued.fences.issued
  | none => dequeued.session

/-- Applies an updater: commits its pending properties and latches a frame if one
was posted. A destroyed updater is left alone. -/
def apply (s : Session) (id : UpdaterId) : Session :=
  match s.updaterOf? id with
  | none => s
  | some u =>
    if u.destroyed then s.onWorld (·.note .applyIgnored)
    else
      let s := s.hold (.updater id)
      let asked := (u.beginApply s.world).answer
      let s := s.onUpdater id fun u w => ((u.beginApply w).world, (u.beginApply w).object)
      let s := match asked with
        | some ref => s.latchFrame id ref u.fences
        | none => s
      let s := s.onUpdater id fun u w => (w, u.commitTransform)
      s.letGo (.updater id)

end LayerFeed.Session
