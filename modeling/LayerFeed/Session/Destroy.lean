/-
The end of a graphics context. The first time a render state's context is
destroyed it is marked lost, its registry is emptied, and every participant that
is still there is notified in the order of registration. All of them are held
until the last one is notified, so what a notification drops is notified all the
same and goes away at the end. A context that is already lost is left alone.

Notified observers may destroy contexts themselves. Each destruction that does
anything marks a context lost that was alive, so nesting is no deeper than there
are contexts.
-/
import LayerFeed.Session.Names

namespace LayerFeed.Session

/-- Something that destroys the context of a render state and answers how many
participants it notified. -/
abbrev Destroyer := Session → ContextId → Session × Nat

/-- One action of a notified observer. -/
def act (destroy : Destroyer) (s : Session) (o : Observer) (action : ObserverAction) : Session :=
  match action with
  | .count => s.record (.acted o.name action (some (s.observerCount o.context)))
  | .destroy =>
    let destroyed := destroy s o.context
    destroyed.1.record (.acted o.name action (some destroyed.2))
  | .register name =>
    let s := match s.observerNames.get? name with
      | some id => s.register o.context (.observer id)
      | none => s
    s.record (.acted o.name action none)
  | .letGo name => ((s.dropObserver name).dropUpdater name).record (.acted o.name action none)

/-- What a participant does when it is told that a context is destroyed. An
updater is torn down, except `locked`, whose apply is under way and which cannot
be reached before it ends. -/
def notify (destroy : Destroyer) (locked : Option UpdaterId) (c : ContextId) (s : Session)
    (p : Participant) : Session :=
  if (locked.map .updater) = some p then s
  else
    let s := s.record (.told c p)
    match p with
    | .updater id => s.onUpdater id fun u w => u.teardown w .contextLost
    | .observer id =>
      match s.observers.get? id with
      | some h =>
        let o := { h.value with notified := h.value.notified + 1 }
        let s := { s with observers := s.observers.set id { h with value := o } }
        let s := s.record (.notified o.name o.notified (s.world.alive o.context))
        o.actions.foldl (fun s action => act destroy s o action) s
      | none => s

/-- Destroys a context, with destructions nested at most `depth` deep. -/
def destroyWithin (locked : Option UpdaterId) : Nat → Destroyer
  | 0, s, _ => (s, 0)
  | depth + 1, s, c =>
    if s.world.alive c then
      let live := (s.registry c).filter s.isLive
      let s := { s.onWorld (·.loseContext c live.length) with
        registries := s.registries.set c []
        roll := s.roll ++ [.lost c locked] }
      let s := live.foldl hold s
      let s := live.foldl (notify (destroyWithin locked depth) locked c) s
      (live.foldl letGo s, live.length)
    else (s, 0)

/-- Destroys the context of a render state and answers how many participants
were notified. -/
def destroyContext (s : Session) (locked : Option UpdaterId) (c : ContextId) : Session × Nat :=
  destroyWithin locked s.world.contexts.size s c

end LayerFeed.Session
