/-
Twins apply their updaters alike. The source of the updater runs the same script in both sessions
and answers the same frame, which is forced in the second one (`dequeue`). Both latch it, and show
the same, if imports into the updater's context work when the source has answered
(`latchFrame`). That can be seen after the apply, because from then on it leaves contexts alone
(`answered`, `apply`).
-/
import LayerFeed.Proofs.Reuse.Session
import LayerFeed.Proofs.Session.Applied

namespace LayerFeed.Session

open World

variable {A : Sight → Prop} {s s' : Session}

namespace Twins

-- ==================================================== callbacks

variable {owner : Option UpdaterId} {state : Option ContextId} {fences fences' : DequeueFences}
  (twins : Twins A s s')

include twins

/-- New settings of a backend on both sides. -/
theorem adjustBackend (c : ContextId) (settings : List BackendSetting) :
    Twins A (s.onWorld (·.adjustBackend c settings))
      (s'.onWorld (·.adjustBackend c settings)) := by
  refine twins.grow ?_ (List.Subset.refl _) (List.Subset.refl _)
  show Table.modify _ _ _ = Table.modify _ _ _
  rw [twins.contexts]

/-- A callback on both sides, with fences of one context. -/
theorem callback (item : ScriptItem) (context : fences'.gate.context = fences.gate.context) :
    Twins A (s.callback owner state fences item).session
      (s'.callback owner state fences' item).session := by
  cases item with
  | fence useSync =>
    exact twins.worlds (fences.createFence_writes _ useSync) (fences'.createFence_writes _ useSync)
  | wait fd => exact twins.worlds (fences.gate.wait_writes _ fd) (fences'.gate.wait_writes _ fd)
  | notify =>
    cases owner with
    | none => exact twins
    | some id =>
      exact twins.onUpdater (P := fun _ => True) id (fun _ _ => .record trivial) fun held =>
        Updater.post_twins held _ _
  | destroy =>
    cases state with
    | none => exact twins
    | some c => exact (twins.destroyContext owner c).record _ _
  | adjust settings =>
    unfold Session.callback
    rw [context]
    exact twins.adjustBackend _ settings

/-- A script on both sides, with fences of one context. -/
theorem runScript (items : List ScriptItem)
    (context : fences'.gate.context = fences.gate.context) :
    Twins A (s.runScript owner state fences items).session
      (s'.runScript owner state fences' items).session := by
  induction items generalizing s s' fences fences' with
  | nil => exact twins
  | cons item items ih =>
    refine ih (twins.callback item context) ?_
    rw [callback_context, callback_context, context]

/-- A source answers the same frame in both sessions, forced in the second. -/
theorem dequeue (id : UpdaterId) (ref : SourceRef)
    (context : fences'.gate.context = fences.gate.context) :
    Twins A (s.dequeue id ref fences).session (s'.dequeue id ref fences').session
      ∧ (s'.dequeue id ref fences').answer = (s.dequeue id ref fences).answer.map Frame.forced
      ∧ ∀ f, (s.dequeue id ref fences).answer = some f → A f.sight := by
  have begun := twins.record (.source ref .dequeueBegun) (.source ref .dequeueBegun)
  have found := begun.sources.get? ref.id
  unfold Session.dequeue
  dsimp only
  generalize (s.record (.source ref .dequeueBegun)).sources.get? ref.id = o at found ⊢
  generalize (s'.record (.source ref .dequeueBegun)).sources.get? ref.id = o' at found ⊢
  cases found with
  | none => exact ⟨begun, rfl, nofun⟩
  | @some q q' same =>
    obtain ⟨frame, next, allowed⟩ := same.next
    obtain rfl := same.forced
    dsimp only
    rw [show q.forced.always = q.always from rfl, show q.forced.context = q.context from rfl,
      frame, Option.isSome_map]
    have taken : Twins A
        { s.record (.source ref .dequeueBegun) with
          sources := (s.record (.source ref .dequeueBegun)).sources.set ref.id q.next.2 }
        { s'.record (.source ref .dequeueBegun) with
          sources := (s'.record (.source ref .dequeueBegun)).sources.set ref.id q.forced.next.2 } :=
      { begun with sources := begun.sources.set ref.id next }
    split
    · exact ⟨(taken.runScript q.script context).record _ _, rfl, allowed⟩
    · exact ⟨taken, rfl, nofun⟩

end Twins

-- ==================================================== applying

variable {u : Updater} {id : UpdaterId} {ref : SourceRef}

theorem onUpdater_contexts {P : Entry → Prop} {f : Updater → World → World × Updater}
    (writes : ∀ u w, Writes P w (f u w).1) (s : Session) (id : UpdaterId) :
    (s.onUpdater id f).world.contexts = s.world.contexts := by
  unfold onUpdater
  cases s.updaters.get? id with
  | none => rfl
  | some held => exact (writes _ _).contexts

theorem letGo_contexts (s : Session) (p : Participant) :
    (s.letGo p).world.contexts = s.world.contexts := by
  cases p with
  | updater id =>
    unfold letGo
    dsimp only
    split
    · split
      · exact (Updater.discard_writes _ _).contexts
      · rfl
    · rfl
  | observer id =>
    unfold letGo
    dsimp only
    split
    · split <;> rfl
    · rfl

/-- The contexts are settled once the source of an updater has answered. -/
theorem latchFrame_contexts (s : Session) (id : UpdaterId) (ref : SourceRef)
    (fences : DequeueFences) :
    (s.latchFrame id ref fences).world.contexts
      = (s.dequeue id ref fences).session.world.contexts := by
  unfold latchFrame
  dsimp only
  split
  · exact onUpdater_contexts (fun u w => u.latch_writes w _ _) _ id
  · rfl

/-- An apply that asks a source, from its first part on. -/
theorem apply_asks (found : s.updaterOf? id = some u) (live : ¬ u.destroyed)
    (asked : (u.beginApply s.world).answer = some ref) :
    s.apply id = ((((s.hold (.updater id)).onUpdater id fun u w =>
        ((u.beginApply w).world, (u.beginApply w).object)).latchFrame id ref u.fences).onUpdater id
      fun u w => (w, u.commitTransform)).letGo (.updater id) := by
  unfold Session.apply
  rw [found]
  dsimp only
  rw [if_neg live, show (u.beginApply (s.hold (.updater id)).world).answer = some ref from asked]

/-- When the source of an applied updater has answered, the world is in order, the updater is on
the context that it was on, and the contexts are what they are after the apply. -/
theorem answered (kept : s.Kept) (found : s.updaterOf? id = some u) (live : ¬ u.destroyed)
    (asked : (u.beginApply s.world).answer = some ref) :
    let dequeued := (((s.hold (.updater id)).onUpdater id fun u w =>
      ((u.beginApply w).world, (u.beginApply w).object)).dequeue id ref u.fences).session
    dequeued.world.Ledger ∧ (∀ v, dequeued.updaterOf? id = some v → v.context = u.context)
      ∧ (s.apply id).world.contexts = dequeued.world.contexts := by
  have contexts := apply_asks found live asked
  obtain ⟨h, entered, rfl⟩ := Option.map_eq_some_iff.1 found
  have here : s.isLive (.updater id) := by
    show (s.updaters.get? id).isSome
    rw [entered]
    rfl
  have holding : Moves none s (s.hold (.updater id)) := hold_moves s (.updater id)
  have owed := (kept.backed id).hold here
  rw [count_updater, if_pos rfl] at owed
  have held : (s.hold (.updater id)).updaters.get? id = some { h with holds := h.holds + 1 } := by
    rw [hold_get?, if_pos rfl, entered, Option.map_some]
  obtain ⟨-, waits⟩ := ask_goes (kept.order.steps holding.steps) held live asked owed
  obtain ⟨-, -, has, -, same⟩ := Updater.beginApply_asks asked
  have begun : ¬ (h.value.beginApply s.world).object.destroyed := by rwa [same]
  obtain ⟨goes, -⟩ := dequeue_goes waits has begun
  refine ⟨(Steps.sound waits.order.sound goes.moves.steps).ledger, fun v there => ?_, ?_⟩
  · obtain ⟨attached, mailbox, object⟩ := beginApply_object h.value s.world
    have context : (h.value.beginApply s.world).object.context = h.value.context := by
      rw [object]
      rfl
    rw [(dequeue_untouched waits there).1]
    exact context
  · rw [contexts, letGo_contexts, onUpdater_contexts (P := fun _ => True) (fun _ w => .refl w),
      latchFrame_contexts]

namespace Twins

variable (twins : Twins A s s')
  (described : ∀ a b, A a → A b → a.buffer = b.buffer → a.desc = b.desc)

include twins described

/-- Both sessions latch the frame that they dequeue, where imports work. -/
theorem latchFrame {fences fences' : DequeueFences}
    (context : fences'.gate.context = fences.gate.context)
    (ledger : (s.dequeue id ref fences).session.world.Ledger)
    (ledger' : (s'.dequeue id ref fences').session.world.Ledger)
    (serves : ∀ u, (s.dequeue id ref fences).session.updaterOf? id = some u →
      (s.dequeue id ref fences).session.world.serves u.context) :
    Twins A (s.latchFrame id ref fences) (s'.latchFrame id ref fences') := by
  obtain ⟨asked, answer, allowed⟩ := twins.dequeue id ref context
  unfold Session.latchFrame
  dsimp only
  rw [answer]
  cases dequeued : (s.dequeue id ref fences).answer with
  | none => exact asked
  | some frame =>
    refine asked.deal id (fun u w => u.latch_writes w _ _) (fun u w => u.latch_writes w _ _) ?_
    intro u u' found found' held
    have works := serves u found
    refine Updater.latch_twins held described ledger ledger' works ?_ (allowed frame dequeued) _ _
    rwa [serves_congr asked.contexts]

/-- An apply, if imports work for the updater. -/
theorem apply (kept : s.Kept) (kept' : s'.Kept)
    (serves : ∀ u, s.updaterOf? id = some u → (s.apply id).world.serves u.context) :
    Twins A (s.apply id) (s'.apply id) := by
  have same := twins.updaterOf? id
  cases found : s.updaterOf? id with
  | none =>
    rw [found] at same
    generalize found' : s'.updaterOf? id = o at same
    cases same
    unfold Session.apply
    rw [found, found']
    exact twins
  | some u =>
    rw [found] at same
    generalize found' : s'.updaterOf? id = o at same
    cases same with
    | @some _ u' same =>
      have gone : u'.destroyed = u.destroyed := by cases same; rfl
      by_cases live : u.destroyed
      · unfold Session.apply
        rw [found, found']
        dsimp only
        rw [gone, if_pos live, if_pos live]
        exact twins.record _ _
      · have held := twins.hold (.updater id)
        have begun := held.onUpdater
          (f := fun u w => ((u.beginApply w).world, (u.beginApply w).object)) id
          (fun u w => u.beginApply_writes (P := fun _ => True) (fun _ => trivial) w)
          fun held => (Updater.beginApply_twins held _ _).1
        have answer := (Updater.beginApply_twins same s.world s'.world).2
        unfold Session.apply
        rw [found, found']
        dsimp only
        rw [gone, if_neg live, if_neg live,
          show (u'.beginApply (s'.hold (.updater id)).world).answer
            = (u.beginApply s.world).answer from answer,
          show (u.beginApply (s.hold (.updater id)).world).answer
            = (u.beginApply s.world).answer from rfl]
        refine Twins.letGo (Twins.setter ?_ id .commitTransform) _
        cases asked : (u.beginApply s.world).answer with
        | none => exact begun
        | some ref =>
          obtain ⟨ledger, context, contexts⟩ := answered kept found live asked
          obtain ⟨ledger', -, -⟩ := answered kept' found' (by rwa [gone]) (answer.trans asked)
          refine begun.latchFrame described (Updater.context_twins same) ledger ledger' ?_
          intro v there
          rw [context v there, ← serves_congr contexts]
          exact serves u found

end Twins

end LayerFeed.Session
