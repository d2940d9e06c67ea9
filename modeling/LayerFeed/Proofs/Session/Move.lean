/-
What sessions do, more finely than by steps. A move says which updater it is a deed of,
if of any, and a deed says all that the updater knew when it acted: that it was not
destroyed when it asked its source or took over a frame, that a fence was made with the
slot that it showed before. Every move is a sequence of steps (`Move.steps`), so all that
is known of steps is known of moves.

# Under a lock

While an updater asks its source for a frame nobody else can reach it. What can happen
then are moves with that updater `locked`: all moves but its own deeds, and of those the
two that the source brings about by its callbacks. So the updater is at the end what it
was, but for its mailbox, if it is there still (`Moves.intact`).
-/
import LayerFeed.Proofs.Session.Aloof

namespace LayerFeed

open Owners World

-- ==================================================== deeds of an updater

namespace Updater

/-- What the source of an updater brings about by its callbacks: a post, or a fence, for
which the buffer of the slot shown before is handed back. -/
inductive Callback (u : Updater) (w : World) : World × Updater → Prop
  | post : Callback u w (u.post w)
  | fence (f : DequeueFences) (useSync : Bool) (gate : f.gate = u.fences.gate)
      (previous : f.previous = u.fences.previous) :
      Callback u w ((f.createFence w useSync).world, u)

/-- A callback changes nothing of the updater but its mailbox. -/
theorem Callback.untouched {u : Updater} {w : World} {x : World × Updater}
    (callback : u.Callback w x) : x.2 = { u with mailbox := x.2.mailbox } := by
  cases callback <;> rfl

/-- On Vulkan, the buffer of the slot shown before is not withheld any more. -/
def HandedBack (u : Updater) (w : World) : Prop :=
  u.config.pipeline = .vulkan → ∀ slot t, u.fences.previous = some slot →
    slot.texture = some t → ¬ w.queueHeld t

/-- The source of an updater has just answered. If it made a fence, the buffer of the slot
shown before was handed back for it. -/
def Answered (u : Updater) (w : World) : Prop :=
  ∃ pre ref results, w.history = pre ++ [.source ref (.dequeued results)]
    ∧ u.source = some ref ∧ ((∃ f, .fence f ∈ results) → u.HandedBack w)

end Updater

namespace Session

/-- A deed of updater `id`, which is `u`: the next number to be given after it, the world
and the updater. -/
inductive Deed (s : Session) (id : UpdaterId) (u : Updater) : Nat → World × Updater → Prop
  | callback {x : World × Updater} (h : u.Callback s.world x) : Deed s id u s.fresh x
  /-- What is pending comes onto the layer only before the updater is torn down. -/
  | setter {f : Updater → Updater} (f_setter : Updater.Setter f)
      (proper : ¬ u.destroyed ∨ (f u).layer = u.layer) : Deed s id u s.fresh (s.world, f u)
  | bind {t : TextureId} (forceFilter : Bool) (transform : TextureTransform) (crop : Rect)
      (held : 0 < s.owners.count t) :
      Deed s id u s.fresh (u.bind (s.world.share t) forceFilter transform crop t)
  /-- An apply for which no source is asked. -/
  | idle (live : ¬ u.destroyed) (idle : (u.beginApply s.world).answer = none) :
      Deed s id u s.fresh ((u.beginApply s.world).world, (u.beginApply s.world).object)
  /-- An apply for which the source is asked. -/
  | ask {ref : SourceRef} (live : ¬ u.destroyed)
      (asked : (u.beginApply s.world).answer = some ref) :
      Deed s id u s.fresh
        ((u.beginApply s.world).world.record (.source ref .dequeueBegun),
          (u.beginApply s.world).object)
  /-- The source that was asked has answered. -/
  | answer {ref : SourceRef} (results : List CallbackResult) (has : u.source = some ref) :
      Deed s id u s.fresh (s.world.record (.source ref (.dequeued results)), u)
  | latch (frame : Frame) (issued : Option FenceClass) (live : ¬ u.destroyed)
      (answered : u.Answered s.world) : Deed s id u s.fresh (u.latch s.world frame issued)
  | attach (name : String) :
      Deed s id u (s.fresh + 1) (u.attach s.world ⟨s.fresh, name, id⟩)
  | detach : Deed s id u s.fresh (u.detach s.world)
  | teardown (mode : TeardownMode) : Deed s id u s.fresh (u.teardown s.world mode)

-- ==================================================== moves

/-- One thing that can happen in a session while no deed of `locked` is due but those that
its source brings about. -/
inductive Move (locked : Option UpdaterId) : Session → Session → Prop
  | aloof {s s' : Session} (h : Aloof s s') : Move locked s s'
  /-- Names and registrations change, those of updaters as well. -/
  | beside {s s' : Session} (h : Beside s s') : Move locked s s'
  | makeContext {s : Session} (b : Backend) : Move locked s (s.makeContext b).1
  | newUpdater {s : Session} (c : ContextId) (config : Config) (sink : Sink) :
      Move locked s { s with
        fresh := s.fresh + 1
        updaters := s.updaters.set s.fresh
          { value := (Updater.new s.fresh c config).setSink sink } }
  | hold {s : Session} (id : UpdaterId) : Move locked s (s.hold (.updater id))
  | letGo {s : Session} (id : UpdaterId) : Move locked s (s.letGo (.updater id))
  | deed {s : Session} {id : UpdaterId} {h : Held Updater} {n : Nat} {x : World × Updater}
      (entered : s.updaters.get? id = some h) (deed : Deed s id h.value n x)
      (free : locked = some id → h.value.Callback s.world x) :
      Move locked s { s with
        fresh := n
        world := x.1
        updaters := s.updaters.set id { h with value := x.2 } }

/-- A sequence of moves. -/
abbrev Moves (locked : Option UpdaterId) : Session → Session → Prop :=
  Relation.ReflTransGen (Move locked)

variable {s s' : Session} {id i : UpdaterId} {h : Held Updater} {n : Nat} {x : World × Updater}
  {locked : Option UpdaterId}

/-- Where nobody is locked, a deed is free. -/
theorem unlocked {p : Prop} (locked : none = some id) : p := by cases locked

/-- Without a lock all the more can happen. -/
theorem Move.unlock (h : Move locked s s') : Move none s s' := by
  cases h with
  | aloof h => exact .aloof h
  | beside h => exact .beside h
  | makeContext b => exact .makeContext b
  | newUpdater c config sink => exact .newUpdater c config sink
  | hold id => exact .hold id
  | letGo id => exact .letGo id
  | deed entered deed free => exact .deed entered deed unlocked

/-- What goes under the lock goes without it. -/
theorem Moves.unlock (h : Moves locked s s') : Moves none s s' :=
  Relation.ReflTransGen.mono (fun _ _ move => Move.unlock move) _ _ h

/-- An operation on an updater that is entered changes the world and that updater. -/
theorem onUpdater_eq (entered : s.updaters.get? id = some h)
    (f : Updater → World → World × Updater) :
    s.onUpdater id f = { s with
      world := (f h.value s.world).1
      updaters := s.updaters.set id { h with value := (f h.value s.world).2 } } := by
  simp only [onUpdater, entered]

/-- Where only the world changes, its updater is as it was. -/
theorem updaters_set_self (entered : s.updaters.get? id = some h) (w : World) :
    { s with world := w, updaters := s.updaters.set id { h with value := h.value } }
      = { s with world := w } := by
  rw [Table.set_of_get? entered]

-- ==================================================== moves are steps

/-- A deed goes by steps. -/
theorem Deed.steps (entered : s.updaters.get? id = some h) (deed : Deed s id h.value n x) :
    Steps s { s with
      fresh := n
      world := x.1
      updaters := s.updaters.set id { h with value := x.2 } } := by
  have found : s.updaterOf? id = some h.value := by rw [updaterOf?, entered, Option.map_some]
  have calm : ∀ {f : Updater → World → World × Updater}, Calm s (s.onUpdater id f) →
      Steps s { s with
        world := (f h.value s.world).1
        updaters := s.updaters.set id { h with value := (f h.value s.world).2 } } := by
    intro f calm
    rw [onUpdater_eq entered] at calm
    exact calm.steps
  cases deed with
  | callback deed =>
    cases deed with
    | post => exact calm (.post id)
    | fence f useSync gate previous =>
      rw [updaters_set_self entered]
      exact (Calm.createFence f useSync).steps
  | setter f_setter proper => exact calm (.setter id f_setter)
  | @bind t forceFilter transform crop held =>
    have bound := Calm.bind (s := s) forceFilter transform crop held (by
      rw [Table.contains, entered]
      rfl)
    rw [onUpdater_eq (s := s.onWorld (·.share t)) entered] at bound
    exact bound.steps
  | idle live idle =>
    have idled := Step.idle found live idle
    rw [onUpdater_eq entered] at idled
    exact .single idled
  | ask live asked =>
    have asks := Step.ask found live asked
    rw [onUpdater_eq entered] at asks
    exact .single asks
  | answer results has =>
    rw [updaters_set_self entered]
    exact (Calm.remark (.source _ (.dequeued results)) rfl rfl).steps
  | latch frame issued live answered => exact calm (.latch id frame issued)
  | attach name =>
    have attached := Step.attach (s := s) id name
    rw [onUpdater_eq (s := { s with fresh := s.fresh + 1 }) entered] at attached
    exact .single attached
  | detach =>
    have detached := Step.detach (s := s) id
    rw [onUpdater_eq entered] at detached
    exact .single detached
  | teardown mode =>
    have down := Step.teardown (s := s) id mode
    rw [onUpdater_eq entered] at down
    exact .single down

/-- A move goes by steps. -/
theorem Move.steps (h : Move locked s s') : Steps s s' := by
  cases h with
  | aloof h => exact h.steps
  | beside h => exact h.steps
  | makeContext b => exact .single (.makeContext b)
  | newUpdater c config sink => exact (Calm.newUpdater c config sink).steps
  | hold id => exact (Calm.hold id).steps
  | letGo id => exact .single (.letGo id)
  | deed entered deed free => exact deed.steps entered

/-- Moves go by steps. -/
theorem Moves.steps (h : Moves locked s s') : Steps s s' := by
  induction h with
  | refl => exact .refl
  | tail _ move ih => exact ih.trans move.steps

-- ==================================================== what stays under a lock

/-- An updater that is what it was, but for its mailbox. -/
def Untouched (h h' : Held Updater) : Prop :=
  h'.value = { h.value with mailbox := h'.value.mailbox }

/-- An updater that is untouched makes fences for the same gate and the same slot. -/
theorem Untouched.fences {h' : Held Updater} (same : Untouched h h') :
    h'.value.fences = h.value.fences := by
  rw [same]
  rfl

/-- Whoever is held counts one holder more. -/
theorem hold_get? (s : Session) (id i : UpdaterId) : (s.hold (.updater id)).updaters.get? i
    = if i = id then (s.updaters.get? id).map fun h => { h with holds := h.holds + 1 }
      else s.updaters.get? i :=
  Table.get?_modify _ _ _ _

/-- A holder of an updater that lets go: the updater goes away, or loses that holder. -/
theorem letGo_get? (s : Session) (id i : UpdaterId) : (s.letGo (.updater id)).updaters.get? i
    = if i = id then (s.updaters.get? id).bind fun h =>
        if h.holds ≤ 1 then none else some { h with holds := h.holds - 1 }
      else s.updaters.get? i := by
  unfold letGo
  dsimp only
  cases found : s.updaters.get? id with
  | none =>
    dsimp only
    split
    · next same => rw [same, found, Option.bind_none]
    · rfl
  | some h =>
    rw [Option.bind_some]
    dsimp only
    split
    · exact Table.get?_erase _ _ _
    · exact Table.get?_set _ _ _ _

theorem letGo_fresh (s : Session) (id : UpdaterId) : (s.letGo (.updater id)).fresh = s.fresh := by
  unfold letGo
  dsimp only
  cases s.updaters.get? id with
  | none => rfl
  | some h =>
    dsimp only
    split <;> rfl

/-- A deed gives numbers out, and takes none back. -/
theorem Deed.fresh {u : Updater} (deed : Deed s id u n x) : s.fresh ≤ n := by
  cases deed with
  | attach name => exact Nat.le_succ _
  | _ => exact Nat.le_refl _

/-- So does a move. -/
theorem Move.fresh (move : Move locked s s') : s.fresh ≤ s'.fresh := by
  cases move with
  | aloof h => exact h.fresh
  | beside h => exact h.fresh
  | makeContext | newUpdater => exact Nat.le_succ _
  | hold => exact Nat.le_refl _
  | letGo id => exact Nat.le_of_eq (letGo_fresh s id).symm
  | deed entered deed free => exact deed.fresh

/-- An updater that is gone does not come back. -/
theorem Move.absent (move : Move locked s s') (given : i < s.fresh)
    (absent : s.updaters.get? i = none) : s'.updaters.get? i = none := by
  cases move with
  | aloof h => rw [h.updaters, absent]
  | beside h => rw [h.parts.2.1, absent]
  | makeContext => exact absent
  | newUpdater => exact (Table.get?_set_ne _ _ (Nat.ne_of_lt given)).trans absent
  | hold id =>
    rw [hold_get?]
    split
    · next same => rw [← same, absent, Option.map_none]
    · exact absent
  | letGo id =>
    rw [letGo_get?]
    split
    · next same => rw [← same, absent, Option.bind_none]
    · exact absent
  | @deed id h n x entered deed free =>
    refine (Table.get?_set_ne _ _ fun same => ?_).trans absent
    rw [same, entered] at absent
    cases absent

/-- While an updater is locked it stays what it was, but for its mailbox, or it goes. -/
theorem Move.untouched (move : Move (some i) s s') (given : i < s.fresh)
    (entered : s.updaters.get? i = some h) :
    s'.updaters.get? i = none ∨ ∃ h', s'.updaters.get? i = some h' ∧ Untouched h h' := by
  cases move with
  | aloof aloof => exact .inr ⟨h, by rw [aloof.updaters, entered], rfl⟩
  | beside beside => exact .inr ⟨h, by rw [beside.parts.2.1, entered], rfl⟩
  | makeContext => exact .inr ⟨h, entered, rfl⟩
  | newUpdater =>
    exact .inr ⟨h, (Table.get?_set_ne _ _ (Nat.ne_of_lt given)).trans entered, rfl⟩
  | hold id =>
    rw [hold_get?]
    split
    · next same =>
      rw [← same, entered]
      exact .inr ⟨_, rfl, rfl⟩
    · exact .inr ⟨h, entered, rfl⟩
  | letGo id =>
    rw [letGo_get?]
    split
    · next same =>
      rw [← same, entered, Option.bind_some]
      split
      · exact .inl rfl
      · exact .inr ⟨_, rfl, rfl⟩
    · exact .inr ⟨h, entered, rfl⟩
  | @deed id v n x found deed free =>
    by_cases same : i = id
    · subst same
      rw [entered] at found
      cases found
      exact .inr ⟨_, Table.get?_set_self _ _ _, (free rfl).untouched⟩
    · exact .inr ⟨h, (Table.get?_set_ne _ _ same).trans entered, rfl⟩

/-- An updater that is untouched twice is untouched. -/
theorem Untouched.trans {h' h'' : Held Updater} (first : Untouched h h')
    (second : Untouched h' h'') : Untouched h h'' := by
  unfold Untouched at first second ⊢
  rw [second, first]

theorem Moves.fresh (moves : Moves locked s s') : s.fresh ≤ s'.fresh := by
  induction moves with
  | refl => exact Nat.le_refl _
  | tail _ move ih => exact Nat.le_trans ih move.fresh

/-- A locked updater that is there at the end was not touched. -/
theorem Moves.untouched (moves : Moves (some i) s s') (given : i < s.fresh)
    (entered : s.updaters.get? i = some h) :
    s'.updaters.get? i = none ∨ ∃ h', s'.updaters.get? i = some h' ∧ Untouched h h' := by
  induction moves with
  | refl => exact .inr ⟨h, entered, rfl⟩
  | tail before move ih =>
    have given' := Nat.lt_of_lt_of_le given (Moves.fresh before)
    rcases ih with absent | ⟨h', there, same⟩
    · exact .inl (move.absent given' absent)
    · rcases move.untouched given' there with absent | ⟨h'', there', same'⟩
      · exact .inl absent
      · exact .inr ⟨h'', there', same.trans same'⟩

end Session

end LayerFeed
