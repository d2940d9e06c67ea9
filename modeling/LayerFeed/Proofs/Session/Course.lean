/-
The course of a session as it concerns one updater. What happens elsewhere puts nothing
down of the updater's doing, and before its number is given nothing of its doing is in the
history at all (`Moves.born`). So a law that ties an updater to what the history tells of
it is proved for a newborn updater and for the ways in which a move can have to do with it,
and then holds in every run (`run_life`).

The first such law is that an updater has no slots once it is torn down (`Deal.bare`): it
takes no frame over any more.
-/
import LayerFeed.Proofs.Session.Run

namespace LayerFeed

open Owners World

-- ==================================================== entries that are no remarks

/-- A call to a backend, or the loss of a context, is nobody's doing. -/
theorem Entry.by?_of_not_remark {e : Entry} (call : ¬ e.isRemark) : e.by? = none := by
  cases e with
  | backend => rfl
  | note => rfl
  | _ => exact absurd rfl call

/-- A call of a backend is not by any updater, and neither is the loss of a context. -/
theorem Entry.notBy_of_not_remark {e : Entry} (call : ¬ e.isRemark) (i : UpdaterId) :
    e.NotBy i := by
  intro made
  rw [by?_of_not_remark call] at made
  cases made

/-- By neither is a frame taken over. -/
theorem Entry.taken?_of_not_remark {e : Entry} (call : ¬ e.isRemark) : e.taken? = none := by
  cases e with
  | latched => exact absurd rfl call
  | _ => rfl

/-- Whatever becomes of a layer is its updater's doing. -/
theorem Entry.mark?_of_notBy {e : Entry} {i : UpdaterId} (other : e.NotBy i) :
    e.mark? i = none := by
  have ne : ∀ {id : UpdaterId}, e.by? = some id → id ≠ i := by
    rintro id made rfl
    exact other made
  cases e with
  | event id sink event =>
    cases event with
    | tornDown mode n released => exact if_neg (ne rfl)
    | _ => rfl
  | bound id forceFilter transform crop t => exact if_neg (ne rfl)
  | _ => rfl

/-- And neither is a mark. -/
theorem Entry.mark?_of_not_remark {e : Entry} (call : ¬ e.isRemark) (i : UpdaterId) :
    e.mark? i = none :=
  mark?_of_notBy (e.notBy_of_not_remark call i)

/-- What passes put down: of remarks those that are allowed. -/
theorem World.Passes.history {P : Entry → Prop} {m : Manner} {w w' : World} {f f' r : Owners}
    (h : Passes P m w f w' f') (owned : w.Owned (f + r)) :
    ∃ es, w'.history = w.history ++ es ∧ ∀ e ∈ es, e.isRemark → P e :=
  ((h.frame r).transfer owned).1.history

namespace Session

variable {s s' : Session} {i j : UpdaterId} {h : Held Updater} {n : Nat} {x : World × Updater}
  {locked : Option UpdaterId}

theorem updaterOf?_of_get? (entered : s.updaters.get? i = some h) :
    s.updaterOf? i = some h.value := by
  rw [updaterOf?, entered, Option.map_some]

-- ==================================================== what is put down

/-- What happens elsewhere writes nothing in the name of `i`. -/
theorem Elsewhere.history (elsewhere : Elsewhere i s s') (sound : s.Sound) :
    ∃ es, s'.world.history = s.world.history ++ es ∧ ∀ e ∈ es, e.NotBy i := by
  have owned := sound.owned
  rw [owners_eq_holdings s i, add_comm] at owned
  obtain ⟨es, grown, told⟩ := elsewhere.passes.history owned
  refine ⟨es, grown, fun e mem => ?_⟩
  by_cases remark : e.isRemark
  · exact told e mem remark
  · exact e.notBy_of_not_remark remark i

/-- A deed of `i` adds to the history, and every remark in what it adds is about that deed. -/
theorem Deed.history (sound : s.Sound) (sourced : s.Sourced) (entered : s.updaters.get? i = some h)
    (deed : Deed s i h.value n x) :
    ∃ es, x.1.history = s.world.history ++ es
      ∧ ∀ e ∈ es, e.isRemark → Tells s.world i h.value x e := by
  have owned := sound.owned
  rw [owners_eq_besides entered] at owned
  exact (deed.passes sound sourced entered (m := .loose) (.inl (by decide)) 0).history
    (r := s.besides i) (by rwa [add_zero])

-- ==================================================== numbers

/-- Nobody does anything before its number is given. -/
def Born (s : Session) : Prop := ∀ e ∈ s.world.history, ∀ j, e.by? = some j → j < s.fresh

/-- Nothing is written in a session without entries. -/
theorem born_new (minimal : Bool) : ({ minimal } : Session).Born := by
  intro e mem
  cases mem

/-- Nothing is written in the name of an updater that is still to come. -/
theorem Born.notBy (born : s.Born) (unborn : s.fresh ≤ i) :
    ∀ e ∈ s.world.history, e.NotBy i :=
  fun e mem made => absurd (born e mem i made) (Nat.not_lt.2 unborn)

/-- A move writes in the names of given numbers only. -/
theorem Move.born (order : s.InOrder) (move : Move locked s s') (born : s.Born) : s'.Born := by
  intro e mem j made
  refine Nat.lt_of_not_le fun unborn => ?_
  -- the number was not given, so the move is not one of that updater
  have late : s.fresh ≤ j := Nat.le_trans move.fresh unborn
  have silent : ∀ e ∈ s.world.history, e.NotBy j := born.notBy late
  have given : ∀ {h : Held Updater}, s.updaters.get? j = some h → False := fun entered =>
    absurd (order.sound.numbered.updaters j _ entered).1 (Nat.not_lt.2 late)
  cases move.deal order.sound order.sourced j with
  | elsewhere elsewhere =>
    obtain ⟨es, grown, others⟩ := elsewhere.history order.sound
    rw [grown] at mem
    rcases List.mem_append.1 mem with mem | mem
    · exact silent e mem made
    · exact others e mem made
  | opens b => exact silent e mem made
  | comes new fresh world besides there =>
    rw [world] at mem
    exact silent e mem made
  | goes entered => exact given entered
  | deed entered => exact given entered

/-- And so do moves. -/
theorem Moves.born (order : s.InOrder) (moves : Moves locked s s') (born : s.Born) : s'.Born := by
  induction moves with
  | refl => exact born
  | tail before move ih => exact move.born (order.steps (Moves.steps before)) ih

-- ==================================================== the course

/-- A number still to be given names no updater. -/
theorem updaterOf?_of_unborn (order : s.InOrder) (unborn : s.fresh ≤ i) :
    s.updaterOf? i = none := by
  cases entered : s.updaters.get? i with
  | none => rw [updaterOf?, entered, Option.map_none]
  | some h =>
    have given := (order.sound.numbered.updaters i h entered).1
    exact absurd given (Nat.not_lt.2 unborn)

/-- A session in which the number of updater `i` is given, and nothing was done by it. -/
structure Newborn (i : UpdaterId) (s : Session) : Prop where
  given : i < s.fresh
  silent : ∀ e ∈ s.world.history, e.NotBy i
  new : ∀ u, s.updaterOf? i = some u →
    ∃ c config sink, u = (Updater.new i c config).setSink sink

/-- The move by which a number is given. -/
theorem Deal.newborn (order : s.InOrder) (born : s.Born) (deal : Deal i locked s s')
    (unborn : s.fresh ≤ i) (given : i < s'.fresh) : s'.Newborn i := by
  have silent := born.notBy unborn
  have absent := updaterOf?_of_unborn order unborn
  cases deal with
  | elsewhere elsewhere =>
    obtain ⟨es, grown, others⟩ := elsewhere.history order.sound
    refine ⟨given, ?_, fun u there => ?_⟩
    · rw [grown]
      exact fun e mem => (List.mem_append.1 mem).elim (silent e) (others e)
    · rw [elsewhere.same, absent] at there
      cases there
  | opens b =>
    refine ⟨given, silent, fun u there => ?_⟩
    rw [show (s.makeContext b).1.updaterOf? i = s.updaterOf? i from rfl, absent] at there
    cases there
  | comes new fresh world besides there =>
    refine ⟨given, by rwa [world], fun u there' => ?_⟩
    rw [there] at there'
    cases there'
    exact ⟨_, _, _, rfl⟩
  | goes entered =>
    rw [updaterOf?_of_get? entered] at absent
    cases absent
  | deed entered =>
    rw [updaterOf?_of_get? entered] at absent
    cases absent

/-- What is kept in all that a move can have to do with updater `i`, once its number is given,
is kept by every sequence of moves. -/
theorem Moves.course {I : Session → Prop} (order : s.InOrder) (moves : Moves none s s')
    (given : i < s.fresh) (start : I s)
    (deal : ∀ a b, a.InOrder → i < a.fresh → Deal i none a b → I a → I b) : I s' := by
  induction moves with
  | refl => exact start
  | @tail a b before move ih =>
    have order' := order.steps (Moves.steps before)
    exact deal a b order' (Nat.lt_of_lt_of_le given (Moves.fresh before))
      (move.deal order'.sound order'.sourced i) ih

/-- What is true where the number of updater `i` is given, and is kept from then on. -/
theorem Moves.life {I : Session → Prop} (order : s.InOrder) (born : s.Born)
    (moves : Moves none s s') (unborn : s.fresh ≤ i) (given : i < s'.fresh)
    (newborn : ∀ a, a.Newborn i → I a)
    (deal : ∀ a b, a.InOrder → i < a.fresh → Deal i none a b → I a → I b) : I s' := by
  induction moves with
  | refl => exact absurd given (Nat.not_lt.2 unborn)
  | @tail a b before move ih =>
    have order' := order.steps (Moves.steps before)
    have dealt := move.deal order'.sound order'.sourced i
    rcases Nat.lt_or_ge i a.fresh with given' | unborn'
    · exact deal a b order' given' dealt (ih given')
    · exact newborn b (dealt.newborn order' (Moves.born order before born) unborn' given)

/-- The start of a session goes by moves itself, from the session with nothing in it. -/
theorem start_moves (minimal : Bool) (b : Backend) : Moves none { minimal } (start minimal b) :=
  (addState_goes _ "s" b).moves

/-- What is true of every newborn updater, and kept in all that a move can have to do with it,
is true of it in every run. -/
theorem run_life {I : Session → Prop} (newborn : ∀ a, a.Newborn i → I a)
    (deal : ∀ a b, a.InOrder → i < a.fresh → Deal i none a b → I a → I b) (minimal : Bool)
    (b : Backend) (commands : List Command) (given : i < ((start minimal b).run commands).fresh) :
    I ((start minimal b).run commands) :=
  Moves.life (inOrder_new minimal) (born_new minimal)
    ((start_moves minimal b).trans (run_goes (kept_start minimal b) commands).moves)
    (Nat.zero_le i) given newborn deal

/-- Before its number is given nothing is done by an updater in any run. -/
theorem run_notBy (minimal : Bool) (b : Backend) (commands : List Command)
    (unborn : ((start minimal b).run commands).fresh ≤ i) :
    ∀ e ∈ ((start minimal b).run commands).world.history, e.NotBy i :=
  (Moves.born (inOrder_new minimal)
    ((start_moves minimal b).trans (run_goes (kept_start minimal b) commands).moves)
    (born_new minimal)).notBy unborn

/-- An updater that is found has its number behind it. -/
theorem given_of_found (order : s.InOrder) {u : Updater} (found : s.updaterOf? i = some u) :
    i < s.fresh := by
  refine Nat.lt_of_not_le fun unborn => ?_
  rw [updaterOf?_of_unborn order unborn] at found
  cases found

-- ==================================================== without slots

end Session

namespace Updater

/-- An updater that is torn down has no slots and no current one. -/
def Bare (u : Updater) : Prop := u.destroyed → u.cache.slots = ∅ ∧ u.currentSlot = none

variable {u : Updater}

/-- What is pending in an updater is no concern of its slots. -/
theorem setter_slots {f : Updater → Updater} (setter : Setter f) (u : Updater) :
    (f u).cache = u.cache ∧ (f u).currentSlot = u.currentSlot := by
  cases setter with
  | size width height =>
    unfold setSize
    dsimp only
    split <;> exact ⟨rfl, rfl⟩
  | blend blend =>
    unfold setBlend
    dsimp only
    split <;> exact ⟨rfl, rfl⟩
  | transform | paint | sink => exact ⟨rfl, rfl⟩
  | commitTransform =>
    unfold commitTransform
    split <;> exact ⟨rfl, rfl⟩

/-- A setter leaves the configuration. -/
theorem setter_config {f : Updater → Updater} (setter : Setter f) (u : Updater) :
    (f u).config = u.config := by
  cases setter with
  | size width height =>
    unfold setSize
    dsimp only
    split <;> rfl
  | blend blend =>
    unfold setBlend
    dsimp only
    split <;> rfl
  | transform | paint | sink => rfl
  | commitTransform =>
    unfold commitTransform
    split <;> rfl

/-- Without a current slot there is nothing to sever. -/
theorem detach_slots (none : u.currentSlot = none) (w : World) :
    (u.detach w).2.cache = u.cache := by
  rw [detach_eq, releaseSource_object]
  unfold severActiveSlot
  dsimp only
  rw [none]

/-- The first that is said of an image that is bound is that it is. -/
theorem bind_grows (u : Updater) (w : World) (forceFilter : Bool) (transform : TextureTransform)
    (crop : Rect) (t : TextureId) : w.history ++ [.bound u.id forceFilter transform crop t]
      <+: (u.bind w forceFilter transform crop t).1.history :=
  letGoOf_grows (w.record (.bound u.id forceFilter transform crop t)) u.sizedLayer.image

/-- A teardown of a bare updater leaves it with no slot. -/
theorem teardown_bare (u : Updater) (bare : u.Bare) (w : World) (mode : TeardownMode) :
    (u.teardown w mode).2.cache.slots = ∅ ∧ (u.teardown w mode).2.currentSlot = none := by
  unfold teardown
  split
  · next gone => exact bare gone
  · exact ⟨rfl, rfl⟩

end Updater

namespace Session

variable {s s' : Session} {i : UpdaterId} {u : Updater} {n : Nat} {x : World × Updater}

/-- A deed puts no slot into an updater that is torn down. -/
theorem Deed.bare (deed : Deed s i u n x) (bare : u.Bare) : x.2.Bare := by
  cases deed with
  | callback callback =>
    rw [callback.untouched]
    exact bare
  | setter f_setter proper =>
    obtain ⟨cache, current⟩ := Updater.setter_slots f_setter u
    unfold Updater.Bare
    dsimp only
    rw [(setter_sameSource f_setter u).destroyed, cache, current]
    exact bare
  | bind | answer => exact bare
  | idle live idle =>
    intro gone
    exact absurd ((Updater.beginApply_idle idle).2.2.2.symm.trans gone) live
  | ask live asked =>
    intro gone
    exact absurd ((Updater.beginApply_asks asked).2.2.2.2.symm.trans gone) live
  | latch frame issued live answered =>
    intro gone
    exact absurd ((latch_destroyed u s.world frame issued).symm.trans gone) live
  | attach name =>
    obtain ⟨cache, slots, same⟩ := u.attach_object s.world ⟨s.fresh, name, i⟩
    rw [same]
    exact fun _ => ⟨slots, rfl⟩
  | detach =>
    intro gone
    obtain ⟨cache, same⟩ := u.detach_object s.world
    rw [same] at gone
    rw [Updater.detach_slots (bare gone).2, same]
    exact ⟨(bare gone).1, rfl⟩
  | teardown mode => exact fun _ => u.teardown_bare bare _ mode

/-- In no session is there an updater that was torn down and has slots. -/
def Bare (s : Session) (i : UpdaterId) : Prop := ∀ u, s.updaterOf? i = some u → u.Bare

/-- A newborn updater is not torn down. -/
theorem Newborn.bare (newborn : s.Newborn i) : s.Bare i := by
  intro u there
  obtain ⟨c, config, sink, rfl⟩ := newborn.new u there
  nofun

/-- Nor does a deal. -/
theorem Deal.bare (deal : Deal i none s s') (bare : s.Bare i) : s'.Bare i := by
  intro v there'
  cases deal with
  | elsewhere elsewhere =>
    rw [elsewhere.same] at there'
    exact bare v there'
  | opens b => exact bare v there'
  | comes new fresh world besides there =>
    rw [there] at there'
    cases there'
    nofun
  | goes entered world fresh besides gone =>
    rw [updaterOf?, gone] at there'
    cases there'
  | deed entered deed free world fresh besides there =>
    rw [there] at there'
    cases there'
    exact deed.bare (bare _ (updaterOf?_of_get? entered))

end Session

end LayerFeed
