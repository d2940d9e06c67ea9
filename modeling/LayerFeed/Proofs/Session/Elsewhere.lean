/-
What a move has to do with one updater. A deed of the updater passes on what the updater
holds (`Deed.passes`). The updater may come, and it may go, which is when its last holder
lets go. All other moves happen `Elsewhere`: the updater is what it was, and what is done
is done with what stands besides it. This is the frame rule of a session, and with it a
law about one updater is proved from that updater's own deeds (`Move.deal`).
-/
import LayerFeed.Proofs.Session.Move
import LayerFeed.Proofs.Source.Protocol

namespace LayerFeed

open Owners World

/-- An entry does not tell of an updater's doing. -/
def Entry.NotBy (i : UpdaterId) (e : Entry) : Prop := e.by? ≠ some i

/-- An entry that is nobody's doing is not this updater's. -/
theorem Entry.Plain.notBy {e : Entry} (h : e.Plain) (i : UpdaterId) : e.NotBy i := by
  rw [Entry.NotBy, show e.by? = none from h]
  nofun

/-- The doing of one updater is not that of another. -/
theorem Entry.By.notBy {e : Entry} {i j : UpdaterId} (h : e.By j) (ne : i ≠ j) : e.NotBy i :=
  fun same => ne (h i same)

-- ==================================================== two entries of a table

namespace Table

variable {κ α : Type} [DecidableEq κ] {f : α → Owners} {k j : κ}

/-- Beside an entry, a value entered in its place is not seen. -/
theorem owners_erase_set (T : Table κ α) (k : κ) (v : α) :
    ((T.set k v).erase k).owners f = (T.erase k).owners f := by
  have split := owners_of_get? (f := f) (T.get?_set_self k v)
  rw [owners_set] at split
  exact (add_left_cancel split).symm

/-- Two entries may be taken out in either order. -/
theorem owners_erase_erase (T : Table κ α) (k j : κ) :
    ((T.erase j).erase k).owners f = ((T.erase k).erase j).owners f := by
  by_cases same : k = j
  · rw [same]
  · have first := owners_erase (f := f) T k
    have second := owners_erase (f := f) T j
    rw [owners_erase (T.erase k) j, get?_erase_ne _ (Ne.symm same)] at first
    rw [owners_erase (T.erase j) k, get?_erase_ne _ same] at second
    rw [first, ← add_assoc, ← add_assoc, add_comm ((T.get? k).elim 0 f)] at second
    exact (add_left_cancel second).symm

/-- Beside an entry, a value entered elsewhere is held instead of the one it replaces. -/
theorem owners_erase_set_ne (T : Table κ α) (v : α) (ne : k ≠ j) :
    ((T.set j v).erase k).owners f = f v + ((T.erase k).erase j).owners f := by
  have entered : ((T.set j v).erase k).get? j = some v := by
    rw [get?_erase_ne _ (Ne.symm ne), get?_set_self]
  rw [owners_of_get? entered, owners_erase_erase]
  refine congrArg (f v + ·) ?_
  have first := owners_erase (f := f) ((T.set j v).erase j) k
  have second := owners_erase (f := f) (T.erase j) k
  rw [owners_erase_set, get?_erase_ne _ ne, get?_set_ne _ _ ne] at first
  rw [get?_erase_ne _ ne, first] at second
  exact (add_left_cancel second).trans (owners_erase_erase T k j)

end Table

namespace Session

variable {s s' : Session} {id i j : UpdaterId} {h : Held Updater} {n : Nat}
  {x : World × Updater} {m : Manner} {locked : Option UpdaterId}

-- ==================================================== what stands besides

/-- What else is held does not depend on the updater. -/
theorem besides_set_self (s : Session) (i : UpdaterId) (h : Held Updater) (n : Nat) (w : World) :
    ({ s with fresh := n, world := w, updaters := s.updaters.set i h } : Session).besides i
      = s.besides i :=
  congrArg (s.named + ·) (Table.owners_erase_set s.updaters i h)

/-- Besides one updater stand the named, any other updater, and the rest. -/
theorem besides_of_ne (entered : s.updaters.get? j = some h) (ne : i ≠ j) :
    s.besides i
      = h.value.owners
        + (s.named + ((s.updaters.erase i).erase j).owners (·.value.owners)) := by
  have there : (s.updaters.erase i).get? j = some h := by
    rw [Table.get?_erase_ne _ (Ne.symm ne), entered]
  rw [besides, Table.owners_of_get? there]
  abel

/-- Another updater in its place is part of what else is held. -/
theorem besides_set_ne (s : Session) (ne : i ≠ j) (h : Held Updater) (n : Nat) (w : World) :
    ({ s with fresh := n, world := w, updaters := s.updaters.set j h } : Session).besides i
      = h.value.owners
        + (s.named + ((s.updaters.erase i).erase j).owners (·.value.owners)) := by
  refine (congrArg (s.named + ·) (Table.owners_erase_set_ne s.updaters h ne)).trans ?_
  abel

/-- Another updater that goes away takes along what it holds. -/
theorem besides_erase (s : Session) (i j : UpdaterId) (w : World) :
    ({ s with updaters := s.updaters.erase j, world := w } : Session).besides i
      = s.named + ((s.updaters.erase i).erase j).owners (·.value.owners) :=
  congrArg (s.named + ·) (Table.owners_erase_erase s.updaters i j)

-- ==================================================== the passes of a deed

/-- The slot whose frame was shown before is one of the updater's cache. -/
theorem previous_owners (u : Updater) :
    ∃ r, u.owners = u.fences.previous.elim 0 Slot.owners + r := by
  unfold Updater.fences
  dsimp only
  cases u.currentSlot with
  | none => exact ⟨u.owners, (zero_add _).symm⟩
  | some slot =>
    rw [Option.bind_some]
    cases found : u.cache.get? slot with
    | none => exact ⟨u.owners, (zero_add _).symm⟩
    | some entry =>
      refine ⟨oneOf .image u.shownImage + (u.cache.slots.erase slot).owners Slot.owners, ?_⟩
      rw [Updater.owners, SlotCache.owners_of_get? found]
      dsimp only [Option.elim]
      abel

/-- A deed by which a frame is taken over, after the source has answered. -/
structure Latches (w : World) (u : Updater) (x : World × Updater) (frame : Frame) : Prop where
  latched : ∃ issued, x = u.latch w frame issued
  answered : u.Answered w

/-- What an entry of a deed tells. Only its updater has a part in it, and that a frame was
taken over it tells only where this was the deed. -/
structure Tells (w : World) (id : UpdaterId) (u : Updater) (x : World × Updater) (e : Entry) :
    Prop where
  own : e.By id
  taken : ∀ frame a, e.taken? = some (frame, a) →
    Latches w u x frame ∧ a = (u.resolution w frame).answer

/-- An entry of an updater that takes no frame over tells rightly. -/
theorem Tells.of_untaken {w : World} {u : Updater} {e : Entry} (own : e.By id)
    (untaken : e.taken? = none) : Tells w id u x e := by
  refine ⟨own, fun frame a taken => ?_⟩
  rw [untaken] at taken
  cases taken

/-- A deed passes on what its updater holds, and tells of nobody else. It is gentle, unless
it is a teardown under a lost context. -/
theorem Deed.passes (sound : s.Sound) (sourced : s.Sourced) (entered : s.updaters.get? id = some h)
    (deed : Deed s id h.value n x)
    (allowed : m ≠ .gentle ∨ x ≠ h.value.teardown s.world .contextLost) (r : Owners) :
    Passes (Tells s.world id h.value x) m s.world (h.value.owners + r) x.1 (x.2.owners + r) := by
  obtain ⟨-, own⟩ := sound.numbered.updaters id h entered
  have still : ∀ e : Entry, e.Still h.value.id → Tells s.world id h.value x e :=
    fun _ still => .of_untaken (own ▸ still.own) still.untaken
  have called : ∀ {ref : SourceRef} {call : SourceCall}, ref.owner = id →
      Tells s.world id h.value x (.source ref call) :=
    fun owner => .of_untaken (fun j same => (Option.some.inj same).symm.trans owner) rfl
  have owner : ∀ ref, h.value.source = some ref → ref.owner = id :=
    fun ref has => (sourced.own entered has).1
  have calls : ∀ ref call, h.value.source = some ref →
      Tells s.world id h.value x (.source ref call) := fun ref call has => called (owner ref has)
  have bound : ∀ forceFilter transform crop t,
      Tells s.world id h.value x (.bound h.value.id forceFilter transform crop t) :=
    fun _ _ _ _ => .of_untaken (fun j same => (Option.some.inj same).symm.trans own) rfl
  cases deed with
  | callback callback =>
    cases callback with
    | post => exact h.value.post_passes still
    | fence f useSync gate previous =>
      obtain ⟨others, owners⟩ := previous_owners h.value
      rw [owners, ← previous, add_assoc]
      exact f.createFence_passes (fun d => .of_untaken nofun rfl) useSync
  | setter f_setter proper =>
    dsimp only
    rw [setter_owners f_setter]
    exact .refl _ _ _ _
  | @bind t forceFilter transform crop held =>
    have counted : 0 < s.world.holders t := by rwa [sound.owned.held]
    exact Relation.ReflTransGen.trans (.single (.share (.inr counted)))
      (h.value.bind_passes forceFilter transform crop (bound _ _ _ _))
  | idle live idle =>
    dsimp only
    rw [h.value.beginApply_owners]
    exact h.value.beginApply_passes calls
  | ask live asked =>
    dsimp only
    rw [h.value.beginApply_owners]
    exact (h.value.beginApply_passes calls).trans
      (.remark _ rfl rfl (called (owner _ (Updater.beginApply_asks asked).1)))
  | answer results has => exact .remark _ rfl rfl (called (owner _ has))
  | latch frame issued live answered =>
    refine h.value.latch_passes still frame issued ?_ bound
    refine ⟨fun j same => (Option.some.inj same).symm.trans own, ?_⟩
    rintro _ _ ⟨⟩
    exact ⟨⟨⟨issued, rfl⟩, answered⟩, rfl⟩
  | attach name => exact h.value.attach_passes calls still _ (called rfl)
  | detach => exact h.value.detach_passes calls still
  | teardown mode =>
    refine h.value.teardown_passes calls still mode ?_ fun n released =>
      .of_untaken (fun j same => (Option.some.inj same).symm.trans own) rfl
    cases mode with
    | normal => exact .inl rfl
    | contextLost => exact .inr (allowed.resolve_right fun ne => ne rfl)

-- ==================================================== moves and one updater

/-- What happens elsewhere leaves an updater what it was. -/
structure Elsewhere (i : UpdaterId) (s s' : Session) : Prop where
  fresh : s.fresh ≤ s'.fresh
  same : s'.updaterOf? i = s.updaterOf? i
  passes : Passes (Entry.NotBy i) .loose s.world (s.besides i) s'.world (s'.besides i)

/-- All that a move can have to do with updater `i`. -/
inductive Deal (i : UpdaterId) (locked : Option UpdaterId) : Session → Session → Prop
  | elsewhere {s s' : Session} (h : Elsewhere i s s') : Deal i locked s s'
  | opens {s : Session} (b : Backend) : Deal i locked s (s.makeContext b).1
  | comes {s s' : Session} {c : ContextId} {config : Config} {sink : Sink}
      (new : i = s.fresh) (fresh : s'.fresh = s.fresh + 1) (world : s'.world = s.world)
      (besides : s'.besides i = s.besides i)
      (there : s'.updaterOf? i = some ((Updater.new i c config).setSink sink)) :
      Deal i locked s s'
  | goes {s s' : Session} {h : Held Updater} (entered : s.updaters.get? i = some h)
      (world : s'.world = h.value.discard s.world) (fresh : s'.fresh = s.fresh)
      (besides : s'.besides i = s.besides i) (gone : s'.updaters.get? i = none) :
      Deal i locked s s'
  | deed {s s' : Session} {h : Held Updater} {n : Nat} {x : World × Updater}
      (entered : s.updaters.get? i = some h) (deed : Deed s i h.value n x)
      (free : locked = some i → h.value.Callback s.world x) (world : s'.world = x.1)
      (fresh : s'.fresh = n) (besides : s'.besides i = s.besides i)
      (there : s'.updaterOf? i = some x.2) : Deal i locked s s'

theorem updaterOf?_congr (same : s'.updaters.get? i = s.updaters.get? i) :
    s'.updaterOf? i = s.updaterOf? i :=
  congrArg (Option.map Held.value) same

/-- What an aloof operation does, it does elsewhere. -/
theorem Aloof.elsewhere (h : Aloof s s') (sound : s.Sound) (i : UpdaterId) :
    Elsewhere i s s' where
  fresh := h.fresh
  same := updaterOf?_congr (by rw [h.updaters])
  passes := by
    have passes := (h.passes sound.owned).mono fun _ plain => plain.notBy i
    unfold besides
    rw [h.updaters]
    exact passes.frame _

/-- What stands beside changes elsewhere. -/
theorem Beside.elsewhere (h : Beside s s') (i : UpdaterId) : Elsewhere i s s' where
  fresh := h.fresh
  same := updaterOf?_congr (by rw [h.parts.2.1])
  passes := by
    rw [h.parts.1]
    refine (Passes.refl _ _ _ _).of_eq rfl ?_
    unfold besides
    rw [h.named, h.parts.2.1]

/-- What is done with another updater is done elsewhere. -/
theorem Elsewhere.of_ne (entered : s.updaters.get? j = some h) (ne : i ≠ j)
    {h' : Held Updater} (fresh : s.fresh ≤ n)
    (passes : ∀ r, Passes (Entry.NotBy i) .loose s.world (h.value.owners + r) x.1
      (h'.value.owners + r)) :
    Elsewhere i s { s with fresh := n, world := x.1, updaters := s.updaters.set j h' } where
  fresh := fresh
  same := updaterOf?_congr (Table.get?_set_ne _ _ ne)
  passes := (passes _).of_eq (besides_of_ne entered ne) (besides_set_ne s ne h' n x.1)

/-- One more holder, or one less, is nothing to what the updater holds. -/
theorem Elsewhere.of_holds (entered : s.updaters.get? j = some h) (k : Nat) (i : UpdaterId) :
    Elsewhere i s { s with updaters := s.updaters.set j { h with holds := k } } where
  fresh := Nat.le_refl _
  same := by
    unfold updaterOf?
    dsimp only
    rw [Table.get?_set]
    split
    · next same => rw [same, entered]; rfl
    · rfl
  passes := by
    refine (Passes.refl _ _ _ _).of_eq rfl ?_
    by_cases same : i = j
    · rw [same]
      exact besides_set_self s j _ s.fresh s.world
    · rw [besides_of_ne entered same]
      exact besides_set_ne s same _ s.fresh s.world

theorem Elsewhere.refl (i : UpdaterId) (s : Session) : Elsewhere i s s :=
  ⟨Nat.le_refl _, rfl, .refl _ _ _ _⟩

/-- An updater that is no longer held by anyone goes, and takes no frame over. -/
theorem discard_passes_of_sound (sound : s.Sound) (sourced : s.Sourced)
    (entered : s.updaters.get? id = some h) (harsh : m ≠ .gentle)
    (emptied : m = .loose ∨ (h.value.destroyed → h.value.cache.slots = ∅)) (r : Owners) :
    Passes (fun e => e.By id ∧ e.taken? = none) m s.world (h.value.owners + r)
      (h.value.discard s.world) r := by
  obtain ⟨-, own⟩ := sound.numbered.updaters id h entered
  refine h.value.discard_passes (fun ref call has => ⟨fun j same => ?_, rfl⟩)
    (fun _ still => ⟨own ▸ still.own, still.untaken⟩) harsh emptied
    fun _ _ _ => ⟨fun j same => (Option.some.inj same).symm.trans own, rfl⟩
  exact (Option.some.inj same).symm.trans (sourced.own entered has).1

/-- A move happens elsewhere, or opens a context, or the updater comes, goes or acts. -/
theorem Move.deal (sound : s.Sound) (sourced : s.Sourced) (move : Move locked s s')
    (i : UpdaterId) : Deal i locked s s' := by
  cases move with
  | aloof h => exact .elsewhere (h.elsewhere sound i)
  | beside h => exact .elsewhere (h.elsewhere i)
  | makeContext b => exact .opens b
  | newUpdater c config sink =>
    by_cases new : i = s.fresh
    · have there : ({ s with
          fresh := s.fresh + 1
          updaters := s.updaters.set s.fresh
            { value := (Updater.new s.fresh c config).setSink sink } } : Session).updaterOf? i
          = some ((Updater.new i c config).setSink sink) := by
        rw [new, updaterOf?, Table.get?_set_self, Option.map_some]
      refine .comes new rfl rfl ?_ there
      rw [new]
      exact besides_set_self s s.fresh _ (s.fresh + 1) s.world
    · refine .elsewhere ⟨Nat.le_succ _, updaterOf?_congr (Table.get?_set_ne _ _ new), ?_⟩
      refine (Passes.refl _ _ _ _).of_eq rfl ?_
      -- nobody was entered under the number before, and the new updater holds nothing
      have absent : (s.updaters.erase i).get? s.fresh = none := by
        rw [Table.get?_erase_ne _ (Ne.symm new), sound.numbered.unnamed]
      have rest := Table.owners_erase (f := fun h : Held Updater => h.value.owners)
        (s.updaters.erase i) s.fresh
      rw [absent] at rest
      refine (besides_set_ne s new _ (s.fresh + 1) s.world).trans ?_
      rw [besides, rest]
      exact add_left_comm 0 s.named _
  | hold id =>
    cases entered : s.updaters.get? id with
    | none =>
      simp only [Session.hold, Table.modify, entered]
      exact .elsewhere (.refl i s)
    | some h =>
      simp only [Session.hold, Table.modify, entered]
      exact .elsewhere (.of_holds entered (h.holds + 1) i)
  | letGo id =>
    unfold Session.letGo
    dsimp only
    cases entered : s.updaters.get? id with
    | none => exact .elsewhere (.refl i s)
    | some h =>
      dsimp only
      split
      · by_cases same : i = id
        · subst same
          refine .goes entered rfl rfl ?_ (Table.get?_erase_self _ _)
          refine (besides_erase s i i s.world).trans ?_
          rw [besides]
          refine congrArg (s.named + ·) ?_
          have rest := Table.owners_erase (f := fun h : Held Updater => h.value.owners)
            (s.updaters.erase i) i
          rw [Table.get?_erase_self] at rest
          exact ((zero_add _).symm.trans rest.symm)
        · refine .elsewhere ⟨Nat.le_refl _, updaterOf?_congr (Table.get?_erase_ne _ same), ?_⟩
          have passes := fun r => (discard_passes_of_sound sound sourced entered (m := .loose)
            (by decide) (.inl rfl) r).mono fun _ told => told.1.notBy same
          exact (passes _).of_eq (besides_of_ne entered same) (besides_erase s i id s.world)
      · exact .elsewhere (.of_holds entered _ i)
  | @deed id h n x entered deed free =>
    by_cases same : i = id
    · subst same
      refine .deed entered deed free rfl rfl (besides_set_self s i _ n x.1) ?_
      unfold updaterOf?
      rw [Table.get?_set_self, Option.map_some]
    · exact .elsewhere (.of_ne entered same deed.fresh fun r =>
        (deed.passes sound sourced entered (.inl (by decide)) r).mono
          fun _ tells => tells.own.notBy same)

end Session

end LayerFeed
