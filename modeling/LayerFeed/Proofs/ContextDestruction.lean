/-
The destruction of a context, from end to end. All updaters that are registered with it are
torn down, and each says its last words once. Of the textures of the context, those that
these updaters alone held are abandoned in the call, and those that others hold as well are
abandoned when the last of their holders lets go, however much later; none of them is ever
deleted. Whatever the updaters are told after that, they call no backend and no source, but
for the drop of their sources as they go away (`Occurs.destruction`).

The textures are followed by what the history says of them from the loss on
(`Sound.ends_of_lost`), and by the owners that the notice of the loss leaves.
-/
import LayerFeed.Proofs.Conservation
import LayerFeed.Proofs.Session.Notice

namespace LayerFeed

open Owners World

namespace World

variable {w w' : World} {c : ContextId} {t : TextureId} {x : Texture} {pre es : List Entry}

-- ==================================================== textures of a lost context

/-- A texture is not deleted any more once its context is lost. -/
theorem Ledger.not_deleted (h : w.Ledger) (grown : w.history = pre ++ es) (lost : LostIn c pre)
    (found : w.texture? t = some x) (home : x.context = c) : t ∉ deletesIn es := by
  intro deleted
  obtain ⟨e, mem, deletes⟩ := List.mem_filterMap.1 deleted
  obtain ⟨before, after, rfl⟩ := List.append_of_mem mem
  rw [← List.append_assoc] at grown
  obtain ⟨d, rfl⟩ : ∃ d, e = .backend d (.deleted t) := by
    cases e with
    | backend d call =>
      cases call with
      | deleted u =>
        cases deletes
        exact ⟨d, rfl⟩
      | _ => cases deletes
    | _ => cases deletes
  obtain ⟨-, y, found', home', -⟩ := h.leaves _ _ _ grown d (.deleted t) t rfl rfl
  rw [found] at found'
  cases found'
  obtain ⟨n, told⟩ := lost
  obtain ⟨u, abandons⟩ := h.silent _ _ _ grown d (.deleted t) rfl
    ⟨n, List.mem_append_left _ (home' ▸ home ▸ told)⟩
  cases abandons

/-- A texture stays with its context. -/
theorem Ledger.same_context (h : w.Ledger) (h' : w'.Ledger) (grown : w'.history = w.history ++ es)
    (found : w.texture? t = some x) : ∃ y, w'.texture? t = some y ∧ y.context = x.context := by
  obtain ⟨c, b, d, mem⟩ := Session.mem_importsIn_iff.1 (h.mem_importsIn.2 (by rw [found]; rfl))
  obtain ⟨x', found', home, -⟩ := h.origin c t b d mem
  rw [found] at found'
  cases found'
  obtain ⟨y, there, home', -⟩ := h'.origin c t b d (by rw [grown]; exact List.mem_append_left _ mem)
  exact ⟨y, there, home'.trans home.symm⟩

end World

/-- By an entry no backend is called, and no source but to drop it. -/
def Entry.Parting : Entry → Prop
  | .backend _ _ => False
  | .source _ call => call = .dropped
  | _ => True

namespace Updater

variable {u : Updater}

/-- An updater of which nothing is left drops its source as it goes, and does nothing else. -/
theorem Spent.discard (spent : u.Spent) (w : World) : u.discard w = u.dropSource w := by
  have down : ∀ mode, u.teardown w mode = (w, u) := fun mode => if_pos spent.destroyed
  unfold Updater.discard SlotCache.discard shownImage
  dsimp only
  rw [down, spent.layer, spent.slots]
  rfl

theorem dropSource_parting (u : Updater) (w : World) :
    ∃ es, (u.dropSource w).history = w.history ++ es ∧ ∀ e ∈ es, e.Parting := by
  unfold dropSource
  cases u.source with
  | none => exact ⟨[], (List.append_nil _).symm, List.forall_mem_nil _⟩
  | some ref =>
    refine ⟨[.source ref .dropped], rfl, fun e mem => ?_⟩
    rw [List.mem_singleton.1 mem]
    rfl

theorem dropSource_alive (u : Updater) (w : World) (c : ContextId) :
    (u.dropSource w).alive c = w.alive c := by
  unfold dropSource
  split <;> rfl

end Updater

namespace Session

variable {s s' s₀ : Session} {c : ContextId} {ids : List UpdaterId} {i : UpdaterId}
  {t : TextureId} {x : Texture} {locked : Option UpdaterId} {command : Command} {name : String}
  {es : List Entry} {u : Updater} {n : Nat} {y : World × Updater}

/-- How a texture that is held when its context is lost ends: it is abandoned once nobody holds
it any more. -/
theorem Sound.ends_of_lost (sound : s.Sound) (sound' : s'.Sound)
    (grown : s'.world.history = s.world.history ++ es) (lost : LostIn c s.world.history)
    (found : s.world.texture? t = some x) (home : x.context = c) (held : 0 < x.holders) :
    (freesIn es).count t = (if s'.world.holders t = 0 then 1 else 0) ∧ t ∉ deletesIn es
      ∧ t ∉ freesIn s.world.history := by
  obtain ⟨y, there, home'⟩ := sound.ledger.same_context sound'.ledger grown found
  have kept : t ∉ freesIn s.world.history := by
    rw [sound.ledger.mem_freesIn, holders_eq found]
    exact fun freed => absurd freed.2 (Nat.ne_of_gt held)
  have imported := importsIn_subset grown (sound.ledger.mem_importsIn.2 (by rw [found]; rfl))
  have freed : t ∈ freesIn es ↔ s'.world.holders t = 0 := by
    have whole := sound'.ledger.mem_freesIn (t := t)
    rw [grown, freesIn, List.filterMap_append, List.mem_append, ← freesIn, ← freesIn,
      ← grown] at whole
    exact ((or_iff_right kept).symm.trans whole).trans (and_iff_right imported)
  refine ⟨?_, sound'.ledger.not_deleted grown lost there (home'.trans home), kept⟩
  have once : (freesIn es).Nodup := by
    have nodup := sound'.ledger.nodup
    rw [grown, freesIn, List.filterMap_append] at nodup
    exact (List.nodup_append.1 nodup).2.1
  rw [List.Nodup.count once]
  exact if_congr freed rfl rfl

/-- The same, told of all that came about so far. -/
theorem Sound.abandons_of_lost (sound : s.Sound) (sound' : s'.Sound)
    (grown : s'.world.history = s.world.history ++ es) (lost : LostIn c s.world.history)
    (found : s.world.texture? t = some x) (home : x.context = c) (held : 0 < x.holders) :
    (abandonsIn s'.world.history).count t = (if s'.world.holders t = 0 then 1 else 0)
      ∧ t ∉ deletesIn s'.world.history := by
  obtain ⟨ends, kept, before⟩ := sound.ends_of_lost sound' grown lost found home held
  have never := List.count_eq_zero.2 before
  rw [count_freesIn, Nat.add_eq_zero_iff] at never
  rw [count_freesIn, List.count_eq_zero.2 kept, Nat.zero_add] at ends
  constructor
  · rw [grown, abandonsIn, List.filterMap_append, List.count_append]
    exact (congrArg₂ (· + ·) never.2 ends).trans (Nat.zero_add _)
  · rw [grown, deletesIn, List.filterMap_append, List.mem_append]
    exact not_or_intro (List.count_eq_zero.1 never.1) kept

-- ==================================================== nothing comes back

/-- Of updater `i`, if it is there, nothing is left. -/
def Spent (s : Session) (i : UpdaterId) : Prop := ∀ u, s.updaterOf? i = some u → u.Spent

/-- An image was bound to updater `i`. -/
def BoundIn (i : UpdaterId) (h : List Entry) : Prop := ∃ e ∈ h, ∃ t, e.mark? i = some (.bound t)

/-- No deed brings an updater anything back but one by which an image is bound to it. -/
theorem Deed.spent (own : u.id = i) (deed : Deed s i u n y) (spent : u.Spent)
    (grown : y.1.history = s.world.history ++ es) (unbound : ¬ BoundIn i es) : y.2.Spent := by
  have gone : ∀ {p : Prop}, ¬ u.destroyed → p := fun live => absurd spent.destroyed live
  cases deed with
  | callback callback =>
    rw [callback.untouched]
    exact ⟨spent.destroyed, spent.layer, spent.slots, spent.current, spent.released⟩
  | setter f_setter proper =>
    have same := setter_sameSource f_setter u
    obtain ⟨cache, current⟩ := Updater.setter_slots f_setter u
    exact ⟨same.destroyed.trans spent.destroyed, (proper.resolve_left gone).trans spent.layer,
      (congrArg SlotCache.slots cache).trans spent.slots, current.trans spent.current,
      same.consumerAttached.trans spent.released⟩
  | @bind t forceFilter transform crop held =>
    have first := u.bind_grows (s.world.share t) forceFilter transform crop t
    rw [grown] at first
    have mem := ((List.prefix_append_right_inj s.world.history).1 first).subset
      (List.mem_singleton.2 rfl)
    exact absurd ⟨_, mem, t, if_pos own⟩ unbound
  | idle live | ask live | latch frame issued live => exact gone live
  | answer => exact spent
  | attach name =>
    obtain ⟨cache, slots, same⟩ := u.attach_object s.world ⟨s.fresh, name, i⟩
    rw [same]
    exact ⟨spent.destroyed, spent.layer, slots, rfl, by rw [spent.released, Bool.and_false]⟩
  | detach =>
    obtain ⟨cache, same⟩ := u.detach_object s.world
    have slots := Updater.detach_slots spent.current s.world
    rw [same] at slots ⊢
    exact ⟨spent.destroyed, spent.layer, (congrArg SlotCache.slots slots).trans spent.slots, rfl,
      by rw [spent.released, Bool.and_false]⟩
  | teardown mode =>
    rw [Updater.teardown, if_pos spent.destroyed]
    exact spent

theorem Deal.spent (order : s.InOrder) (given : i < s.fresh) (deal : Deal i none s s')
    (spent : s.Spent i) (grown : s'.world.history = s.world.history ++ es)
    (unbound : ¬ BoundIn i es) : s'.Spent i := by
  intro u there
  cases deal with
  | elsewhere elsewhere =>
    rw [elsewhere.same] at there
    exact spent u there
  | opens b => exact spent u there
  | comes new => exact absurd new (Nat.ne_of_lt given)
  | goes entered world fresh besides gone =>
    rw [updaterOf?, gone] at there
    cases there
  | deed entered deed free world fresh besides there' =>
    rw [there'] at there
    cases there
    rw [world] at grown
    exact deed.spent (order.sound.numbered.updaters i _ entered).2
      (spent _ (updaterOf?_of_get? entered)) grown unbound

/-- As long as no image is bound to it, an updater of which nothing is left gets nothing. -/
theorem Moves.spent (order : s.InOrder) (moves : Moves none s s') (given : i < s.fresh)
    (spent : s.Spent i) (grown : s'.world.history = s.world.history ++ es)
    (unbound : ¬ BoundIn i es) : s'.Spent i := by
  induction moves generalizing es with
  | refl => exact spent
  | @tail a b before move ih =>
    have order' := order.steps (Moves.steps before)
    obtain ⟨fs, grown₁⟩ := (Moves.steps before).history order.sound
    obtain ⟨gs, grown₂⟩ := move.steps.history order'.sound
    rw [grown₂, grown₁, List.append_assoc] at grown
    cases List.append_cancel_left grown
    refine (move.deal order'.sound order'.sourced i).spent order'
      (Nat.lt_of_lt_of_le given (Moves.fresh before)) (ih grown₁ ?_) grown₂ ?_
    · exact fun ⟨e, mem, bound⟩ => unbound ⟨e, List.mem_append_left _ mem, bound⟩
    · exact fun ⟨e, mem, bound⟩ => unbound ⟨e, List.mem_append_right _ mem, bound⟩

-- ==================================================== closing again

/-- A command that tells one of the updaters to close, or to apply, or lets it go, or that
destroys the context once more. -/
inductive Closing (s : Session) (c : ContextId) (ids : List UpdaterId) : Command → Prop
  | teardown {name : String} {i : UpdaterId} (named : s.updaterNames.get? name = some i)
      (told : i ∈ ids) (mode : TeardownMode) : Closing s c ids (.teardown name mode)
  | contextDestroyed {name : String} {i : UpdaterId} (named : s.updaterNames.get? name = some i)
      (told : i ∈ ids) : Closing s c ids (.contextDestroyed name)
  | apply {name : String} {i : UpdaterId} (named : s.updaterNames.get? name = some i)
      (told : i ∈ ids) : Closing s c ids (.apply name)
  | dropUpdater {name : String} {i : UpdaterId} (named : s.updaterNames.get? name = some i)
      (told : i ∈ ids) : Closing s c ids (.dropUpdater name)
  | destroy {name : String} (named : s.state? name = some c) : Closing s c ids (.destroy name)

/-- What stays of session `s₀` while it is closed: a lost context, and updaters of which
nothing is left. -/
structure Leftover (c : ContextId) (ids : List UpdaterId) (s₀ s : Session) : Prop where
  names : ∀ name i, s.updaterNames.get? name = some i → s₀.updaterNames.get? name = some i
  states : s.stateNames = s₀.stateNames
  dead : ¬ s.world.alive c
  spent : ∀ i ∈ ids, s.Spent i

/-- Whoever has a name that was told has nothing left. -/
theorem Leftover.named (left : Leftover c ids s₀ s) (named : s₀.updaterNames.get? name = some i)
    (mem : i ∈ ids) {j : UpdaterId} (found : s.updaterNames.get? name = some j)
    {h : Held Updater} (entered : s.updaters.get? j = some h) : h.value.Spent := by
  have same := left.names name j found
  rw [named] at same
  cases same
  exact left.spent i mem h.value (updaterOf?_of_get? entered)

/-- To tear an updater down again is to do nothing. -/
theorem Leftover.teardown (left : Leftover c ids s₀ s)
    (named : s₀.updaterNames.get? name = some i) (mem : i ∈ ids) (mode : TeardownMode) :
    s.onNamed name (fun u w => u.teardown w mode) = s := by
  unfold onNamed
  cases found : s.updaterNames.get? name with
  | none => rfl
  | some j =>
    dsimp only
    cases entered : s.updaters.get? j with
    | none => simp only [onUpdater, entered]
    | some h =>
      rw [onUpdater_eq entered, Updater.teardown,
        if_pos (left.named named mem found entered).destroyed, updaters_set_self entered]

theorem Leftover.letGo (left : Leftover c ids s₀ s) {h : Held Updater}
    (entered : s.updaters.get? i = some h) (spent : h.value.Spent) :
    Leftover c ids s₀ (s.letGo (.updater i))
      ∧ ∃ es, (s.letGo (.updater i)).world.history = s.world.history ++ es
        ∧ ∀ e ∈ es, e.Parting := by
  have others : ∀ j ∈ ids, ∀ u, (s.letGo (.updater i)).updaterOf? j = some u → u.Spent := by
    intro j mem u there
    obtain ⟨v, found, rfl⟩ := Option.map_eq_some_iff.1 there
    rw [letGo_get?] at found
    split at found
    · rw [entered, Option.bind_some] at found
      split at found
      · cases found
      · cases found
        exact spent
    · exact left.spent j mem v.value (updaterOf?_of_get? found)
  have names := letGo_names s (.updater i)
  unfold Session.letGo at others names ⊢
  dsimp only at others names ⊢
  rw [entered] at others names ⊢
  dsimp only at others names ⊢
  split at others
  · next last =>
    rw [if_pos last] at names ⊢
    obtain ⟨es, grown, parting⟩ := h.value.dropSource_parting s.world
    rw [spent.discard] at others ⊢
    refine ⟨⟨left.names, left.states, ?_, others⟩, es, grown, parting⟩
    dsimp only
    rw [Updater.dropSource_alive]
    exact left.dead
  · next many =>
    rw [if_neg many] at names ⊢
    exact ⟨⟨left.names, left.states, left.dead, others⟩, [], (List.append_nil _).symm,
      List.forall_mem_nil _⟩

/-- A closing command leaves as little as before, and calls nobody but to drop a source. -/
theorem Closing.exec (closing : s₀.Closing c ids command) (left : Leftover c ids s₀ s) :
    Leftover c ids s₀ (s.exec command).1
      ∧ ∃ es, (s.exec command).1.world.history = s.world.history ++ es ∧ ∀ e ∈ es, e.Parting := by
  have nothing : Leftover c ids s₀ s
      ∧ ∃ es, s.world.history = s.world.history ++ es ∧ ∀ e ∈ es, e.Parting :=
    ⟨left, [], (List.append_nil _).symm, List.forall_mem_nil _⟩
  cases closing with
  | teardown named mem mode =>
    unfold Session.exec
    dsimp only
    rwa [left.teardown named mem mode]
  | contextDestroyed named mem =>
    unfold Session.exec
    dsimp only
    rwa [left.teardown named mem .contextLost]
  | @apply name i named mem =>
    unfold Session.exec
    dsimp only
    cases found : s.updaterNames.get? name with
    | none => exact nothing
    | some j =>
      dsimp only
      unfold Session.apply
      cases there : s.updaterOf? j with
      | none => exact nothing
      | some u =>
        obtain ⟨h, entered, rfl⟩ := Option.map_eq_some_iff.1 there
        dsimp only
        rw [if_pos (left.named named mem found entered).destroyed]
        refine ⟨⟨left.names, left.states, left.dead, left.spent⟩, [.note .applyIgnored], rfl, ?_⟩
        intro e last
        rw [List.mem_singleton.1 last]
        trivial
  | @dropUpdater name i named mem =>
    unfold Session.exec Session.dropUpdater
    dsimp only
    cases found : s.updaterNames.get? name with
    | none => exact nothing
    | some j =>
      dsimp only
      have unnamed : Leftover c ids s₀ { s with updaterNames := s.updaterNames.erase name } := by
        refine ⟨fun other k there => ?_, left.states, left.dead, left.spent⟩
        dsimp only at there
        rw [Table.get?_erase] at there
        split at there
        · cases there
        · exact left.names other k there
      cases entered : s.updaters.get? j with
      | none =>
        have absent : ({ s with updaterNames := s.updaterNames.erase name } : Session).letGo
            (.updater j) = { s with updaterNames := s.updaterNames.erase name } := by
          simp only [Session.letGo, entered]
        rw [absent]
        exact ⟨unnamed, nothing.2⟩
      | some h => exact unnamed.letGo entered (left.named named mem found entered)
  | destroy named =>
    unfold Session.exec
    dsimp only
    rw [show s.state? _ = some c by rw [state?, left.states]; exact named]
    have again : (s.destroyContext none c).1 = s := by
      unfold destroyContext
      cases s.world.contexts.size with
      | zero => rfl
      | succ depth => rw [destroyWithin, if_neg left.dead]
    dsimp only
    rwa [again]

/-- However the updaters are closed from here on, they call nobody but to drop a source. -/
def ClosesQuietly (s : Session) (c : ContextId) (ids : List UpdaterId) : Prop :=
  ∀ commands, (∀ command ∈ commands, s.Closing c ids command) →
    ∃ es, (s.run commands).world.history = s.world.history ++ es ∧ ∀ e ∈ es, e.Parting

theorem Leftover.run (left : Leftover c ids s₀ s) {commands : List Command}
    (closing : ∀ command ∈ commands, s₀.Closing c ids command) :
    ∃ es, (s.run commands).world.history = s.world.history ++ es ∧ ∀ e ∈ es, e.Parting := by
  induction commands generalizing s with
  | nil => exact ⟨[], (List.append_nil _).symm, List.forall_mem_nil _⟩
  | cons command commands ih =>
    obtain ⟨left', es, grown, parting⟩ := (closing command List.mem_cons_self).exec left
    obtain ⟨fs, grown', parting'⟩ := ih left' fun command mem =>
      closing command (List.mem_cons_of_mem _ mem)
    refine ⟨es ++ fs, ?_, fun e mem => (List.mem_append.1 mem).elim (parting e) (parting' e)⟩
    rw [← List.append_assoc, ← grown]
    exact grown'

theorem closesQuietly (dead : ¬ s.world.alive c) (spent : ∀ i ∈ ids, s.Spent i) :
    s.ClosesQuietly c ids :=
  fun _ closing => Leftover.run ⟨fun _ _ named => named, rfl, dead, spent⟩ closing

-- ==================================================== the whole

/-- What the destruction of context `c` leaves, of which the updaters `ids` are told. The
history has grown by `es`. -/
structure Destruction (c : ContextId) (ids : List UpdaterId) (s s' : Session) (es : List Entry) :
    Prop where
  grown : s'.world.history = s.world.history ++ es
  /-- Of each of these updaters nothing is left, and all that it did is to say its last words. -/
  updaters : ∀ i ∈ ids, ∃ u v, s.updaterOf? i = some u ∧ s'.updaterOf? i = some v ∧ v.Spent
    ∧ doingsOf i es = u.lastWords
  /-- A texture of the context that nobody else held is abandoned once. -/
  alone : ∀ t x, s.world.texture? t = some x → x.context = c → 0 < x.holders →
    (∑ i ∈ ids.toFinset, s.holdings i).count t = x.holders →
    (abandonsIn es).count t = 1 ∧ t ∉ deletesIn es
  /-- A texture that others held as well does not leave, and is abandoned once as soon as none
  of them holds it any more. -/
  shared : ∀ t x, s.world.texture? t = some x → x.context = c →
    (∑ i ∈ ids.toFinset, s.holdings i).count t < x.holders →
    t ∉ freesIn es ∧ ∀ later, Moves none s' later →
      (abandonsIn later.world.history).count t = (if later.world.holders t = 0 then 1 else 0)
        ∧ t ∉ deletesIn later.world.history
  closing : s'.ClosesQuietly c ids
  /-- It stays so whatever else is done, as long as no image is bound to these updaters. -/
  later : ∀ later fs, Moves none s' later → later.world.history = s'.world.history ++ fs →
    (∀ i ∈ ids, ¬ BoundIn i fs) → later.ClosesQuietly c ids

/-- The updaters among the live participants of a context are there. -/
theorem exists_of_live (live : (s.registry c).filter s.isLive = ids.map .updater) (mem : i ∈ ids) :
    ∃ u, s.updaterOf? i = some u := by
  have held : Participant.updater i ∈ (s.registry c).filter s.isLive := by
    rw [live]
    exact List.mem_map_of_mem mem
  obtain ⟨h, entered⟩ := Option.isSome_iff_exists.1 (List.mem_filter.1 held).2
  exact ⟨h.value, updaterOf?_of_get? entered⟩

/-- In every session that occurs, if all that are there of those registered with a living
context are updaters, none of them torn down or in the midst of an apply, its destruction goes
as it should from end to end. -/
theorem Occurs.destruction (occurs : s.Occurs) (alive : s.world.alive c)
    (live : (s.registry c).filter s.isLive = ids.map .updater)
    (standing : ∀ i ∈ ids, ∀ u, s.updaterOf? i = some u → ¬ u.destroyed)
    (free : ∀ i ∈ ids, locked ≠ some i) :
    ∃ es, Destruction c ids s (s.destroyContext locked c).1 es := by
  have lost : Goes none s (s.loses locked c) := loses_goes alive
  have sound₁ : (s.loses locked c).Sound := (occurs.inOrder.steps lost.moves.steps).sound
  have notice := destroyContext_notice occurs alive live free fun i mem u there =>
    (Updater.tornDown_spent (standing i mem u there)).owners
  have goes : Goes none s (s.destroyContext locked c).1 := (destroyContext_goes s locked c).unlock
  have after : (s.destroyContext locked c).1.Occurs := occurs.moves goes.moves
  generalize (s.destroyContext locked c).1 = s' at *
  obtain ⟨es, grown, told⟩ := notice.history
  have known : LostIn c (s.loses locked c).world.history :=
    ⟨_, List.mem_append_right _ (List.mem_singleton.2 rfl)⟩
  have lost' : LostIn c s'.world.history := by
    rw [grown]
    exact known.grows
  have sound' := after.inOrder.sound
  have there : ∀ i ∈ ids, ∃ u, s.updaterOf? i = some u := fun _ mem => exists_of_live live mem
  have spent : ∀ i ∈ ids, s'.Spent i := by
    intro i mem v found
    obtain ⟨u, before⟩ := there i mem
    rw [notice.updaters, if_pos mem,
      show (s.loses locked c).updaterOf? i = some u from before] at found
    cases found
    exact Updater.tornDown_spent (standing i mem u before)
  -- what a texture still counts is what others hold
  have left : ∀ t x, s.world.texture? t = some x →
      x.holders = (∑ i ∈ ids.toFinset, s.holdings i).count t + s'.world.holders t := by
    intro t x found
    have split : s.owners = ∑ i ∈ ids.toFinset, s.holdings i + s'.owners := notice.owners
    rw [sound'.owned.held, ← count_add, ← split, ← occurs.inOrder.sound.owned.held,
      holders_eq found]
  refine ⟨.note (.contextDestroyed c (s.observerCount c)) :: es,
    { grown := ?_, updaters := ?_, alone := ?_, shared := ?_, closing := closesQuietly ?_ spent
      later := ?_ }⟩
  · rw [grown]
    exact List.append_assoc _ [_] _
  · intro i mem
    obtain ⟨u, before⟩ := there i mem
    have live := standing i mem u before
    refine ⟨u, u.tornDown, before, ?_, Updater.tornDown_spent live, ?_⟩
    · rw [notice.updaters, if_pos mem, show (s.loses locked c).updaterOf? i = some u from before]
      rfl
    · exact (told i u before).trans (if_pos ⟨mem, live⟩)
  · intro t x found home held all
    have none : s'.world.holders t = 0 := by
      have left := left t x found
      omega
    obtain ⟨freed, kept, -⟩ := sound₁.ends_of_lost sound' grown known found home held
    rw [if_pos none, count_freesIn, List.count_eq_zero.2 kept, Nat.zero_add] at freed
    exact ⟨freed, kept⟩
  · intro t x found home others
    have left := left t x found
    obtain ⟨freed, -⟩ := sound₁.ends_of_lost sound' grown known found home (by omega)
    rw [if_neg (by omega), List.count_eq_zero] at freed
    refine ⟨freed, fun later moves => ?_⟩
    have sound'' := (after.moves moves).inOrder.sound
    obtain ⟨fs, grown'⟩ := moves.steps.history sound'
    rw [grown, List.append_assoc] at grown'
    exact sound₁.abandons_of_lost sound'' grown' known found home (by omega)
  · exact fun alive => sound'.ledger.not_lost alive lost'
  · intro later fs moves grown' unbound
    have occurs' := after.moves moves
    refine closesQuietly (fun alive => occurs'.inOrder.sound.ledger.not_lost alive
      (by rw [grown']; exact lost'.grows)) fun i mem => ?_
    obtain ⟨u, before⟩ := there i mem
    have given := Nat.lt_of_lt_of_le (given_of_found occurs.inOrder before) (Moves.fresh goes.moves)
    exact moves.spent after.inOrder given (spent i mem) grown' (unbound i mem)

/-- Two updaters of one context. What the second shows is shared with the first alone; the
texture of the first frame lives on in an image as well. -/
def twoRegistered : List Command :=
  let frame := fun (slot : Int32) (buffer : UInt64) =>
    Frame.ofBuffer ⟨slot⟩ ⟨⟨buffer⟩, ⟨64, 32, 1⟩, none⟩ .srgb
  [.newUpdater "u" {} (.registered "s") .unchanged, .newUpdater "v" {} (.registered "s") .unchanged,
    .attach "u" "q" { frames := [frame 0 1, frame 1 2], fifo := true } none,
    .apply "u", .keepLayerImage "u" "i", .post "u", .apply "u",
    .keepLayerImage "u" "j", .bind "v" false .identity .zero "j", .dropImage "j"]

theorem twoRegistered_destruction :
    let s := (start false {}).run twoRegistered
    let s' := (s.destroyContext none 0).1
    (∃ es, Destruction 0 [1, 2] s s' es) ∧ [1, 2].map s.world.holders = [2, 3]
      ∧ [1, 2].map s'.world.holders = [1, 0] ∧ abandonsIn s'.world.history = [2] := by
  intro s s'
  have standing : ∀ i ∈ [1, 2], (s.updaterOf? i).map (·.destroyed) = some false := by decide
  refine ⟨Occurs.destruction (occurs_run false {} twoRegistered) (by decide) (by decide) ?_ ?_,
    by decide, by decide, by decide⟩
  · intro i mem u there gone
    have stands := standing i mem
    rw [there, Option.map_some, gone] at stands
    cases stands
  · exact fun _ _ => nofun

end Session

end LayerFeed
