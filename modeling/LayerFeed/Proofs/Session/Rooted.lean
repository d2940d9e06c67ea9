/-
What the textures in the slots of an updater are. While its source is installed, each of them was
imported for a frame that this source delivered in that slot, and nothing was told of the slot
since but frames that found it there (`Imported`). So whatever a frame is resolved to is of the
frame's buffer and dataspace.

The slots outlive a detach, so it is not the cache alone that keeps producers apart: without a
source the slots may hold anything, and a source that is installed finds no slot at all. What is
invariant is that every texture in the cache is rooted in the source, if there is one
(`Updater.Rooted`).
-/
import LayerFeed.Proofs.Session.Lineage

namespace LayerFeed

open Owners World

variable {i : UpdaterId} {slot : SlotId} {ref : SourceRef} {t : TextureId} {b : BufferId}
  {d : Dataspace} {e : Entry} {h es : List Entry}

-- ==================================================== sources in a history

/-- The source of updater `i` that delivered, if the entry says so. -/
def Entry.delivers? (i : UpdaterId) : Entry → Option SourceRef
  | .source ref (.dequeued _) => if ref.owner = i then some ref else none
  | _ => none

/-- The source that delivered last to updater `i`. -/
def delivering (i : UpdaterId) (h : List Entry) : Option SourceRef :=
  (h.filterMap (Entry.delivers? i)).getLast?

/-- The source of updater `i` comes or goes, or its slots are cleared, or a frame brings anything
but texture `t` into its slot `slot`. -/
def Entry.Unsettles (i : UpdaterId) (slot : SlotId) (t : TextureId) : Entry → Prop
  | .source ref .installed | .source ref .released | .source ref .dropped => ref.owner = i
  | .event j _ (.detached _ _) | .event j _ (.tornDown _ _ _) => j = i
  | .latched j frame resolved => j = i ∧ frame.slot = slot ∧ resolved ≠ .cached t
  | _ => False

/-- Texture `t` was imported for a frame that `ref` delivered to updater `i`, of this slot, buffer
and dataspace, and nothing unsettled it since. A source is numbered when it is installed, so
`ref` is one installation of a source. -/
def Imported (i : UpdaterId) (slot : SlotId) (ref : SourceRef) (t : TextureId) (b : BufferId)
    (d : Dataspace) (h : List Entry) : Prop :=
  ∃ before c frame since,
    h = before ++ .backend c (.imported t frame.buffer frame.dataspace)
      :: .latched i frame (.created t) :: since
    ∧ frame.slot = slot ∧ frame.buffer.id = b ∧ frame.dataspace = d
    ∧ delivering i before = some ref ∧ ∀ e ∈ since, ¬ e.Unsettles i slot t

/-- If the entry tells that a frame's texture was found, the frame did not ask for a new one, and
the texture was imported for a frame like it. -/
def Reuses (i : UpdaterId) (pre : List Entry) (e : Entry) : Prop :=
  ∀ frame t, e = .latched i frame (.cached t) → frame.forceRecreate = false
    ∧ ∃ ref, delivering i pre = some ref
      ∧ Imported i frame.slot ref t frame.buffer.id frame.dataspace pre

/-- The entry tells of the source of updater `i`, or of its slots. -/
def Entry.Touches (i : UpdaterId) : Entry → Prop
  | .source ref .installed | .source ref .released | .source ref .dropped => ref.owner = i
  | .event j _ (.detached _ _) | .event j _ (.tornDown _ _ _) | .latched j _ _ => j = i
  | _ => False

/-- What unsettles a slot touches its updater. -/
theorem Entry.Unsettles.touches (unsettles : e.Unsettles i slot t) : e.Touches i := by
  cases e with
  | source ref call => cases call <;> exact unsettles
  | event j sink event => cases event <;> exact unsettles
  | latched j frame resolved => exact unsettles.1
  | _ => exact unsettles

/-- An entry by another updater does not touch `i`. -/
theorem Entry.NotBy.not_touches (other : e.NotBy i) : ¬ e.Touches i := by
  intro touches
  cases e with
  | source ref call => cases call <;> first | exact other (congrArg some touches) | exact touches
  | event j sink event =>
    cases event <;> first | exact other (congrArg some touches) | exact touches
  | latched j frame resolved => exact other (congrArg some touches)
  | _ => exact touches

/-- Nor does a minor one. -/
theorem Entry.Minor.not_touches (minor : e.Minor) : ¬ e.Touches i := by
  cases e with
  | backend | bound | note => exact fun touches => touches
  | _ => cases minor

theorem Entry.Minor.not_delivers (minor : e.Minor) : e.delivers? i = none := by
  cases e with
  | backend | bound | note => rfl
  | _ => cases minor

/-- Entries that deliver nothing leave the source that delivers. -/
theorem delivering_append (none : ∀ e ∈ es, e.delivers? i = none) :
    delivering i (h ++ es) = delivering i h := by
  unfold delivering
  rw [List.filterMap_append, List.filterMap_eq_nil_iff.2 none, List.append_nil]

/-- After a dequeue that answers, it is its source that delivers. -/
theorem delivering_dequeued (owner : ref.owner = i) (results : List CallbackResult) :
    delivering i (h ++ [.source ref (.dequeued results)]) = some ref := by
  have delivers : (Entry.source ref (.dequeued results)).delivers? i = some ref := if_pos owner
  unfold delivering
  rw [List.filterMap_append, List.filterMap_cons_some delivers, List.filterMap_nil,
    List.getLast?_concat]

/-- An import stands as long as nothing unsettles its slot. -/
theorem Imported.append (imported : Imported i slot ref t b d h)
    (settled : ∀ e ∈ es, ¬ e.Unsettles i slot t) : Imported i slot ref t b d (h ++ es) := by
  obtain ⟨before, c, frame, since, rfl, same, buffer, dataspace, delivered, calm⟩ := imported
  refine ⟨before, c, frame, since ++ es, by simp, same, buffer, dataspace, delivered, ?_⟩
  exact fun e mem => (List.mem_append.1 mem).elim (calm e) (settled e)

/-- What is known to be imported was so after the last source was installed. -/
theorem Imported.after_installed {pre between : List Entry} {ref' : SourceRef}
    (imported : Imported i slot ref t b d (pre ++ .source ref' .installed :: between))
    (owner : ref'.owner = i) : ∃ frame r, .latched i frame r ∈ between ∧ frame.slot = slot := by
  obtain ⟨before, c, frame, since, split, same, -, -, -, calm⟩ := imported
  rw [List.append_cons pre, List.append_cons before] at split
  refine ⟨frame, .created t, ?_, same⟩
  rcases List.append_eq_append_iff.1 split with ⟨more, -, rest⟩ | ⟨more, first, rest⟩
  · rw [rest]
    exact List.mem_append_right _ List.mem_cons_self
  · -- the source would be installed since then
    rcases List.eq_nil_or_concat more with rfl | ⟨more, e, rfl⟩
    · cases (List.append_inj' (first.trans (List.append_nil _)) rfl).2
    · rw [List.concat_eq_append, ← List.append_assoc] at first
      obtain rfl : e = .source ref' .installed :=
        (List.cons.inj (List.append_inj' first rfl).2).1.symm
      have mem : .source ref' .installed ∈ .latched i frame (.created t) :: since := by
        rw [rest]
        simp
      rcases List.mem_cons.1 mem with same | mem
      · cases same
      · exact absurd owner (calm _ mem)

/-- Where every reuse has its import, entries that touch nothing leave it so. -/
theorem Throughout.untouched (reuses : Throughout (Reuses i) h)
    (settled : ∀ e ∈ es, ¬ e.Touches i) : Throughout (Reuses i) (h ++ es) := by
  refine Throughout.extend reuses fun e mem pre frame t same => ?_
  rw [same] at mem
  exact absurd rfl (settled _ mem)

-- ==================================================== rooted updaters

/-- Every texture in the cache of updater `i` was imported for the source that is installed, and
its slot has the texture's dataspace. -/
def Updater.Rooted (i : UpdaterId) (u : Updater) (w : World) : Prop :=
  ∀ ref slot s t, u.source = some ref → u.cache.get? slot = some s → s.texture = some t →
    ∃ x, w.texture? t = some x ∧ x.dataspace = s.dataspace
      ∧ Imported i slot ref t x.buffer.id s.dataspace w.history

/-- Whatever frames of updater `i` were resolved to is of their buffers and dataspaces. -/
def World.ResolvedFor (i : UpdaterId) (w : World) : Prop :=
  ∀ frame t r, .latched i frame r ∈ w.history → r.image? = some t →
    ∃ x, w.texture? t = some x ∧ x.buffer.id = frame.buffer.id ∧ x.dataspace = frame.dataspace

namespace Updater.Rooted

variable {u v : Updater} {w w' : World}

/-- Where nothing is told of the updater's source and slots, they stay rooted. -/
theorem grows (rooted : u.Rooted i w) (source : v.source = u.source) (cache : v.cache = u.cache)
    (stays : ∀ t x, w.texture? t = some x → ∃ y, w'.texture? t = some y ∧ Stays x y)
    (grown : w'.history = w.history ++ es) (settled : ∀ e ∈ es, ¬ e.Touches i) :
    v.Rooted i w' := by
  intro ref slot s t has found texture
  rw [source] at has
  rw [cache] at found
  obtain ⟨x, known, dataspace, imported⟩ := rooted ref slot s t has found texture
  obtain ⟨y, known', same⟩ := stays t x known
  refine ⟨y, known', same.dataspace.trans dataspace, ?_⟩
  rw [grown, same.buffer]
  exact imported.append fun e mem unsettles => settled e mem unsettles.touches

/-- A texture that is found for a frame of the installed source is rooted in it. -/
theorem cached (rooted : u.Rooted i w) (has : u.source = some ref) {frame : Frame}
    (cached : (u.resolution w frame).answer = .cached t) : frame.forceRecreate = false
      ∧ (∃ x, w.texture? t = some x ∧ x.buffer.id = frame.buffer.id
        ∧ x.dataspace = frame.dataspace)
      ∧ Imported i frame.slot ref t frame.buffer.id frame.dataspace w.history := by
  obtain ⟨s, x, found, texture, known, buffer, dataspace, free⟩ := SlotCache.resolve_cached cached
  obtain ⟨x', known', dataspace', imported⟩ := rooted ref frame.slot s t has found texture
  rw [known] at known'
  cases known'
  rw [← buffer, ← dataspace]
  exact ⟨free, ⟨x, known, rfl, dataspace'⟩, imported⟩

/-- A latch of a frame that the installed source delivered. -/
theorem latch (rooted : u.Rooted i w) (own : u.id = i) {frame : Frame}
    {issued : Option FenceClass}
    (stays : ∀ t x, w.texture? t = some x →
      ∃ y, (u.latch w frame issued).1.texture? t = some y ∧ Stays x y)
    (has : u.source = some ref) (delivered : delivering i w.history = some ref)
    (reuses : Throughout (Reuses i) w.history) :
    Throughout (Reuses i) (u.latch w frame issued).1.history
      ∧ (u.latch w frame issued).2.Rooted i (u.latch w frame issued).1 := by
  obtain ⟨told, rest, history, -, minor⟩ := u.latch_history w frame issued
  obtain ⟨es, grown, minor'⟩ := (u.resolution_minor w frame).history
  rw [own] at history
  have settled : ∀ e ∈ es, ¬ e.Touches i := fun e mem => (minor' e mem).not_touches
  have settled' : ∀ e ∈ .event i u.sink (.frameLatched told) :: rest, ¬ e.Touches i :=
    List.forall_mem_cons.2 ⟨fun touches => touches, fun e mem => (minor e mem).not_touches⟩
  constructor
  · rw [history, List.append_cons, grown]
    refine Throughout.untouched (throughout_append.2 ⟨reuses.untouched settled, ?_⟩) settled'
    intro frame' t same
    obtain ⟨-, rfl, found⟩ := Entry.latched.inj same
    obtain ⟨free, -, imported⟩ := rooted.cached has found
    refine ⟨free, ref, ?_, imported.append fun e mem unsettles => settled e mem unsettles.touches⟩
    rw [delivering_append fun e mem => (minor' e mem).not_delivers, delivered]
  · intro ref' slot s t has' found texture
    rw [(Session.latch_sameSource u w frame issued).source, has] at has'
    cases has'
    rw [(u.latch_slots w frame issued).2] at found
    rcases u.resolution_get? found texture with ⟨found, again⟩ | ⟨rfl, dataspace, created⟩
    · -- the texture stood in the slot, and the frame brings no other
      obtain ⟨x, known, dataspace, imported⟩ := rooted ref slot s t has found texture
      obtain ⟨y, known', same⟩ := stays t x known
      refine ⟨y, known', same.dataspace.trans dataspace, ?_⟩
      rw [history, grown, same.buffer, List.append_assoc]
      refine imported.append fun e mem unsettles => ?_
      rcases List.mem_append.1 mem with mem | mem
      · exact settled e mem unsettles.touches
      · rcases List.mem_cons.1 mem with rfl | mem
        · exact unsettles.2.2 (again unsettles.2.1.symm)
        · exact settled' e mem unsettles.touches
    · -- the texture was imported for the frame just now
      obtain ⟨fs, imports, minor''⟩ := Slot.resolve_imports created
      obtain ⟨-, known⟩ := Slot.resolve_created created
      obtain ⟨n, known'⟩ := u.latch_spares w frame issued t _ known
      refine ⟨_, known', dataspace.symm, w.history ++ fs, u.context, frame, _, ?_, rfl, rfl,
        dataspace.symm, ?_, fun e mem unsettles => settled' e mem unsettles.touches⟩
      · rw [history, created]
        exact (congrArg (· ++ _) imports).trans (List.append_cons _ _ _).symm
      · rw [delivering_append fun e mem => (minor'' e mem).not_delivers, delivered]

/-- What a latch resolves its frame to is of the frame's buffer and dataspace. -/
theorem resolved (rooted : u.Rooted i w) (has : u.source = some ref) {frame : Frame}
    (issued : Option FenceClass)
    (stays : ∀ t x, w.texture? t = some x →
      ∃ y, (u.latch w frame issued).1.texture? t = some y ∧ Stays x y)
    (image : (u.resolution w frame).answer.image? = some t) :
    ∃ x, (u.latch w frame issued).1.texture? t = some x ∧ x.buffer.id = frame.buffer.id
      ∧ x.dataspace = frame.dataspace := by
  cases answer : (u.resolution w frame).answer with
  | unavailable =>
    rw [answer] at image
    cases image
  | cached t' =>
    obtain ⟨-, ⟨x, known, buffer, dataspace⟩, -⟩ := rooted.cached has answer
    obtain ⟨y, known', same⟩ := stays t' x known
    rw [answer] at image
    cases image
    exact ⟨y, known', (congrArg HardwareBuffer.id same.buffer).trans buffer,
      same.dataspace.trans dataspace⟩
  | created t' =>
    obtain ⟨-, known⟩ := Slot.resolve_created answer
    obtain ⟨n, known'⟩ := u.latch_spares w frame issued t' _ known
    rw [answer] at image
    cases image
    exact ⟨_, known', rfl, rfl⟩

end Updater.Rooted

/-- What frames were resolved to stays of their buffers and dataspaces, where nothing is told of
the updater's slots. -/
theorem World.ResolvedFor.grows {w w' : World} (resolved : w.ResolvedFor i)
    (stays : ∀ t x, w.texture? t = some x → ∃ y, w'.texture? t = some y ∧ Stays x y)
    (grown : w'.history = w.history ++ es)
    (fresh : ∀ frame t r, .latched i frame r ∈ es → r.image? = some t →
      ∃ x, w'.texture? t = some x ∧ x.buffer.id = frame.buffer.id ∧ x.dataspace = frame.dataspace) :
    w'.ResolvedFor i := by
  intro frame t r mem image
  rw [grown] at mem
  rcases List.mem_append.1 mem with mem | mem
  · obtain ⟨x, known, buffer, dataspace⟩ := resolved frame t r mem image
    obtain ⟨y, known', same⟩ := stays t x known
    exact ⟨y, known', (congrArg HardwareBuffer.id same.buffer).trans buffer,
      same.dataspace.trans dataspace⟩
  · exact fresh frame t r mem image

-- ==================================================== what moves keep

namespace Session

variable {s s' : Session} {n : Nat} {x : World × Updater} {held : Held Updater}

/-- What becomes of source and cache in a deed that takes no frame over: there is nothing to be
rooted, or nothing is told of them and they are what they were. -/
theorem Deed.turnover (order : s.InOrder) (entered : s.updaters.get? i = some held)
    (deed : Deed s i held.value n x) :
    (x.2.source = none ∨ x.2.cache.slots = ∅)
      ∨ (x.2.source = held.value.source ∧ x.2.cache = held.value.cache
        ∧ ∃ es, x.1.history = s.world.history ++ es ∧ ∀ e ∈ es, ¬ e.Touches i)
      ∨ ∃ frame, Latches s.world held.value x frame := by
  have still : ∃ es, s.world.history = s.world.history ++ es ∧ ∀ e ∈ es, ¬ e.Touches i :=
    ⟨[], (List.append_nil _).symm, List.forall_mem_nil _⟩
  obtain ⟨-, cache, -⟩ := held.value.beginApply_slots s.world
  have taken := held.value.beginApply_writes (P := fun e => ¬ e.Touches i)
    (fun _ touches => touches) s.world
  cases deed with
  | callback callback =>
    rw [callback.untouched]
    refine .inr (.inl ⟨rfl, rfl, ?_⟩)
    cases callback with
    | post => exact ⟨[_], rfl, by simp [Entry.Touches]⟩
    | fence f useSync gate previous =>
      obtain ⟨others, owners⟩ := previous_owners held.value
      have owned := order.sound.owned
      rw [owners_eq_besides entered, owners, ← previous] at owned
      obtain ⟨es, grown, others⟩ := (f.createFence_passes (P := fun e => e.NotBy i) (m := .loose)
        (fun d => by simp [Entry.NotBy, Entry.by?]) useSync).history owned
      refine ⟨es, grown, fun e mem => ?_⟩
      by_cases remark : e.isRemark
      · exact (others e mem remark).not_touches
      · exact (e.notBy_of_not_remark remark i).not_touches
  | setter f_setter proper =>
    exact .inr (.inl ⟨(setter_sameSource f_setter held.value).source,
      (Updater.setter_slots f_setter held.value).1, still⟩)
  | @bind t forceFilter transform crop there =>
    have shared : Writes Entry.Minor s.world (s.world.share t) := .of_eq rfl rfl
    have bound := shared.trans (held.value.bind_minor _ forceFilter transform crop t)
    exact .inr (.inl ⟨rfl, rfl, (bound.mono fun _ => Entry.Minor.not_touches).history⟩)
  | idle live idle => exact .inr (.inl ⟨(Updater.beginApply_idle idle).2.1, cache, taken.history⟩)
  | ask live asked =>
    obtain ⟨has, -, source, -⟩ := Updater.beginApply_asks asked
    exact .inr (.inl ⟨source.trans has.symm, cache,
      (taken.andRecord (e := .source _ .dequeueBegun) fun touches => touches).history⟩)
  | answer results has => exact .inr (.inl ⟨rfl, rfl, [_], rfl, by simp [Entry.Touches]⟩)
  | latch frame issued live answered => exact .inr (.inr ⟨frame, ⟨issued, rfl⟩, answered⟩)
  | attach name => exact .inl (.inr rfl)
  | detach =>
    obtain ⟨cache, same⟩ := held.value.detach_object s.world
    exact .inl (.inl (by rw [same]))
  | teardown mode =>
    unfold Updater.teardown
    split
    · exact .inr (.inl ⟨rfl, rfl, still⟩)
    · exact .inl (.inr rfl)

/-- Frames were told of rightly, and updater `i` is rooted in its source, if it is there. -/
structure Rooted (s : Session) (i : UpdaterId) : Prop where
  told : Throughout (Reuses i) s.world.history
  resolved : s.world.ResolvedFor i
  kept : ∀ u, s.updaterOf? i = some u → u.Rooted i s.world

/-- Where nothing was done by updater `i`, it has to be without a source. -/
theorem rooted_of_silent (silent : ∀ e ∈ s.world.history, e.NotBy i)
    (bare : ∀ u, s.updaterOf? i = some u → u.source = none) : s.Rooted i where
  told := by
    have told := Throughout.untouched (h := []) (throughout_nil (Reuses i)) fun e mem =>
      (silent e mem).not_touches
    rwa [List.nil_append] at told
  resolved frame t r mem := absurd rfl (silent _ mem)
  kept u found ref slot s t has := by
    rw [bare u found] at has
    cases has

/-- A newborn updater is rooted, with nothing latched. -/
theorem Newborn.rooted (newborn : s.Newborn i) : s.Rooted i := by
  refine rooted_of_silent newborn.silent fun u found => ?_
  obtain ⟨c, config, sink, rfl⟩ := newborn.new u found
  rfl

/-- Every deed of `i` keeps it rooted. -/
theorem Deed.rooted (order : s.InOrder) (entered : s.updaters.get? i = some held)
    (deed : Deed s i held.value n x) (rooted : s.Rooted i) :
    Throughout (Reuses i) x.1.history ∧ x.1.ResolvedFor i ∧ x.2.Rooted i x.1 := by
  have before := rooted.kept held.value (updaterOf?_of_get? entered)
  have stays : ∀ t a, s.world.texture? t = some a → ∃ b, x.1.texture? t = some b ∧ Stays a b :=
    fun t a found => (deed.worldSteps order.sound order.sourced entered).stays order.sound.ledger
      found
  obtain ⟨es, grown, tells⟩ := deed.history order.sound order.sourced entered
  by_cases latches : ∃ frame, Latches s.world held.value x frame
  · obtain ⟨frame, ⟨issued, rfl⟩, pre, ref, results, answered, has, -⟩ := latches
    obtain ⟨told, kept⟩ := before.latch (order.sound.numbered.updaters i held entered).2 stays has
      (by rw [answered, delivering_dequeued (order.sourced.own entered has).1]) rooted.told
    refine ⟨told, rooted.resolved.grows stays grown fun frame' t r mem image => ?_, kept⟩
    obtain ⟨⟨⟨issued', same⟩, -⟩, answer⟩ := (tells _ mem rfl).taken frame' r rfl
    rw [same] at stays ⊢
    exact before.resolved has issued' stays (by rw [← answer, image])
  · have untaken : ∀ frame r, .latched i frame r ∉ es := fun frame r mem =>
      latches ⟨frame, ((tells _ mem rfl).taken frame r rfl).1⟩
    refine ⟨?_, rooted.resolved.grows stays grown fun frame t r mem => absurd mem (untaken _ _), ?_⟩
    · rw [grown]
      refine Throughout.extend rooted.told fun e mem pre frame t same => ?_
      rw [same] at mem
      exact absurd mem (untaken _ _)
    · rcases deed.turnover order entered with (none | empty) | ⟨source, cache, es, grown, settled⟩
        | latched
      · intro ref slot s t has
        rw [none] at has
        cases has
      · intro ref slot s t has found
        rw [SlotCache.get?, empty] at found
        cases found
      · exact before.grows source cache stays grown settled
      · exact absurd latched latches

/-- What happens elsewhere keeps it rooted. -/
theorem Elsewhere.rooted (elsewhere : Elsewhere i s s') (order : s.InOrder)
    (rooted : s.Rooted i) : s'.Rooted i := by
  obtain ⟨es, grown, others⟩ := elsewhere.history order.sound
  have settled : ∀ e ∈ es, ¬ e.Touches i := fun e mem => (others e mem).not_touches
  have owned := order.sound.owned
  rw [owners_eq_holdings s i, add_comm] at owned
  have stays : ∀ t a, s.world.texture? t = some a →
      ∃ b, s'.world.texture? t = some b ∧ Stays a b := fun t a known =>
    ((elsewhere.passes.frame _).transfer owned).1.stays order.sound.ledger known
  refine ⟨by rw [grown]; exact rooted.told.untouched settled,
    rooted.resolved.grows stays grown fun _ _ _ mem => absurd rfl (others _ mem),
    fun u found => ?_⟩
  rw [elsewhere.same] at found
  exact (rooted.kept u found).grows rfl rfl stays grown settled

/-- An updater that goes takes no frame over. -/
theorem Rooted.gone (rooted : s.Rooted i) (order : s.InOrder)
    (entered : s.updaters.get? i = some held) (world : s'.world = held.value.discard s.world)
    (gone : s'.updaters.get? i = none) : s'.Rooted i := by
  have owned := order.sound.owned
  rw [owners_eq_besides entered] at owned
  have passes := discard_passes_of_sound order.sound order.sourced entered (m := .loose)
    (by decide) (.inl rfl) 0
  rw [add_zero] at passes
  obtain ⟨es, grown, told⟩ := passes.history owned
  have untaken : ∀ frame r, .latched i frame r ∉ es := fun frame r mem => by
    cases (told _ mem rfl).2
  have stays := fun t a known =>
    ((passes.frame _).transfer owned).1.stays (t := t) (a := a) order.sound.ledger known
  rw [← world] at grown stays
  refine ⟨?_, rooted.resolved.grows stays grown fun _ _ _ mem => absurd mem (untaken _ _),
    fun u found => ?_⟩
  · rw [grown]
    refine Throughout.extend rooted.told fun e mem pre frame t same => ?_
    rw [same] at mem
    exact absurd mem (untaken _ _)
  · rw [updaterOf?, gone] at found
    cases found

/-- And so does a deal. -/
theorem Deal.rooted (order : s.InOrder) (given : i < s.fresh) (deal : Deal i none s s')
    (rooted : s.Rooted i) : s'.Rooted i := by
  cases deal with
  | elsewhere elsewhere => exact elsewhere.rooted order rooted
  | opens b => exact ⟨rooted.told, rooted.resolved, rooted.kept⟩
  | comes new => exact absurd new (Nat.ne_of_lt given)
  | goes entered world fresh besides gone => exact rooted.gone order entered world gone
  | deed entered deed free world fresh besides there =>
    obtain ⟨told, resolved, kept⟩ := deed.rooted order entered rooted
    refine ⟨by rwa [world], by rwa [world], fun u found => ?_⟩
    rw [there] at found
    cases found
    rwa [world]

/-- In every run all updaters, those to come as well, are rooted in their sources. -/
theorem run_rooted (minimal : Bool) (b : Backend) (commands : List Command) (i : UpdaterId) :
    ((start minimal b).run commands).Rooted i := by
  rcases Nat.lt_or_ge i ((start minimal b).run commands).fresh with given | unborn
  · exact run_life (fun _ => Newborn.rooted)
      (fun _ _ order given deal => deal.rooted order given) minimal b commands given
  · have silent := (Moves.born (inOrder_new minimal) ((start_moves minimal b).trans
      (run_goes (kept_start minimal b) commands).moves) (born_new minimal)).notBy unborn
    have absent := updaterOf?_of_unborn (kept_run minimal b commands).order unborn
    exact (rooted_of_silent silent fun u found => by rw [absent] at found; cases found)

end Session

end LayerFeed
