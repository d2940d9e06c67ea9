/-
What a cache answers for a frame, told from what was done with it before. Of all the calls to a
slot only the last one counts that asked for a frame there or cleared it: if it gave an image,
and the frame has the same buffer and dataspace, the texture is used again, unless that is
forbidden; it is then the texture that was created last (`run_cache_answers`). Otherwise the
texture that the last call left is given up, and an import is tried.

The calls are read from the transcript of a run (`slotCalls`). What they left in a slot is what
the slot holds (`Slot.Recalls`): a call to the slot makes that true again, and everything else
that happens leaves the slot and the buffer of its texture as they are.
-/
import LayerFeed.Proofs.Object.Drain
import LayerFeed.Proofs.Object.Resolution
import LayerFeed.Proofs.Session.Fixtures

namespace LayerFeed

open Owners World

variable {w w' : World} {c : ContextId} {b : HardwareBuffer} {d : Dataspace} {force : Bool}
  {t : TextureId} {name : String} {slot : SlotId}

-- ==================================================== calls to a slot

/-- What is done with one slot of a cache: a frame is resolved there, or the slot is cleared. -/
inductive SlotCall
  | resolve (buffer : BufferId) (dataspace : Dataspace) (answer : Resolved)
  | clear
deriving DecidableEq

/-- A texture in a slot, with the buffer and the dataspace that it was last resolved for. -/
structure Stored where
  buffer : BufferId
  dataspace : Dataspace
  texture : TextureId

namespace SlotCall

/-- What a call leaves in the slot. -/
def stored? : SlotCall → Option Stored
  | .resolve buffer dataspace answer => answer.image?.map (⟨buffer, dataspace, ·⟩)
  | .clear => none

/-- The texture that was created in a call. -/
def created? : SlotCall → Option TextureId
  | .resolve _ _ (.created t) => some t
  | _ => none

end SlotCall

/-- What the last of the calls to a slot left there. -/
def storedBy (calls : List SlotCall) : Option Stored := calls.getLast?.bind SlotCall.stored?

/-- The texture that was created last in calls to a slot. -/
def lastCreated (calls : List SlotCall) : Option TextureId :=
  (calls.filterMap SlotCall.created?).getLast?

variable {calls : List SlotCall} {call : SlotCall}

/-- What is stored is what the last call left. -/
theorem storedBy_concat (calls : List SlotCall) (call : SlotCall) :
    storedBy (calls ++ [call]) = call.stored? := by
  rw [storedBy, List.getLast?_concat, Option.bind_some]

/-- The texture last created, after a call that created one. -/
theorem lastCreated_created (created : call.created? = some t) :
    lastCreated (calls ++ [call]) = some t := by
  rw [lastCreated, List.filterMap_append, List.filterMap_cons_some created, List.filterMap_nil,
    List.getLast?_concat]

/-- And after a call that created none. -/
theorem lastCreated_other (other : call.created? = none) :
    lastCreated (calls ++ [call]) = lastCreated calls := by
  rw [lastCreated, List.filterMap_append, List.filterMap_cons_none other, List.filterMap_nil,
    List.append_nil, lastCreated]

/-- The answer to a call, as the reply to a command has it. -/
def Reply.resolved? : Reply → Option Resolved
  | .resolved .cached (some view) _ _ _ => some (.cached view.texture)
  | .resolved .created (some view) _ _ _ => some (.created view.texture)
  | .resolved .unavailable none _ _ _ => some .unavailable
  | _ => none

/-- The call to a slot of a named cache by which a command was carried out. In a new cache all
slots are clear. -/
def slotCall? (name : String) (slot : SlotId) : Command × Reply → Option SlotCall
  | (.resolveCached cache _ frame _, reply) =>
    if cache = name ∧ frame.slot = slot then
      reply.resolved?.map (.resolve frame.buffer.id frame.dataspace)
    else none
  | (.clearCached cache cleared _, _) => if cache = name ∧ cleared = slot then some .clear else none
  | (.newCache cache _, _) | (.clearCache cache _, _) | (.dropCache cache, _) =>
    if cache = name then some .clear else none
  | _ => none

/-- All calls to a slot of a named cache, in order. -/
def slotCalls (name : String) (slot : SlotId) (transcript : List (Command × Reply)) :
    List SlotCall :=
  transcript.filterMap (slotCall? name slot)

/-- The commands of a run with the replies to them. -/
def Session.transcript (s : Session) : List Command → List (Command × Reply)
  | [] => []
  | command :: commands => (command, (s.exec command).2) :: (s.exec command).1.transcript commands

-- ==================================================== imports

/-- What an import puts down: a call to the backend, if the context is alive, and a note if that
fails. -/
def World.importing (w : World) (c : ContextId) (b : HardwareBuffer) (d : Dataspace) :
    List Entry :=
  if w.alive c then
    match (w.backend c).importError with
    | none => [.backend c (.imported (w.imported + 1) b d)]
    | some e => [.backend c (.importFailed b.id), .note (.importFailed b.id e)]
  else [.note (.importFailed b.id .contextLost)]

/-- Whether a backend is called to import a buffer. -/
def Entry.asksImport : Entry → Bool
  | .backend _ (.imported _ _ _) | .backend _ (.importFailed _) => true
  | _ => false

/-- An import asks the backend once, if the context lives. -/
theorem World.countP_importing : (w.importing c b d).countP Entry.asksImport
    = if w.alive c then 1 else 0 := by
  unfold importing
  split
  · split <;> rfl
  · rfl

/-- Parting with a texture asks for no import. -/
theorem World.countP_parting {mode : TeardownMode} :
    (w.parting mode t).countP Entry.asksImport = 0 := by
  refine List.countP_eq_zero.2 fun e mem asks => ?_
  have ends := ended?_of_parting mem
  cases e with
  | backend d call =>
    cases call with
    | imported | importFailed => cases ends
    | _ => cases asks
  | _ => cases asks

namespace Slot

variable {s : Slot}

/-- An import is tried into a slot, which is empty. -/
structure Fills (s : Slot) (w : World) (c : ContextId) (b : HardwareBuffer) (d : Dataspace)
    (after : After Slot Resolved) : Prop where
  history : after.world.history = w.history ++ w.importing c b d
  found : ∀ t, after.answer ≠ .cached t
  created_iff : (∃ t, after.answer = .created t) ↔ w.alive c ∧ (w.backend c).importError = none
  created : ∀ t, after.answer = .created t → t = w.imported + 1
    ∧ after.object = { s with buffer := some b, dataspace := d, texture := some t }
  unavailable : after.answer = .unavailable → after.object = s
  others : ∀ t, t ≠ w.imported + 1 → after.world.texture? t = w.texture? t

/-- An import that fails leaves the slot and the textures as they are. -/
theorem Fills.of_failed {after : World} (history : after.history = w.history ++ w.importing c b d)
    (fails : ¬ (w.alive c ∧ (w.backend c).importError = none))
    (textures : after.textures = w.textures) : s.Fills w c b d ⟨after, s, .unavailable⟩ where
  history := history
  found t same := by cases same
  created_iff := by
    refine iff_of_false ?_ fails
    rintro ⟨t, ⟨⟩⟩
  created t same := by cases same
  unavailable _ := rfl
  others t _ := congrArg (·.get? t) textures

/-- Filling a slot does one of the things that it may do. -/
theorem fill_fills (s : Slot) (w : World) (c : ContextId) (b : HardwareBuffer) (d : Dataspace) :
    s.Fills w c b d (s.fill w c b d) := by
  unfold fill
  dsimp only
  by_cases alive : w.alive c
  · cases works : (w.backend c).importError with
    | none =>
      rw [importTexture_answer _ b d alive works]
      refine ⟨?_, ?_, iff_of_true ⟨_, rfl⟩ ⟨alive, works⟩, ?_, ?_, fun t other => ?_⟩
      · rw [World.importing, if_pos alive, works]
        exact importTexture_history _ b d alive works
      · rintro t ⟨⟩
      · rintro _ ⟨⟩
        exact ⟨rfl, rfl⟩
      · rintro ⟨⟩
      · dsimp only
        rw [share, texture?_onTexture, if_neg other, importTexture_texture? _ b d alive works,
          if_neg other]
    | some e =>
      have fails : ¬ (w.alive c ∧ (w.backend c).importError = none) := by
        rw [works]
        exact fun h => Option.some_ne_none _ h.2
      simp only [World.importTexture, if_pos alive, works]
      refine .of_failed ?_ fails rfl
      rw [World.importing, if_pos alive, works]
      exact List.append_assoc _ _ _
  · have fails : ¬ (w.alive c ∧ (w.backend c).importError = none) := fun h => alive h.1
    simp only [World.importTexture, if_neg alive]
    refine .of_failed ?_ fails rfl
    rw [World.importing, if_neg alive]
    rfl

-- ==================================================== what a slot recalls

/-- A slot holds what the calls to it left there. -/
structure Recalls (s : Slot) (w : World) (calls : List SlotCall) : Prop where
  full : ∀ x, storedBy calls = some x → s.texture = some x.texture ∧ s.dataspace = x.dataspace
    ∧ lastCreated calls = some x.texture
    ∧ ∃ a, w.texture? x.texture = some a ∧ a.buffer.id = x.buffer
  empty : storedBy calls = none → s.texture = none

/-- A slot recalls its calls as long as the textures stay. -/
theorem Recalls.stays (recalls : s.Recalls w calls)
    (stays : ∀ t a, w.texture? t = some a → ∃ a', w'.texture? t = some a' ∧ Stays a a') :
    s.Recalls w' calls where
  full x stored := by
    obtain ⟨texture, dataspace, created, a, known, buffer⟩ := recalls.full x stored
    obtain ⟨a', known', same⟩ := stays _ a known
    exact ⟨texture, dataspace, created, a', known', by rw [same.buffer, buffer]⟩
  empty := recalls.empty

/-- A slot that is cleared recalls nothing. -/
theorem Recalls.cleared (empty : s.texture = none) : s.Recalls w (calls ++ [.clear]) where
  full x stored := by
    rw [storedBy_concat] at stored
    cases stored
  empty _ := empty

/-- What the texture of a slot was stored for. -/
theorem Recalls.stored (recalls : s.Recalls w calls) (texture : s.texture = some t) :
    ∃ x, storedBy calls = some x ∧ x.texture = t ∧ x.dataspace = s.dataspace
      ∧ lastCreated calls = some t ∧ ∃ a, w.texture? t = some a ∧ a.buffer.id = x.buffer := by
  cases stored : storedBy calls with
  | none =>
    rw [recalls.empty stored] at texture
    cases texture
  | some x =>
    obtain ⟨texture', dataspace, created, known⟩ := recalls.full x stored
    rw [texture] at texture'
    cases texture'
    exact ⟨x, rfl, rfl, dataspace.symm, created, known⟩

/-- The texture of a slot, as the calls to it have it. -/
theorem Recalls.texture (recalls : s.Recalls w calls) :
    s.texture = (storedBy calls).map Stored.texture := by
  cases stored : storedBy calls with
  | none => exact recalls.empty stored
  | some x => exact (recalls.full x stored).1

/-- The image that a slot was last resolved to is one of a known texture. -/
theorem Recalls.known {buffer : BufferId} {dataspace : Dataspace} {answer : Resolved}
    (recalls : s.Recalls w (calls ++ [.resolve buffer dataspace answer]))
    (image : answer.image? = some t) : ∃ a, w.texture? t = some a := by
  have stored : storedBy (calls ++ [.resolve buffer dataspace answer])
      = some ⟨buffer, dataspace, t⟩ := by
    rw [storedBy_concat, SlotCall.stored?, image, Option.map_some]
  obtain ⟨-, -, -, a, known, -⟩ := recalls.full _ stored
  exact ⟨a, known⟩

/-- A slot that resolved a frame recalls that. -/
theorem Recalls.resolved (recalls : s.Recalls w calls) {after : After Slot Resolved}
    (resolves : s.Resolves w c b d force after) :
    after.object.Recalls after.world (calls ++ [.resolve b.id d after.answer]) := by
  constructor
  · intro x stored
    rw [storedBy_concat] at stored
    cases resolves with
    | @cached t a texture known buffer dataspace =>
      cases stored
      obtain ⟨-, -, -, -, created, -⟩ := recalls.stored texture
      refine ⟨texture, dataspace, ?_, ?_⟩
      · rw [lastCreated_other rfl]
        exact created
      · have again : ∃ a', (w.reacquireQueue t).texture? t = some a' ∧ Stays a a' :=
          stays_of_change (texture?_onTexture w t · _)
            (fun a => by split <;> exact ⟨rfl, rfl, rfl, rfl⟩) known
        obtain ⟨a', known', same⟩ := again
        have shared : ∃ a'', ((w.reacquireQueue t).share t).texture? t = some a'' ∧ Stays a' a'' :=
          stays_of_change (texture?_onTexture _ t · _) (fun _ => ⟨rfl, rfl, rfl, rfl⟩) known'
        obtain ⟨a'', known'', same'⟩ := shared
        exact ⟨a'', known'', by rw [same'.buffer, same.buffer, buffer]⟩
    | created cleared alive works =>
      cases stored
      refine ⟨rfl, rfl, lastCreated_created rfl, ?_⟩
      dsimp only
      rw [share, texture?_onTexture, if_pos rfl, importTexture_texture? s.pipeline b d alive works,
        if_pos rfl]
      exact ⟨_, rfl, rfl⟩
    | unavailable => cases stored
  · intro none
    rw [storedBy_concat] at none
    cases resolves with
    | cached => cases none
    | created => cases none
    | unavailable => rfl

/-- The texture of a slot is used again exactly if the frame is what it was stored for. -/
theorem Recalls.cached_iff (recalls : s.Recalls w calls) (c : ContextId) (b : HardwareBuffer)
    (d : Dataspace) (force : Bool) :
    (∃ t, (s.resolve w c b d force).answer = .cached t)
      ↔ force = false ∧ ∃ x, storedBy calls = some x ∧ x.buffer = b.id ∧ x.dataspace = d := by
  constructor
  · rintro ⟨t, cached⟩
    have resolves := s.resolve_resolves w c b d force
    generalize s.resolve w c b d force = after at resolves cached
    cases resolves with
    | cached texture known buffer dataspace free =>
      obtain ⟨x, stored, -, dataspace', -, a, known', buffer'⟩ := recalls.stored texture
      rw [known] at known'
      cases known'
      exact ⟨free, x, stored, buffer'.symm.trans buffer, dataspace'.trans dataspace⟩
    | created => cases cached
    | unavailable => cases cached
  · rintro ⟨rfl, x, stored, buffer, dataspace⟩
    obtain ⟨texture, dataspace', -, a, known, buffer'⟩ := recalls.full x stored
    have matching : s.match? w b d = some x.texture := by
      rw [match?, texture, Option.filter_eq_some_iff]
      exact ⟨rfl, by simp [known, HardwareBuffer.same, buffer', buffer, dataspace', dataspace]⟩
    rw [resolve, if_neg Bool.false_ne_true, matching]
    exact ⟨_, rfl⟩

end Slot

-- ==================================================== the answer of a cache

namespace SlotCache

variable {cache : SlotCache} {slot' : SlotId} {t' : TextureId} {r : Owners}

/-- A texture in a cache is known. -/
theorem known_of_owned (owned : w.Owned (cache.owners + r))
    (texture : (cache.entry slot).texture = some t) : ∃ a, w.texture? t = some a := by
  rw [cache.owners_entry slot, ← entry, Slot.owners, texture, oneOf_some, add_assoc] at owned
  obtain ⟨a, found, -⟩ := exists_of_held owned.pos
  exact ⟨a, found⟩

/-- In two slots of a cache there are two textures. -/
theorem textures_ne (owned : w.Owned (cache.owners + r))
    (texture : (cache.entry slot).texture = some t)
    (texture' : (cache.entry slot').texture = some t') (ne : slot' ≠ slot) : t' ≠ t := by
  rintro rfl
  have found : (cache.slots.erase slot).get? slot' = some (cache.entry slot') :=
    (Table.get?_erase_ne _ ne).trans (get?_of_entry texture')
  have single := owned.single t'
  rw [cache.owners_entry slot, ← entry, Table.owners_of_get? found, Slot.owners, Slot.owners,
    texture, texture', oneOf_some] at single
  simp only [Pi.add_apply, one_handle_apply, if_true] at single
  omega

/-- The texture of a slot is given up, if there is one, and then an import is tried. -/
structure Renews (old : Option TextureId) (w : World) (cache : SlotCache) (c : ContextId)
    (slot : SlotId) (b : HardwareBuffer) (d : Dataspace) (after : After SlotCache Resolved) :
    Prop where
  /-- The old texture parts first, and only once. -/
  history : after.world.history
    = w.history ++ old.toList.flatMap (w.parting .normal) ++ w.importing c b d
  /-- The backend is called once to import, if the context is alive. -/
  asks : after.world.history.countP Entry.asksImport
    = w.history.countP Entry.asksImport + if w.alive c then 1 else 0
  givenUp : ∀ t, old = some t →
    after.world.texture? t = (w.texture? t).map (Texture.givenUp .normal)
  /-- A texture is created exactly if there is a context to import for, and that works. -/
  created_iff : (∃ t, after.answer = .created t) ↔ w.alive c ∧ (w.backend c).importError = none
  created : ∀ t, after.answer = .created t → t = w.imported + 1 ∧ after.object.get? slot
    = some { cache.entry slot with buffer := some b, dataspace := d, texture := some t }
  /-- A failure leaves an empty entry: no buffer, no texture, an unknown dataspace. -/
  unavailable : after.answer = .unavailable →
    after.object.get? slot = some (.empty (cache.entry slot).pipeline)

/-- What a cache answers for a frame, after the given calls to its slot. -/
structure Answers (calls : List SlotCall) (w : World) (cache : SlotCache) (c : ContextId)
    (slot : SlotId) (b : HardwareBuffer) (d : Dataspace) (force : Bool)
    (after : After SlotCache Resolved) : Prop where
  /-- A texture is used again exactly if the last call left it for this buffer and dataspace. -/
  reuses_iff : (∃ t, after.answer = .cached t)
    ↔ force = false ∧ ∃ x, storedBy calls = some x ∧ x.buffer = b.id ∧ x.dataspace = d
  /-- It is the texture that was created last, and no backend is called. -/
  reuses : ∀ t, after.answer = .cached t →
    lastCreated calls = some t ∧ after.world.history = w.history ∧ after.object = cache
  /-- Otherwise what the last call left is given up, and an import is tried. -/
  renews : (∀ t, after.answer ≠ .cached t) →
    Renews ((storedBy calls).map Stored.texture) w cache c slot b d after
  /-- All other entries and their textures are left alone. -/
  others : ∀ slot', slot' ≠ slot → after.object.get? slot' = cache.get? slot'
    ∧ ∀ t, (cache.entry slot').texture = some t → after.world.texture? t = w.texture? t

/-- A texture that is known is not the next one to be imported. -/
private theorem ne_imported (owned : w.Owned (cache.owners + r))
    (texture : (cache.entry slot).texture = some t) : t ≠ w.imported + 1 := by
  obtain ⟨a, known⟩ := known_of_owned owned texture
  have counted := (owned.numbered t).1 (by rw [known]; rfl)
  exact Nat.ne_of_lt (Nat.lt_succ_of_le counted.2)

/-- A slot that is cleared and then filled renews its texture. -/
theorem renews (owned : w.Owned (cache.owners + r)) {after : After Slot Resolved}
    (fills : ((cache.entry slot).clear w .normal).object.Fills
      ((cache.entry slot).clear w .normal).world c b d after) :
    Renews (cache.entry slot).texture w cache c slot b d
      ⟨after.world, { cache with slots := cache.slots.set slot after.object }, after.answer⟩ := by
  rw [Slot.clear_world, Slot.clear_empties] at fills
  refine ⟨fills.history, ?_, fun t texture => ?_, fills.created_iff, fun t created => ?_,
    fun failed => ?_⟩
  · have silent : ((cache.entry slot).texture.toList.flatMap (w.parting .normal)).countP
        Entry.asksImport = 0 := by
      cases (cache.entry slot).texture with
      | none => rfl
      | some t =>
        rw [Option.toList_some, List.flatMap_singleton]
        exact countP_parting
    have history : after.world.history
        = w.history ++ (cache.entry slot).texture.toList.flatMap (w.parting .normal)
          ++ w.importing c b d := fills.history
    rw [history, List.countP_append, List.countP_append, silent, countP_importing, Nat.add_zero]
  · have old : t ≠ w.imported + 1 := ne_imported owned texture
    refine (fills.others t old).trans ?_
    rw [texture]
    exact (texture?_onTexture w t t _).trans (if_pos rfl)
  · obtain ⟨new, object⟩ := fills.created t created
    refine ⟨new, ?_⟩
    dsimp only
    rw [get?, Table.get?_set_self, object]
    rfl
  · dsimp only
    rw [get?, Table.get?_set_self, fills.unavailable failed]

/-- A resolution answers as the calls before it say. -/
theorem answers (owned : w.Owned (cache.owners + r)) {calls : List SlotCall}
    (recalls : (cache.entry slot).Recalls w calls) (c : ContextId) (b : HardwareBuffer)
    (d : Dataspace) (force : Bool) :
    Answers calls w cache c slot b d force (cache.resolve w c slot b d force) := by
  have object : ∀ slot', slot' ≠ slot →
      (cache.resolve w c slot b d force).object.get? slot' = cache.get? slot' :=
    fun slot' ne => resolve_get?_ne ne
  have reuses_iff := recalls.cached_iff c b d force
  have resolve : cache.resolve w c slot b d force
      = ⟨((cache.entry slot).resolve w c b d force).world,
        { cache with
          slots := cache.slots.set slot ((cache.entry slot).resolve w c b d force).object },
        ((cache.entry slot).resolve w c b d force).answer⟩ := rfl
  rw [resolve] at object ⊢
  rcases (cache.entry slot).resolve_cases w c b d force with ⟨t, texture, found⟩ | filled
  · rw [found] at reuses_iff object ⊢
    obtain ⟨-, -, -, -, created, -⟩ := recalls.stored texture
    refine ⟨reuses_iff, ?_, fun other => absurd rfl (other t),
      fun slot' ne => ⟨object slot' ne, ?_⟩⟩
    · rintro _ ⟨⟩
      refine ⟨created, rfl, ?_⟩
      dsimp only
      rw [Table.set_of_get? (get?_of_entry texture)]
    · intro t' texture'
      have other := textures_ne owned texture texture' ne
      dsimp only
      rw [share, texture?_onTexture, if_neg other, reacquireQueue, texture?_onTexture,
        if_neg other]
  · have fills := ((cache.entry slot).clear w .normal).object.fill_fills
      ((cache.entry slot).clear w .normal).world c b d
    rw [← filled] at fills
    refine ⟨reuses_iff, fun t cached => absurd cached (fills.found t), fun _ => ?_,
      fun slot' ne => ⟨object slot' ne, fun t' texture' => ?_⟩⟩
    · rw [← recalls.texture]
      exact renews owned fills
    · rw [Slot.clear_world] at fills
      have old : t' ≠ w.imported + 1 := ne_imported owned texture'
      refine (fills.others t' old).trans ?_
      cases texture : (cache.entry slot).texture with
      | none =>
        rw [Option.toList_none, drained_nil]
      | some t =>
        exact (texture?_onTexture w t t' _).trans
          (if_neg (textures_ne owned texture texture' ne))

-- ==================================================== entries that are set

theorem set_entry_self (cache : SlotCache) (slot : SlotId) (s : Slot) :
    ({ cache with slots := cache.slots.set slot s } : SlotCache).entry slot = s := by
  rw [entry, get?, Table.get?_set_self, Option.getD_some]

theorem set_entry_ne (cache : SlotCache) (s : Slot) (ne : slot' ≠ slot) :
    ({ cache with slots := cache.slots.set slot s } : SlotCache).entry slot'
      = cache.entry slot' := by
  rw [entry, get?, Table.get?_set_ne _ _ ne]
  rfl

/-- A slot that was cleared has no texture. -/
theorem clear_entry_texture (cache : SlotCache) (w : World) (slot : SlotId) (mode : TeardownMode) :
    ((cache.clear w slot mode).object.entry slot).texture = none := by
  rw [entry_texture, clear_texture, if_pos rfl]

/-- And the others are as they were. -/
theorem clear_entry_ne (cache : SlotCache) (w : World) (mode : TeardownMode) (ne : slot' ≠ slot) :
    (cache.clear w slot mode).object.entry slot' = cache.entry slot' := by
  unfold clear
  cases cache.get? slot with
  | none => rfl
  | some s => exact cache.set_entry_ne _ ne

/-- A frame is resolved in a slot, which recalls that. -/
theorem resolve_recalls {f : Bool} (recalls : (cache.entry slot).Recalls w calls) :
    let after := cache.resolve w c slot b d f
    (after.object.entry slot).Recalls after.world (calls ++ [.resolve b.id d after.answer]) := by
  dsimp only
  rw [show (cache.resolve w c slot b d f).object.entry slot
    = ((cache.entry slot).resolve w c b d f).object from cache.set_entry_self slot _]
  exact recalls.resolved ((cache.entry slot).resolve_resolves w c b d f)

end SlotCache

-- ==================================================== transcripts

/-- The cache that a command changes, by its name. -/
def Command.cache? : Command → Option String
  | .newCache cache _ | .resolveCached cache _ _ _ | .clearCached cache _ _ | .clearCache cache _
  | .dropCache cache => some cache
  | _ => none

variable {command : Command} {reply : Reply} {lines : List (Command × Reply)}

/-- A command to something else is no call of the cache. -/
theorem slotCall?_other (other : command.cache? ≠ some name) :
    slotCall? name slot (command, reply) = none := by
  have ne : ∀ {cache}, command.cache? = some cache → cache ≠ name := by
    rintro cache changes rfl
    exact other changes
  cases command with
  | newCache | clearCache | dropCache => exact if_neg (ne rfl)
  | resolveCached | clearCached => exact if_neg fun same => ne rfl same.1
  | _ => rfl

/-- What is no call adds none. -/
theorem slotCalls_other (other : slotCall? name slot (command, reply) = none) :
    slotCalls name slot (lines ++ [(command, reply)]) = slotCalls name slot lines := by
  rw [slotCalls, List.filterMap_append, List.filterMap_cons_none other, List.filterMap_nil,
    List.append_nil, slotCalls]

/-- And a call adds itself. -/
theorem slotCalls_call (called : slotCall? name slot (command, reply) = some call) :
    slotCalls name slot (lines ++ [(command, reply)]) = slotCalls name slot lines ++ [call] := by
  rw [slotCalls, List.filterMap_append, List.filterMap_cons_some called, List.filterMap_nil,
    slotCalls]

/-- The reply to a call tells its answer, as far as its image is known. -/
theorem resolved?_reply {answer : Resolved}
    (known : ∀ t, answer.image? = some t → ∃ a, w.texture? t = some a) (description : String)
    (view : SlotView) (rest : Option CacheView) :
    (Reply.resolved answer.outcome (answer.image?.bind w.imageView?) description view
      rest).resolved? = some answer := by
  cases answer with
  | cached t | created t =>
    obtain ⟨a, found⟩ := known t rfl
    rw [Resolved.image?, Option.bind_some, imageView?, found]
    rfl
  | unavailable => rfl

namespace Session

variable {s : Session} {cache : SlotCache}

/-- The transcript of a run and one command more. -/
theorem transcript_snoc (s : Session) (commands : List Command) (command : Command) :
    s.transcript (commands ++ [command])
      = s.transcript commands ++ [(command, ((s.run commands).exec command).2)] := by
  induction commands generalizing s with
  | nil => rfl
  | cons first commands ih =>
    rw [List.cons_append, transcript, transcript, ih, List.cons_append]
    rfl

-- ==================================================== commands

/-- What a cache that has a name holds is held by the session. -/
theorem Sound.owned_cache (sound : s.Sound) (found : s.caches.get? name = some cache) :
    ∃ r, s.world.Owned (cache.owners + r) := by
  obtain ⟨r, named⟩ := (shelf_caches s).there found
  have owned := sound.owned
  rw [owners_eq_named, show s.named = _ from named, add_assoc] at owned
  exact ⟨_, owned⟩

theorem keepOrDropImage_caches (s : Session) (image : Option String) (t : Option TextureId) :
    (s.keepOrDropImage image t).caches = s.caches := by
  cases image <;> cases t <;> rfl

/-- The records of textures stay, as far as they are known. -/
def Staying (s s' : Session) : Prop :=
  ∀ t a, s.world.texture? t = some a → ∃ a', s'.world.texture? t = some a' ∧ Stays a a'

theorem keepOrDropImage_stays (s : Session) (image : Option String) (o : Option TextureId) :
    s.Staying (s.keepOrDropImage image o) := by
  intro t a known
  have letGo : ∀ u, ∃ a', (s.world.letGoOf u).texture? t = some a' ∧ Stays a a' := by
    intro u
    obtain ⟨n, found⟩ := Spares.letGoOf t u s.world a known
    exact ⟨_, found, rfl, rfl, rfl, rfl⟩
  cases image <;> cases o with
  | none => exact ⟨a, known, .refl a⟩
  | some u => exact letGo _

theorem keepCache_caches (s : Session) (name : String) (cache : SlotCache) :
    (s.keepCache name cache).caches = s.caches.set name cache := by
  unfold keepCache
  cases s.caches.get? name <;> rfl

theorem dropCache_caches (s : Session) (name : String) :
    (s.dropCache name).caches = s.caches.erase name := by
  unfold dropCache
  cases s.caches.get? name <;> rfl

/-- A command that does not change a cache leaves it in place. -/
theorem exec_cache_other (other : command.cache? ≠ some name) :
    (s.exec command).1.caches.get? name = s.caches.get? name := by
  have ne : ∀ {cache}, command.cache? = some cache → name ≠ cache := by
    rintro cache changes rfl
    exact other changes
  by_cases refits : command.Refits
  · cases command with
    | newState | newContext => rfl
    | newCache cache pipeline =>
      unfold exec
      dsimp only
      rw [keepCache_caches]
      exact Table.get?_set_ne _ _ (ne rfl)
    | dropCache cache =>
      unfold exec
      dsimp only
      rw [dropCache_caches]
      exact Table.get?_erase_ne _ (ne rfl)
    | resolveCached cache context frame image =>
      unfold exec resolveCached
      dsimp only
      split
      · rw [keepOrDropImage_caches]
        exact Table.get?_set_ne _ _ (ne rfl)
      · rfl
    | clearCached cache slot mode =>
      unfold exec clearCached
      dsimp only
      split
      · exact Table.get?_set_ne _ _ (ne rfl)
      · rfl
    | clearCache cache mode =>
      unfold exec clearCache
      dsimp only
      split
      · exact Table.get?_set_ne _ _ (ne rfl)
      · rfl
    | _ => exact refits.elim
  · exact congrArg (·.2.2.get? name) (exec_fixtures refits)

/-- A cache that has the name, if there is one, holds in its slots what the calls to them left. -/
def Recalling (s : Session) (name : String) (lines : List (Command × Reply)) : Prop :=
  ∀ cache, s.caches.get? name = some cache → ∀ slot,
    (cache.entry slot).Recalls s.world (slotCalls name slot lines)

section Resolve

variable {context : String} {frame : Frame} {image : Option String}

/-- Without the cache or the context nothing is resolved. -/
theorem resolveCached_nothing (none : s.caches.get? name = none ∨ s.context? context = none) :
    s.resolveCached name context frame image = (s, .nothing) := by
  unfold resolveCached
  rcases none with none | none
  · rw [none]
  · rw [none]
    cases s.caches.get? name <;> rfl

/-- A cache that has the name answers for a frame, and the image is kept or let go. -/
theorem resolveCached_eq (entered : s.caches.get? name = some cache)
    (there : s.context? context = some c) (frame : Frame) (image : Option String) :
    let after := cache.resolve s.world c frame.slot frame.buffer frame.dataspace
      frame.forceRecreate
    ∃ description view rest, s.resolveCached name context frame image
      = (({ s with world := after.world, caches := s.caches.set name after.object } :
            Session).keepOrDropImage image after.answer.image?,
          .resolved after.answer.outcome (after.answer.image?.bind after.world.imageView?)
            description view rest) := by
  simp only [resolveCached, entered, there]
  exact ⟨_, _, _, rfl⟩

/-- A resolution in the named cache is recalled. -/
theorem Recalling.resolveCached (recalling : s.Recalling name lines)
    (stays : s.Staying (s.resolveCached name context frame image).1) :
    (s.resolveCached name context frame image).1.Recalling name
      (lines ++ [(.resolveCached name context frame image,
        (s.resolveCached name context frame image).2)]) := by
  have nothing : s.caches.get? name = none ∨ s.context? context = none →
      (s.resolveCached name context frame image).1.Recalling name
        (lines ++ [(.resolveCached name context frame image,
          (s.resolveCached name context frame image).2)]) := by
    intro none cache found slot
    have other : slotCall? name slot (.resolveCached name context frame image, .nothing)
        = Option.none := ite_self _
    rw [resolveCached_nothing none] at found ⊢
    rw [slotCalls_other other]
    exact recalling cache found slot
  cases entered : s.caches.get? name with
  | none => exact nothing (.inl entered)
  | some cache =>
    cases there : s.context? context with
    | none => exact nothing (.inr there)
    | some c =>
      obtain ⟨description, view, rest, same⟩ := resolveCached_eq entered there frame image
      intro cache' found slot
      rw [same] at stays found ⊢
      dsimp only at stays found ⊢
      rw [keepOrDropImage_caches, Table.get?_set_self] at found
      cases found
      by_cases here : frame.slot = slot
      · subst here
        have resolved := SlotCache.resolve_recalls (c := c) (b := frame.buffer)
          (d := frame.dataspace) (f := frame.forceRecreate) (recalling cache entered frame.slot)
        generalize cache.resolve s.world c frame.slot frame.buffer frame.dataspace
          frame.forceRecreate = after at resolved
        have called : slotCall? name frame.slot (.resolveCached name context frame image,
            .resolved after.answer.outcome (after.answer.image?.bind after.world.imageView?)
              description view rest)
            = some (.resolve frame.buffer.id frame.dataspace after.answer) := by
          rw [slotCall?, if_pos ⟨rfl, rfl⟩, resolved?_reply fun _ => resolved.known,
            Option.map_some]
        rw [slotCalls_call called]
        exact resolved.stays (keepOrDropImage_stays
          { s with world := after.world, caches := s.caches.set name after.object } image _)
      · have other : ∀ reply, slotCall? name slot (.resolveCached name context frame image, reply)
            = none := fun _ => if_neg fun same => here same.2
        have entry : (cache.resolve s.world c frame.slot frame.buffer frame.dataspace
            frame.forceRecreate).object.entry slot = cache.entry slot :=
          cache.set_entry_ne _ (Ne.symm here)
        rw [entry, slotCalls_other (other _)]
        exact (recalling cache entered slot).stays stays

end Resolve

/-- A cache of which a slot was cleared was there before. -/
theorem clearCached_get? {cleared : SlotId} {mode : TeardownMode}
    (found : (s.clearCached name cleared mode).1.caches.get? name = some cache) :
    ∃ before, s.caches.get? name = some before
      ∧ cache = (before.clear s.world cleared mode).object := by
  unfold clearCached at found
  split at found
  · next before entered =>
    dsimp only at found
    rw [Table.get?_set_self] at found
    exact ⟨before, entered, (Option.some.inj found).symm⟩
  · next none =>
    rw [none] at found
    cases found

/-- A cache that was cleared has no entries. -/
theorem clearCache_get? {mode : TeardownMode}
    (found : (s.clearCache name mode).1.caches.get? name = some cache) : cache.slots = ∅ := by
  unfold clearCache at found
  split at found
  · dsimp only at found
    rw [Table.get?_set_self] at found
    cases found
    rfl
  · next none =>
    rw [none] at found
    cases found

/-- Every command is recalled, or is no call of the cache. -/
theorem exec_recalling (kept : s.Kept) (recalling : s.Recalling name lines) (command : Command) :
    (s.exec command).1.Recalling name (lines ++ [(command, (s.exec command).2)]) := by
  have stays : s.Staying (s.exec command).1 := fun t a =>
    Steps.stays kept.order.sound (exec_goes kept command).moves.steps
  by_cases own : command.cache? = some name
  · intro cache found slot
    cases command with
    | newCache cache' pipeline =>
      cases own
      have called : ∀ reply, slotCall? name slot (.newCache name pipeline, reply)
          = some .clear := fun _ => if_pos rfl
      unfold exec at found
      dsimp only at found
      rw [keepCache_caches, Table.get?_set_self] at found
      cases found
      rw [slotCalls_call (called _)]
      exact .cleared rfl
    | dropCache cache' =>
      cases own
      unfold exec at found
      dsimp only at found
      rw [dropCache_caches, Table.get?_erase_self] at found
      cases found
    | resolveCached =>
      cases own
      exact recalling.resolveCached stays cache found slot
    | clearCache cache' mode =>
      cases own
      have called : ∀ reply, slotCall? name slot (.clearCache name mode, reply)
          = some .clear := fun _ => if_pos rfl
      rw [slotCalls_call (called _)]
      refine .cleared ?_
      rw [SlotCache.entry_texture, SlotCache.get?, clearCache_get? found]
      rfl
    | clearCached cache' cleared mode =>
      cases own
      obtain ⟨before, entered, rfl⟩ := clearCached_get? found
      by_cases here : cleared = slot
      · have called : ∀ reply, slotCall? name slot (.clearCached name cleared mode, reply)
            = some .clear := fun _ => if_pos ⟨rfl, here⟩
        rw [slotCalls_call (called _), here]
        exact .cleared (before.clear_entry_texture s.world slot mode)
      · have other : ∀ reply, slotCall? name slot (.clearCached name cleared mode, reply)
            = none := fun _ => if_neg fun same => here same.2
        rw [slotCalls_other (other _), before.clear_entry_ne s.world mode (Ne.symm here)]
        exact (recalling before entered slot).stays stays
    | _ => cases own
  · intro cache found slot
    rw [exec_cache_other own] at found
    rw [slotCalls_other (slotCall?_other own)]
    exact (recalling cache found slot).stays stays

/-- A cache recalls the transcript of every run. -/
theorem run_recalling (minimal : Bool) (b : Backend) (commands : List Command) (name : String) :
    ((start minimal b).run commands).Recalling name ((start minimal b).transcript commands) := by
  induction commands using List.reverseRecOn with
  | nil => exact fun cache found => nomatch (show none = some cache from found)
  | append_singleton commands command ih =>
    rw [run_snoc, transcript_snoc]
    exact exec_recalling (kept_run minimal b commands) ih command

/-- In every run, whatever was done with a cache and whatever else happened, backends failed or
contexts were lost: what the cache answers for a frame, asked under any context, is told by the
calls to the slot of the frame. -/
theorem run_cache_answers (minimal : Bool) (b : Backend) (commands : List Command) {name : String}
    {cache : SlotCache} (found : ((start minimal b).run commands).caches.get? name = some cache)
    (c : ContextId) (slot : SlotId) (buffer : HardwareBuffer) (d : Dataspace) (force : Bool) :
    let w := ((start minimal b).run commands).world
    cache.Answers (slotCalls name slot ((start minimal b).transcript commands)) w c slot buffer d
      force (cache.resolve w c slot buffer d force) := by
  obtain ⟨r, owned⟩ := (kept_run minimal b commands).order.sound.owned_cache found
  exact SlotCache.answers owned (run_recalling minimal b commands name cache found slot) c buffer d
    force

/-- A slot that was filled, used again and filled anew, and another one that was cleared. -/
def filledAndCleared : List Command :=
  let frame := fun (slot : Int32) (buffer : UInt64) =>
    Frame.ofBuffer ⟨slot⟩ ⟨⟨buffer⟩, ⟨64, 32, 1⟩, none⟩ .srgb
  [.newCache "k" .vulkan, .resolveCached "k" "s" (frame 0 1) none,
    .resolveCached "k" "s" (frame 0 1) none, .resolveCached "k" "s" (frame 1 2) none,
    .clearCached "k" ⟨1⟩ .normal, .resolveCached "k" "s" (frame 0 3) none]

/-- The buffer that came last is found in the one slot, and none in the other. -/
theorem filledAndCleared_answers :
    let s := (start false {}).run filledAndCleared
    let buffer : HardwareBuffer := ⟨⟨3⟩, ⟨64, 32, 1⟩, none⟩
    ∃ cache, s.caches.get? "k" = some cache
      ∧ slotCalls "k" ⟨0⟩ ((start false {}).transcript filledAndCleared)
        = [.clear, .resolve ⟨1⟩ .srgb (.created 1), .resolve ⟨1⟩ .srgb (.cached 1),
          .resolve ⟨3⟩ .srgb (.created 3)]
      ∧ (cache.resolve s.world 0 ⟨0⟩ buffer .srgb false).answer = .cached 3
      ∧ (cache.resolve s.world 0 ⟨1⟩ buffer .srgb false).answer = .created 4
      ∧ cache.Answers (slotCalls "k" ⟨0⟩ ((start false {}).transcript filledAndCleared)) s.world 0
        ⟨0⟩ buffer .srgb false (cache.resolve s.world 0 ⟨0⟩ buffer .srgb false) := by
  intro s buffer
  let cache : SlotCache := (s.caches.get? "k").getD (.empty .vulkan)
  have found : s.caches.get? "k" = some cache := by decide
  exact ⟨cache, found, by decide, by decide, by decide,
    run_cache_answers false {} filledAndCleared found 0 ⟨0⟩ buffer .srgb false⟩

end Session

end LayerFeed
