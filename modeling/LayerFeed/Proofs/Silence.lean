/-
Silence after the loss of a context. When a render state's context is destroyed
the history says so at the moment the context is marked as lost; from there on the
context is called for nothing but to abandon textures, whatever is done by whom:
by an apply that began before, by objects that were never registered, by images
let go of long after.
-/
import LayerFeed.Proofs.Session.Run

namespace LayerFeed.Session

open World

variable {s : Session} {c : ContextId}

/-- The first destruction of a context marks it as lost; a later one finds it so. -/
theorem Sound.lost_of_destroyContext (sound : s.Sound) (locked : Option UpdaterId)
    (opened : (s.world.contexts.get? c).isSome) :
    LostIn c (s.destroyContext locked c).1.world.history := by
  have stays : ∀ {s' s'' : Session}, s'.Sound → Steps s' s'' → LostIn c s'.world.history →
      LostIn c s''.world.history := by
    rintro s' s'' sound' steps ⟨n, mem⟩
    obtain ⟨es, grown⟩ := Steps.history sound' steps
    rw [grown]
    exact ⟨n, List.mem_append_left _ mem⟩
  -- a living context is marked now, a dead one was marked before
  by_cases alive : s.world.alive c
  · unfold destroyContext
    obtain ⟨depth, size⟩ := exists_depth alive
    have marked : Goes locked s (s.loses locked c) := loses_goes alive
    have told := (told_goes (destroyWithin_goes locked depth) alive).moves.steps
    rw [size]
    refine stays (Steps.sound sound marked.moves.steps) told ⟨s.observerCount c, ?_⟩
    exact List.mem_append_right _ (List.mem_singleton.2 rfl)
  · refine stays sound (destroyContext_goes s locked c).moves.steps
      ((sound.ledger.lost c opened).1 ?_)
    simpa using alive

/-- The rule of silence in one session. -/
structure SilentAfterDestroy (s : Session) : Prop where
  /-- A context is dead exactly if the history tells of its loss. -/
  dead_iff : ∀ c, (s.world.contexts.get? c).isSome →
    (s.world.alive c = false ↔ ∃ n, .note (.contextDestroyed c n) ∈ s.world.history)
  /-- After that, all calls to it are abandons. -/
  abandons : ∀ pre post c n, s.world.history = pre ++ .note (.contextDestroyed c n) :: post →
    ∀ call, .backend c call ∈ post → ∃ t, call = .abandoned t
  /-- To destroy a context is to have its loss told, at the latest by then. -/
  destroyed : ∀ c locked, (s.world.contexts.get? c).isSome →
    ∃ n, .note (.contextDestroyed c n) ∈ (s.destroyContext locked c).1.world.history

/-- In every reachable session a lost context is silent. -/
theorem Reachable.silent_after_destroy (h : s.Reachable) : s.SilentAfterDestroy where
  dead_iff c opened := h.sound.ledger.lost c opened
  destroyed c locked opened := h.sound.lost_of_destroyContext locked opened
  abandons pre post c n split call mem := by
    obtain ⟨before, after, rfl⟩ := List.append_of_mem mem
    refine h.sound.ledger.silent (pre ++ .note (.contextDestroyed c n) :: before)
      (.backend c call) after ?_ c call rfl ⟨n, ?_⟩
    · rw [split, List.append_assoc, List.cons_append]
    · exact List.mem_append_right _ List.mem_cons_self

/-- A source that destroys the context from inside the dequeue of an updater that is
not registered, followed by all that could still call the backend. -/
def destroyedInDequeue : List Command :=
  let buffer : HardwareBuffer := ⟨⟨1⟩, ⟨64, 32, 1⟩, none⟩
  let frame := Frame.ofBuffer ⟨0⟩ buffer .srgb
  [.newUpdater "u" {} (.unregistered "s") .unchanged, .importTexture "a" "s" .gl buffer .srgb,
    .attach "u" "q" { frames := [frame], script := [.fence true, .destroy, .fence true, .wait ⟨7⟩] }
      (some "s"),
    .apply "u", .importTexture "b" "s" .vulkan buffer .srgb, .releaseHandle "a" .normal,
    .makeFence "s" .gl true]

theorem destroyedInDequeue_silent :
    let s := (start false {}).run destroyedInDequeue
    s.SilentAfterDestroy
      ∧ s.world.history.filterMap (fun e => match e with
          | .backend c call => if c = 0 then some (some call) else none
          | .note (.contextDestroyed 0 _) => some none
          | _ => none)
        = [some (.imported 1 ⟨⟨1⟩, ⟨64, 32, 1⟩, none⟩ .srgb), some .askedDisplay,
          some .askedNativeFences, some (.nativeFence (some ⟨101⟩)), none, some (.abandoned 1)] :=
  ⟨Reachable.silent_after_destroy (reachable_run false {} destroyedInDequeue), by decide⟩

end LayerFeed.Session
