/-
The producer's queue and the textures that updaters import. On GL nothing is withheld and
nothing is handed back. On Vulkan the buffer of a texture is handed back only while its
texture is there and its context lives, between two hand-backs an updater was given it
again, and a texture that is deleted was handed back since its buffer was given last.

What keeps the order is that a texture is guarded as long as nobody but its updater has
its handle (`run_lineage`). A guarded texture's turns alternate, and what is to be shown
are readings of the last turn before a call.
-/
import LayerFeed.Proofs.Session.Lineage

namespace LayerFeed

open World

variable {t : TextureId} {e : Entry} {h pre mid : List Entry}

/-- How a texture's buffer is dealt with in a history. -/
structure QueueProtocol (t : TextureId) (h : List Entry) : Prop where
  /-- A buffer is handed back after its import, before its texture leaves its backend, and
  while the context that is called lives. -/
  handedBack : ∀ pre c post, h = pre ++ .backend c (.queueReleased t) :: post →
    t ∈ importsIn pre ∧ t ∉ freesIn pre ∧ ¬ LostIn c pre
  /-- Between two hand-backs the buffer comes again, in a frame that an updater takes over. -/
  again : ∀ pre c mid d post,
    h = pre ++ .backend c (.queueReleased t) :: mid ++ .backend d (.queueReleased t) :: post →
    ∃ id frame, .latched id frame (.cached t) ∈ mid
  /-- A texture is deleted after its buffer was handed back, and not given again since. -/
  deleted : ∀ pre c post, h = pre ++ .backend c (.deleted t) :: post →
    ∃ before d since, pre = before ++ .backend d (.queueReleased t) :: since
      ∧ ∀ e ∈ since, e.turn? t ≠ some .acquired

-- ==================================================== readings of the last turn

/-- After a hand-back the last turn can be another one only by an acquisition since. -/
theorem exists_acquired (last : lastTurn t (pre ++ e :: mid) = some .acquired)
    (handed : e.turn? t = some .handedBack) : ∃ a ∈ mid, a.turn? t = some .acquired := by
  unfold lastTurn at last
  rw [List.filterMap_append, List.filterMap_cons_some handed, List.getLast?_append,
    List.getLast?_cons] at last
  cases since : (mid.filterMap (Entry.turn? t)).getLast? with
  | none =>
    rw [since] at last
    cases last
  | some turn =>
    rw [since] at last
    cases last
    exact List.mem_filterMap.1 (List.mem_of_getLast? since)

/-- What an entry says that acquires a buffer. -/
theorem acquired_cases (acquired : e.turn? t = some .acquired) :
    (∃ c b d, e = .backend c (.imported t b d))
      ∨ ∃ id frame, e = .latched id frame (.cached t) := by
  unfold Entry.turn? at acquired
  split at acquired
  · next c u b d =>
    split at acquired
    · next same => exact .inl ⟨c, b, d, by rw [same]⟩
    · cases acquired
  · split at acquired <;> cases acquired
  · next id frame u =>
    split at acquired
    · next same => exact .inr ⟨id, frame, by rw [same]⟩
    · cases acquired
  · cases acquired

theorem eq_of_handedBack (handed : e.turn? t = some .handedBack) :
    ∃ c, e = .backend c (.queueReleased t) := by
  unfold Entry.turn? at handed
  split at handed
  · split at handed <;> cases handed
  · next c u =>
    split at handed
    · next same => exact ⟨c, by rw [same]⟩
    · cases handed
  · split at handed <;> cases handed
  · cases handed

/-- A history in which a hand-back came last tells of it, and of no acquisition since. -/
theorem split_of_handedBack (last : lastTurn t pre = some .handedBack) :
    ∃ before c since, pre = before ++ .backend c (.queueReleased t) :: since
      ∧ ∀ e ∈ since, e.turn? t ≠ some .acquired := by
  induction pre using List.reverseRecOn with
  | nil => cases last
  | append_singleton pre e ih =>
    rw [lastTurn_append] at last
    cases turn : e.turn? t with
    | none =>
      rw [turn, Option.none_or] at last
      obtain ⟨before, c, since, split, none⟩ := ih last
      refine ⟨before, c, since ++ [e], ?_, fun e' mem => ?_⟩
      · rw [split, List.append_assoc, List.cons_append]
      · rcases List.mem_append.1 mem with mem | mem
        · exact none e' mem
        · rw [List.mem_singleton.1 mem, turn]
          nofun
    | some now =>
      rw [turn, Option.some_or] at last
      cases last
      obtain ⟨c, rfl⟩ := eq_of_handedBack turn
      exact ⟨pre, c, [], rfl, nofun⟩

/-- No texture is imported twice. -/
theorem World.Ledger.imported_once {w : World} (ledger : w.Ledger) {e : Entry} {post : List Entry}
    (split : w.history = pre ++ e :: post) (before : t ∈ importsIn pre) :
    t ∉ importsIn (e :: post) := by
  have nodup : (importsIn w.history).Nodup := by
    rw [ledger.imports]
    exact List.nodup_range'
  rw [split, importsIn, List.filterMap_append] at nodup
  exact fun since => (List.nodup_append.1 nodup).2.2 t before t since rfl

/-- A texture whose buffer is dealt with in turn keeps the protocol. -/
theorem queueProtocol_of_turns {w : World} (ledger : w.Ledger) (handBacks : w.HandBacks)
    (turns : Throughout (TakesTurns t) w.history) : QueueProtocol t w.history := by
  have handedBack : ∀ pre c post, w.history = pre ++ .backend c (.queueReleased t) :: post →
      t ∈ importsIn pre ∧ t ∉ freesIn pre ∧ ¬ LostIn c pre := by
    intro pre c post split
    refine ⟨(handBacks.calls _ _ _ split c t rfl).1, ((turns _ _ _ split).1 c rfl).1,
      fun lost => ?_⟩
    obtain ⟨u, abandons⟩ := ledger.silent _ _ _ split c _ rfl lost
    cases abandons
  refine ⟨handedBack, fun pre c mid d post split => ?_, fun pre c post split => ?_⟩
  · have last := ((turns _ _ _ split).1 d rfl).2
    rw [List.append_assoc, List.cons_append] at split
    obtain ⟨e, mem, acquired⟩ := exists_acquired last (if_pos rfl)
    rcases acquired_cases acquired with ⟨c', b', d', rfl⟩ | ⟨id, frame, rfl⟩
    · -- the import was before the first hand-back
      refine absurd ?_ (ledger.imported_once split (handedBack _ _ _ split).1)
      refine List.mem_filterMap.2 ⟨.backend c' (.imported t b' d'), ?_, rfl⟩
      exact List.mem_cons_of_mem _ (List.mem_append_left _ mem)
    · exact ⟨id, frame, mem⟩
  · exact split_of_handedBack ((turns _ _ _ split).2 c rfl)

-- ==================================================== runs

namespace Session

variable {i : UpdaterId} {u : Updater}

/-- In every run, a texture that an updater imports for its frames keeps the protocol of its
pipeline. -/
theorem run_queue_protocol (minimal : Bool) (b : Backend) (before after : List Command)
    (found : ((start minimal b).run before).updaterOf? i = some u) :
    let s := ((start minimal b).run before).run after
    ∀ t, CreatedBy i t s.world.history →
      (u.config.pipeline = .gl →
        (∀ c, .backend c (.queueReleased t) ∉ s.world.history) ∧ ¬ s.world.queueHeld t)
      ∧ (u.config.pipeline = .vulkan → QueueProtocol t s.world.history) := by
  intro s t created
  have line : s.Lineage i u.config.pipeline := run_lineage minimal b before after found
  have kept := kept_run minimal b before
  have order : s.InOrder := (kept.goes (run_goes kept after)).order
  obtain ⟨a, texture, pipeline⟩ := line.known t created
  refine ⟨fun gl => ⟨fun c mem => ?_, fun held => ?_⟩, fun vulkan => ?_⟩
  · obtain ⟨pre, post, split⟩ := List.append_of_mem mem
    obtain ⟨-, a', texture', -, vulkan⟩ := order.handBacks.calls _ _ _ split c t rfl
    rw [texture] at texture'
    cases texture'
    rw [pipeline, gl] at vulkan
    cases vulkan
  · unfold World.queueHeld at held
    rw [texture] at held
    have vulkan := order.handBacks.withholds t a texture held
    rw [pipeline, gl] at vulkan
    cases vulkan
  · have upkeep := line.guarded t created a texture (pipeline.trans vulkan)
    exact queueProtocol_of_turns order.sound.ledger order.handBacks upkeep.turns

/-- A buffer comes twice to an updater on Vulkan, whose source makes a fence each time. -/
def givenAgain : List Command :=
  let frame := Frame.ofBuffer ⟨0⟩ ⟨⟨1⟩, ⟨64, 32, 1⟩, none⟩ .srgb
  [.attach "u" "q" { frames := [frame], script := [.fence true] } none, .apply "u",
    .push "q" [frame], .post "u", .apply "u", .detach "u", .teardown "u" .normal]

theorem givenAgain_protocol :
    let s := ((start false {}).run
      [.newUpdater "u" { pipeline := .vulkan } (.registered "s") .unchanged]).run givenAgain
    CreatedBy 1 1 s.world.history ∧ QueueProtocol 1 s.world.history
      ∧ s.world.history.filterMap (Entry.turn? 1)
        = [.acquired, .handedBack, .acquired, .handedBack]
      ∧ deletesIn s.world.history = [1] := by
  intro s
  have created : CreatedBy 1 1 s.world.history :=
    ⟨.ofBuffer ⟨0⟩ ⟨⟨1⟩, ⟨64, 32, 1⟩, none⟩ .srgb, by decide⟩
  have vulkan : (((start false {}).run
      [.newUpdater "u" { pipeline := .vulkan } (.registered "s") .unchanged]).updaterOf? 1).map
        (·.config.pipeline) = some .vulkan := by decide
  obtain ⟨u, found, vulkan⟩ := Option.map_eq_some_iff.1 vulkan
  have protocol := run_queue_protocol false {} _ givenAgain found 1 created
  exact ⟨created, protocol.2 vulkan, by decide, by decide⟩

end Session

end LayerFeed
