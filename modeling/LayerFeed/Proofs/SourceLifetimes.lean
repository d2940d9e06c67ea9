/-
The protocol of consumer ownership. An updater takes the ownership of a source
before it asks it for the first frame, and gives it back before it drops it. Which
of its functions releases the source may vary: a teardown does and keeps it, a
detach, a replacement or the drop of the updater do and drop it as well, after a
teardown they only drop it. What a source sees of this is always a `Lifetime`, or
the beginning of one.
-/
import LayerFeed.Proofs.Session.Run

namespace LayerFeed.Session

open World

variable {s : Session} {ref : SourceRef}

/-- A source is called by nobody but its updater. -/
theorem callsTo_callsBy (ref : SourceRef) (h : List Entry) :
    callsTo ref (callsBy ref.owner h) = callsTo ref (callsIn h) := by
  unfold callsTo callsBy
  rw [List.filter_filter]
  refine congrArg _ (List.filter_congr fun e _ => ?_)
  by_cases same : e.1 = ref
  · simp [same]
  · simp [same]

/-- The protocol of consumer ownership, for all sources of a session. -/
structure OwnershipProtocol (s : Session) : Prop where
  /-- What a source has seen is the beginning of a lifetime: just a drop, or its
  ownership taken, one dequeue or more, its ownership released, a drop. -/
  begins : ∀ ref, ∃ life, Lifetime life ∧ callsTo ref (callsIn s.world.history) <+: life
  /-- A source that was dropped has seen a whole lifetime. -/
  ends : ∀ ref, .dropped ∈ callsTo ref (callsIn s.world.history) →
    Lifetime (callsTo ref (callsIn s.world.history))
  /-- A source that was installed and not dropped is still the one of its updater. -/
  stays : ∀ ref, (ref, .installed) ∈ callsIn s.world.history →
    .dropped ∈ callsTo ref (callsIn s.world.history)
      ∨ ∃ h, s.updaters.get? ref.owner = some h ∧ h.value.source = some ref
  /-- Whenever a source is called, each other one of its updater has yet to be
  installed or has seen a whole lifetime. -/
  turns : ∀ pre e post ref call, s.world.history = pre ++ e :: post →
    e.sourceCall? = some (ref, call) → ∀ other, other.owner = ref.owner → other ≠ ref →
      (∀ call, (other, call) ∉ callsIn pre) ∨ Lifetime (callsTo other (callsIn pre))

/-- A source of a session is the one that its updater has, and has seen what its phase
says, or it is out of custody. -/
theorem Sourced.seen (sourced : s.Sourced) (ref : SourceRef) :
    (∃ p : Phase, p.Seen (callsTo ref (callsIn s.world.history))
        ∧ ∃ h, s.updaters.get? ref.owner = some h ∧ h.value.source = some ref)
      ∨ OutOfCustody ref (callsIn s.world.history) := by
  obtain ⟨k, custody, stands⟩ := sourced.custody ref.owner
  have seen := custody.seen ref
  unfold OutOfCustody at seen ⊢
  rw [callsTo_callsBy] at seen
  rcases seen with ⟨p, rfl, seen⟩ | ⟨-, absent | whole⟩
  · left
    refine ⟨p, seen, ?_⟩
    cases found : s.updaters.get? ref.owner with
    | none =>
      rw [found] at stands
      cases stands
    | some h =>
      rw [found] at stands
      exact ⟨h, rfl, Updater.Stands.has_source stands⟩
  · right
    left
    intro call mem
    exact absent call (List.mem_filter.2 ⟨mem, decide_eq_true rfl⟩)
  · exact .inr (.inr whole)

/-- The calls of one updater around a call of one of its sources. -/
theorem callsBy_split {hist pre post : List Entry} {e : Entry} {call : SourceCall}
    (split : hist = pre ++ e :: post) (called : e.sourceCall? = some (ref, call)) :
    callsBy ref.owner hist
      = callsBy ref.owner pre ++ (ref, call) :: callsBy ref.owner post := by
  have around : callsIn hist = callsIn pre ++ (ref, call) :: callsIn post := by
    rw [split, callsIn_append]
    exact congrArg _ (List.filterMap_cons_some called)
  unfold callsBy
  rw [around, List.filter_append]
  exact congrArg _ (List.filter_cons_of_pos (decide_eq_true rfl))

/-- Every reachable session keeps the protocol of consumer ownership. -/
theorem Reachable.ownership_protocol (h : s.Reachable) : s.OwnershipProtocol where
  begins ref := by
    rcases h.sourced.seen ref with ⟨p, seen, -⟩ | absent | whole
    · exact seen.begins.2
    · rw [callsTo_of_not_mem absent]
      exact ⟨[.dropped], .inl rfl, List.nil_prefix⟩
    · exact ⟨_, whole, List.prefix_rfl⟩
  ends ref dropped := by
    rcases h.sourced.seen ref with ⟨p, seen, -⟩ | absent | whole
    · exact absurd dropped seen.begins.1
    · rw [callsTo_of_not_mem absent] at dropped
      cases dropped
    · exact whole
  stays ref installed := by
    rcases h.sourced.seen ref with ⟨p, -, current⟩ | absent | whole
    · exact .inr current
    · exact absurd installed (absent _)
    · exact .inl whole.dropped_mem
  turns pre e post ref call split called other owner hne := by
    obtain ⟨k, custody, -⟩ := h.sourced.custody ref.owner
    rw [callsBy_split split called] at custody
    rcases custody.others hne with absent | whole
    · left
      intro call mem
      exact absent call (List.mem_filter.2 ⟨mem, decide_eq_true owner⟩)
    · right
      rw [← owner, callsTo_callsBy] at whole
      exact whole

/-- Four sources of one updater: the first is replaced, the second detached, the
third released by a teardown and replaced, the fourth dropped with the updater. -/
def fourSources : List Command :=
  let frame := Frame.ofBuffer ⟨0⟩ ⟨⟨1⟩, ⟨64, 32, 1⟩, none⟩ .srgb
  [.newUpdater "u" {} (.registered "s") .unchanged,
    .attach "u" "p" { frames := [frame, frame] } (some "s"), .apply "u", .post "u", .apply "u",
    .attach "u" "q" { frames := [frame] } (some "s"), .post "u", .apply "u", .detach "u",
    .attach "u" "r" {} (some "s"), .apply "u", .teardown "u" .contextLost,
    .attach "u" "t" {} (some "s"), .apply "u", .dropUpdater "u"]

theorem fourSources_protocol :
    let s := (start false {}).run fourSources
    s.OwnershipProtocol
      ∧ [SourceRef.mk 2 "p" 1, ⟨3, "q", 1⟩, ⟨4, "r", 1⟩, ⟨5, "t", 1⟩].map
          (callsTo · (callsIn s.world.history))
        = [[.taken, .dequeueBegun, .dequeueBegun, .released, .dropped],
          [.taken, .dequeueBegun, .released, .dropped],
          [.taken, .dequeueBegun, .released, .dropped], [.dropped]] :=
  ⟨Reachable.ownership_protocol (reachable_run false {} fourSources), by decide⟩

end LayerFeed.Session
