/-
The calls that one updater makes to its sources, as a language. The updater has at
most one source in its custody. That source goes through four phases: `idle` from
its installation, `taken` when its consumer ownership is taken, `asked` from its
first dequeue on, `parted` when the ownership is released. It is dropped when it
is idle or parted, and only then can the next one be installed.

# What a source sees

A source does not see its own installation. What it sees while it is in custody is
a piece of a `Lifetime`, which ends with its drop: either nothing came before that,
or its ownership was taken once, it was asked at least once, and its ownership was
released once (`Custody.seen`). By then every source before it has seen a whole
lifetime (`Custody.others`).
-/
import LayerFeed.History
import Mathlib.Data.List.Infix

namespace LayerFeed

/-- How far the life of a source in custody has come. -/
inductive Phase
  | idle
  | taken
  | asked
  | parted

/-- The call that leads from a phase to the next one, or out of custody. -/
inductive Phase.Next : Phase → SourceCall → Option Phase → Prop
  | take : Next .idle .taken (some .taken)
  | ask : Next .taken .dequeueBegun (some .asked)
  | askAgain : Next .asked .dequeueBegun (some .asked)
  | release : Next .asked .released (some .parted)
  | dropIdle : Next .idle .dropped none
  | dropParted : Next .parted .dropped none

/-- Calls of an updater to its sources, each with the source, and the source that is
in custody after them, with its phase. -/
inductive Custody : List (SourceRef × SourceCall) → Option (SourceRef × Phase) → Prop
  | nil : Custody [] none
  | install {calls : List (SourceRef × SourceCall)} {ref : SourceRef}
      (before : Custody calls none) (fresh : ∀ call, (ref, call) ∉ calls) :
      Custody (calls ++ [(ref, .installed)]) (some (ref, .idle))
  | call {calls : List (SourceRef × SourceCall)} {ref : SourceRef} {p : Phase}
      {call : SourceCall} {q : Option Phase} (before : Custody calls (some (ref, p)))
      (next : p.Next call q) : Custody (calls ++ [(ref, call)]) (q.map fun p => (ref, p))

/-- What a source sees of calls: all that are made to it but its installation. -/
def callsTo (ref : SourceRef) (calls : List (SourceRef × SourceCall)) : List SourceCall :=
  (calls.filter fun e => e.1 = ref ∧ e.2 ≠ .installed).map Prod.snd

/-- All that a source may ever see. -/
def Lifetime (calls : List SourceCall) : Prop :=
  calls = [.dropped] ∨ ∃ n,
    calls = [.taken] ++ List.replicate (n + 1) .dequeueBegun ++ [.released, .dropped]

/-- What a source in custody has seen. -/
def Phase.Seen : Phase → List SourceCall → Prop
  | idle, calls => calls = []
  | taken, calls => calls = [.taken]
  | asked, calls => ∃ n, calls = [.taken] ++ List.replicate (n + 1) .dequeueBegun
  | parted, calls => ∃ n, calls = [.taken] ++ List.replicate (n + 1) .dequeueBegun ++ [.released]

/-- A source that is not in custody was never installed or has seen a whole lifetime. -/
def OutOfCustody (ref : SourceRef) (calls : List (SourceRef × SourceCall)) : Prop :=
  (∀ call, (ref, call) ∉ calls) ∨ Lifetime (callsTo ref calls)

variable {calls pre : List (SourceRef × SourceCall)} {k : Option (SourceRef × Phase)}
  {ref other : SourceRef} {p : Phase} {call : SourceCall} {heard : List SourceCall}

-- ==================================================== what is seen

theorem callsTo_append (ref : SourceRef) (calls more : List (SourceRef × SourceCall)) :
    callsTo ref (calls ++ more) = callsTo ref calls ++ callsTo ref more := by
  unfold callsTo
  rw [List.filter_append, List.map_append]

/-- A source sees the call that is made to it. -/
theorem callsTo_self (h : call ≠ .installed) : callsTo ref [(ref, call)] = [call] := by
  simp [callsTo, h]

/-- A source does not see what is called on another one. -/
theorem callsTo_other (h : other ≠ ref) (call : SourceCall) : callsTo other [(ref, call)] = [] := by
  simp [callsTo, h.symm]

/-- A source does not see that it is installed. -/
theorem callsTo_installed (other ref : SourceRef) : callsTo other [(ref, .installed)] = [] := by
  simp [callsTo]

/-- A source that was never called has seen nothing. -/
theorem callsTo_of_not_mem (h : ∀ call, (ref, call) ∉ calls) : callsTo ref calls = [] := by
  unfold callsTo
  rw [List.map_eq_nil_iff, List.filter_eq_nil_iff]
  rintro ⟨r, call⟩ mem same
  simp only [decide_eq_true_eq] at same
  rw [same.1] at mem
  exact h call mem

/-- Every lifetime ends with a drop. -/
theorem Lifetime.dropped_mem (h : Lifetime heard) : .dropped ∈ heard := by
  rcases h with rfl | ⟨n, rfl⟩
  · exact List.mem_singleton.2 rfl
  · exact List.mem_append_right _ (by decide)

/-- What was seen in a phase, and the call that ends the phase, were seen in the next,
or make up a lifetime. -/
theorem Phase.Next.seen {q : Option Phase} (next : p.Next call q) (h : p.Seen heard) :
    match q with
    | some q => q.Seen (heard ++ [call])
    | none => Lifetime (heard ++ [call]) := by
  cases next with
  | take => exact congrArg (· ++ [SourceCall.taken]) h
  | ask =>
    refine ⟨0, ?_⟩
    rw [show heard = _ from h]
    rfl
  | askAgain =>
    obtain ⟨n, rfl⟩ := h
    refine ⟨n + 1, ?_⟩
    rw [List.append_assoc, List.replicate_succ' (n := n + 1)]
  | release =>
    obtain ⟨n, rfl⟩ := h
    exact ⟨n, rfl⟩
  | dropIdle =>
    left
    rw [show heard = _ from h]
    rfl
  | dropParted =>
    obtain ⟨n, rfl⟩ := h
    refine .inr ⟨n, ?_⟩
    rw [List.append_assoc]
    rfl

/-- In custody a source is not installed. -/
theorem Phase.Next.not_installed {q : Option Phase} (next : p.Next call q) :
    call ≠ .installed := by
  rintro rfl
  cases next

/-- A call to another source changes nothing for one that is out of custody. -/
theorem OutOfCustody.append (out : OutOfCustody other calls) (hne : other ≠ ref)
    (call : SourceCall) : OutOfCustody other (calls ++ [(ref, call)]) := by
  rcases out with absent | whole
  · left
    intro c mem
    rcases List.mem_append.1 mem with mem | mem
    · exact absent c mem
    · cases List.mem_singleton.1 mem
      exact hne rfl
  · right
    rw [callsTo_append, callsTo_other hne, List.append_nil]
    exact whole

/-- A source in custody has seen what its phase says; any other one is out of custody. -/
theorem Custody.seen (h : Custody calls k) (ref : SourceRef) :
    (∃ p, k = some (ref, p) ∧ p.Seen (callsTo ref calls))
      ∨ (∀ p, k ≠ some (ref, p)) ∧ OutOfCustody ref calls := by
  -- one call after the other; the source is the one that is called, or out of custody
  induction h with
  | nil => exact .inr ⟨nofun, .inl nofun⟩
  | @install calls r before fresh ih =>
    by_cases same : ref = r
    · subst same
      refine .inl ⟨.idle, rfl, ?_⟩
      rw [callsTo_append, callsTo_installed, callsTo_of_not_mem fresh]
      rfl
    · rcases ih with ⟨p, hp, -⟩ | ⟨-, out⟩
      · cases hp
      · refine .inr ⟨?_, out.append same _⟩
        intro p hp
        cases hp
        exact same rfl
  | @call calls r p call q before next ih =>
    by_cases same : ref = r
    · subst same
      rcases ih with ⟨p', hp, seen⟩ | ⟨absent, -⟩
      · cases hp
        have now := next.seen seen
        rw [OutOfCustody, callsTo_append, callsTo_self next.not_installed]
        cases q with
        | some q => exact .inl ⟨q, rfl, now⟩
        | none => exact .inr ⟨nofun, .inr now⟩
      · exact absurd rfl (absent p)
    · rcases ih with ⟨p', hp, -⟩ | ⟨-, out⟩
      · cases hp
        exact absurd rfl same
      · refine .inr ⟨?_, out.append same _⟩
        intro p' hp
        obtain ⟨q, -, hq⟩ := Option.map_eq_some_iff.1 hp
        cases hq
        exact same rfl

/-- What a source in custody has seen is the beginning of a lifetime, without a drop. -/
theorem Phase.Seen.begins (h : p.Seen heard) :
    .dropped ∉ heard ∧ ∃ life, Lifetime life ∧ heard <+: life := by
  cases p with
  | idle =>
    subst h
    exact ⟨by simp, [.dropped], .inl rfl, List.nil_prefix⟩
  | taken =>
    subst h
    exact ⟨by simp, _, .inr ⟨0, rfl⟩, List.prefix_append [SourceCall.taken] _⟩
  | asked =>
    obtain ⟨n, rfl⟩ := h
    exact ⟨by simp, _, .inr ⟨n, rfl⟩, List.prefix_append _ _⟩
  | parted =>
    obtain ⟨n, rfl⟩ := h
    refine ⟨by simp, _, .inr ⟨n, rfl⟩, [.dropped], ?_⟩
    rw [List.append_assoc]
    rfl

-- ==================================================== one source after the other

/-- Whatever is in custody was installed. -/
theorem Custody.installed (h : Custody calls (some (ref, p))) : (ref, .installed) ∈ calls := by
  generalize hk : some (ref, p) = k at h
  induction h generalizing p with
  | nil => cases hk
  | install before fresh =>
    cases hk
    exact List.mem_append_right _ (List.mem_singleton.2 rfl)
  | call before next ih =>
    obtain ⟨q, -, hq⟩ := Option.map_eq_some_iff.1 hk.symm
    cases hq
    exact List.mem_append_left _ (ih rfl)

/-- All that was called up to some moment left a custody of its own. -/
theorem Custody.of_prefix (h : Custody calls k) (hpre : pre <+: calls) :
    ∃ k', Custody pre k' := by
  induction h with
  | nil =>
    rw [List.prefix_nil.1 hpre]
    exact ⟨none, .nil⟩
  | install before fresh ih =>
    rcases List.prefix_concat_iff.1 (by simpa using hpre) with rfl | hpre
    · exact ⟨_, .install before fresh⟩
    · exact ih hpre
  | call before next ih =>
    rcases List.prefix_concat_iff.1 (by simpa using hpre) with rfl | hpre
    · exact ⟨_, .call before next⟩
    · exact ih hpre

/-- Whoever is called is in custody, or is installed when nobody is. -/
theorem Custody.last (h : Custody (pre ++ [(ref, call)]) k) :
    Custody pre none ∨ ∃ p, Custody pre (some (ref, p)) := by
  generalize hcalls : pre ++ [(ref, call)] = calls at h
  cases h with
  | nil => simp at hcalls
  | install before fresh =>
    obtain ⟨rfl, -⟩ := List.append_inj' hcalls rfl
    exact .inl before
  | call before next =>
    obtain ⟨rfl, he⟩ := List.append_inj' hcalls rfl
    cases he
    exact .inr ⟨_, before⟩

/-- When a source is called, any other one of the updater is out of custody. -/
theorem Custody.others {post : List (SourceRef × SourceCall)}
    (h : Custody (pre ++ (ref, call) :: post) k) (hne : other ≠ ref) :
    OutOfCustody other pre := by
  have hpre : pre ++ [(ref, call)] <+: pre ++ (ref, call) :: post := ⟨post, by simp⟩
  obtain ⟨k', upto⟩ := h.of_prefix hpre
  rcases upto.last with before | ⟨p, before⟩
  · rcases before.seen other with ⟨q, hq, -⟩ | ⟨-, out⟩
    · cases hq
    · exact out
  · rcases before.seen other with ⟨q, hq, -⟩ | ⟨-, out⟩
    · cases hq
      exact absurd rfl hne
    · exact out

end LayerFeed
