/-
The order in which a cache gives up its textures has no meaning. A cache is cleared entry by
entry, and nothing fixes the order of its entries. Whatever the order, clearing leaves the same
empty cache, the same count and the same world but for the history; and there it adds the same
calls, those for any one texture in the same order (`Scatters`). So to sort the calls by texture,
those for one texture kept in order, gives one and the same log (`LogsAgree`). The same is true of
the teardown of an updater and of the installation of a source, which clear a cache among other
things (`Occurs.drains_alike`).

That clearings of different entries commute is in `Object.Drain`; it needs that no texture stands
in two entries, and in every session that occurs none does, as a texture has one handle.
-/
import LayerFeed.Proofs.Object.Drain
import LayerFeed.Proofs.Session.Notice

namespace LayerFeed

open Owners World

-- ==================================================== sorting by texture

section Sorting

variable {α : Type} {xs ys : List (TextureId × α)}

/-- Two sorted lists that agree on every texture are the same. -/
theorem eq_of_sorted (sorted : xs.Pairwise (·.1 ≤ ·.1)) (sorted' : ys.Pairwise (·.1 ≤ ·.1))
    (each : ∀ t, xs.filter (·.1 = t) = ys.filter (·.1 = t)) : xs = ys := by
  induction xs generalizing ys with
  | nil =>
    cases ys with
    | nil => rfl
    | cons y ys =>
      have first := each y.1
      rw [List.filter_cons_of_pos (by simp)] at first
      cases first
  | cons x xs ih =>
    cases ys with
    | nil =>
      have first := each x.1
      rw [List.filter_cons_of_pos (by simp)] at first
      cases first
    | cons y ys =>
      obtain ⟨least, rest⟩ := List.pairwise_cons.1 sorted
      obtain ⟨least', rest'⟩ := List.pairwise_cons.1 sorted'
      -- each list begins with a texture that is in the other list as well
      have below : x.1 ≤ y.1 := by
        have mem : y ∈ (x :: xs).filter (·.1 = y.1) := by
          rw [each]
          simp
        rcases List.mem_cons.1 (List.mem_filter.1 mem).1 with same | mem
        · rw [same]
        · exact least y mem
      have above : y.1 ≤ x.1 := by
        have mem : x ∈ (y :: ys).filter (·.1 = x.1) := by
          rw [← each]
          simp
        rcases List.mem_cons.1 (List.mem_filter.1 mem).1 with same | mem
        · rw [same]
        · exact least' x mem
      have key : x.1 = y.1 := Nat.le_antisymm below above
      have first := each x.1
      rw [List.filter_cons_of_pos (by simp), List.filter_cons_of_pos (by simp [key])] at first
      obtain ⟨rfl, -⟩ := List.cons.inj first
      refine congrArg (x :: ·) (ih rest rest' fun t => ?_)
      have later := each t
      rw [List.filter_cons, List.filter_cons] at later
      split at later
      · exact (List.cons.inj later).2
      · exact later

private theorem byTexture_trans (a b c : TextureId × α) :
    decide (a.1 ≤ b.1) = true → decide (b.1 ≤ c.1) = true → decide (a.1 ≤ c.1) = true := by
  simp only [decide_eq_true_eq]
  exact Nat.le_trans

private theorem byTexture_total (a b : TextureId × α) :
    (decide (a.1 ≤ b.1) || decide (b.1 ≤ a.1)) = true := by
  simp only [Bool.or_eq_true, decide_eq_true_eq]
  exact Nat.le_total _ _

/-- Sorting keeps what there is for one texture in order. -/
theorem filter_mergeSort (xs : List (TextureId × α)) (t : TextureId) :
    (xs.mergeSort fun a b => a.1 ≤ b.1).filter (·.1 = t) = xs.filter (·.1 = t) := by
  have equal : (xs.filter (·.1 = t)).Pairwise fun a b => decide (a.1 ≤ b.1) = true := by
    refine List.pairwise_of_forall_mem_list fun a ha b hb => ?_
    have ha := (List.mem_filter.1 ha).2
    have hb := (List.mem_filter.1 hb).2
    simp only [decide_eq_true_eq] at ha hb ⊢
    rw [ha, hb]
  have kept := List.sublist_mergeSort byTexture_trans byTexture_total equal List.filter_sublist
  have within := kept.filter (·.1 = t)
  rw [List.filter_filter] at within
  simp only [Bool.and_self] at within
  exact (within.eq_of_length ((List.mergeSort_perm xs _).filter _).length_eq.symm).symm

theorem pairwise_mergeSort (xs : List (TextureId × α)) :
    (xs.mergeSort fun a b => a.1 ≤ b.1).Pairwise (·.1 ≤ ·.1) :=
  (List.pairwise_mergeSort byTexture_trans byTexture_total xs).imp of_decide_eq_true

/-- Lists that agree on every texture are the same when sorted. -/
theorem mergeSort_congr (each : ∀ t, xs.filter (·.1 = t) = ys.filter (·.1 = t)) :
    (xs.mergeSort fun a b => a.1 ≤ b.1) = ys.mergeSort fun a b => a.1 ≤ b.1 :=
  eq_of_sorted (pairwise_mergeSort xs) (pairwise_mergeSort ys) fun t => by
    rw [filter_mergeSort, filter_mergeSort, each]

end Sorting

-- ==================================================== logs

/-- The calls of a log that end the hold of a texture, each with the texture. -/
def endings (es : List Entry) : List (TextureId × Entry) :=
  es.filterMap fun e => e.ended?.map (·, e)

/-- Calls that end holds, those for any one texture in the same order. -/
structure Scatters (es fs : List Entry) : Prop where
  perm : es.Perm fs
  calls : ∀ e ∈ es, e.ended?.isSome
  each : ∀ t, es.filter (·.ended? = some t) = fs.filter (·.ended? = some t)

/-- Two logs that are the same but for the order of calls for different textures. -/
structure LogsAgree (es fs : List Entry) : Prop where
  perm : es.Perm fs
  /-- The calls for any one texture are the same, in the same order. -/
  each : ∀ t, es.filter (·.ended? = some t) = fs.filter (·.ended? = some t)
  /-- So is all the rest. -/
  others : es.filter (·.ended?.isNone) = fs.filter (·.ended?.isNone)
  /-- To sort the calls by texture gives one log. -/
  sorted : Session.sortRun (endings es) = Session.sortRun (endings fs)
  /-- So does sorting each unbroken run of them where it stands. -/
  settled : Session.settle es = Session.settle fs

variable {es fs run run' : List Entry}

theorem filter_endings (es : List Entry) (t : TextureId) :
    (endings es).filter (·.1 = t) = (es.filter (·.ended? = some t)).map (t, ·) := by
  induction es with
  | nil => rfl
  | cons e es ih =>
    unfold endings at ih ⊢
    rw [List.filterMap_cons, List.filter_cons]
    cases ended : e.ended? with
    | none => simpa using ih
    | some u =>
      by_cases same : u = t
      · subst same
        simpa using ih
      · simpa [same] using ih

theorem sortRun_congr {xs ys : List (TextureId × Entry)}
    (each : ∀ t, xs.filter (·.1 = t) = ys.filter (·.1 = t)) :
    Session.sortRun xs = Session.sortRun ys :=
  congrArg (List.map Prod.snd) (mergeSort_congr each)

/-- Of the run that is being read only the order for each texture matters. -/
theorem settleFrom_congr {xs ys : List (TextureId × Entry)}
    (each : ∀ t, xs.filter (·.1 = t) = ys.filter (·.1 = t)) (es : List Entry) :
    Session.settleFrom xs es = Session.settleFrom ys es := by
  induction es generalizing xs ys with
  | nil => exact sortRun_congr each
  | cons e es ih =>
    unfold Session.settleFrom
    cases e.ended? with
    | none =>
      dsimp only
      rw [sortRun_congr each]
    | some t =>
      refine ih fun u => ?_
      rw [List.filter_append, List.filter_append, each]

/-- Calls that end holds belong to the run that is being read. -/
theorem settleFrom_calls (calls : ∀ e ∈ es, e.ended?.isSome) (xs : List (TextureId × Entry))
    (fs : List Entry) :
    Session.settleFrom xs (es ++ fs) = Session.settleFrom (xs ++ endings es) fs := by
  induction es generalizing xs with
  | nil => rw [endings, List.filterMap_nil, List.append_nil, List.nil_append]
  | cons e es ih =>
    obtain ⟨t, ended⟩ := Option.isSome_iff_exists.1 (calls e List.mem_cons_self)
    have shape : xs ++ endings (e :: es) = xs ++ [(t, e)] ++ endings es := by
      unfold endings
      rw [List.filterMap_cons, ended, Option.map_some, List.append_assoc]
      rfl
    rw [List.cons_append, Session.settleFrom, ended, shape]
    exact ih (fun e mem => calls e (List.mem_cons_of_mem _ mem)) _

theorem settleFrom_prefix (same : ∀ xs, Session.settleFrom xs es = Session.settleFrom xs fs)
    (before : List Entry) (xs : List (TextureId × Entry)) :
    Session.settleFrom xs (before ++ es) = Session.settleFrom xs (before ++ fs) := by
  induction before generalizing xs with
  | nil => exact same xs
  | cons e before ih =>
    rw [List.cons_append, List.cons_append, Session.settleFrom, Session.settleFrom]
    cases e.ended? with
    | none => exact congrArg (Session.sortRun xs ++ e :: ·) (ih [])
    | some t => exact ih _

/-- Logs agree if all that differs is a stretch of calls in another order. -/
theorem Scatters.agree (scatters : Scatters es fs) (before after : List Entry) :
    LogsAgree (before ++ es ++ after) (before ++ fs ++ after) := by
  have calls' : ∀ e ∈ fs, e.ended?.isSome := fun e mem =>
    scatters.calls e (scatters.perm.mem_iff.2 mem)
  have none : ∀ {gs : List Entry}, (∀ e ∈ gs, e.ended?.isSome) →
      gs.filter (·.ended?.isNone) = [] := by
    intro gs calls
    refine List.filter_eq_nil_iff.2 fun e mem => ?_
    have call := calls e mem
    cases ended : e.ended? with
    | none => simp [ended] at call
    | some t => simp
  have each : ∀ t, (before ++ es ++ after).filter (·.ended? = some t)
      = (before ++ fs ++ after).filter (·.ended? = some t) := fun t => by
    simp only [List.filter_append, scatters.each t]
  have runs : ∀ t, (endings es).filter (·.1 = t) = (endings fs).filter (·.1 = t) := fun t => by
    rw [filter_endings, filter_endings, scatters.each t]
  refine ⟨(scatters.perm.append_left before).append_right after, each, ?_, ?_, ?_⟩
  · simp only [List.filter_append, none scatters.calls, none calls']
  · refine sortRun_congr fun t => ?_
    rw [filter_endings, filter_endings, each t]
  · unfold Session.settle
    rw [List.append_assoc, List.append_assoc]
    refine settleFrom_prefix (fun xs => ?_) before []
    rw [settleFrom_calls scatters.calls, settleFrom_calls calls']
    refine settleFrom_congr (fun t => ?_) after
    rw [List.filter_append, List.filter_append, runs]

-- ==================================================== worlds

namespace World

/-- Two outcomes, from the same world, that differ in the order of calls for different textures
at most. -/
structure EndsAlike (w a b : World) : Prop where
  /-- All textures, contexts and recorders end the same. -/
  state : b = { a with history := b.history }
  logs : ∃ es fs, a.history = w.history ++ es ∧ b.history = w.history ++ fs ∧ LogsAgree es fs

variable {w : World} {ts ts' : List TextureId}

/-- Partings can be taken in any order. -/
theorem parting_scatters (w : World) (mode : TeardownMode) (perm : ts.Perm ts') :
    Scatters (ts.flatMap (w.parting mode)) (ts'.flatMap (w.parting mode)) := by
  have ends : ∀ u, ∀ e ∈ w.parting mode u, e.ended? = some u := fun u e => ended?_of_parting
  have one : ∀ (us : List TextureId) t,
      (us.flatMap (w.parting mode)).filter (·.ended? = some t)
        = (List.replicate (us.count t) t).flatMap (w.parting mode) := by
    intro us t
    induction us with
    | nil => rfl
    | cons u us ih =>
      rw [List.flatMap_cons, List.filter_append, ih]
      by_cases same : u = t
      · rw [same, List.count_cons_self, List.replicate_succ, List.flatMap_cons,
          List.filter_eq_self.2 fun e mem => decide_eq_true (ends t e mem)]
      · rw [List.count_cons_of_ne same, List.filter_eq_nil_iff.2 fun e mem => ?_, List.nil_append]
        rw [ends u e mem]
        simpa using same
  refine ⟨perm.flatMap_right _, fun e mem => ?_, fun t => ?_⟩
  · obtain ⟨u, -, mem⟩ := List.mem_flatMap.1 mem
    rw [ends u e mem]
    rfl
  · rw [one, one, perm.count_eq]

/-- Textures can be given up in any order, between whatever is written before and after. -/
theorem drained_alike {v : World} {before : List Entry} (mode : TeardownMode)
    (perm : ts.Perm ts') (grown : v.history = w.history ++ before) (traces : Traces)
    (after : List Entry) :
    EndsAlike w
      { v.drained mode ts with history := (v.drained mode ts).history ++ after, traces }
      { v.drained mode ts' with history := (v.drained mode ts').history ++ after, traces } where
  state := by
    have comm : RightCommutative fun (T : Table TextureId Texture) t =>
        T.modify t (Texture.givenUp mode) := ⟨fun T t u => T.modify_comm t u _⟩
    have textures : (v.drained mode ts').textures = (v.drained mode ts).textures :=
      (perm.foldl_eq v.textures).symm
    rw [show v.drained mode ts' = { v.drained mode ts' with
      textures := (v.drained mode ts').textures } from rfl, textures]
    rfl
  logs := by
    refine ⟨_, _, ?_, ?_, (v.parting_scatters mode perm).agree before after⟩
    · unfold drained
      dsimp only
      rw [grown]
      simp only [List.append_assoc]
    · unfold drained
      dsimp only
      rw [grown]
      simp only [List.append_assoc]

end World

-- ==================================================== caches

namespace SlotCache

variable {cache cache' : SlotCache} {w : World}

/-- Clearing a cache in the order of its entries and in another one. -/
structure DrainsAlike (w : World) (mode : TeardownMode) (cache cache' : SlotCache) : Prop where
  /-- The same cache without entries is left. -/
  object : (cache.clearAll w mode).object = .empty cache.pipeline
    ∧ (cache'.clearAll w mode).object = .empty cache.pipeline
  /-- The answer is the number of textures that the cache had. -/
  answer : (cache.clearAll w mode).answer = cache.liveTextures
    ∧ (cache'.clearAll w mode).answer = cache.liveTextures
  world : w.EndsAlike (cache.clearAll w mode).world (cache'.clearAll w mode).world

theorem Reorders.drainsAlike (reorders : cache.Reorders cache') (distinct : cache.Distinct)
    (w : World) (mode : TeardownMode) : DrainsAlike w mode cache cache' where
  object := by
    refine ⟨rfl, ?_⟩
    rw [← reorders.pipeline]
    rfl
  answer := by
    refine ⟨clearAll_answer cache w mode, ?_⟩
    rw [clearAll_answer, reorders.liveTextures]
  world := by
    have grown : w.history = w.history ++ [] := (List.append_nil _).symm
    have drained := drained_alike mode reorders.held.symm grown w.traces []
    simp only [List.append_nil] at drained
    rw [clearAll_world distinct, clearAll_world (reorders.distinct distinct)]
    exact drained

end SlotCache

-- ==================================================== updaters

namespace Updater

variable {u : Updater} {cache' : SlotCache} {w : World}

/-- Two outcomes of an operation on an updater that differ in the order of calls for different
textures at most. -/
structure EndsAlike (w : World) (a b : World × Updater) : Prop where
  object : b.2 = a.2
  world : w.EndsAlike a.1 b.1

/-- A teardown gives up the textures of the cache, between what it does before and its report. -/
theorem teardown_eq (live : ¬ u.destroyed) (distinct : u.cache.Distinct) (w : World)
    (mode : TeardownMode) : u.teardown w mode
      = let v := ((u.releaseOwnership w).letGoOf u.shownImage).drained mode u.cache.held
        let told : Event := .tornDown mode u.cache.liveTextures u.layer.isSome
        ({ v with
            history := v.history
              ++ [.note (.tornDown mode u.cache.liveTextures), .event u.id u.sink told]
            traces := ((u.releaseOwnership w).letGoOf u.shownImage).traces.emit u.sink told },
          { u with
            destroyed := true, consumerAttached := false, layer := none,
            cache := .empty u.cache.pipeline, currentSlot := none }) := by
  rw [teardown, if_neg live]
  dsimp only
  rw [SlotCache.clearAll_answer, SlotCache.clearAll_world distinct]
  unfold trace note record
  dsimp only
  rw [List.append_assoc]
  rfl

/-- The teardown of an updater does not depend on the order of its entries. -/
theorem teardown_alike (reorders : u.cache.Reorders cache') (distinct : u.cache.Distinct)
    (bare : u.Bare) (w : World) (mode : TeardownMode) :
    EndsAlike w (u.teardown w mode) ({ u with cache := cache' }.teardown w mode) := by
  by_cases gone : u.destroyed
  · -- there is nothing left to be done, and no entry to be ordered
    have same : ({ u with cache := cache' } : Updater) = u := by
      rw [reorders.eq_of_empty (bare gone).1]
    rw [same, teardown, if_pos gone]
    refine ⟨rfl, rfl, [], [], (List.append_nil _).symm, (List.append_nil _).symm, ?_⟩
    exact ⟨.refl _, fun _ => rfl, rfl, rfl, rfl⟩
  · obtain ⟨before, grown, -⟩ := ((u.releaseOwnership_writes (fun _ => trivial) w).trans
      (letGoOf_writes (P := Entry.Ordinary) ordinary_calls _ u.shownImage)).history
    have live : ¬ ({ u with cache := cache' } : Updater).destroyed := gone
    rw [teardown_eq gone distinct, teardown_eq live (reorders.distinct distinct)]
    dsimp only
    rw [reorders.liveTextures, reorders.pipeline]
    exact ⟨rfl, drained_alike mode reorders.held.symm grown _ _⟩

/-- What is done before the cache is cleared for a new source. -/
def severed (u : Updater) (w : World) : After Updater (Option SlotId) :=
  (u.releaseSource w).object.severActiveSlot (u.releaseSource w).world

/-- The current slot is severed whatever the order of the entries. -/
theorem severed_reorders (reorders : u.cache.Reorders cache') (w : World) :
    ({ u with cache := cache' }.severed w).world = (u.severed w).world
      ∧ ∃ cache'', ({ u with cache := cache' }.severed w).object
          = { (u.severed w).object with cache := cache'' }
        ∧ (u.severed w).object.cache.Reorders cache'' := by
  have world : ({ u with cache := cache' }.releaseSource w).world = (u.releaseSource w).world := by
    unfold releaseSource
    cases u.source <;> rfl
  unfold severed
  rw [world, releaseSource_object, releaseSource_object]
  generalize (u.releaseSource w).world = v
  unfold severActiveSlot
  dsimp only
  cases u.currentSlot with
  | none => exact ⟨rfl, cache', rfl, reorders⟩
  | some slot =>
    dsimp only
    rw [reorders.releaseQueue]
    obtain ⟨world, answer, cleared⟩ := reorders.clear (u.cache.releaseQueue v slot).1 slot .normal
    rw [world, answer]
    exact ⟨rfl, _, rfl, cleared⟩

theorem severed_distinct (distinct : u.cache.Distinct) (w : World) :
    (u.severed w).object.cache.Distinct := by
  unfold severed
  rw [releaseSource_object]
  unfold severActiveSlot
  dsimp only
  cases u.currentSlot with
  | none => exact distinct
  | some slot => exact distinct.clear _ slot .normal

/-- What is written of a source that is installed, after so many stale slots were dropped. -/
def installing (stale : Nat) (source : SourceRef) : List Entry :=
  (if stale > 0 then [.note (.staleSlotsDropped stale)] else []) ++ [.source source .installed]

theorem attach_eq (distinct : u.cache.Distinct) (w : World) (source : SourceRef) :
    u.attach w source
      = let cache := (u.severed w).object.cache
        let v := (u.severed w).world.drained .normal cache.held
        ({ v with
            history := v.history ++ installing cache.liveTextures source
            traces := (u.severed w).world.traces },
          { (u.severed w).object with
            cache := .empty cache.pipeline, source := some source }) := by
  rw [attach]
  dsimp only
  rw [← severed, SlotCache.clearAll_answer, SlotCache.clearAll_world (u.severed_distinct distinct w)]
  unfold installing
  split
  · unfold note record
    dsimp only
    rw [List.append_assoc]
    rfl
  · rfl

/-- The installation of a source does not depend on the order of the entries. -/
theorem attach_alike (reorders : u.cache.Reorders cache') (distinct : u.cache.Distinct) (w : World)
    (source : SourceRef) :
    EndsAlike w (u.attach w source) ({ u with cache := cache' }.attach w source) := by
  obtain ⟨before, grown, -⟩ := ((u.releaseSource_ordinary w).trans
    ((u.releaseSource w).object.severActiveSlot_writes _)).history
  obtain ⟨world, cache'', object, reorders'⟩ := severed_reorders reorders w
  rw [attach_eq distinct, attach_eq (u := { u with cache := cache' }) (reorders.distinct distinct)]
  dsimp only
  rw [world, object]
  dsimp only
  rw [reorders'.liveTextures, reorders'.pipeline]
  exact ⟨rfl, drained_alike .normal reorders'.held.symm grown _ _⟩

end Updater

-- ==================================================== sessions

namespace Session

variable {s : Session} {i : UpdaterId} {u : Updater} {name : String} {cache : SlotCache}

/-- In a cache that has a name no texture stands twice. -/
theorem Sound.distinct_cache (sound : s.Sound) (found : s.caches.get? name = some cache) :
    cache.Distinct := by
  intro t
  obtain ⟨r, owned⟩ := (shelf_caches s).there found
  have single := sound.owned.single t
  rw [owners_eq_named, show s.named = _ from owned, Pi.add_apply, Pi.add_apply, Pi.add_apply,
    Pi.add_apply] at single
  omega

/-- Nor does any in the cache of an updater. -/
theorem Sound.distinct_updater (sound : s.Sound) (found : s.updaterOf? i = some u) :
    u.cache.Distinct := by
  intro t
  obtain ⟨h, entered, rfl⟩ := Option.map_eq_some_iff.1 found
  have single := sound.owned.single t
  rw [owners_eq_besides entered, Updater.owners, Pi.add_apply, Pi.add_apply, Pi.add_apply,
    Pi.add_apply] at single
  omega

/-- In every session that occurs, in the midst of a command or between two, and for any two orders
of the entries of a cache: clearing the cache in either order, in either mode and from any world,
whichever contexts are lost there, ends alike, and so do the teardown of an updater and the
installation of a source. -/
theorem Occurs.drains_alike (occurs : s.Occurs) (w : World) :
    (∀ name cache cache₁ cache₂, s.caches.get? name = some cache → cache.Reorders cache₁ →
        cache.Reorders cache₂ → ∀ mode, SlotCache.DrainsAlike w mode cache₁ cache₂)
      ∧ ∀ i u cache₁ cache₂, s.updaterOf? i = some u → u.cache.Reorders cache₁ →
        u.cache.Reorders cache₂ →
        (∀ mode, SlotCache.DrainsAlike w mode cache₁ cache₂)
        ∧ (∀ mode, Updater.EndsAlike w ({ u with cache := cache₁ }.teardown w mode)
            ({ u with cache := cache₂ }.teardown w mode))
        ∧ ∀ ref, Updater.EndsAlike w ({ u with cache := cache₁ }.attach w ref)
            ({ u with cache := cache₂ }.attach w ref) := by
  have sound := occurs.inOrder.sound
  refine ⟨fun name cache cache₁ cache₂ found first second mode => ?_,
    fun i u cache₁ cache₂ found first second => ?_⟩
  · have distinct := first.distinct (sound.distinct_cache found)
    exact (first.between second).drainsAlike distinct w mode
  · have distinct := first.distinct (sound.distinct_updater found)
    have between := first.between second
    have bare : ({ u with cache := cache₁ } : Updater).Bare := by
      intro gone
      have bare := occurs.bare found gone
      dsimp only
      rw [first.eq_of_empty bare.1]
      exact bare
    exact ⟨between.drainsAlike distinct w,
      Updater.teardown_alike (u := { u with cache := cache₁ }) between distinct bare w,
      Updater.attach_alike (u := { u with cache := cache₁ }) between distinct w⟩

/-- A cache with two textures that keep their buffers from the producer's queue. -/
def twoEntries : List Command :=
  let frame := fun (slot : Int32) (buffer : UInt64) =>
    Frame.ofBuffer ⟨slot⟩ ⟨⟨buffer⟩, ⟨64, 32, 1⟩, none⟩ .srgb
  [.newCache "k" .vulkan, .resolveCached "k" "s" (frame 0 1) none,
    .resolveCached "k" "s" (frame 1 2) none]

/-- The two textures are given up in the order of the entries, and end alike. -/
theorem twoEntries_drains :
    let s := (start false {}).run twoEntries
    ∃ cache cache', s.caches.get? "k" = some cache ∧ cache.Reorders cache'
      ∧ (endings (cache.clearAll s.world .normal).world.history).map Prod.fst = [1, 1, 2, 2]
      ∧ (endings (cache'.clearAll s.world .normal).world.history).map Prod.fst = [2, 2, 1, 1]
      ∧ SlotCache.DrainsAlike s.world .normal cache cache' := by
  intro s
  let cache : SlotCache := (s.caches.get? "k").getD (.empty .vulkan)
  let cache' : SlotCache :=
    { cache with slots := ⟨cache.slots.entries.reverse, by decide⟩ }
  have found : s.caches.get? "k" = some cache := by decide
  have reorders : cache.Reorders cache' := ⟨rfl, List.reverse_perm _⟩
  have same : cache.Reorders cache := ⟨rfl, .refl _⟩
  have alike := Occurs.drains_alike (occurs_run false {} twoEntries) s.world
  exact ⟨cache, cache', found, reorders, by decide, by decide,
    alike.1 "k" cache cache cache' found same reorders .normal⟩

end Session

end LayerFeed
