/-
What a source gets from its callbacks while it is asked for a frame. It may ask for release fences
and wait for fences of its own as often as it likes, the backend may answer as it likes, and the
context may be lost in between. Every fence that it asks for it gets, if only one without a signal;
what kind of signal it has is what the one attempt to make it came to (`FenceMade`). A lost context
is not called.

On Vulkan the buffer of the slot that was current is handed back with the first of the fences, or
never. The fence is made after that, so that it covers the hand-back; and no later one hands the
buffer back again, because nobody but the updater deals with the texture of its slot, and the
updater is locked (`Asked.pairwise`).

Callbacks are looked at one by one, each with the world that it finds (`Session.exchanges`), and
what is fair to every one of them is put together in the end (`run_fence_callbacks`).
-/
import LayerFeed.Proofs.Session.Asking
import LayerFeed.Proofs.Session.Homed

namespace LayerFeed

open Owners World

variable {i : UpdaterId} {t : TextureId} {u v : Updater} {w : World} {c : ContextId} {p : Pipeline}
  {useSync : Bool}

-- ==================================================== fences

/-- The call hands a buffer back to a producer's queue. -/
def BackendCall.isHandBack : BackendCall → Bool
  | queueReleased _ => true
  | _ => false

/-- By the entry a buffer of context `c` is handed back. -/
def Entry.handsBack (c : ContextId) : Entry → Bool
  | .backend d call => d = c && call.isHandBack
  | _ => false

/-- The signal that a call to make one came to. -/
def BackendCall.signal : BackendCall → FenceKind
  | nativeFence (some fd) => .native fd
  | syncFence (some object) => .sync object
  | _ => .none

/-- What is asked before a signal is made. -/
def questions (c : ContextId) : Pipeline → List Entry
  | .vulkan => []
  | .gl => [.backend c .askedDisplay, .backend c .askedNativeFences]

/-- The questions before a fence are two. -/
theorem mem_questions {e : Entry} (mem : e ∈ questions c p) :
    e = .backend c .askedDisplay ∨ e = .backend c .askedNativeFences := by
  cases p with
  | vulkan => cases mem
  | gl => simpa [questions] using mem

/-- The one call to make a signal, if there is one: for a native fence on Vulkan, and on GL if
those are supported; else for a sync object, if that is allowed. -/
inductive Attempts (b : Backend) (p : Pipeline) (useSync : Bool) : Option BackendCall → Prop
  | native (tried : p = .vulkan ∨ b.nativeFences) (fd : Option FenceFd) :
      Attempts b p useSync (some (.nativeFence fd))
  | sync (gl : p = .gl) (unsupported : ¬ b.nativeFences) (allowed : useSync)
      (object : Option UInt64) : Attempts b p useSync (some (.syncFence object))
  | nothing (gl : p = .gl) (unsupported : ¬ b.nativeFences) (forbidden : ¬ useSync) :
      Attempts b p useSync none

/-- A native descriptor is answered exactly when the attempt made it. -/
theorem Attempts.native_iff {b : Backend} {attempt : Option BackendCall} {fd : FenceFd}
    (attempts : Attempts b p useSync attempt) :
    attempt.elim .none BackendCall.signal = .native fd
      ↔ attempt = some (.nativeFence (some fd)) := by
  cases attempts with
  | native tried made => cases made <;> simp [BackendCall.signal]
  | sync gl unsupported allowed made => cases made <;> simp [BackendCall.signal]
  | nothing => simp

/-- And a sync object likewise. -/
theorem Attempts.sync_iff {b : Backend} {attempt : Option BackendCall} {object : UInt64}
    (attempts : Attempts b p useSync attempt) :
    attempt.elim .none BackendCall.signal = .sync object
      ↔ attempt = some (.syncFence (some object)) := by
  cases attempts with
  | native tried made => cases made <;> simp [BackendCall.signal]
  | sync gl unsupported allowed made => cases made <;> simp [BackendCall.signal]
  | nothing => simp

/-- That a fence is asked for in a world, and made for a context: `es` is all that is written
then, and `due` what is handed back first. -/
structure FenceMade (w : World) (c : ContextId) (p : Pipeline) (useSync : Bool)
    (due es : List Entry) (fence : ReleaseFence) : Prop where
  /-- A lost context is not called. -/
  lost : ¬ w.alive c → es = []
  /-- A living one is called for what is due, and then once for a signal at most; all that may
  follow is a remark that there is none. -/
  asked : w.alive c → ∃ attempt notes,
    es = due ++ questions c p ++ attempt.toList.map (.backend c) ++ notes
      ∧ Attempts (w.backend c) p useSync attempt
      ∧ ∀ e ∈ notes, ∃ error, e = .note (.fenceUnavailable error)
  /-- The fence has the signal that the backend made. -/
  native : ∀ fd, fence.kind = .native fd ↔ .backend c (.nativeFence (some fd)) ∈ es
  sync : ∀ object, fence.kind = .sync object ↔ .backend c (.syncFence (some object)) ∈ es
  /-- A fence without a signal has no display. -/
  sentinel : fence.kind = .none → fence = .none

/-- That a fence is waited for in a world, with all that is written then, and what went wrong. -/
structure FenceWaited (w : World) (c : ContextId) (fd : FenceFd) (es : List Entry)
    (error : Option GpuError) : Prop where
  lost : ¬ w.alive c → es = [] ∧ error = some .contextLost
  waited : w.alive c → error = (w.backend c).waitError
    ∧ es = .backend c (.waited fd) :: error.toList.map fun e => .note (.waitFailed fd e)

namespace FenceGate

variable (g : FenceGate)

/-- What comes of an attempt to make a signal, after some questions: it is written, perhaps with a
remark, and the fence has the signal that it came to. -/
structure Tries (w : World) (c : ContextId) (asked : List Entry) (attempt : Option BackendCall)
    (made : World × ReleaseFence) : Prop where
  history : ∃ notes,
    made.1.history = w.history ++ (asked ++ attempt.toList.map (.backend c) ++ notes)
      ∧ ∀ e ∈ notes, ∃ error, e = .note (.fenceUnavailable error)
  kind : made.2.kind = attempt.elim .none BackendCall.signal
  sentinel : made.2.kind = .none → made.2 = .none

/-- An attempt made after other calls. -/
theorem Tries.after {v : World} {before asked : List Entry} {attempt : Option BackendCall}
    {made : World × ReleaseFence} (grown : v.history = w.history ++ before)
    (tries : Tries v c asked attempt made) : Tries w c (before ++ asked) attempt made where
  history := by
    obtain ⟨notes, history, remarks⟩ := tries.history
    refine ⟨notes, ?_, remarks⟩
    rw [history, grown]
    simp only [List.append_assoc]
  kind := tries.kind
  sentinel := tries.sentinel

/-- A native fence is one attempt. -/
theorem makeNative_tries (w : World) (display : Option DisplayId) :
    ∃ fd, Tries w g.context [] (some (.nativeFence fd)) (g.makeNative w display) := by
  unfold makeNative
  cases (w.backend g.context).nativeError with
  | some e => exact ⟨none, ⟨[_], List.append_assoc _ _ _, by simp⟩, rfl, fun _ => rfl⟩
  | none => exact ⟨some _, ⟨[], rfl, by simp⟩, rfl, fun unsignalled => by cases unsignalled⟩

/-- A sync object is one attempt. -/
theorem makeSync_tries (w : World) (display : Option DisplayId) :
    ∃ object, Tries w g.context [] (some (.syncFence object)) (g.makeSync w display) := by
  unfold makeSync
  cases (w.backend g.context).syncFault with
  | some e => exact ⟨none, ⟨[_], List.append_assoc _ _ _, by simp⟩, rfl, fun _ => rfl⟩
  | none => exact ⟨some _, ⟨[], rfl, by simp⟩, rfl, fun unsignalled => by cases unsignalled⟩

/-- A living context makes one attempt at most. -/
theorem createFence_tries (alive : w.alive g.context) (useSync : Bool) : ∃ attempt,
    Attempts (w.backend g.context) g.pipeline useSync attempt
      ∧ Tries w g.context (questions g.context g.pipeline) attempt (g.createFence w useSync) := by
  unfold createFence
  rw [if_pos alive]
  cases g.pipeline with
  | vulkan =>
    obtain ⟨fd, tries⟩ := g.makeNative_tries w none
    exact ⟨_, .native (.inl rfl) fd, tries⟩
  | gl =>
    have asked : ((w.call g.context .askedDisplay).call g.context .askedNativeFences).history
        = w.history ++ questions g.context .gl := List.append_assoc _ _ _
    dsimp only
    by_cases supported : (w.backend g.context).nativeFences
    · rw [if_pos supported]
      obtain ⟨fd, tries⟩ := g.makeNative_tries _ _
      refine ⟨_, .native (.inr supported) fd, ?_⟩
      simpa only [List.append_nil] using tries.after asked
    · rw [if_neg supported]
      by_cases allowed : useSync
      · rw [if_pos allowed]
        obtain ⟨object, tries⟩ := g.makeSync_tries _ _
        refine ⟨_, .sync rfl supported allowed object, ?_⟩
        simpa only [List.append_nil] using tries.after asked
      · rw [if_neg allowed]
        refine ⟨none, .nothing rfl supported allowed, ⟨[], ?_, List.forall_mem_nil _⟩, rfl,
          fun _ => rfl⟩
        rw [asked, Option.toList_none, List.map_nil, List.append_nil, List.append_nil]

/-- A call is among all that is written as a fence is made exactly if it was the attempt. -/
theorem signal_iff {asked notes : List Entry} {attempt : Option BackendCall} {k : BackendCall}
    (unasked : ∀ e ∈ asked, e ≠ .backend c k)
    (remarks : ∀ e ∈ notes, ∃ error, e = .note (.fenceUnavailable error)) :
    .backend c k ∈ asked ++ attempt.toList.map (.backend c) ++ notes ↔ attempt = some k := by
  have before : .backend c k ∉ asked := fun mem => unasked _ mem rfl
  have after : .backend c k ∉ notes := by
    intro mem
    obtain ⟨error, same⟩ := remarks _ mem
    cases same
  simp [before, after]

/-- A fence is made once what is due was handed back. -/
theorem createFence_made {due : List Entry} {back : World}
    (contexts : back.contexts = w.contexts) (handedBack : back.history = w.history ++ due)
    (hands : ∀ e ∈ due, ∃ t, e = .backend g.context (.queueReleased t))
    (lost : ¬ w.alive g.context → due = []) (useSync : Bool) : ∃ es,
    (g.createFence back useSync).1.history = w.history ++ es
      ∧ FenceMade w g.context g.pipeline useSync due es (g.createFence back useSync).2 := by
  have alive_same : back.alive g.context = w.alive g.context := alive_congr contexts _
  have backend_same : back.backend g.context = w.backend g.context := by
    unfold World.backend
    rw [contexts]
  by_cases alive : w.alive g.context
  · obtain ⟨attempt, attempts, tries⟩ := g.createFence_tries (alive_same.trans alive) useSync
    rw [backend_same] at attempts
    obtain ⟨notes, grown, remarks⟩ := (tries.after handedBack).history
    -- neither what is due nor a question is a call for a signal
    have unasked : ∀ k : BackendCall, k.signal ≠ .none →
        ∀ e ∈ due ++ questions g.context g.pipeline, e ≠ .backend g.context k := by
      rintro k signals e mem rfl
      rcases List.mem_append.1 mem with mem | mem
      · obtain ⟨t, same⟩ := hands _ mem
        cases same
        exact signals rfl
      · rcases mem_questions mem with same | same
        · cases same
          exact signals rfl
        · cases same
          exact signals rfl
    refine ⟨_, grown, fun dead => absurd alive dead, fun _ => ⟨attempt, notes, rfl, attempts,
      remarks⟩, fun fd => ?_, fun object => ?_, tries.sentinel⟩
    · rw [signal_iff (unasked _ (by simp [BackendCall.signal])) remarks, tries.kind]
      exact attempts.native_iff
    · rw [signal_iff (unasked _ (by simp [BackendCall.signal])) remarks, tries.kind]
      exact attempts.sync_iff
  · have dead : ¬ back.alive g.context := by rwa [alive_same]
    have none : g.createFence back useSync = (back, .none) := if_neg dead
    rw [none, handedBack, lost alive]
    exact ⟨[], rfl, fun _ => rfl, fun alive' => absurd alive' alive, by simp [ReleaseFence.none],
      by simp [ReleaseFence.none], fun _ => rfl⟩

/-- A wait for a descriptor is written as the answer says. -/
theorem wait_waited (w : World) (fd : FenceFd) : ∃ es,
    (g.wait w fd).1.history = w.history ++ es ∧ FenceWaited w g.context fd es (g.wait w fd).2 := by
  unfold wait
  by_cases alive : w.alive g.context
  · rw [if_pos alive]
    dsimp only
    cases fault : (w.backend g.context).waitError with
    | none => exact ⟨[_], rfl, fun dead => absurd alive dead, fun _ => ⟨fault.symm, rfl⟩⟩
    | some e =>
      refine ⟨[_, _], List.append_assoc _ _ _, fun dead => absurd alive dead, fun _ => ?_⟩
      exact ⟨fault.symm, rfl⟩
  · rw [if_neg alive]
    exact ⟨[], (List.append_nil _).symm, fun _ => ⟨rfl, rfl⟩, fun alive' => absurd alive' alive⟩

end FenceGate

-- ==================================================== the slot that was current

namespace Updater

/-- What is handed back with a fence on behalf of an updater: the buffer of its current slot, on
Vulkan, while it is withheld and the context is alive. -/
def due (u : Updater) (w : World) : List Entry :=
  match u.fences.previous.bind Slot.texture with
  | some t =>
    if u.config.pipeline = .vulkan ∧ w.queueHeld t ∧ w.alive u.context then
      [.backend u.context (.queueReleased t)]
    else []
  | none => []

/-- What is due is read off the context, the configuration and the fences. -/
theorem due_congr (context : v.context = u.context) (config : v.config = u.config)
    (fences : v.fences = u.fences) : v.due w = u.due w := by
  unfold due
  rw [context, config, fences]

/-- Nothing is due twice. -/
theorem due_of_handedBack (back : u.HandedBack w) : u.due w = [] := by
  unfold due
  cases shown : u.fences.previous.bind Slot.texture with
  | none => rfl
  | some t =>
    obtain ⟨slot, previous, texture⟩ := Option.bind_eq_some_iff.1 shown
    exact if_neg fun ⟨vulkan, withheld, _⟩ => back vulkan slot t previous texture withheld

/-- What is due are hand-backs. -/
theorem due_handBacks (u : Updater) (w : World) :
    ∀ e ∈ u.due w, ∃ t, e = .backend u.context (.queueReleased t) := by
  unfold due
  split
  · split <;> simp
  · simp

/-- Nothing is due on a lost context. -/
theorem due_of_lost (lost : ¬ w.alive u.context) : u.due w = [] := by
  unfold due
  split
  · exact if_neg fun ⟨_, _, alive⟩ => lost alive
  · rfl

/-- What a fence hands back is what is due, as the texture in the current slot is at home. -/
theorem due_history {slot : Slot} (homed : u.Homed w)
    (previous : u.fences.previous = some slot) :
    (slot.releaseQueue w).1.contexts = w.contexts
      ∧ (slot.releaseQueue w).1.history = w.history ++ u.due w := by
  unfold due Slot.releaseQueue
  rw [previous, Option.bind_some]
  cases texture : slot.texture with
  | none => exact ⟨rfl, (List.append_nil _).symm⟩
  | some t =>
    obtain ⟨number, -, entered⟩ := Option.bind_eq_some_iff.1 previous
    obtain ⟨x, found, context, pipeline⟩ := homed.homes number slot t entered texture
    refine ⟨(releaseQueue_rest w t).2.1, (releaseQueue_history found).trans ?_⟩
    have withheld : w.queueHeld t = x.queueHeld := by
      unfold World.queueHeld
      rw [found]
      rfl
    rw [context, pipeline, ← withheld]

/-- What comes of a callback that asks for a fence. -/
theorem createFence_made (homed : u.Homed w) (f : DequeueFences) (gate : f.gate = u.fences.gate)
    (previous : f.previous = u.fences.previous) (useSync : Bool) : ∃ es,
    (f.createFence w useSync).world.history = w.history ++ es
      ∧ FenceMade w u.context u.config.pipeline useSync (u.due w) es
        (f.createFence w useSync).answer := by
  have made : ∀ {back : World}, back.contexts = w.contexts ∧ back.history = w.history ++ u.due w →
      ∃ es, (u.fences.gate.createFence back useSync).1.history = w.history ++ es
        ∧ FenceMade w u.context u.config.pipeline useSync (u.due w) es
          (u.fences.gate.createFence back useSync).2 := fun ⟨contexts, handedBack⟩ =>
    u.fences.gate.createFence_made contexts handedBack (u.due_handBacks w) due_of_lost useSync
  unfold DequeueFences.createFence
  rw [gate, previous]
  refine made ?_
  have pipeline : u.fences.gate.pipeline = u.config.pipeline := rfl
  rw [pipeline]
  cases vulkan : u.config.pipeline with
  | gl =>
    have nothing : u.due w = [] := due_of_handedBack fun vulkan' => by simp [vulkan] at vulkan'
    rw [nothing]
    exact ⟨rfl, (List.append_nil _).symm⟩
  | vulkan =>
    cases previous' : u.fences.previous with
    | none =>
      have nothing : u.due w = [] := by rw [due, previous', Option.bind_none]
      rw [nothing]
      exact ⟨rfl, (List.append_nil _).symm⟩
    | some slot => exact due_history homed previous'

end Updater

-- ==================================================== all callbacks of a dequeue

/-- One callback of a source: the world that it finds, all that is written, and the answer. -/
structure Exchange where
  item : ScriptItem
  world : World
  written : List Entry
  answer : CallbackResult

namespace Exchange

/-- A fence is asked for. -/
def isFence (x : Exchange) : Bool :=
  match x.item with
  | .fence _ => true
  | _ => false

/-- A fence is asked for or waited for. -/
def ofFences (x : Exchange) : Bool :=
  match x.item with
  | .fence _ | .wait _ => true
  | _ => false

/-- What comes of a callback on behalf of updater `u`, whatever came before. -/
structure Fair (u : Updater) (x : Exchange) : Prop where
  /-- Who asks for a fence gets one. -/
  fence : ∀ useSync, x.item = .fence useSync → ∃ fence, x.answer = .fence fence
    ∧ FenceMade x.world u.context u.config.pipeline useSync (u.due x.world) x.written fence
  wait : ∀ fd, x.item = .wait fd → ∃ error, x.answer = .waited error
    ∧ FenceWaited x.world u.context fd x.written error

/-- An exchange is fair by what the updater has of context, configuration and fences. -/
theorem Fair.congr {x : Exchange} (context : v.context = u.context) (config : v.config = u.config)
    (fences : v.fences = u.fences) (fair : x.Fair v) : x.Fair u := by
  have due := Updater.due_congr context config fences (w := x.world)
  refine ⟨fun useSync same => ?_, fun fd same => ?_⟩
  · rw [← context, ← config, ← due]
    exact fair.fence useSync same
  · rw [← context]
    exact fair.wait fd same

/-- By a callback that is not about fences the context is called for nothing but to abandon
textures. -/
def Quiet (c : ContextId) (x : Exchange) : Prop :=
  ¬ x.ofFences → ∀ call, .backend c call ∈ x.written → ∃ t, call = .abandoned t

end Exchange

-- ==================================================== hand-backs

/-- The hand-backs of a fence are those that were due. -/
theorem FenceMade.handBacks {es : List Entry} {fence : ReleaseFence}
    (made : FenceMade w u.context p useSync (u.due w) es fence) :
    es.filter (Entry.handsBack u.context) = u.due w := by
  by_cases alive : w.alive u.context
  · obtain ⟨attempt, notes, rfl, attempts, remarks⟩ := made.asked alive
    have due : (u.due w).filter (Entry.handsBack u.context) = u.due w := by
      refine List.filter_eq_self.2 fun e mem => ?_
      obtain ⟨t, rfl⟩ := u.due_handBacks w e mem
      simp [Entry.handsBack, BackendCall.isHandBack]
    have asked : (questions u.context p).filter (Entry.handsBack u.context) = [] := by
      cases p <;> simp [questions, Entry.handsBack, BackendCall.isHandBack]
    have tried : (attempt.toList.map (.backend u.context)).filter (Entry.handsBack u.context)
        = [] := by
      cases attempts <;> simp [Entry.handsBack, BackendCall.isHandBack]
    have noted : notes.filter (Entry.handsBack u.context) = [] := by
      refine List.filter_eq_nil_iff.2 fun e mem => ?_
      obtain ⟨error, rfl⟩ := remarks e mem
      simp [Entry.handsBack]
    simp only [List.filter_append, due, asked, tried, noted, List.append_nil]
  · rw [made.lost alive, Updater.due_of_lost alive]
    rfl

/-- A wait hands nothing back. -/
theorem FenceWaited.handBacks {fd : FenceFd} {es : List Entry} {error : Option GpuError}
    (waited : FenceWaited w c fd es error) : es.filter (Entry.handsBack c) = [] := by
  by_cases alive : w.alive c
  · rw [(waited.waited alive).2]
    cases error <;> simp [Entry.handsBack, BackendCall.isHandBack]
  · rw [(waited.lost alive).1]
    rfl

/-- A quiet exchange hands nothing back. -/
theorem Exchange.Quiet.handBacks {x : Exchange} (quiet : x.Quiet c) (other : ¬ x.ofFences) :
    x.written.filter (Entry.handsBack c) = [] := by
  refine List.filter_eq_nil_iff.2 fun e mem back => ?_
  cases e with
  | backend d call =>
    simp only [Entry.handsBack, Bool.and_eq_true, decide_eq_true_eq] at back
    obtain ⟨rfl, back⟩ := back
    obtain ⟨t, rfl⟩ := quiet other call mem
    cases back
  | _ => cases back

/-- A fair exchange hands back what is due for a fence, and otherwise nothing. -/
theorem Exchange.Fair.handBacks {x : Exchange} (fair : x.Fair u) :
    (x.isFence → x.written.filter (Entry.handsBack u.context) = u.due x.world)
      ∧ (¬ x.isFence → x.ofFences → x.written.filter (Entry.handsBack u.context) = []) := by
  constructor
  · intro isFence
    obtain ⟨useSync, same⟩ : ∃ useSync, x.item = .fence useSync := by
      unfold Exchange.isFence at isFence
      split at isFence
      · exact ⟨_, ‹_›⟩
      · cases isFence
    obtain ⟨fence, -, made⟩ := fair.fence useSync same
    exact made.handBacks
  · intro isFence ofFences
    obtain ⟨fd, same⟩ : ∃ fd, x.item = .wait fd := by
      unfold Exchange.isFence Exchange.ofFences at *
      cases item : x.item with
      | wait fd => exact ⟨fd, rfl⟩
      | _ => simp [item] at isFence ofFences
    obtain ⟨error, -, waited⟩ := fair.wait fd same
    exact waited.handBacks

/-- All that is handed back by callbacks is what is due at the first fence, if by all others nothing
is handed back, and nothing is due any more once a fence was asked for. -/
theorem handBacks_eq {log : List Exchange}
    (fence : ∀ x ∈ log, x.isFence → x.written.filter (Entry.handsBack c) = u.due x.world)
    (other : ∀ x ∈ log, ¬ x.isFence → x.written.filter (Entry.handsBack c) = [])
    (later : log.Pairwise fun x y => x.isFence → u.due y.world = []) :
    (log.flatMap Exchange.written).filter (Entry.handsBack c)
      = (log.find? Exchange.isFence).elim [] fun x => u.due x.world := by
  induction log with
  | nil => rfl
  | cons x log ih =>
    obtain ⟨fence_x, fence⟩ := List.forall_mem_cons.1 fence
    obtain ⟨other_x, other⟩ := List.forall_mem_cons.1 other
    obtain ⟨later_x, later⟩ := List.pairwise_cons.1 later
    have rest := ih fence other later
    rw [List.flatMap_cons, List.filter_append, rest]
    by_cases first : x.isFence
    · have none : (log.find? Exchange.isFence).elim [] (fun x => u.due x.world) = [] := by
        cases found : log.find? Exchange.isFence with
        | none => rfl
        | some y => exact later_x y (List.mem_of_find?_eq_some found) first
      rw [none, fence_x first, List.append_nil, List.find?_cons_of_pos first]
      rfl
    · rw [other_x first, List.nil_append, List.find?_cons_of_neg first]

/-- The callbacks of one dequeue, on behalf of updater `u`. The context of the source's render state
is `state`. -/
structure FenceCallbacks (u : Updater) (state : Option ContextId) (log : List Exchange) :
    Prop where
  /-- Each one gets what it asks for, and what is due is handed back first. -/
  fair : ∀ x ∈ log, x.Fair u
  /-- Once a fence was asked for nothing is due any more. -/
  later : log.Pairwise fun x y => x.isFence → u.due y.world = []
  /-- So all that fences hand back, and waits, is what is due at the first fence. -/
  once : ((log.filter Exchange.ofFences).flatMap Exchange.written).filter
      (Entry.handsBack u.context)
    = (log.find? Exchange.isFence).elim [] fun x => u.due x.world
  /-- If the source destroys no other context, by all other callbacks the context is called for
  nothing but to abandon textures, so no more than that is handed back in the whole dequeue. -/
  whole : (∀ c, state = some c → c = u.context) →
    (∀ x ∈ log, x.Quiet u.context)
      ∧ (log.flatMap Exchange.written).filter (Entry.handsBack u.context)
        = (log.find? Exchange.isFence).elim [] fun x => u.due x.world

/-- What is fair to each callback and due no more than once makes up the callbacks of a dequeue. -/
theorem FenceCallbacks.of_fair {state : Option ContextId} {log : List Exchange}
    (fair : ∀ x ∈ log, x.Fair u)
    (later : log.Pairwise fun x y => x.isFence → u.due y.world = [])
    (quiet : (∀ c, state = some c → c = u.context) → ∀ x ∈ log, x.Quiet u.context) :
    FenceCallbacks u state log where
  fair := fair
  later := later
  once := by
    have first : (log.filter Exchange.ofFences).find? Exchange.isFence
        = log.find? Exchange.isFence := by
      rw [List.find?_filter]
      congr
      funext x
      unfold Exchange.ofFences Exchange.isFence
      cases x.item <;> rfl
    rw [← first]
    refine handBacks_eq (fun x mem => ?_) (fun x mem other => ?_) (later.filter _)
    · exact (fair x (List.mem_filter.1 mem).1).handBacks.1
    · obtain ⟨mem, ofFences⟩ := List.mem_filter.1 mem
      exact (fair x mem).handBacks.2 other ofFences
  whole own := by
    refine ⟨quiet own, handBacks_eq (fun x mem => (fair x mem).handBacks.1)
      (fun x mem other => ?_) later⟩
    by_cases ofFences : x.ofFences
    · exact (fair x mem).handBacks.2 other ofFences
    · exact Exchange.Quiet.handBacks (quiet own x mem) ofFences

namespace Session

variable {s s' : Session} {h : Held Updater} {fences : DequeueFences} {state : Option ContextId}
  {items : List ScriptItem} {x : Exchange}

theorem Untouched.context {h' : Held Updater} (same : Untouched h h') :
    h'.value.context = h.value.context := by
  rw [same]

theorem Untouched.due {h' : Held Updater} (same : Untouched h h') {w : World} :
    h'.value.due w = h.value.due w :=
  Updater.due_congr same.context same.config same.fences

/-- A callback, looked at. -/
def exchange (s : Session) (owner : Option UpdaterId) (state : Option ContextId)
    (fences : DequeueFences) (item : ScriptItem) : Exchange :=
  let called := s.callback owner state fences item
  ⟨item, s.world, called.session.world.history.drop s.world.history.length, called.answer⟩

/-- All callbacks of a script, one by one. -/
def exchanges (s : Session) (owner : Option UpdaterId) (state : Option ContextId)
    (fences : DequeueFences) : List ScriptItem → List Exchange
  | [] => []
  | item :: items =>
    let called := s.callback owner state fences item
    s.exchange owner state fences item
      :: called.session.exchanges owner state called.fences items

/-- The answer of a script has one result for each exchange. -/
theorem runScript_answer (s : Session) (owner : Option UpdaterId) (state : Option ContextId)
    (fences : DequeueFences) (items : List ScriptItem) :
    (s.runScript owner state fences items).answer
      = (s.exchanges owner state fences items).map Exchange.answer := by
  induction items generalizing s fences with
  | nil => rfl
  | cons item items ih =>
    rw [runScript, exchanges, List.map_cons, ← ih]
    rfl

/-- Each callback of an updater that is asked finds it asked still. -/
theorem Asked.mem_exchanges (asked : s.Asked i h fences)
    (mem : x ∈ s.exchanges (some i) state fences items) : ∃ a h' f item,
    Goes (some i) s a ∧ a.Asked i h' f ∧ Untouched h h'
      ∧ x = a.exchange (some i) state f item := by
  induction items generalizing s h fences with
  | nil => cases mem
  | cons item items ih =>
    rcases List.mem_cons.1 mem with rfl | mem
    · exact ⟨s, h, fences, item, .refl _ s, asked, rfl, rfl⟩
    · obtain ⟨goes, gate, previous, -⟩ := callback_goes asked state item
      obtain ⟨h₁, asked₁, same₁⟩ := asked.goes goes gate previous
      obtain ⟨a, h₂, f, item', goes', asked₂, same₂, rfl⟩ := ih asked₁ mem
      exact ⟨a, h₂, f, item', goes.trans goes', asked₂, same₁.trans same₂, rfl⟩

/-- All that a script writes is what its callbacks write. -/
theorem Asked.runScript_history (asked : s.Asked i h fences) :
    (s.runScript (some i) state fences items).session.world.history
      = s.world.history ++ (s.exchanges (some i) state fences items).flatMap Exchange.written := by
  induction items generalizing s h fences with
  | nil => exact (List.append_nil _).symm
  | cons item items ih =>
    obtain ⟨goes, gate, previous, -⟩ := callback_goes asked state item
    obtain ⟨h₁, asked₁, -⟩ := asked.goes goes gate previous
    obtain ⟨es, grown⟩ := Steps.history asked.order.sound goes.moves.steps
    rw [runScript, exchanges, List.flatMap_cons]
    refine (ih asked₁).trans ?_
    rw [exchange]
    dsimp only
    rw [grown, List.drop_left, List.append_assoc]

/-- Whatever an updater that is asked gets from a callback, it is fair. -/
theorem Asked.fair (asked : s.Asked i h fences) (homed : h.value.Homed s.world)
    (item : ScriptItem) : (s.exchange (some i) state fences item).Fair h.value where
  fence useSync same := by
    obtain rfl : item = .fence useSync := same
    obtain ⟨es, grown, made⟩ :=
      h.value.createFence_made homed fences asked.gate asked.previous useSync
    refine ⟨_, rfl, ?_⟩
    unfold exchange callback
    dsimp only
    rw [grown, List.drop_left]
    exact made
  wait fd same := by
    obtain rfl : item = .wait fd := same
    obtain ⟨es, grown, waited⟩ := h.value.fences.gate.wait_waited s.world fd
    refine ⟨_, rfl, ?_⟩
    unfold exchange callback DequeueFences.wait
    dsimp only
    rw [asked.gate, grown, List.drop_left]
    exact waited

/-- While a context is destroyed it is called for nothing but to abandon textures. -/
theorem destroyContext_quiet {es : List Entry} (order : s.InOrder) (locked : Option UpdaterId)
    (c : ContextId)
    (grown : (s.destroyContext locked c).1.world.history = s.world.history ++ es) :
    ∀ call, .backend c call ∈ es → ∃ t, call = .abandoned t := by
  by_cases alive : s.world.alive c
  · obtain ⟨depth, size⟩ := exists_depth alive
    have marked : Goes locked s (s.loses locked c) := loses_goes alive
    have sound := Steps.sound order.sound marked.moves.steps
    have told := (told_goes (destroyWithin_goes locked depth) alive).moves.steps
    obtain ⟨fs, rest⟩ := Steps.history sound told
    have silent := (Steps.sound sound told).ledger.silent
    unfold destroyContext at grown
    rw [size] at grown
    rw [rest] at silent
    -- first of all the loss is told, and everything else comes after that
    have loss : (s.loses locked c).world.history
        = s.world.history ++ [.note (.contextDestroyed c (s.observerCount c))] := rfl
    obtain rfl : es = .note (.contextDestroyed c (s.observerCount c)) :: fs := by
      refine List.append_cancel_left (grown.symm.trans (rest.trans ?_))
      rw [loss, List.append_assoc]
      rfl
    intro call mem
    rcases List.mem_cons.1 mem with same | mem
    · cases same
    · obtain ⟨pre, post, rfl⟩ := List.append_of_mem mem
      refine silent ((s.loses locked c).world.history ++ pre) _ post (by simp) c call rfl
        ⟨s.observerCount c, List.mem_append_left _ ?_⟩
      rw [loss]
      exact List.mem_append_right _ List.mem_cons_self
  · have same : (s.destroyContext locked c).1 = s := by
      unfold destroyContext
      cases s.world.contexts.size with
      | zero => rfl
      | succ depth => rw [destroyWithin, if_neg alive]
    rw [same] at grown
    rw [List.self_eq_append_right.1 grown]
    exact fun call mem => by cases mem

/-- If a source destroys no context but that of its updater, all its callbacks but those about
fences are quiet. -/
theorem Asked.quiet (asked : s.Asked i h fences)
    (own : ∀ c, state = some c → c = h.value.context) (item : ScriptItem) :
    (s.exchange (some i) state fences item).Quiet h.value.context := by
  intro other call mem
  cases item with
  | fence | wait => exact absurd rfl other
  | notify =>
    unfold exchange callback at mem
    dsimp only at mem
    rw [onUpdater_eq asked.entered] at mem
    change _ ∈ (s.world.history ++ [_]).drop s.world.history.length at mem
    rw [List.drop_left] at mem
    cases List.mem_singleton.1 mem
  | destroy =>
    unfold exchange callback at mem
    cases state with
    | none =>
      dsimp only at mem
      rw [List.drop_length] at mem
      cases mem
    | some c =>
      have goes := destroyContext_goes s (some i) c
      obtain ⟨es, grown⟩ := Steps.history asked.order.sound goes.moves.steps
      change _ ∈ ((s.destroyContext (some i) c).1.world.history ++ [_]).drop _ at mem
      rw [grown, List.append_assoc, List.drop_left] at mem
      rcases List.mem_append.1 mem with mem | mem
      · rw [← own c rfl] at mem
        exact destroyContext_quiet asked.order (some i) c grown call mem
      · cases List.mem_singleton.1 mem
  | adjust settings =>
    change _ ∈ s.world.history.drop s.world.history.length at mem
    rw [List.drop_length] at mem
    cases mem

/-- Once one fence was asked for nothing is due any more. -/
theorem Asked.pairwise (asked : s.Asked i h fences) :
    (s.exchanges (some i) state fences items).Pairwise fun x y =>
      x.isFence → h.value.due y.world = [] := by
  induction items generalizing s h fences with
  | nil => exact .nil
  | cons item items ih =>
    obtain ⟨goes, gate, previous, back⟩ := callback_goes asked state item
    obtain ⟨h₁, asked₁, same₁⟩ := asked.goes goes gate previous
    refine List.pairwise_cons.2 ⟨fun y mem isFence => ?_, ?_⟩
    · -- the buffer was handed back, and it stays so
      obtain ⟨useSync, rfl⟩ : ∃ useSync, item = .fence useSync := by
        cases item <;> first | exact ⟨_, rfl⟩ | cases isFence
      have given := (asked₁.order.sound.numbered.updaters i h₁ asked₁.entered).1
      have back₁ := (back ⟨_, rfl⟩).congr same₁.config same₁.fences fun _ _ _ _ => rfl
      obtain ⟨a, h₂, f, item', goes', asked₂, same₂, rfl⟩ := asked₁.mem_exchanges mem
      have back₂ := goes'.moves.handedBack asked₁.order given asked₁.entered asked₂.entered back₁
      exact (same₁.trans same₂).due.symm.trans (Updater.due_of_handedBack back₂)
    · refine (ih asked₁).imp fun nothing isFence => ?_
      exact same₁.due.symm.trans (nothing isFence)

/-- Whatever callbacks a source makes while it is asked, on behalf of an updater that has not
changed since. -/
theorem Asked.callbacks (asked : s.Asked i h fences) (occurs : s.Occurs)
    (context : h.value.context = u.context) (config : h.value.config = u.config)
    (shown : h.value.fences = u.fences) :
    FenceCallbacks u state (s.exchanges (some i) state fences items) := by
  refine .of_fair (fun x mem => ?_) ?_ fun own x mem => ?_
  · obtain ⟨a, h', f, item, goes, asked', same, rfl⟩ := asked.mem_exchanges mem
    have homed := (occurs.moves goes.moves.unlock).homed (updaterOf?_of_get? asked'.entered)
    exact (asked'.fair homed item).congr (same.context.trans context) (same.config.trans config)
      (same.fences.trans shown)
  · exact asked.pairwise.imp fun nothing isFence =>
      (Updater.due_congr context config shown).symm.trans (nothing isFence)
  · obtain ⟨a, h', f, item, goes, asked', same, rfl⟩ := asked.mem_exchanges mem
    have same_context := same.context.trans context
    rw [← same_context] at own ⊢
    exact asked'.quiet own item

variable {ref : SourceRef} {source : Source}

/-- In every run, whenever a source is asked and runs its script, however long it is: each of its
callbacks gets what it asks for, and the buffer of the current slot is handed back with the first
fence or not at all. -/
theorem run_fence_callbacks (minimal : Bool) (b : Backend) (commands : List Command)
    (found : ((start minimal b).run commands).updaterOf? i = some u) (live : ¬ u.destroyed)
    (asks : (u.beginApply ((start minimal b).run commands).world).answer = some ref)
    (there : ((start minimal b).run commands).sources.get? ref.id = some source)
    (heard : source.isHeard) :
    let s := (start minimal b).run commands
    let asking := s.asking i u ref source
    let log := asking.exchanges (some i) source.context u.fences source.script
    FenceCallbacks u source.context log
      ∧ ∃ es, (s.apply i).world.history
        = asking.world.history ++ log.flatMap Exchange.written
          ++ .source ref (.dequeued (log.map Exchange.answer)) :: es := by
  intro s asking log
  obtain ⟨h, entered, rfl⟩ := Option.map_eq_some_iff.1 found
  obtain ⟨moves, h', asked, same⟩ :=
    asking_asked (kept_run minimal b commands) entered live asks source
  have occurs : (s.asking i h.value ref source).Occurs :=
    (occurs_run minimal b commands).moves moves
  obtain ⟨attached, mailbox, object⟩ := beginApply_object h.value s.world
  have value : h'.value = { h.value.commitPaint with
      consumerAttached := attached, mailbox := h'.value.mailbox } := by
    rw [same, object]
  refine ⟨asked.callbacks occurs (by rw [value]; rfl) (by rw [value]; rfl) (by rw [value]; rfl),
    ?_⟩
  obtain ⟨es, grown⟩ := apply_heard_history found live asks there heard
  refine ⟨es, grown.trans ?_⟩
  change (asking.runScript _ _ _ _).session.world.history ++ [_] ++ es = _
  rw [asked.runScript_history, Session.heard, runScript_answer, List.append_assoc]
  rfl

/-- On Vulkan a first frame is shown; then the source waits and asks for fences, before and after it
destroys the context. -/
def handingBack : List Command :=
  let frame := Frame.ofBuffer ⟨0⟩ ⟨⟨1⟩, ⟨64, 32, 1⟩, none⟩ .srgb
  [.newUpdater "u" { pipeline := .vulkan } (.registered "s") .unchanged,
    .attach "u" "q" { frames := [frame], always := true } (some "s"), .apply "u",
    .setScript "q" [.wait ⟨7⟩, .fence false, .adjust [.nativeError (some .contextLost)],
      .fence true, .destroy, .fence true, .wait ⟨7⟩], .post "u"]

/-- The buffer is handed back with the first fence and never again. The second fence has no signal
as the backend fails to make one, and the third because the context is lost. -/
theorem handingBack_callbacks :
    let s := (start false {}).run handingBack
    let log := fun (u : Updater) (source : Source) =>
      (s.asking 1 u ⟨2, "q", 1⟩ source).exchanges (some 1) source.context u.fences source.script
    let shown := fun (view : List Exchange → List Entry) =>
      (s.updaterOf? 1).bind fun u => (s.sources.get? 2).map fun source => view (log u source)
    (∃ u source, s.updaterOf? 1 = some u ∧ s.sources.get? 2 = some source
        ∧ FenceCallbacks u source.context (log u source))
      ∧ shown (fun log => (log.filter Exchange.ofFences).flatMap Exchange.written)
        = some [.backend 0 (.waited ⟨7⟩), .backend 0 (.queueReleased 1),
          .backend 0 (.nativeFence (some ⟨101⟩)), .backend 0 (.nativeFence none),
          .note (.fenceUnavailable .contextLost)]
      ∧ shown (fun log => [.source ⟨2, "q", 1⟩ (.dequeued (log.map Exchange.answer))])
        = some [.source ⟨2, "q", 1⟩ (.dequeued [.waited none, .fence ⟨none, .native ⟨101⟩⟩, .done,
          .fence .none, .done, .fence .none, .waited (some .contextLost)])] := by
  intro s log shown
  obtain ⟨u, found⟩ := Option.isSome_iff_exists.1 (show (s.updaterOf? 1).isSome by decide)
  obtain ⟨source, there⟩ := Option.isSome_iff_exists.1 (show (s.sources.get? 2).isSome by decide)
  have live : (s.updaterOf? 1).map Updater.destroyed = some false := by decide
  have asks : (s.updaterOf? 1).map (fun u => (u.beginApply s.world).answer)
      = some (some ⟨2, "q", 1⟩) := by decide
  have heard : (s.sources.get? 2).map Source.isHeard = some true := by decide
  rw [found, Option.map_some] at live asks
  rw [there, Option.map_some] at heard
  have callbacks := run_fence_callbacks false {} handingBack found
    (Bool.eq_false_iff.1 (Option.some.inj live)) (Option.some.inj asks) there
    (Option.some.inj heard)
  exact ⟨⟨u, source, found, there, callbacks.1⟩, by decide, by decide⟩

end Session

end LayerFeed
