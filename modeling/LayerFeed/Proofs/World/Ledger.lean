/-
What the history of a world and its records say of each other. The imports of
the history number the textures; the textures that left their backend are, each
once, those whose count of holders came down to nothing; and a texture left by a
delete exactly when its context was not lost by then and its handle was not
released under a lost context. Once the loss of a context stands in the history,
nothing follows it on that context but textures being abandoned.

# The invariant

`Ledger` holds of every world that steps lead to (`Ledger.steps`). Its part about
contexts, `Losses`, is kept by every entry that tells of no loss and calls no lost
context (`Losses.append`). The rest is kept for one of two reasons by most steps:
they put down an entry that neither imports nor frees (`Ledger.tell`), or they
change records that somebody holds, and not where these came from
(`Ledger.alike`). The two that remain import a texture, and let the last holder
of one go. To open a context is no step, but keeps the ledger too.
-/
import LayerFeed.Proofs.World.Step

namespace LayerFeed

-- ==================================================== reading a history

/-- The texture that a call takes from its backend. -/
def BackendCall.freed? : BackendCall → Option TextureId
  | deleted t | abandoned t => some t
  | _ => none

namespace Entry

/-- The texture that an entry imports. -/
def imported? : Entry → Option TextureId
  | .backend _ (.imported t _ _) => some t
  | _ => none

/-- The texture that an entry takes from its backend. -/
def freed? : Entry → Option TextureId
  | .backend _ call => call.freed?
  | _ => none

/-- The texture that an entry deletes. -/
def deleted? : Entry → Option TextureId
  | .backend _ (.deleted t) => some t
  | _ => none

/-- The texture that an entry abandons. -/
def abandoned? : Entry → Option TextureId
  | .backend _ (.abandoned t) => some t
  | _ => none

end Entry

/-- The textures that a history imports, in order. -/
def importsIn (h : List Entry) : List TextureId := h.filterMap Entry.imported?

/-- The textures that a history takes from their backends, in order. -/
def freesIn (h : List Entry) : List TextureId := h.filterMap Entry.freed?

/-- The textures that a history deletes, in order. -/
def deletesIn (h : List Entry) : List TextureId := h.filterMap Entry.deleted?

/-- The textures that a history abandons, in order. -/
def abandonsIn (h : List Entry) : List TextureId := h.filterMap Entry.abandoned?

/-- Whether a history tells of the loss of a context. -/
def LostIn (c : ContextId) (h : List Entry) : Prop := ∃ n, .note (.contextDestroyed c n) ∈ h

/-- Every entry of a history stands to the ones before it as `R` says. -/
def Throughout (R : List Entry → Entry → Prop) (h : List Entry) : Prop :=
  ∀ pre e post, h = pre ++ e :: post → R pre e

theorem throughout_nil (R : List Entry → Entry → Prop) : Throughout R [] := by
  intro pre e post h
  simp at h

/-- To hold throughout a longer history is to hold throughout the shorter one and
of the entry that came. -/
theorem throughout_append {R : List Entry → Entry → Prop} {h : List Entry} {e : Entry} :
    Throughout R (h ++ [e]) ↔ Throughout R h ∧ R h e := by
  constructor
  · intro all
    refine ⟨fun pre a post split => all pre a (post ++ [e]) ?_, all h e [] rfl⟩
    rw [split, List.append_assoc, List.cons_append]
  · rintro ⟨all, last⟩ pre a post split
    -- the entry is the last one, or stands where it stood in the shorter history
    rcases List.eq_nil_or_concat post with rfl | ⟨post', b, rfl⟩
    · obtain ⟨rfl, he⟩ := List.append_inj' split rfl
      cases he
      exact last
    · rw [List.concat_eq_append, ← List.cons_append, ← List.append_assoc] at split
      obtain ⟨hpre, -⟩ := List.append_inj' split rfl
      exact all pre a post' hpre

instance {R : List Entry → Entry → Prop} [∀ pre e, Decidable (R pre e)] (h : List Entry) :
    Decidable (Throughout R h) := by
  refine decidable_of_iff (∀ n, (lt : n < h.length) → R (h.take n) (h.get ⟨n, lt⟩)) ?_
  constructor
  · rintro all pre e post rfl
    have lt : pre.length < (pre ++ e :: post).length := by simp
    have at_pre := all pre.length lt
    rwa [List.take_left, List.get_eq_getElem, List.getElem_append_right (Nat.le_refl _),
      getElem_congr_idx (Nat.sub_self _)] at at_pre
  · intro all n lt
    refine all _ _ (h.drop (n + 1)) ?_
    rw [List.get_eq_getElem, List.getElem_cons_drop, List.take_append_drop]

/-- An entry that stands rightly to whatever came before may follow. -/
theorem Throughout.extend {R : List Entry → Entry → Prop} {h es : List Entry}
    (all : Throughout R h) (free : ∀ e ∈ es, ∀ pre, R pre e) : Throughout R (h ++ es) := by
  induction es generalizing h with
  | nil => rwa [List.append_nil]
  | cons e es ih =>
    obtain ⟨first, rest⟩ := List.forall_mem_cons.1 free
    rw [List.append_cons]
    exact ih (throughout_append.2 ⟨all, first h⟩) rest

/-- What holds throughout holds throughout if less is asked. -/
theorem Throughout.mono {R S : List Entry → Entry → Prop} {h : List Entry}
    (all : Throughout R h) (hRS : ∀ pre e, R pre e → S pre e) : Throughout S h :=
  fun pre e post split => hRS pre e (all pre e post split)

/-- A loss that is told of was told of ever after. -/
theorem LostIn.grows {c : ContextId} {h es : List Entry} (lost : LostIn c h) :
    LostIn c (h ++ es) := by
  obtain ⟨n, mem⟩ := lost
  exact ⟨n, List.mem_append_left _ mem⟩

/-- A loss is told of by one entry. -/
theorem lostIn_append {c : ContextId} {h : List Entry} {e : Entry} :
    LostIn c (h ++ [e]) ↔ LostIn c h ∨ ∃ n, e = .note (.contextDestroyed c n) := by
  simp only [LostIn, List.mem_append, List.mem_singleton, exists_or]
  simp only [eq_comm]

/-- One entry imports one texture at most. -/
theorem importsIn_append (h : List Entry) (e : Entry) :
    importsIn (h ++ [e]) = importsIn h ++ e.imported?.toList := by
  rw [importsIn, List.filterMap_append, List.filterMap_cons]
  cases e.imported? <;> rfl

/-- One entry takes one texture from its backend at most. -/
theorem freesIn_append (h : List Entry) (e : Entry) :
    freesIn (h ++ [e]) = freesIn h ++ e.freed?.toList := by
  rw [freesIn, List.filterMap_append, List.filterMap_cons]
  cases e.freed? <;> rfl

/-- Every texture that leaves is deleted or abandoned. -/
theorem freesIn_perm (h : List Entry) : (freesIn h).Perm (deletesIn h ++ abandonsIn h) := by
  induction h with
  | nil => exact .nil
  | cons e h ih =>
    cases e with
    | backend c call =>
      cases call with
      | deleted t => exact ih.cons t
      | abandoned t => exact (ih.cons t).trans List.perm_middle.symm
      | _ => exact ih
    | _ => exact ih

/-- Whatever leaves its backend is deleted or abandoned. -/
theorem length_freesIn (h : List Entry) :
    (freesIn h).length = (deletesIn h).length + (abandonsIn h).length := by
  rw [(freesIn_perm h).length_eq, List.length_append]

/-- A texture leaves its backend by being deleted or abandoned. -/
theorem count_freesIn (h : List Entry) (t : TextureId) :
    (freesIn h).count t = (deletesIn h).count t + (abandonsIn h).count t := by
  rw [(freesIn_perm h).count_eq, List.count_append]

namespace World

variable {P : Entry → Prop} {w w' : World} {c : ContextId} {t : TextureId} {x : Texture}

-- ==================================================== the invariant

/-- How a texture may leave its backend: after its import, on its own context, without
holders left, deleted exactly if the context was not lost before and its handle was
not released under a lost context. -/
def LeavesRightly (w : World) (pre : List Entry) (e : Entry) : Prop :=
  ∀ c call t, e = .backend c call → call.freed? = some t →
    t ∈ importsIn pre ∧ ∃ x, w.texture? t = some x ∧ x.context = c ∧ x.holders = 0
      ∧ (call = .deleted t ↔ ¬ LostIn c pre ∧ x.released ≠ some .contextLost)

/-- After its loss a context is called for nothing but to abandon textures. -/
def SilentAfterLoss (pre : List Entry) (e : Entry) : Prop :=
  ∀ c call, e = .backend c call → LostIn c pre → ∃ t, call = .abandoned t

/-- What a history tells of contexts, and what it does after that. -/
structure Losses (w : World) : Prop where
  known : ∀ c, LostIn c w.history → (w.contexts.get? c).isSome
  lost : ∀ c, (w.contexts.get? c).isSome → (w.alive c = false ↔ LostIn c w.history)
  silent : Throughout SilentAfterLoss w.history

/-- What the history of a world and its records say of each other. -/
structure Ledger (w : World) : Prop extends Losses w where
  numbered : ∀ t : Nat, (w.texture? t).isSome ↔ 1 ≤ t ∧ t ≤ w.imported
  imports : importsIn w.history = List.range' 1 w.imported
  origin : ∀ c t b d, .backend c (.imported t b d) ∈ w.history →
    ∃ x, w.texture? t = some x ∧ x.context = c ∧ x.buffer = b ∧ x.dataspace = d
  nodup : (freesIn w.history).Nodup
  frees : ∀ t, t ∈ freesIn w.history ↔ ∃ x, w.texture? t = some x ∧ x.holders = 0
  leaves : Throughout w.LeavesRightly w.history
  home : ∀ t x, w.texture? t = some x → (w.contexts.get? x.context).isSome

/-- The textures that were imported are those that have a record. -/
theorem Ledger.mem_importsIn (h : w.Ledger) : t ∈ importsIn w.history ↔ (w.texture? t).isSome := by
  rw [h.imports, List.mem_range'_1, h.numbered t]
  omega

/-- A texture has left its backend exactly if it was imported and nobody holds it. -/
theorem Ledger.mem_freesIn (h : w.Ledger) :
    t ∈ freesIn w.history ↔ t ∈ importsIn w.history ∧ w.holders t = 0 := by
  rw [h.frees, h.mem_importsIn]
  cases found : w.texture? t with
  | none => simp
  | some x => simp [holders_eq found]

/-- A world in which nothing happened keeps its ledger. -/
theorem ledger_default : (default : World).Ledger where
  numbered t := by
    simp [texture?, default]
    omega
  imports := rfl
  origin _ _ _ _ h := by cases h
  nodup := List.nodup_nil
  frees t := by simp [freesIn, texture?, default]
  leaves := throughout_nil _
  home t x h := by cases h
  known c lost := by
    obtain ⟨n, h⟩ := lost
    cases h
  lost c h := by cases h
  silent := throughout_nil _

-- ==================================================== contexts

/-- Of a context that is alive no loss is told. -/
theorem Losses.not_lost (h : w.Losses) (alive : w.alive c) : ¬ LostIn c w.history := by
  intro lost
  have dead := (h.lost c (h.known c lost)).2 lost
  rw [dead] at alive
  cases alive

theorem isSome_of_alive (alive : w.alive c) : (w.contexts.get? c).isSome := by
  obtain ⟨x, found, -⟩ := alive_eq_true.1 alive
  rw [found]
  rfl

/-- An entry that tells of no loss can be put down if it calls no lost context, or
abandons a texture. -/
theorem Losses.append {e : Entry} (h : w.Losses) (history : w'.history = w.history ++ [e])
    (contexts : w'.contexts = w.contexts) (tells : ∀ c n, e ≠ .note (.contextDestroyed c n))
    (calls : ∀ c call, e = .backend c call → w.alive c ∨ ∃ t, call = .abandoned t) :
    w'.Losses := by
  have told : ∀ c, LostIn c w'.history ↔ LostIn c w.history := by
    intro c
    rw [history, lostIn_append]
    refine or_iff_left ?_
    rintro ⟨n, he⟩
    exact tells c n he
  refine ⟨?_, ?_, ?_⟩
  · intro c lost
    rw [contexts]
    exact h.known c ((told c).1 lost)
  · intro c known
    rw [contexts] at known
    rw [alive_congr contexts, told]
    exact h.lost c known
  · rw [history]
    refine throughout_append.2 ⟨h.silent, ?_⟩
    intro c call he lost
    rcases calls c call he with alive | abandons
    · exact absurd lost (h.not_lost alive)
    · exact abandons

/-- A context that is opened is alive, and nothing was told of it. -/
theorem Losses.openContext (h : w.Losses) (b : Backend) (unused : w.contexts.get? c = none) :
    (w.openContext c b).Losses := by
  have contexts : ∀ d, (w.openContext c b).contexts.get? d
      = if d = c then some { backend := b } else w.contexts.get? d :=
    fun d => Table.get?_set _ _ _ _
  refine ⟨?_, ?_, h.silent⟩
  · intro d lost
    rw [contexts]
    split
    · rfl
    · exact h.known d lost
  · intro d known
    unfold alive
    rw [contexts] at known ⊢
    by_cases hd : d = c
    · subst hd
      rw [if_pos rfl]
      have untold : ¬ LostIn d w.history := by
        intro lost
        have known := h.known d lost
        rw [unused] at known
        cases known
      exact ⟨(by cases ·), fun lost => absurd lost untold⟩
    · rw [if_neg hd] at known ⊢
      exact h.lost d known

/-- A context that is lost is known still. -/
theorem loseContext_isSome (w : World) (c d : ContextId) (n : Nat) :
    ((w.loseContext c n).contexts.get? d).isSome = (w.contexts.get? d).isSome := by
  rw [loseContext_contexts]
  split
  · next hd => rw [Option.isSome_map, hd]
  · rfl

/-- A context that is lost is not alive, and the history tells of it. -/
theorem Losses.loseContext (h : w.Losses) (n : Nat) (alive : w.alive c) :
    (w.loseContext c n).Losses := by
  have told : ∀ d, LostIn d (w.loseContext c n).history ↔ LostIn d w.history ∨ d = c := by
    intro d
    rw [show (w.loseContext c n).history = w.history ++ [.note (.contextDestroyed c n)] from rfl,
      lostIn_append]
    refine or_congr_right ⟨?_, ?_⟩
    · rintro ⟨m, he⟩
      cases he
      rfl
    · rintro rfl
      exact ⟨n, rfl⟩
  refine ⟨?_, ?_, ?_⟩
  · intro d lost
    rw [loseContext_isSome]
    rcases (told d).1 lost with lost | rfl
    · exact h.known d lost
    · exact isSome_of_alive alive
  · intro d known
    rw [loseContext_isSome] at known
    rw [told, World.alive, loseContext_contexts]
    by_cases hd : d = c
    · subst hd
      obtain ⟨x, found, -⟩ := alive_eq_true.1 alive
      rw [if_pos rfl, found]
      exact ⟨fun _ => .inr rfl, fun _ => rfl⟩
    · rw [if_neg hd, ← World.alive, h.lost d known]
      exact (or_iff_left hd).symm
  · exact throughout_append.2 ⟨h.silent, fun d call he _ => by cases he⟩

-- ==================================================== steps that keep it

/-- Two records of one texture, which is held in both or in neither; where nobody
holds it, nothing of it changes any more. -/
structure Alike (x y : Texture) : Prop where
  context : y.context = x.context
  buffer : y.buffer = x.buffer
  dataspace : y.dataspace = x.dataspace
  unheld : y.holders = 0 ↔ x.holders = 0
  released : x.holders = 0 → y.released = x.released

theorem Alike.refl (x : Texture) : Alike x x := ⟨rfl, rfl, rfl, Iff.rfl, fun _ => rfl⟩

/-- An entry that takes nothing from a backend takes it rightly. -/
theorem leavesRightly_of_freed? {pre : List Entry} {e : Entry} (frees : e.freed? = none) :
    w.LeavesRightly pre e := by
  intro c call t he freed
  rw [he, Entry.freed?, freed] at frees
  cases frees

/-- What left rightly did so, as long as its record stays. -/
theorem LeavesRightly.kept {pre : List Entry} {e : Entry} (right : w.LeavesRightly pre e)
    (kept : ∀ t x, w.texture? t = some x → x.holders = 0 → w'.texture? t = some x) :
    w'.LeavesRightly pre e := by
  intro c call t he freed
  obtain ⟨imported, x, found, home, unheld, why⟩ := right c call t he freed
  exact ⟨imported, x, kept t x found unheld, home, unheld, why⟩

/-- An import stands where it stood before an entry came that imports nothing. -/
theorem mem_of_imported_mem {h : List Entry} {e : Entry} {b : HardwareBuffer} {d : Dataspace}
    (none : e.imported? = none) (mem : .backend c (.imported t b d) ∈ h ++ [e]) :
    .backend c (.imported t b d) ∈ h := by
  rcases List.mem_append.1 mem with mem | mem
  · exact mem
  · rw [← List.mem_singleton.1 mem] at none
    cases none

/-- An entry that imports nothing and frees nothing can be put down where the losses
of contexts allow it. -/
theorem Ledger.tell {e : Entry} (h : w.Ledger) (losses : w'.Losses)
    (history : w'.history = w.history ++ [e]) (textures : w'.textures = w.textures)
    (imported : w'.imported = w.imported)
    (contexts : ∀ c, (w'.contexts.get? c).isSome = (w.contexts.get? c).isSome)
    (imports : e.imported? = none) (frees : e.freed? = none) : w'.Ledger := by
  have same : ∀ t, w'.texture? t = w.texture? t := by
    intro t
    unfold texture?
    rw [textures]
  have freed : freesIn w'.history = freesIn w.history := by
    rw [history, freesIn_append, frees, Option.toList_none, List.append_nil]
  refine
    { losses with
      numbered := ?_, imports := ?_, origin := ?_, nodup := ?_, frees := ?_, leaves := ?_
      home := ?_ }
  · intro t
    rw [same, imported]
    exact h.numbered t
  · rw [history, importsIn_append, imports, Option.toList_none, List.append_nil, imported]
    exact h.imports
  · intro c t b d mem
    rw [history] at mem
    rw [same]
    exact h.origin c t b d (mem_of_imported_mem imports mem)
  · rw [freed]
    exact h.nodup
  · intro t
    rw [freed, same]
    exact h.frees t
  · rw [history]
    refine throughout_append.2 ⟨h.leaves.mono fun pre e right => right.kept ?_,
      leavesRightly_of_freed? frees⟩
    intro t x found _
    rw [same, found]
  · intro t x found
    rw [same] at found
    rw [contexts]
    exact h.home t x found

/-- An entry that imports nothing, frees nothing and tells of no loss can be put down
if it calls no lost context. -/
theorem Ledger.record {e : Entry} (h : w.Ledger) (imports : e.imported? = none)
    (frees : e.freed? = none) (tells : ∀ c n, e ≠ .note (.contextDestroyed c n))
    (alive : ∀ c call, e = .backend c call → w.alive c) : (w.record e).Ledger :=
  h.tell (h.append rfl rfl tells fun c call he => .inl (alive c call he)) rfl rfl rfl
    (fun _ => rfl) imports frees

/-- What stands beside something is something. -/
theorem exists_of_rel_some {α β : Type} {R : α → β → Prop} {o' : Option β} {a : α}
    (rel : Option.Rel R (some a) o') : ∃ b, o' = some b ∧ R a b := by
  cases rel with
  | some same => exact ⟨_, rfl, same⟩

/-- The same from the other side. -/
theorem exists_of_some_rel {α β : Type} {R : α → β → Prop} {o : Option α} {b : β}
    (rel : Option.Rel R o (some b)) : ∃ a, o = some a ∧ R a b := by
  cases rel with
  | some same => exact ⟨_, rfl, same⟩

/-- The records may change as long as origins, losses and ends stay what they are. -/
theorem Ledger.alike (h : w.Ledger) (history : w'.history = w.history)
    (imported : w'.imported = w.imported)
    (known : ∀ c, (w'.contexts.get? c).isSome = (w.contexts.get? c).isSome)
    (alive : ∀ c, w'.alive c = w.alive c)
    (records : ∀ t, Option.Rel Alike (w.texture? t) (w'.texture? t)) : w'.Ledger := by
  have forth : ∀ {t x}, w.texture? t = some x → ∃ y, w'.texture? t = some y ∧ Alike x y :=
    fun {t x} found => exists_of_rel_some (found ▸ records t)
  have back : ∀ {t y}, w'.texture? t = some y → ∃ x, w.texture? t = some x ∧ Alike x y :=
    fun {t y} found => exists_of_some_rel (found ▸ records t)
  refine
    { known := ?_, lost := ?_, silent := ?_
      numbered := ?_, imports := ?_, origin := ?_, nodup := ?_, frees := ?_, leaves := ?_
      home := ?_ }
  · intro c lost
    rw [history] at lost
    rw [known]
    exact h.known c lost
  · intro c opened
    rw [known] at opened
    rw [alive, history]
    exact h.lost c opened
  · rw [history]
    exact h.silent
  · intro t
    have found := records t
    rw [imported, ← h.numbered t]
    generalize w.texture? t = o at found
    generalize w'.texture? t = o' at found
    cases found <;> rfl
  · rw [history, imported]
    exact h.imports
  · intro c t b d mem
    rw [history] at mem
    obtain ⟨x, found, hc, hb, hd⟩ := h.origin c t b d mem
    obtain ⟨y, found', same⟩ := forth found
    exact ⟨y, found', same.context.trans hc, same.buffer.trans hb, same.dataspace.trans hd⟩
  · rw [history]
    exact h.nodup
  · intro t
    rw [history, h.frees t]
    constructor
    · rintro ⟨x, found, unheld⟩
      obtain ⟨y, found', same⟩ := forth found
      exact ⟨y, found', same.unheld.2 unheld⟩
    · rintro ⟨y, found, unheld⟩
      obtain ⟨x, found', same⟩ := back found
      exact ⟨x, found', same.unheld.1 unheld⟩
  · rw [history]
    refine h.leaves.mono ?_
    intro pre e right c call t he hfree
    obtain ⟨imported, x, found, hc, unheld, why⟩ := right c call t he hfree
    obtain ⟨y, found', same⟩ := forth found
    refine ⟨imported, y, found', same.context.trans hc, same.unheld.2 unheld, ?_⟩
    rw [same.released unheld]
    exact why
  · intro t y found
    obtain ⟨x, found', same⟩ := back found
    rw [known, same.context]
    exact h.home t x found'

/-- A record may change as long as it stays alike. -/
theorem Ledger.onTexture {f : Texture → Texture} (h : w.Ledger)
    (same : ∀ x, w.texture? t = some x → Alike x (f x)) : (w.onTexture t f).Ledger := by
  refine h.alike rfl rfl (fun _ => rfl) (fun _ => rfl) fun u => ?_
  rw [texture?_onTexture]
  by_cases hu : u = t
  · subst hu
    rw [if_pos rfl]
    cases found : w.texture? u with
    | none => exact .none
    | some x => exact .some (same x found)
  · rw [if_neg hu]
    cases w.texture? u with
    | none => exact .none
    | some x => exact .some (.refl x)

-- ==================================================== steps that change it

/-- A context is opened under a number that no context has. -/
theorem Ledger.openContext (h : w.Ledger) (b : Backend) (unused : w.contexts.get? c = none) :
    (w.openContext c b).Ledger := by
  refine { h with toLosses := h.toLosses.openContext b unused, home := ?_ }
  intro t x found
  rw [show (w.openContext c b).contexts.get? x.context = _ from Table.get?_set _ _ _ _]
  split
  · rfl
  · exact h.home t x found

/-- The loss of a context is told as it happens. -/
theorem Ledger.loseContext (h : w.Ledger) (n : Nat) (alive : w.alive c) :
    (w.loseContext c n).Ledger :=
  h.tell (h.toLosses.loseContext n alive) rfl rfl rfl (fun d => loseContext_isSome w c d n) rfl rfl

/-- An import starts the texture with the next number. -/
theorem Ledger.importTexture (h : w.Ledger) {p : Pipeline} {b : HardwareBuffer} {d : Dataspace}
    (alive : w.alive c) (works : (w.backend c).importError = none) :
    (w.importTexture c p b d).1.Ledger := by
  have textures := importTexture_texture? p b d alive works
  have history := importTexture_history p b d alive works
  obtain ⟨contexts, imported⟩ := importTexture_rest p b d alive works
  generalize (w.importTexture c p b d).1 = w' at textures history contexts imported
  -- no texture had the next number, so all records stay
  have new : ∀ u x, w.texture? u = some x → u ≠ w.imported + 1 := by
    intro u x found hu
    have counted := (h.numbered u).1 (by rw [found]; rfl)
    rw [hu] at counted
    exact absurd counted.2 (Nat.not_succ_le_self _)
  have kept : ∀ u x, w.texture? u = some x → w'.texture? u = some x := by
    intro u x found
    rw [textures, if_neg (new u x found), found]
  have freed : freesIn w'.history = freesIn w.history := by
    rw [history, freesIn_append]
    exact List.append_nil _
  have losses : w'.Losses := by
    refine h.append history contexts (fun e n he => by cases he) ?_
    intro e call he
    cases he
    exact .inl alive
  refine
    { losses with
      numbered := ?_, imports := ?_, origin := ?_, nodup := ?_, frees := ?_, leaves := ?_
      home := ?_ }
  · intro u
    rw [textures, imported]
    by_cases hu : u = w.imported + 1
    · simp [hu]
    · rw [if_neg hu, h.numbered u]
      omega
  · rw [history, importsIn_append, h.imports, imported, List.range'_1_concat, Nat.add_comm 1]
    rfl
  · intro e u a s mem
    rw [history] at mem
    rcases List.mem_append.1 mem with mem | mem
    · obtain ⟨x, found, origin⟩ := h.origin e u a s mem
      exact ⟨x, kept u x found, origin⟩
    · cases List.mem_singleton.1 mem
      exact ⟨newTexture c p b d, by rw [textures, if_pos rfl], rfl, rfl, rfl⟩
  · rw [freed]
    exact h.nodup
  · intro u
    rw [freed, h.frees u, textures]
    constructor
    · rintro ⟨x, found, unheld⟩
      exact ⟨x, by rw [if_neg (new u x found), found], unheld⟩
    · rintro ⟨x, found, unheld⟩
      split at found
      · cases found
        cases unheld
      · exact ⟨x, found, unheld⟩
  · rw [history]
    refine throughout_append.2 ⟨h.leaves.mono fun pre e right => right.kept ?_,
      leavesRightly_of_freed? rfl⟩
    intro u x found _
    exact kept u x found
  · intro u x found
    rw [textures] at found
    rw [contexts]
    split at found
    · cases found
      exact isSome_of_alive alive
    · exact h.home u x found

/-- By its farewell a texture leaves its backend. -/
theorem farewell_freed? (w : World) (t : TextureId) (x : Texture) :
    (w.farewell t x).freed? = some t := by
  unfold farewell
  split <;> rfl

/-- By its farewell no texture is imported. -/
theorem farewell_imported? (w : World) (c : ContextId) (t : TextureId) (x : Texture) :
    (Entry.backend c (w.farewell t x)).imported? = none := by
  unfold farewell
  split <;> rfl

/-- The farewell is a delete on a living context, unless the handle was released
under a lost one. -/
theorem farewell_eq_deleted :
    w.farewell t x = .deleted t ↔ w.alive x.context = true ∧ x.released ≠ some .contextLost := by
  unfold farewell Texture.condemned
  split
  · next h => simpa using h
  · next h => simpa using h

/-- A context that is lost hears no farewell but an abandon. -/
theorem farewell_of_lost (w : World) (t : TextureId) (x : Texture) :
    w.alive x.context ∨ ∃ u, w.farewell t x = .abandoned u := by
  unfold farewell
  split
  · next rightly => exact .inl (Bool.and_eq_true_iff.1 rightly).1
  · exact .inr ⟨t, rfl⟩

/-- The last holder of a texture lets go, and the texture leaves. -/
theorem Ledger.farewell (h : w.Ledger) (found : w.texture? t = some x) (last : x.holders = 1) :
    (w.letGo t).Ledger := by
  have history : (w.letGo t).history
      = w.history ++ [.backend x.context (w.farewell t x)] := by
    rw [letGo_history found, if_pos last]
  have textures : ∀ u, (w.letGo t).texture? u
      = if u = t then some { x with holders := 0 } else w.texture? u := by
    intro u
    rw [letGo_texture?, found, Option.map_some, last]
  obtain ⟨-, contexts, imported⟩ := letGo_rest w t
  generalize w.letGo t = w' at history textures contexts imported
  -- whatever nobody held before is as it was, because `t` was held
  have still : ∀ u y, w.texture? u = some y → y.holders = 0 → w'.texture? u = some y := by
    intro u y hy unheld
    rw [textures, if_neg, hy]
    rintro rfl
    rw [found] at hy
    cases hy
    omega
  have freed : freesIn w'.history = freesIn w.history ++ [t] := by
    rw [history, freesIn_append, Entry.freed?, farewell_freed?]
    rfl
  have losses : w'.Losses := by
    refine h.append history contexts (fun c n he => by cases he) ?_
    intro c call he
    cases he
    exact farewell_of_lost w t x
  refine
    { losses with
      numbered := ?_, imports := ?_, origin := ?_, nodup := ?_, frees := ?_, leaves := ?_
      home := ?_ }
  · intro u
    rw [imported, ← h.numbered u, textures]
    split
    · next hu => rw [hu, found]; rfl
    · rfl
  · rw [history, importsIn_append, farewell_imported?, imported, h.imports]
    exact List.append_nil _
  · intro c u b d mem
    rw [history] at mem
    obtain ⟨y, hy, origin⟩ :=
      h.origin c u b d (mem_of_imported_mem (farewell_imported? w x.context t x) mem)
    rw [textures]
    split
    · next hu =>
      rw [hu, found] at hy
      cases hy
      exact ⟨_, rfl, origin⟩
    · exact ⟨y, hy, origin⟩
  · -- it has not left before, because it was held until now
    rw [freed]
    refine List.nodup_append.2 ⟨h.nodup, List.pairwise_singleton _ t, ?_⟩
    intro u hu v hv
    rw [List.mem_singleton.1 hv]
    rintro rfl
    obtain ⟨y, hy, unheld⟩ := (h.frees u).1 hu
    rw [found] at hy
    cases hy
    omega
  · intro u
    rw [freed, List.mem_append, List.mem_singleton, h.frees u, textures]
    constructor
    · rintro (⟨y, hy, unheld⟩ | rfl)
      · exact ⟨y, textures u ▸ still u y hy unheld, unheld⟩
      · exact ⟨_, if_pos rfl, rfl⟩
    · rintro ⟨y, hy, unheld⟩
      split at hy
      · next hu => exact .inr hu
      · exact .inl ⟨y, hy, unheld⟩
  · rw [history]
    refine throughout_append.2 ⟨h.leaves.mono fun pre e right => right.kept still, ?_⟩
    intro c call u he freed
    cases he
    rw [farewell_freed?, Option.some.injEq] at freed
    subst freed
    refine ⟨h.mem_importsIn.2 (by rw [found]; rfl), { x with holders := 0 }, ?_, rfl, rfl, ?_⟩
    · rw [textures, if_pos rfl]
    · rw [farewell_eq_deleted, ← Bool.not_eq_false, h.lost _ (h.home t x found)]
  · intro u y hy
    rw [textures] at hy
    rw [contexts]
    split at hy
    · cases hy
      exact h.home t x found
    · exact h.home u y hy

-- ==================================================== all steps

/-- A remark may be written. -/
theorem Ledger.remark {e : Entry} (h : w.Ledger) (remark : e.isRemark) :
    (w.record e).Ledger := by
  have calls : ∀ c call, e = .backend c call → w.alive c := by
    intro c call he
    rw [he] at remark
    cases remark
  have tells : ∀ c n, e ≠ .note (.contextDestroyed c n) := by
    intro c n he
    rw [he] at remark
    cases remark
  cases e with
  | backend c call => cases remark
  | _ => exact h.record rfl rfl tells calls

/-- A context that is alive may be asked. -/
theorem Ledger.query {call : BackendCall} (h : w.Ledger) (query : call.isQuery)
    (alive : w.alive c) : (w.call c call).Ledger := by
  have calls : ∀ d call', Entry.backend c call = .backend d call' → w.alive d := by
    intro d call' he
    cases he
    exact alive
  refine h.record ?_ ?_ (fun d n he => by cases he) calls
  · cases call <;> first | rfl | cases query
  · cases call <;> first | rfl | cases query

/-- Settings change no context and no texture. -/
theorem Ledger.adjustBackend (h : w.Ledger) (c : ContextId) (settings : List BackendSetting) :
    (w.adjustBackend c settings).Ledger := by
  refine h.alike rfl rfl ?_ ?_ ?_
  · intro d
    rw [adjustBackend_contexts]
    split
    · next hd => rw [Option.isSome_map, hd]
    · rfl
  · intro d
    unfold alive
    rw [adjustBackend_contexts]
    split
    · next hd =>
      rw [Option.map_map, hd]
      rfl
    · rfl
  · intro t
    show Option.Rel Alike (w.texture? t) (w.texture? t)
    cases w.texture? t with
    | none => exact .none
    | some x => exact .some (.refl x)

/-- A holder lets go of a texture, which leaves its backend if he was the last. -/
theorem Ledger.letGo (h : w.Ledger) (held : 0 < w.holders t) : (w.letGo t).Ledger := by
  obtain ⟨x, found, pos⟩ := exists_of_held held
  by_cases last : x.holders = 1
  · exact h.farewell found last
  · rw [letGo_eq found]
    simp only [if_neg last]
    refine h.onTexture ?_
    intro y hy
    rw [found] at hy
    cases hy
    have still : x.holders - 1 = 0 ↔ x.holders = 0 := by omega
    exact ⟨rfl, rfl, rfl, still, fun _ => rfl⟩

/-- A buffer goes back to the queue. -/
theorem Ledger.releaseQueue (h : w.Ledger) (t : TextureId) : (w.releaseQueue t).1.Ledger := by
  -- the record of the buffer is no concern of the ledger, the call is one to a living context
  have changed : (w.onTexture t fun x =>
      if x.pipeline = .vulkan then { x with queueHeld := false } else x).Ledger := by
    refine h.onTexture ?_
    intro y hy
    split
    · exact ⟨rfl, rfl, rfl, Iff.rfl, fun _ => rfl⟩
    · exact .refl y
  rw [World.releaseQueue]
  cases found : w.texture? t with
  | none => exact changed
  | some x =>
    dsimp only
    split
    · next vulkan =>
      refine changed.record rfl rfl (fun c n he => by cases he) ?_
      intro c call he
      cases he
      exact vulkan.2.2
    · exact changed

/-- A step keeps the ledger. -/
theorem Ledger.step (h : w.Ledger) (step : Step P w w') : w'.Ledger := by
  cases step with
  | remark e remark allowed => exact h.remark remark
  | aside n s tr => exact { h with }
  | adjustBackend c settings => exact h.adjustBackend c settings
  | loseContext n alive => exact h.loseContext n alive
  | query call query alive => exact h.query query alive
  | importTexture p b d alive works => exact h.importTexture alive works
  | @share t held =>
    refine h.onTexture ?_
    intro x found
    rw [holders_eq found] at held
    have still : x.holders + 1 = 0 ↔ x.holders = 0 := by omega
    exact ⟨rfl, rfl, rfl, still, fun _ => rfl⟩
  | letGo held => exact h.letGo held
  | markReleased mode held =>
    refine h.onTexture ?_
    intro x found
    refine ⟨rfl, rfl, rfl, Iff.rfl, fun unheld => ?_⟩
    rw [holders_eq found, unheld] at held
    cases held
  | releaseQueue t => exact h.releaseQueue t
  | reacquireQueue t =>
    refine h.onTexture ?_
    intro x found
    split
    · exact ⟨rfl, rfl, rfl, Iff.rfl, fun _ => rfl⟩
    · exact .refl x

/-- Steps keep the ledger. -/
theorem Ledger.steps (h : w.Ledger) (steps : Steps P w w') : w'.Ledger := by
  induction steps with
  | refl => exact h
  | tail _ step ih => exact ih.step step

/-- What was imported stays among the imports. -/
theorem importsIn_subset {h h' : List Entry} {es : List Entry} (grown : h' = h ++ es) :
    importsIn h ⊆ importsIn h' := by
  rw [grown, importsIn, importsIn, List.filterMap_append]
  exact List.subset_append_left _ _

/-- A handle that is given up answers whether the texture leaves its backend by that. -/
theorem Ledger.release (h : w.Ledger) (held : 0 < w.holders t) (mode : TeardownMode) :
    (w.release t mode).2 = .freed ↔ t ∈ freesIn (w.release t mode).1.history := by
  obtain ⟨x, found, pos⟩ := exists_of_held held
  have marked : (w.markReleased t mode).texture? t = some { x with released := some mode } :=
    texture?_onTexture_self found _
  have before : t ∉ freesIn (w.markReleased t mode).history := fun freed => by
    have none := (h.mem_freesIn.1 freed).2
    omega
  unfold World.release
  dsimp only
  rw [letGo_history marked, holders_eq marked]
  by_cases last : x.holders = 1
  · rw [if_pos last, if_pos last, freesIn_append, Entry.freed?, farewell_freed?]
    simp
  · rw [if_neg last, if_neg last, List.append_nil]
    exact iff_of_false nofun before

/-- Between two moments a texture leaves its backend exactly if it is held at the one
and not at the other. -/
theorem Ledger.freed_between (h : w.Ledger) (steps : Steps P w w')
    (imported : t ∈ importsIn w.history) :
    t ∈ freesIn w'.history ∧ t ∉ freesIn w.history ↔ 0 < w.holders t ∧ w'.holders t = 0 := by
  obtain ⟨es, grown, -⟩ := steps.history
  have still := importsIn_subset grown imported
  rw [(h.steps steps).mem_freesIn, h.mem_freesIn]
  constructor
  · rintro ⟨⟨-, unheld⟩, held⟩
    exact ⟨Nat.pos_of_ne_zero fun none => held ⟨imported, none⟩, unheld⟩
  · rintro ⟨held, unheld⟩
    exact ⟨⟨still, unheld⟩, fun freed => by omega⟩

end World

end LayerFeed
