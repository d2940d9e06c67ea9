/-
The lines of events can be read back. The words of a line are its pieces between blanks
(`content_eq`), and no word holds a blank or the end of a line, so a text of lines falls apart
into the lines it was made of (`splitOn_lines`) and a line into its words. Word by word the
fields can then be told: the first word names the kind, numbers are told by their digits, and
the dash for what is absent is no number (`words_injective`). Two lists of events with the same
lines are the same list (`text_tells_events`).
-/
import LayerFeed.Proofs.Text.Numerals
import LayerFeed.Trace.Sink

namespace LayerFeed.Trace

open Text

variable {e e' : Event} {es : List Event} {s t : String}

-- ==================================================== words

/-- A text without a blank and without an end of line. -/
def Solid (s : String) : Prop := ∀ c ∈ s.toList, c ≠ ' ' ∧ c ≠ '\n'

/-- Two solid texts make one. -/
theorem Solid.append (hs : Solid s) (ht : Solid t) : Solid (s ++ t) := by
  intro c mem
  rw [String.toList_append, List.mem_append] at mem
  exact mem.elim (hs c) (ht c)

theorem solid_nat (n : Nat) : Solid (toString n) := by
  intro c mem
  rw [toList_nat] at mem
  have digit := isDigit_of_mem_digits mem
  constructor <;> (rintro rfl; exact absurd digit (by decide))

theorem solid_int (i : Int) : Solid (toString i) := by
  intro c mem
  rw [toList_int] at mem
  rcases mem_signed mem with rfl | digit
  · decide
  · constructor <;> (rintro rfl; exact absurd digit (by decide))

theorem solid_flag (b : Bool) : Solid (flag b) := by cases b <;> simp [Solid, flag]

theorem solid_pipeline (p : Pipeline) : Solid p.name := by cases p <;> simp [Solid, Pipeline.name]

theorem solid_outcomeWord (o : SlotOutcome) : Solid (outcomeWord o) := by
  cases o <;> simp [Solid, outcomeWord]

theorem solid_fenceWord (f : Option FenceClass) : Solid (fenceWord f) := by
  rcases f with _ | _ | _ | _ <;> simp [Solid, fenceWord]

theorem solid_modeWord (m : TeardownMode) : Solid (modeWord m) := by
  cases m <;> simp [Solid, modeWord]

theorem solid_releaseWord (r : Release) : Solid (releaseWord r) := by
  cases r <;> simp [Solid, releaseWord]

/-- A slot is written without a blank, and so is that there is none. -/
theorem solid_slotWord (slot : Option SlotId) : Solid (slotWord slot) := by
  cases slot with
  | none => simp [Solid, slotWord]
  | some slot => exact solid_int _

/-- The words of an event's line. -/
def words : Event → List String
  | .frameLatched f =>
    ["[latch]", "frame=" ++ toString f.frameIndex.toNat, "pipeline=" ++ f.pipeline.name,
      "slot=" ++ toString f.slot.number.toInt, "buffer=" ++ toString f.buffer.number.toNat,
      outcomeWord f.outcome, "fence=" ++ fenceWord f.releaseFence,
      "filter=" ++ flag f.forceFilter]
  | .textureReleased slot mode release =>
    ["[release]", "slot=" ++ toString slot.number.toInt, "mode=" ++ modeWord mode,
      releaseWord release]
  | .detached activeSlot releasedConsumer =>
    ["[detach]", "slot=" ++ slotWord activeSlot,
      "consumer_released=" ++ flag releasedConsumer]
  | .tornDown mode releasedTextures releasedLayer =>
    ["[teardown]", "mode=" ++ modeWord mode, "textures=" ++ toString releasedTextures,
      "layer=" ++ flag releasedLayer]

/-- The content of a line is its words with blanks between. -/
theorem content_eq (e : Event) : content e = " ".intercalate (words e) := by
  rw [← String.toList_inj, String.toList_intercalate]
  unfold content words
  cases e <;> simp [List.intercalate]

/-- There is at least one word. -/
theorem words_ne_nil (e : Event) : words e ≠ [] := by cases e <;> exact List.cons_ne_nil _ _

/-- No word has a blank or a newline in it. -/
theorem solid_of_mem_words (mem : s ∈ words e) : Solid s := by
  revert s
  cases e with
  | frameLatched f =>
    simp only [words, List.forall_mem_cons]
    exact ⟨by simp [Solid], .append (by simp [Solid]) (solid_nat _),
      .append (by simp [Solid]) (solid_pipeline _), .append (by simp [Solid]) (solid_int _),
      .append (by simp [Solid]) (solid_nat _), solid_outcomeWord _,
      .append (by simp [Solid]) (solid_fenceWord _), .append (by simp [Solid]) (solid_flag _),
      List.forall_mem_nil _⟩
  | textureReleased slot mode release =>
    simp only [words, List.forall_mem_cons]
    exact ⟨by simp [Solid], .append (by simp [Solid]) (solid_int _),
      .append (by simp [Solid]) (solid_modeWord _), solid_releaseWord _, List.forall_mem_nil _⟩
  | detached activeSlot releasedConsumer =>
    simp only [words, List.forall_mem_cons]
    exact ⟨by simp [Solid], .append (by simp [Solid]) (solid_slotWord _),
      .append (by simp [Solid]) (solid_flag _), List.forall_mem_nil _⟩
  | tornDown mode releasedTextures releasedLayer =>
    simp only [words, List.forall_mem_cons]
    exact ⟨by simp [Solid], .append (by simp [Solid]) (solid_modeWord _),
      .append (by simp [Solid]) (solid_nat _), .append (by simp [Solid]) (solid_flag _),
      List.forall_mem_nil _⟩

-- ==================================================== fields

/-- A flag is read back from its word. -/
theorem flag_injective {a b : Bool} (same : flag a = flag b) : a = b := by
  revert a b
  decide

theorem pipelineName_injective {p q : Pipeline} (same : p.name = q.name) : p = q := by
  cases p <;> cases q <;> first | rfl | exact absurd same (by decide)

/-- The words for the outcomes differ. -/
theorem outcomeWord_injective {o p : SlotOutcome} (same : outcomeWord o = outcomeWord p) :
    o = p := by
  cases o <;> cases p <;> first | rfl | exact absurd same (by decide)

theorem fenceWord_injective {f g : Option FenceClass} (same : fenceWord f = fenceWord g) :
    f = g := by
  rcases f with _ | _ | _ | _ <;> rcases g with _ | _ | _ | _ <;>
    first | rfl | exact absurd same (by decide)

theorem modeWord_injective {m n : TeardownMode} (same : modeWord m = modeWord n) : m = n := by
  cases m <;> cases n <;> first | rfl | exact absurd same (by decide)

theorem releaseWord_injective {r q : Release} (same : releaseWord r = releaseWord q) : r = q := by
  cases r <;> cases q <;> first | rfl | exact absurd same (by decide)

/-- A number is read back from its digits. -/
theorem nat_injective {m n : Nat} (same : toString m = toString n) : m = n :=
  toDigits_injective (by simpa only [toList_nat] using congrArg String.toList same)

theorem int_injective {i j : Int} (same : toString i = toString j) : i = j :=
  signed_injective (by simpa only [toList_int] using congrArg String.toList same)

theorem slotId_injective {a b : SlotId}
    (same : toString a.number.toInt = toString b.number.toInt) : a = b := by
  cases a; cases b
  exact congrArg SlotId.mk (Int32.toInt_inj.1 (int_injective same))

/-- No slot is shown as the dash of an absent one. -/
theorem slot_ne_dash (a : SlotId) : toString a.number.toInt ≠ "-" := fun same =>
  signed_ne_dash ((toList_int _).symm.trans (congrArg String.toList same))

/-- A slot is read back from its word, and that there was none. -/
theorem slotWord_injective {a b : Option SlotId} (same : slotWord a = slotWord b) : a = b := by
  cases a with
  | none => cases b with
    | none => rfl
    | some b => exact absurd same.symm (slot_ne_dash b)
  | some a => cases b with
    | none => exact absurd same (slot_ne_dash a)
    | some b => exact congrArg some (slotId_injective same)

/-- The words of an event determine it. -/
theorem words_injective (same : words e = words e') : e = e' := by
  cases e with
  | frameLatched f =>
    cases e' with
    | frameLatched g =>
      simp only [words, List.cons.injEq, String.append_right_inj] at same
      obtain ⟨-, index, pipeline, slot, buffer, outcome, fence, filter, -⟩ := same
      cases f; cases g
      have index := UInt64.toNat_inj.1 (nat_injective index)
      have buffer := congrArg BufferId.mk (UInt64.toNat_inj.1 (nat_injective buffer))
      congr
      · exact pipelineName_injective pipeline
      · exact slotId_injective slot
      · exact outcomeWord_injective outcome
      · exact fenceWord_injective fence
      · exact flag_injective filter
    | _ => exact absurd (List.cons.inj same).1 (by decide)
  | textureReleased slot mode release =>
    cases e' with
    | textureReleased =>
      simp only [words, List.cons.injEq, String.append_right_inj] at same
      obtain ⟨-, slot, mode, release, -⟩ := same
      rw [slotId_injective slot, modeWord_injective mode, releaseWord_injective release]
    | _ => exact absurd (List.cons.inj same).1 (by decide)
  | detached activeSlot releasedConsumer =>
    cases e' with
    | detached =>
      simp only [words, List.cons.injEq, String.append_right_inj] at same
      obtain ⟨-, slot, consumer, -⟩ := same
      rw [slotWord_injective slot, flag_injective consumer]
    | _ => exact absurd (List.cons.inj same).1 (by decide)
  | tornDown mode releasedTextures releasedLayer =>
    cases e' with
    | tornDown =>
      simp only [words, List.cons.injEq, String.append_right_inj] at same
      obtain ⟨-, mode, textures, layer, -⟩ := same
      rw [modeWord_injective mode, nat_injective textures, flag_injective layer]
    | _ => exact absurd (List.cons.inj same).1 (by decide)

-- ==================================================== lines

theorem mem_intercalate {α : Type} {a : α} {sep : List α} {ls : List (List α)}
    (mem : a ∈ sep.intercalate ls) : a ∈ sep ∨ ∃ l ∈ ls, a ∈ l := by
  induction ls with
  | nil => cases mem
  | cons l ls ih =>
    cases ls with
    | nil =>
      rw [List.intercalate_singleton] at mem
      exact .inr ⟨l, List.mem_cons_self, mem⟩
    | cons m ls =>
      rw [List.intercalate_cons_cons, List.mem_append, List.mem_append] at mem
      rcases mem with (mem | mem) | mem
      · exact .inr ⟨l, List.mem_cons_self, mem⟩
      · exact .inl mem
      · exact (ih mem).imp_right fun ⟨k, mem, inside⟩ => ⟨k, List.mem_cons_of_mem l mem, inside⟩

/-- A line falls apart into its words at the blanks. -/
theorem splitOn_content (e : Event) :
    (content e).toList.splitOn ' ' = (words e).map String.toList := by
  rw [content_eq, String.toList_intercalate]
  refine List.splitOn_intercalate ' ' ?_ (by simp [words_ne_nil])
  intro l piece blank
  obtain ⟨s, word, rfl⟩ := List.mem_map.1 piece
  exact (solid_of_mem_words word _ blank).1 rfl

/-- And so does its line, since no word has a blank in it. -/
theorem content_injective (same : content e = content e') : e = e' := by
  have split : (words e).map String.toList = (words e').map String.toList := by
    rw [← splitOn_content, same, splitOn_content]
  exact words_injective (List.map_inj_right (fun _ _ => String.toList_inj.1) |>.1 split)

/-- The line of an event has no end inside. -/
theorem newline_not_mem_content (e : Event) : '\n' ∉ (content e).toList := by
  rw [content_eq, String.toList_intercalate]
  intro mem
  rcases mem_intercalate mem with mem | ⟨l, piece, mem⟩
  · simp at mem
  · obtain ⟨s, word, rfl⟩ := List.mem_map.1 piece
    exact (solid_of_mem_words word _ mem).2 rfl

/-- The lines of a list of events, by its first. -/
theorem lines_cons (e : Event) (es : List Event) :
    (lines (e :: es)).toList = (content e).toList ++ '\n' :: (lines es).toList := by
  rw [lines, List.map_cons, String.join_cons, line, String.toList_append, String.toList_append,
    List.append_assoc]
  rfl

/-- A text of lines falls apart into the lines, in order, at their ends; nothing is left over. -/
theorem splitOn_lines (es : List Event) :
    (lines es).toList.splitOn '\n' = es.map (fun e => (content e).toList) ++ [[]] := by
  induction es with
  | nil => rfl
  | cons e es ih =>
    rw [lines_cons, List.splitOn_append_cons_self_of_not_mem (newline_not_mem_content e), ih]
    rfl

/-- The lines determine the list of events. -/
theorem lines_injective {es es' : List Event} (same : lines es = lines es') : es = es' := by
  have split := splitOn_lines es
  rw [same, splitOn_lines, List.append_cancel_right_eq] at split
  exact (List.map_inj_right (fun _ _ same => content_injective (String.toList_inj.1 same))
    |>.1 split).symm

-- ==================================================== the sink

/-- What a text without a limit holds after events were handed to it. -/
def printed (name : String) (events : List Event) : Option Text.Bounded :=
  ((({} : Traces).openText name none).emitAll (.text name) events).texts.get? name

/-- A text without a limit takes the line of each event. -/
theorem texts_emitAll {name start : String} {traces : Traces}
    (held : traces.texts.get? name = some ⟨none, start⟩) :
    (traces.emitAll (.text name) es).texts.get? name = some ⟨none, start ++ lines es⟩ := by
  induction es generalizing traces start with
  | nil => rw [show lines [] = "" from rfl, String.append_empty]; exact held
  | cons e es ih =>
    have next : (traces.emit (.text name) e).texts.get? name = some ⟨none, start ++ line e⟩ := by
      rw [Traces.emit, Table.get?_modify, if_pos rfl, held]
      rfl
    rw [lines, List.map_cons, String.join_cons, ← String.append_assoc]
    exact ih next

/-- What a line sink wrote tells the events. Events handed to a text without a limit stand
there as their lines, which the ends of lines part, one line to an event, in order and with
nothing else between or after them; and only the same events, field by field, leave the same
text. -/
theorem printed_tells_events (name : String) (es es' : List Event) :
    printed name es = some ⟨none, lines es⟩
      ∧ (lines es).toList.splitOn '\n' = es.map (fun e => (content e).toList) ++ [[]]
      ∧ (printed name es = printed name es' ↔ es = es') := by
  have text (es : List Event) : printed name es = some ⟨none, lines es⟩ := by
    have fresh : (({} : Traces).openText name none).texts.get? name = some ⟨none, ""⟩ :=
      Table.get?_set_self ..
    rw [printed, texts_emitAll fresh, String.empty_append]
  refine ⟨text es, splitOn_lines es, fun same => ?_, fun same => by rw [same]⟩
  rw [text, text] at same
  exact lines_injective (Text.Bounded.mk.inj (Option.some.inj same)).2

end LayerFeed.Trace
