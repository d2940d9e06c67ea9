/-
A timeline keeps every event. Its text is JSON, and reading it gives back the objects it was
written from (`read_timeline`): every number in them is a number to a reader
(`sound_instant`). The object of a record holds its event field by field (`instant_inj`): the
names of the details tell the kinds apart, an absent value is null where a present one is a
number or a string, and the slot of a frame is its row. So two lists of records with the same
text agree event by event, and in their times as they are written (`timeline_tells_events`).
-/
import LayerFeed.Proofs.Decimal.Numerals
import LayerFeed.Proofs.Trace.Lines
import LayerFeed.Trace.Timeline

namespace LayerFeed.Trace

open Text

variable {e e' : Event} {r r' : Record} {rs rs' : List Record}

-- ==================================================== every value is JSON

/-- A natural number is written as a numeral. -/
theorem sound_nat (n : Nat) : (Json.nat n).Sound := .number (Decimal.numeral_nat n)

/-- So is an integer. -/
theorem sound_int (i : Int) : (Json.int i).Sound := .number (Decimal.numeral_int i)

/-- An option of something sound is sound. -/
theorem sound_option {α : Type} {encode : α → Json} (sound : ∀ a, (encode a).Sound)
    (x : Option α) : (Json.option encode x).Sound := by
  cases x with
  | none => exact .null
  | some a => exact sound a

/-- A moment is sound, whether it is a number or not. -/
theorem sound_moment (x : Float) : (moment x).Sound := by
  unfold moment
  split
  next finite => exact .number (Decimal.Layout.numeral_text times .double _ finite)
  · exact .null
  · exact .null

/-- Every member of the details is sound. -/
theorem sound_details (e : Event) : ∀ m ∈ details e, m.2.Sound := by
  cases e with
  | frameLatched f =>
    simp only [details, List.forall_mem_cons]
    exact ⟨sound_nat _, .bool _, sound_nat _, .string _, .string _,
      sound_option (fun _ => .string _) _, List.forall_mem_nil _⟩
  | textureReleased slot mode release =>
    simp only [details, List.forall_mem_cons]
    exact ⟨.string _, .string _, List.forall_mem_nil _⟩
  | detached activeSlot releasedConsumer =>
    simp only [details, List.forall_mem_cons]
    exact ⟨sound_option (fun _ => sound_int _) _, .bool _, List.forall_mem_nil _⟩
  | tornDown mode releasedTextures releasedLayer =>
    simp only [details, List.forall_mem_cons]
    exact ⟨.string _, .bool _, sound_nat _, List.forall_mem_nil _⟩

/-- And so is the object of a record. -/
theorem sound_instant (r : Record) : (instant r).Sound := by
  refine .object ?_
  simp only [List.forall_mem_cons]
  exact ⟨.object (sound_details _), .string _, .string _, .string _, sound_nat 0, .string _,
    sound_int _, sound_moment _, List.forall_mem_nil _⟩

/-- The text of a timeline is a JSON array, and its items are the objects of the records. -/
theorem read_timeline (rs : List Record) :
    Json.read (timeline rs) = some (.array (rs.map instant)) := by
  refine Json.read_text (.array fun j mem => ?_)
  obtain ⟨r, -, rfl⟩ := List.mem_map.1 mem
  exact sound_instant r

-- ==================================================== an object holds its event

/-- The numeral of a natural number determines it. -/
theorem nat_inj {m n : Nat} : Json.nat m = Json.nat n ↔ m = n :=
  ⟨fun same => nat_injective (Json.number.inj same), fun same => by rw [same]⟩

/-- And that of a slot the slot. -/
theorem slot_inj {a b : SlotId} : Json.int a.number.toInt = Json.int b.number.toInt ↔ a = b :=
  ⟨fun same => slotId_injective (Json.number.inj same), fun same => by rw [same]⟩

theorem outcomeName_injective {o p : SlotOutcome} (same : o.name = p.name) : o = p := by
  cases o <;> cases p <;> first | rfl | exact absurd same (by decide)

theorem modeName_injective {m n : TeardownMode} (same : m.name = n.name) : m = n := by
  cases m <;> cases n <;> first | rfl | exact absurd same (by decide)

theorem releaseName_injective {p q : Release} (same : p.name = q.name) : p = q := by
  cases p <;> cases q <;> first | rfl | exact absurd same (by decide)

theorem fenceName_injective {f g : FenceClass} (same : f.name = g.name) : f = g := by
  cases f <;> cases g <;> first | rfl | exact absurd same (by decide)

/-- A value that may be missing is told from null and from other values. -/
theorem option_injective {α : Type} {encode : α → Json} (present : ∀ a, encode a ≠ .null)
    (injective : ∀ {a b}, encode a = encode b → a = b) {x y : Option α}
    (same : Json.option encode x = Json.option encode y) : x = y := by
  cases x with
  | none => cases y with
    | none => rfl
    | some b => exact absurd same.symm (present b)
  | some a => cases y with
    | none => exact absurd same (present a)
    | some b => exact congrArg some (injective same)

/-- The class of a fence is read back, and that there was none. -/
theorem fence_injective {f g : Option FenceClass}
    (same : Json.option (fun c => .string c.name) f = .option (fun c => .string c.name) g) :
    f = g :=
  option_injective (fun _ h => by cases h) (fun h => fenceName_injective (Json.string.inj h)) same

/-- The active slot is read back, and that there was none. -/
theorem activeSlot_injective {a b : Option SlotId}
    (same : Json.option (fun s : SlotId => .int s.number.toInt) a
      = .option (fun s : SlotId => .int s.number.toInt) b) : a = b :=
  option_injective (fun _ h => by cases h) slot_inj.1 same

/-- The details and the row of an event tell what it was. -/
theorem details_injective (same : details e = details e')
    (same_row : Json.int (row e) = .int (row e')) : e = e' := by
  cases e with
  | frameLatched f =>
    cases e' with
    | frameLatched g =>
      simp only [details, List.cons.injEq, Prod.mk.injEq, true_and, nat_inj, Json.bool.injEq,
        Json.string.injEq, and_true] at same
      obtain ⟨buffer, filter, index, outcome, pipeline, fence⟩ := same
      cases f; cases g
      have index := UInt64.toNat_inj.1 index
      have buffer := congrArg BufferId.mk (UInt64.toNat_inj.1 buffer)
      congr
      · exact pipelineName_injective pipeline
      · exact slot_inj.1 same_row
      · exact outcomeName_injective outcome
      · exact fence_injective fence
    | _ => exact absurd (congrArg List.length same) (by simp [details])
  | textureReleased slot mode release =>
    cases e' with
    | textureReleased =>
      simp only [details, List.cons.injEq, Prod.mk.injEq, true_and, Json.string.injEq,
        and_true] at same
      rw [slot_inj.1 same_row, modeName_injective same.1, releaseName_injective same.2]
    | detached => simp [details] at same
    | _ => exact absurd (congrArg List.length same) (by simp [details])
  | detached activeSlot releasedConsumer =>
    cases e' with
    | detached =>
      simp only [details, List.cons.injEq, Prod.mk.injEq, true_and, Json.bool.injEq,
        and_true] at same
      rw [activeSlot_injective same.1, same.2]
    | textureReleased => simp [details] at same
    | _ => exact absurd (congrArg List.length same) (by simp [details])
  | tornDown mode releasedTextures releasedLayer =>
    cases e' with
    | tornDown =>
      simp only [details, List.cons.injEq, Prod.mk.injEq, true_and, Json.string.injEq,
        Json.bool.injEq, nat_inj, and_true] at same
      rw [modeName_injective same.1, same.2.1, same.2.2]
    | _ => exact absurd (congrArg List.length same) (by simp [details])

/-- The time of a record as it is written. -/
def Record.moment (r : Record) : Json := Trace.moment r.micros

/-- An object determines the event and the moment of its record. -/
theorem instant_inj : instant r = instant r' ↔ r.event = r'.event ∧ r.moment = r'.moment := by
  constructor
  · intro same
    simp only [instant, Json.object.injEq, List.cons.injEq, Prod.mk.injEq, true_and,
      and_true] at same
    obtain ⟨details, -, -, -, row, time⟩ := same
    exact ⟨details_injective details row, time⟩
  · rintro ⟨event, time⟩
    rw [Record.moment, Record.moment] at time
    rw [instant, instant, event, time]

-- ==================================================== timelines

/-- And a list of them the events and moments in order. -/
theorem map_instant_inj : rs.map instant = rs'.map instant ↔
    rs.map Record.event = rs'.map Record.event ∧ rs.map Record.moment = rs'.map Record.moment := by
  induction rs generalizing rs' with
  | nil => simp
  | cons r rs ih =>
    cases rs' with
    | nil => simp
    | cons r' rs' =>
      simp only [List.map_cons, List.cons.injEq, instant_inj, ih]
      exact and_and_and_comm

/-- A document determines its list of objects. -/
theorem timeline_inj : timeline rs = timeline rs' ↔ rs.map instant = rs'.map instant := by
  refine ⟨fun same => ?_, fun same => by rw [timeline, same, timeline]⟩
  have read := read_timeline rs
  rw [same, read_timeline] at read
  exact (Json.array.inj (Option.some.inj read)).symm

/-- A timeline loses no event. Written where there is room, its text is one JSON array with
one object to a record, in the order of the records. Two lists of records have the same text
just when their events are the same, field by field and in order, and so are their times as they
are written. -/
theorem timeline_tells_events (rs rs' : List Record) :
    Text.write none (timeline rs) = ⟨timeline rs, none⟩
      ∧ Json.read (timeline rs) = some (.array (rs.map instant))
      ∧ (∀ r, ∃ members, instant r = .object members)
      ∧ (timeline rs = timeline rs' ↔ rs.map Record.event = rs'.map Record.event
          ∧ rs.map Record.moment = rs'.map Record.moment) :=
  ⟨by simp [Text.write, clip], read_timeline rs, fun _ => ⟨_, rfl⟩,
    timeline_inj.trans map_instant_inj⟩

end LayerFeed.Trace
