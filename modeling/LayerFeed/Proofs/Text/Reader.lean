/-
A reader of JSON texts, and the proof that it gives back what was written. The reader takes
exactly the texts that are JSON, but for pairs of escaped surrogates, which it refuses: blanks
between the parts are passed over, a number has no needless zero in front and digits on both
sides of its point, and a string holds no raw control character. It knows nothing of how values
are laid out in lines.

Reading a number or a value leaves the characters after it alone, provided these do not go on
with the number (`Stops`). With that, the sequence inside brackets is read back whenever its
parts are (`readMore_written`), for items and members alike, and the whole by induction on the
fuel, which the length of the text bounds (`readValue_pretty`).
-/
import LayerFeed.Text.Json

namespace LayerFeed.Text.Json

variable {α : Type} {cs ds rest : List Char} {c : Char}

-- ==================================================== numbers

/-- Digits, one at least, are passed over. -/
def passDigits : List Char → Option (List Char)
  | [] => none
  | c :: cs => if c.isDigit then some (cs.dropWhile Char.isDigit) else none

/-- The part of a number before its point. -/
def passWhole : List Char → Option (List Char)
  | [] => none
  | c :: cs => if c = '0' then some cs else passDigits (c :: cs)

/-- The point and the digits after it, if there is a point. -/
def passFraction : List Char → Option (List Char)
  | [] => some []
  | c :: cs => if c = '.' then passDigits cs else some (c :: cs)

/-- The sign of a number or an exponent, if there is one of those allowed. -/
def passSign (signs : List Char) : List Char → List Char
  | [] => []
  | c :: cs => if c ∈ signs then cs else c :: cs

/-- The power of ten, if there is one. -/
def passExponent : List Char → Option (List Char)
  | [] => some []
  | c :: cs => if c ∈ ['e', 'E'] then passDigits (passSign ['-', '+'] cs) else some (c :: cs)

/-- What follows the number that a text starts with. -/
def passNumber (cs : List Char) : Option (List Char) :=
  ((passWhole (passSign ['-'] cs)).bind passFraction).bind passExponent

-- ==================================================== strings

/-- What an escaped character other than `u` stands for. -/
def unescape? (c : Char) : Option Char :=
  if c ∈ ['"', '\\', '/'] then some c
  else if c = 'b' then some '\x08'
  else if c = 'f' then some '\x0c'
  else if c = 'n' then some '\n'
  else if c = 'r' then some '\r'
  else if c = 't' then some '\t'
  else none

/-- The value of a hexadecimal digit. -/
def hexValue? (c : Char) : Option Nat :=
  if c.isDigit then some (c.toNat - '0'.toNat)
  else if 'a'.toNat ≤ c.toNat ∧ c.toNat ≤ 'f'.toNat then some (c.toNat - 'a'.toNat + 10)
  else if 'A'.toNat ≤ c.toNat ∧ c.toNat ≤ 'F'.toNat then some (c.toNat - 'A'.toNat + 10)
  else none

/-- The character of four hexadecimal digits; half a surrogate pair is none. -/
def hexChar? (a b c d : Char) : Option Char :=
  match hexValue? a, hexValue? b, hexValue? c, hexValue? d with
  | some a, some b, some c, some d =>
    let n := ((a * 16 + b) * 16 + c) * 16 + d
    if n.isValidChar then some (Char.ofNat n) else none
  | _, _, _, _ => none

/-- Puts a character in front of what was read. -/
def prepend (c : Char) (read : List Char × List Char) : List Char × List Char :=
  (c :: read.1, read.2)

/-- The characters of a string up to its closing quote, and what follows. -/
def readString : List Char → Option (List Char × List Char)
  | [] => none
  | c :: cs =>
    if c = '"' then some ([], cs)
    else if c = '\\' then
      match cs with
      | 'u' :: h₁ :: h₂ :: h₃ :: h₄ :: cs =>
        (hexChar? h₁ h₂ h₃ h₄).bind fun x => (readString cs).map (prepend x)
      | e :: cs => (unescape? e).bind fun x => (readString cs).map (prepend x)
      | [] => none
    else if c.toNat < 0x20 then none
    else (readString cs).map (prepend c)

-- ==================================================== values

/-- Blanks between the parts of a text. -/
def isBlank (c : Char) : Bool := c = ' ' || c = '\n' || c = '\t' || c = '\r'

/-- What follows the next character that is no blank, if that is `c`. -/
def expect (c : Char) (cs : List Char) : Option (List Char) :=
  match cs.dropWhile isBlank with
  | [] => none
  | x :: rest => if x = c then some rest else none

/-- A value that has a name. -/
def readWord (word : String) (value : Json) (cs : List Char) : Option (Json × List Char) :=
  if word.toList.isPrefixOf cs then some (value, cs.drop word.length) else none

/-- A number, kept as its text. -/
def readNumber (cs : List Char) : Option (Json × List Char) :=
  (passNumber cs).map fun rest =>
    (.number (String.ofList (cs.take (cs.length - rest.length))), rest)

/-- The other parts of a sequence, each after a comma, up to its end. -/
def readMore (close : Char) (one : List Char → Option (α × List Char)) :
    Nat → List Char → Option (List α × List Char)
  | 0, _ => none
  | fuel + 1, cs =>
    match expect close cs with
    | some cs => some ([], cs)
    | none => do
      let cs ← expect ',' cs
      let (x, cs) ← one cs
      let (xs, cs) ← readMore close one fuel cs
      some (x :: xs, cs)

/-- The parts of a sequence up to its end. -/
def readSequence (close : Char) (one : List Char → Option (α × List Char)) (fuel : Nat)
    (cs : List Char) : Option (List α × List Char) :=
  match expect close cs with
  | some cs => some ([], cs)
  | none => do
    let (x, cs) ← one cs
    let (xs, cs) ← readMore close one fuel cs
    some (x :: xs, cs)

/-- A member of an object. -/
def readMember (one : List Char → Option (Json × List Char)) (cs : List Char) :
    Option ((String × Json) × List Char) := do
  let cs ← expect '"' cs
  let (name, cs) ← readString cs
  let cs ← expect ':' cs
  let (value, cs) ← one cs
  some ((String.ofList name, value), cs)

/-- A value and what follows it. The fuel bounds how deep it is nested and how many
parts stand side by side. -/
def readValue : Nat → List Char → Option (Json × List Char)
  | 0, _ => none
  | fuel + 1, cs =>
    match cs.dropWhile isBlank with
    | [] => none
    | c :: cs =>
      if c = '"' then (readString cs).map fun (s, rest) => (.string (String.ofList s), rest)
      else if c = '[' then
        (readSequence ']' (readValue fuel) fuel cs).map fun (items, rest) => (.array items, rest)
      else if c = '\x7b' then
        (readSequence '\x7d' (readMember (readValue fuel)) fuel cs).map
          fun (members, rest) => (.object members, rest)
      else if c = 't' then readWord "true" (.bool true) (c :: cs)
      else if c = 'f' then readWord "false" (.bool false) (c :: cs)
      else if c = 'n' then readWord "null" .null (c :: cs)
      else readNumber (c :: cs)

/-- The value of a whole text, if the text is JSON: a value with nothing but blanks
around it. -/
def read (text : String) : Option Json :=
  match readValue (text.length + 1) text.toList with
  | some (value, rest) => if rest.all isBlank then some value else none
  | none => none

-- ==================================================== numbers are read back

/-- Digits, one at least. -/
structure Run (ds : List Char) : Prop where
  some : ds ≠ []
  digits : ∀ d ∈ ds, d.isDigit = true

theorem Run.zero : Run ['0'] := ⟨by simp, by simp⟩

/-- What stands before the point: no zero in front of another digit. -/
inductive Whole : List Char → Prop
  | zero : Whole ['0']
  | digits {d : Char} {ds : List Char} (lead : d ≠ '0') (run : Run (d :: ds)) : Whole (d :: ds)

/-- The point and what stands after it, or nothing. -/
inductive Fraction : List Char → Prop
  | none : Fraction []
  | digits {ds : List Char} (run : Run ds) : Fraction ('.' :: ds)

/-- A power of ten, or nothing. -/
inductive Exponent : List Char → Prop
  | none : Exponent []
  | plain {ds : List Char} (run : Run ds) : Exponent ('e' :: ds)
  | signed {sign : Char} {ds : List Char} (mem : sign ∈ ['-', '+']) (run : Run ds) :
      Exponent ('e' :: sign :: ds)

/-- A text without its sign that is a number. -/
inductive Unsigned : List Char → Prop
  | parts {whole fraction exponent : List Char} (w : Whole whole) (f : Fraction fraction)
      (e : Exponent exponent) : Unsigned (whole ++ fraction ++ exponent)

/-- A text that is a number. -/
inductive Numeral : List Char → Prop
  | plain {text : List Char} (h : Unsigned text) : Numeral text
  | negative {text : List Char} (h : Unsigned text) : Numeral ('-' :: text)

/-- Whether what follows a number does not go on with it. -/
def Stops (rest : List Char) : Prop :=
  ∀ c ∈ rest.head?, c.isDigit = false ∧ c ≠ '.' ∧ c ∉ ['e', 'E']

/-- A character that no numeral goes on with stops it. -/
theorem Stops.cons (digit : c.isDigit = false) (point : c ≠ '.') (mark : c ∉ ['e', 'E']) :
    Stops (c :: rest) := by
  intro x mem
  obtain rfl : c = x := Option.some.inj mem
  exact ⟨digit, point, mark⟩

/-- The digits that follow come to an end. -/
def EndsDigits (rest : List Char) : Prop := ∀ c ∈ rest.head?, c.isDigit = false

/-- The digits are passed to their end. -/
theorem dropWhile_digits (digits : ∀ d ∈ ds, d.isDigit = true) (ends : EndsDigits rest) :
    (ds ++ rest).dropWhile Char.isDigit = rest := by
  rw [List.dropWhile_append_of_pos digits]
  cases rest with
  | nil => rfl
  | cons c rest => exact List.dropWhile_cons_of_neg (by simp [ends c rfl])

/-- A run of digits is passed, up to what ends it. -/
theorem passDigits_append (run : Run ds) (ends : EndsDigits rest) :
    passDigits (ds ++ rest) = some rest := by
  cases ds with
  | nil => exact absurd rfl run.some
  | cons d ds =>
    have digit := run.digits d List.mem_cons_self
    have others := dropWhile_digits (fun x mem => run.digits x (List.mem_cons_of_mem d mem)) ends
    simp [passDigits, digit, others]

/-- So is a whole part. -/
theorem passWhole_append (w : Whole ds) (ends : EndsDigits rest) :
    passWhole (ds ++ rest) = some rest := by
  cases w with
  | zero => rfl
  | digits lead run =>
    simp only [List.cons_append, passWhole, if_neg lead]
    exact passDigits_append run ends

/-- So is a fraction. -/
theorem passFraction_append (f : Fraction ds) (ends : EndsDigits rest)
    (point : rest.head? ≠ some '.') : passFraction (ds ++ rest) = some rest := by
  cases f with
  | digits run => exact passDigits_append run ends
  | none =>
    cases rest with
    | nil => rfl
    | cons c rest =>
      have other : c ≠ '.' := fun same => point (same ▸ rfl)
      simp [passFraction, other]

theorem Run.passSign (run : Run ds) {signs : List Char} (apart : ∀ s ∈ signs, s.isDigit = false)
    (rest : List Char) : passSign signs (ds ++ rest) = ds ++ rest := by
  cases ds with
  | nil => exact absurd rfl run.some
  | cons d ds =>
    have other : d ∉ signs := fun mem => by
      have := run.digits d List.mem_cons_self
      rw [apart d mem] at this
      cases this
    simp [Json.passSign, other]

/-- So is an exponent. -/
theorem passExponent_append (e : Exponent ds) (stops : Stops rest) :
    passExponent (ds ++ rest) = some rest := by
  have ends : EndsDigits rest := fun c mem => (stops c mem).1
  cases e with
  | none =>
    cases rest with
    | nil => rfl
    | cons c rest => simp only [List.nil_append, passExponent, if_neg (stops c rfl).2.2]
  | plain run =>
    have unsigned : passSign ['-', '+'] (_ ++ rest) = _ := run.passSign (by simp) rest
    simpa [passExponent, unsigned] using passDigits_append run ends
  | signed mem run =>
    simp only [List.cons_append, passExponent, passSign, if_pos mem]
    exact passDigits_append run ends

/-- What stands after the whole part does not go on with its digits. -/
theorem Fraction.endsDigits (f : Fraction ds) (e : Exponent cs) (stops : Stops rest) :
    EndsDigits (ds ++ (cs ++ rest)) := by
  cases f with
  | digits => rintro c ⟨⟩; decide
  | none =>
    cases e with
    | none => exact fun c mem => (stops c mem).1
    | plain | signed => rintro c ⟨⟩; decide

/-- What stands after the fraction goes on neither with its digits nor with a point. -/
theorem Exponent.endsFraction (e : Exponent cs) (stops : Stops rest) :
    EndsDigits (cs ++ rest) ∧ (cs ++ rest).head? ≠ some '.' := by
  cases e with
  | none => exact ⟨fun c mem => (stops c mem).1, fun same => (stops '.' same).2.1 rfl⟩
  | plain | signed => exact ⟨by rintro c ⟨⟩; decide, by simp⟩

/-- An unsigned numeral is passed part by part. -/
theorem Unsigned.pass {text : List Char} (h : Unsigned text) (stops : Stops rest) :
    ((passWhole (text ++ rest)).bind passFraction).bind passExponent = some rest := by
  obtain ⟨w, f, e⟩ := h
  obtain ⟨ends, point⟩ := e.endsFraction stops
  rw [List.append_assoc, List.append_assoc, passWhole_append w (f.endsDigits e stops),
    Option.bind_some, passFraction_append f ends point, Option.bind_some,
    passExponent_append e stops]

/-- An unsigned number starts with a digit. -/
theorem Unsigned.head {text : List Char} (h : Unsigned text) :
    ∃ d ds, text = d :: ds ∧ d.isDigit = true := by
  obtain ⟨w, -, -⟩ := h
  cases w with
  | zero => exact ⟨'0', _, rfl, by decide⟩
  | @digits d ds _ run => exact ⟨d, _, rfl, run.digits d List.mem_cons_self⟩

/-- A numeral is passed, with its sign. -/
theorem Numeral.pass {text : List Char} (h : Numeral text) (stops : Stops rest) :
    passNumber (text ++ rest) = some rest := by
  cases h with
  | negative h => exact h.pass stops
  | plain h =>
    obtain ⟨d, ds, rfl, digit⟩ := h.head
    have other : d ∉ ['-'] := by
      rintro mem
      rw [List.mem_singleton.1 mem] at digit
      exact absurd digit (by decide)
    simpa only [passNumber, List.cons_append, passSign, if_neg other] using h.pass stops

/-- A number starts with a digit or a minus sign. -/
theorem Numeral.head {text : List Char} (h : Numeral text) :
    ∃ c cs, text = c :: cs ∧ (c.isDigit = true ∨ c = '-') := by
  cases h with
  | negative => exact ⟨_, _, rfl, .inr rfl⟩
  | plain h =>
    obtain ⟨d, ds, same, digit⟩ := h.head
    exact ⟨d, ds, same, .inl digit⟩

/-- And read as its own text. -/
theorem readNumber_append {text : String} (h : Numeral text.toList) (stops : Stops rest) :
    readNumber (text.toList ++ rest) = some (.number text, rest) := by
  simp [readNumber, h.pass stops]

-- ==================================================== strings are read back

/-- A control character is escaped by its number, in four hexadecimal digits. -/
theorem escapeChar_control : ∀ n : Fin 32,
    escapeChar (Char.ofNat n)
        = ['\\', 'u', '0', '0', Nat.digitChar (n / 16), Nat.digitChar (n % 16)]
      ∧ hexChar? '0' '0' (Nat.digitChar (n / 16)) (Nat.digitChar (n % 16))
        = some (Char.ofNat n) := by
  decide

/-- An escaped character is read back, and the string goes on after it. -/
theorem readString_escapeChar (c : Char) (rest : List Char) :
    readString (escapeChar c ++ rest) = (readString rest).map (prepend c) := by
  by_cases control : c.toNat < 0x20
  · obtain ⟨escaped, value⟩ := escapeChar_control ⟨c.toNat, control⟩
    simp only [Char.ofNat_toNat] at escaped value
    rw [escaped]
    simp [readString, value]
  · by_cases quote : c = '"'
    · subst quote
      rfl
    · by_cases slash : c = '\\'
      · subst slash
        rfl
      · rw [readString.eq_def]
        simp [escapeChar, quote, slash, control]

/-- A string is read back from its escaped characters. -/
theorem readString_escaped (s rest : List Char) :
    readString (s.flatMap escapeChar ++ '"' :: rest) = some (s, rest) := by
  induction s with
  | nil =>
    rw [readString.eq_def]
    rfl
  | cons c s ih =>
    rw [List.flatMap_cons, List.append_assoc, readString_escapeChar, ih]
    rfl

theorem toList_quote (s : String) :
    (quote s).toList = '"' :: (s.toList.flatMap escapeChar ++ ['"']) := by
  simp [quote]

-- ==================================================== sequences are read back

/-- Characters that are all blanks. -/
def Blank (bs : List Char) : Prop := ∀ b ∈ bs, isBlank b = true

/-- An indented new line is blank. -/
theorem blank_newline (level : Nat) : Blank (newline level).toList := by
  intro b mem
  simp only [newline, String.toList_append, String.toList_ofList, List.mem_append,
    List.mem_replicate] at mem
  rcases mem with mem | ⟨-, rfl⟩
  · simp at mem
    subst mem
    rfl
  · rfl

/-- Blanks are skipped. -/
theorem Blank.skip {bs : List Char} (blank : Blank bs) :
    (bs ++ rest).dropWhile isBlank = rest.dropWhile isBlank :=
  List.dropWhile_append_of_pos blank

/-- A character is expected after blanks. -/
theorem expect_blank {bs : List Char} (blank : Blank bs) :
    expect c (bs ++ rest) = expect c rest := by
  rw [expect, expect, blank.skip]

theorem expect_cons (solid : isBlank c = false) : expect c (c :: rest) = some rest := by
  simp [expect, solid]

/-- Another character is refused. -/
theorem expect_other {x : Char} (solid : isBlank x = false) (other : x ≠ c) :
    expect c (x :: rest) = none := by
  simp [expect, solid, other]

/-- The characters of the parts after the first, `bs` in front of each. -/
def following (bs : List Char) (write : α → List Char) (xs : List α) : List Char :=
  xs.flatMap fun x => ',' :: (bs ++ write x)

section sequences

variable {one : List Char → Option (α × List Char)} {write : α → List Char} {bs es : List Char}
  {close : Char} {x : α} {xs : List α} {fuel : Nat}

theorem Stops.following (stops : Stops rest) (bs : List Char) (write : α → List Char)
    (xs : List α) : Stops (following bs write xs ++ rest) := by
  cases xs with
  | nil => exact stops
  | cons x xs => exact .cons (by decide) (by decide) (by decide)

/-- The parts after the first are read back if each of them is. -/
theorem readMore_written (solid : isBlank close = false) (other : close ≠ ',')
    (blank : Blank es) (stops : Stops (es ++ close :: rest))
    (reads : ∀ x ∈ xs, ∀ tail, Stops tail → one (bs ++ write x ++ tail) = some (x, tail))
    (enough : xs.length < fuel) :
    readMore close one fuel (following bs write xs ++ (es ++ close :: rest)) = some (xs, rest) := by
  induction xs generalizing fuel with
  | nil =>
    obtain ⟨fuel, rfl⟩ : ∃ n, fuel = n + 1 := ⟨fuel - 1, by simp at enough; omega⟩
    have ends : expect close (es ++ close :: rest) = some rest := by
      rw [expect_blank blank, expect_cons solid]
    simp [readMore, following, ends]
  | cons x xs ih =>
    obtain ⟨fuel, rfl⟩ : ∃ n, fuel = n + 1 := ⟨fuel - 1, by simp at enough; omega⟩
    have first := reads x List.mem_cons_self _ (stops.following bs write xs)
    have others := ih (fun y mem => reads y (List.mem_cons_of_mem x mem))
      (Nat.lt_of_succ_lt_succ enough)
    have split : following bs write (x :: xs) ++ (es ++ close :: rest)
        = ',' :: (bs ++ write x ++ (following bs write xs ++ (es ++ close :: rest))) := by
      simp [following]
    rw [split, readMore, expect_other (by decide) other.symm, expect_cons (by decide)]
    simp only [Option.bind_eq_bind, Option.bind_some, first, others]

/-- A sequence is read back if its parts are and the first does not look like the end. -/
theorem readSequence_written (fuel : Nat) (rest : List Char) (solid : isBlank close = false)
    (other : close ≠ ',') (blank : Blank es) (stops : Stops (es ++ close :: rest))
    (reads : ∀ y ∈ x :: xs, ∀ tail, Stops tail → one (bs ++ write y ++ tail) = some (y, tail))
    (goes : ∀ tail, expect close (bs ++ write x ++ tail) = none) (enough : xs.length < fuel) :
    readSequence close one fuel (bs ++ write x ++ (following bs write xs ++ (es ++ close :: rest)))
      = some (x :: xs, rest) := by
  have first := reads x List.mem_cons_self _ (stops.following bs write xs)
  have others := readMore_written solid other blank stops
    (fun y mem => reads y (List.mem_cons_of_mem x mem)) enough
  simp only [readSequence, goes, Option.bind_eq_bind, Option.bind_some, first, others]

end sequences

-- ==================================================== values are read back

/-- A value whose numbers are numbers. -/
inductive Sound : Json → Prop
  | null : Sound .null
  | bool (b : Bool) : Sound (.bool b)
  | number {text : String} (h : Numeral text.toList) : Sound (.number text)
  | string (s : String) : Sound (.string s)
  | array {items : List Json} (h : ∀ j ∈ items, Sound j) : Sound (.array items)
  | object {members : List (String × Json)} (h : ∀ m ∈ members, Sound m.2) :
      Sound (.object members)

/-- The characters of a member. -/
def memberChars (level : Nat) (m : String × Json) : List Char :=
  (quote m.1).toList ++ (':' :: ' ' :: (pretty level m.2).toList)

/-- Items follow one another behind commas. -/
theorem toList_prettyItems (level : Nat) (items : List Json) :
    (prettyItems level items).toList
      = following (newline level).toList (fun j => (pretty level j).toList) items := by
  induction items with
  | nil => rfl
  | cons item items ih => simp [prettyItems, ih, following]

/-- And so do members. -/
theorem toList_prettyMembers (level : Nat) (members : List (String × Json)) :
    (prettyMembers level members).toList
      = following (newline level).toList (memberChars level) members := by
  induction members with
  | nil => rfl
  | cons m members ih => simp [prettyMembers, ih, following, memberChars]

theorem toList_null (level : Nat) : (pretty level .null).toList = "null".toList := by rw [pretty]

theorem toList_bool (level : Nat) (b : Bool) :
    (pretty level (.bool b)).toList = (if b then "true" else "false").toList := by rw [pretty]

theorem toList_number (level : Nat) (text : String) :
    (pretty level (.number text)).toList = text.toList := by rw [pretty]

theorem toList_string (level : Nat) (s : String) :
    (pretty level (.string s)).toList = '"' :: (s.toList.flatMap escapeChar ++ ['"']) := by
  rw [pretty, toList_quote]

theorem toList_array_nil (level : Nat) : (pretty level (.array [])).toList = ['[', ']'] := by
  simp [pretty]

theorem toList_object_nil (level : Nat) :
    (pretty level (.object [])).toList = ['\x7b', '\x7d'] := by
  simp [pretty]

theorem toList_array (level : Nat) (item : Json) (items : List Json) :
    (pretty level (.array (item :: items))).toList
      = '[' :: ((newline (level + 1)).toList ++ (pretty (level + 1) item).toList
          ++ (following (newline (level + 1)).toList (fun j => (pretty (level + 1) j).toList) items
            ++ ((newline level).toList ++ [']']))) := by
  simp [pretty, toList_prettyItems]

theorem toList_object (level : Nat) (m : String × Json) (members : List (String × Json)) :
    (pretty level (.object (m :: members))).toList
      = '\x7b' :: ((newline (level + 1)).toList ++ memberChars (level + 1) m
          ++ (following (newline (level + 1)).toList (memberChars (level + 1)) members
            ++ ((newline level).toList ++ ['\x7d']))) := by
  simp [pretty, toList_prettyMembers, memberChars]

/-- The first character of a number starts no other value, ends no sequence and is no
blank. -/
theorem Numeral.first {text : List Char} (h : Numeral text) :
    ∃ c cs, text = c :: cs ∧ isBlank c = false
      ∧ ∀ x ∈ ['"', '[', ']', '\x7b', 't', 'f', 'n'], c ≠ x := by
  obtain ⟨c, cs, same, digit | rfl⟩ := h.head
  · have other : ∀ x : Char, x.isDigit = false → c ≠ x := by
      rintro x none rfl
      rw [none] at digit
      cases digit
    have marks : ∀ x ∈ ['"', '[', ']', '\x7b', 't', 'f', 'n'], x.isDigit = false := by simp
    exact ⟨c, cs, same, by simp [isBlank, other], fun x mem => other x (marks x mem)⟩
  · exact ⟨'-', cs, same, by decide, by simp⟩

/-- What a value's text starts with is no blank and closes nothing. -/
theorem Sound.head {v : Json} (sound : Sound v) (level : Nat) :
    ∃ c cs, (pretty level v).toList = c :: cs ∧ isBlank c = false ∧ c ≠ ']' := by
  cases sound with
  | null => exact ⟨'n', _, toList_null level, by decide, by decide⟩
  | bool b =>
    cases b
    · exact ⟨'f', _, toList_bool level false, by decide, by decide⟩
    · exact ⟨'t', _, toList_bool level true, by decide, by decide⟩
  | number h =>
    obtain ⟨c, cs, same, solid, other⟩ := h.first
    exact ⟨c, cs, (toList_number level _).trans same, solid, other ']' (by decide)⟩
  | string s => exact ⟨'"', _, toList_string level s, by decide, by decide⟩
  | @array items =>
    cases items with
    | nil => exact ⟨'[', _, toList_array_nil level, by decide, by decide⟩
    | cons => exact ⟨'[', _, toList_array level _ _, by decide, by decide⟩
  | @object members =>
    cases members with
    | nil => exact ⟨'\x7b', _, toList_object_nil level, by decide, by decide⟩
    | cons => exact ⟨'\x7b', _, toList_object level _ _, by decide, by decide⟩

/-- Blanks before a value are passed over. -/
theorem readValue_blank {bs : List Char} (blank : Blank bs) (fuel : Nat) :
    readValue fuel (bs ++ rest) = readValue fuel rest := by
  cases fuel with
  | zero => rfl
  | succ fuel => simp only [readValue, blank.skip]

/-- A member is read back as its key and its value. -/
theorem readMember_memberChars {fuel level : Nat} {m : String × Json} {bs : List Char}
    (blank : Blank bs)
    (reads : readValue fuel ((pretty level m.2).toList ++ rest) = some (m.2, rest)) :
    readMember (readValue fuel) (bs ++ memberChars level m ++ rest) = some (m, rest) := by
  have text : bs ++ memberChars level m ++ rest
      = bs ++ ('"' :: (m.1.toList.flatMap escapeChar
          ++ '"' :: (':' :: ([' '] ++ ((pretty level m.2).toList ++ rest))))) := by
    simp [memberChars, toList_quote]
  have value : readValue fuel ([' '] ++ ((pretty level m.2).toList ++ rest)) = some (m.2, rest) :=
    (readValue_blank (by simp [Blank, isBlank]) fuel).trans reads
  rw [text, readMember, expect_blank blank, expect_cons (by decide)]
  simp only [Option.bind_eq_bind, Option.bind_some, readString_escaped,
    expect_cons (show isBlank ':' = false from rfl), value, String.ofList_toList]

section lengths

variable (bs : List Char) (write : α → List Char) {x : α}

/-- One of the items is shorter than all of them. -/
theorem length_lt_following {xs : List α} (mem : x ∈ xs) :
    (write x).length < (following bs write xs).length := by
  induction xs with
  | nil => cases mem
  | cons y ys ih =>
    simp only [following, List.flatMap_cons, List.cons_append, List.length_cons,
      List.length_append] at ih ⊢
    rcases List.mem_cons.1 mem with rfl | mem
    · omega
    · have := ih mem
      omega

/-- And they are not more than their characters. -/
theorem count_le_following (xs : List α) : xs.length ≤ (following bs write xs).length := by
  induction xs with
  | nil => exact Nat.le_refl _
  | cons y ys ih =>
    simp only [following, List.flatMap_cons, List.cons_append, List.length_cons,
      List.length_append] at ih ⊢
    omega

end lengths

/-- The end of a sequence stands on a line of its own. -/
theorem stops_newline (level : Nat) : Stops ((newline level).toList ++ rest) := by
  have text : (newline level).toList ++ rest
      = '\n' :: (List.replicate (2 * level) ' ' ++ rest) := by
    simp [newline]
  rw [text]
  exact .cons (by decide) (by decide) (by decide)

/-- A numeral is read as a number. -/
theorem readValue_number {text : String} (h : Numeral text.toList) (stops : Stops rest)
    (fuel : Nat) : readValue (fuel + 1) (text.toList ++ rest) = some (.number text, rest) := by
  have number := readNumber_append h stops
  obtain ⟨c, cs, same, solid, other⟩ := h.first
  rw [same, List.cons_append] at number ⊢
  simp only [List.mem_cons, List.not_mem_nil, or_false, forall_eq_or_imp, forall_eq] at other
  simp [readValue, solid, other, number]

/-- An opening bracket starts an array. -/
theorem readValue_array (fuel : Nat) (cs : List Char) :
    readValue (fuel + 1) ('[' :: cs)
      = (readSequence ']' (readValue fuel) fuel cs).map fun (items, rest) => (.array items, rest) :=
  rfl

/-- An opening brace starts an object. -/
theorem readValue_object (fuel : Nat) (cs : List Char) :
    readValue (fuel + 1) ('\x7b' :: cs)
      = (readSequence '\x7d' (readMember (readValue fuel)) fuel cs).map
          fun (members, rest) => (.object members, rest) :=
  rfl

/-- Written values that the fuel is enough for are read back, and what follows them is
left alone. -/
def Reads (fuel : Nat) : Prop :=
  ∀ (v : Json) (level : Nat) (rest : List Char), Sound v →
    (pretty level v).toList.length ≤ fuel → Stops rest →
    readValue fuel ((pretty level v).toList ++ rest) = some (v, rest)

/-- An array is read back if its items are. -/
theorem Reads.array {fuel level : Nat} {item : Json} {items : List Json} (reads : Reads fuel)
    (sound : ∀ j ∈ item :: items, Sound j)
    (enough : (pretty level (.array (item :: items))).toList.length ≤ fuel + 1) :
    readValue (fuel + 1) ((pretty level (.array (item :: items))).toList ++ rest)
      = some (.array (item :: items), rest) := by
  rw [toList_array] at enough ⊢
  simp only [List.length_cons, List.length_append] at enough
  have each : ∀ j ∈ item :: items, ∀ tail, Stops tail →
      readValue fuel ((newline (level + 1)).toList ++ (pretty (level + 1) j).toList ++ tail)
        = some (j, tail) := fun j mem tail stops => by
    rw [List.append_assoc, readValue_blank (blank_newline _)]
    refine reads j _ tail (sound j mem) ?_ stops
    rcases List.mem_cons.1 mem with rfl | mem
    · omega
    · have := length_lt_following (newline (level + 1)).toList
        (fun j => (pretty (level + 1) j).toList) mem
      omega
  have goes : ∀ tail, expect ']' ((newline (level + 1)).toList
      ++ (pretty (level + 1) item).toList ++ tail) = none := fun tail => by
    obtain ⟨c, cs, text, solid, other⟩ := (sound item List.mem_cons_self).head (level + 1)
    rw [List.append_assoc, expect_blank (blank_newline _), text, List.cons_append,
      expect_other solid other]
  have count := count_le_following (newline (level + 1)).toList
    (fun j => (pretty (level + 1) j).toList) items
  have whole := readSequence_written fuel rest (by decide) (by decide) (blank_newline level)
    (stops_newline level) each goes (by omega)
  rw [List.cons_append, readValue_array]
  simp only [List.append_assoc, List.cons_append, List.nil_append] at whole ⊢
  rw [whole]
  rfl

/-- An object is read back if its members are. -/
theorem Reads.object {fuel level : Nat} {m : String × Json} {members : List (String × Json)}
    (reads : Reads fuel) (sound : ∀ x ∈ m :: members, Sound x.2)
    (enough : (pretty level (.object (m :: members))).toList.length ≤ fuel + 1) :
    readValue (fuel + 1) ((pretty level (.object (m :: members))).toList ++ rest)
      = some (.object (m :: members), rest) := by
  rw [toList_object] at enough ⊢
  simp only [List.length_cons, List.length_append] at enough
  have value_le : ∀ x : String × Json,
      (pretty (level + 1) x.2).toList.length ≤ (memberChars (level + 1) x).length := fun x => by
    simp only [memberChars, List.length_append, List.length_cons]
    omega
  have each : ∀ x ∈ m :: members, ∀ tail, Stops tail →
      readMember (readValue fuel)
        ((newline (level + 1)).toList ++ memberChars (level + 1) x ++ tail) = some (x, tail) :=
    fun x mem tail stops => by
      refine readMember_memberChars (blank_newline _) (reads x.2 _ tail (sound x mem) ?_ stops)
      have := value_le x
      rcases List.mem_cons.1 mem with rfl | mem
      · omega
      · have := length_lt_following (newline (level + 1)).toList
          (memberChars (level + 1)) mem
        omega
  have goes : ∀ tail, expect '\x7d' ((newline (level + 1)).toList
      ++ memberChars (level + 1) m ++ tail) = none := fun tail => by
    rw [List.append_assoc, expect_blank (blank_newline _), memberChars, toList_quote]
    exact expect_other (by decide) (by decide)
  have count := count_le_following (newline (level + 1)).toList (memberChars (level + 1)) members
  have whole := readSequence_written fuel rest (by decide) (by decide) (blank_newline level)
    (stops_newline level) each goes (by omega)
  rw [List.cons_append, readValue_object]
  simp only [List.append_assoc, List.cons_append, List.nil_append] at whole ⊢
  rw [whole]
  rfl

/-- Every written value is read back once there is fuel for its text: one bracket or one
comma takes one unit of it, and one character of the text at least. -/
theorem readValue_pretty (fuel : Nat) : Reads fuel := by
  induction fuel with
  | zero =>
    intro v level rest sound enough
    obtain ⟨c, cs, text, -⟩ := sound.head level
    rw [text] at enough
    exact absurd enough (Nat.not_succ_le_zero _)
  | succ fuel ih =>
    intro v level rest sound enough stops
    cases sound with
    | null =>
      rw [toList_null]
      rfl
    | bool b =>
      rw [toList_bool]
      cases b <;> rfl
    | number h =>
      rw [toList_number]
      exact readValue_number h stops fuel
    | string s =>
      rw [toList_string]
      simp [readValue, isBlank, readString_escaped]
    | @array items sound =>
      cases items with
      | nil =>
        rw [toList_array_nil]
        rfl
      | cons => exact ih.array sound enough
    | @object members sound =>
      cases members with
      | nil =>
        rw [toList_object_nil]
        rfl
      | cons => exact ih.object sound enough

/-- The text of a value is JSON, and the value can be read back from it. -/
theorem read_text {v : Json} (sound : Sound v) : read v.text = some v := by
  have whole := readValue_pretty ((pretty 0 v).length + 1) v 0 [] sound
    (by rw [String.length_toList]; exact Nat.le_succ _) (by rintro c ⟨⟩)
  rw [List.append_nil] at whole
  simp [read, text, whole]

-- Neither a number with a needless zero nor a comma before the end of an array is JSON.
example : (read "[07]").isNone ∧ (read "[7,]").isNone := by decide

end LayerFeed.Text.Json
