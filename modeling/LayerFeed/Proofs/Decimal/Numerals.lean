/-
What is written of a number is a number to a reader. Whole numbers have no zero in front
(`whole_toDigits`). A floating-point number above zero has a digit at its leading power of ten,
hence on every finer grid as well (`Binary.below_pos`), so that its shortest decimal does not
start with a zero (`Binary.shortest_pos`) and neither layout puts a needless one in front
(`Layout.unsigned_magnitude`).
-/
import LayerFeed.Decimal.Layout
import LayerFeed.Proofs.Text.Numerals
import LayerFeed.Proofs.Text.Reader

namespace LayerFeed.Decimal

open Text Text.Json

variable {b : Binary} {tie : Tie} {k e : Int} {n : Nat} {ds : List Char} {x : Digits}

-- ==================================================== whole numbers

/-- The digits of a number are a run of digits. -/
theorem run_toDigits (n : Nat) : Run (Nat.toDigits 10 n) :=
  ⟨Nat.toDigits_ne_nil, fun _ => isDigit_of_mem_digits⟩

/-- Digits, the first of which is no zero. -/
structure Led (ds : List Char) : Prop where
  run : Run ds
  lead : ds.head? ≠ some '0'

/-- Digits after a number led by a digit other than zero. -/
theorem Led.append (led : Led ds) {es : List Char} (more : ∀ d ∈ es, d.isDigit = true) :
    Led (ds ++ es) := by
  cases ds with
  | nil => exact absurd rfl led.run.some
  | cons d ds =>
    have digits : ∀ x ∈ d :: ds ++ es, x.isDigit = true := fun x mem =>
      (List.mem_append.1 mem).elim (led.run.digits x) (more x)
    exact ⟨⟨by simp, digits⟩, led.lead⟩

/-- Only zero is written with the digit zero. -/
theorem digitChar_ne_zero : ∀ d : Fin 10, 0 < d.val → Nat.digitChar d ≠ '0' := by decide

/-- A positive number is not led by zero. -/
theorem led_toDigits (pos : 0 < n) : Led (Nat.toDigits 10 n) := by
  induction n using Nat.strongRecOn with
  | ind n ih =>
    by_cases small : n < 10
    · refine ⟨run_toDigits n, ?_⟩
      rw [Nat.toDigits_of_lt_base small]
      exact fun same => digitChar_ne_zero ⟨n, small⟩ pos (Option.some.inj same)
    · have last := (run_toDigits (n % 10)).digits
      rw [Nat.toDigits_of_lt_base (Nat.mod_lt n (by decide))] at last
      rw [Nat.toDigits_of_base_le (by decide) (Nat.le_of_not_lt small)]
      exact (ih (n / 10) (by omega) (by omega)).append last

theorem Led.whole (led : Led ds) : Whole ds := by
  cases ds with
  | nil => exact absurd rfl led.run.some
  | cons d ds => exact .digits (fun same => led.lead (same ▸ rfl)) led.run

/-- The digits of a number are a whole part. -/
theorem whole_toDigits (n : Nat) : Whole (Nat.toDigits 10 n) := by
  rcases Nat.eq_zero_or_pos n with rfl | pos
  · exact .zero
  · exact (led_toDigits pos).whole

theorem Whole.unsigned (w : Whole ds) : Unsigned ds := by
  have parts := Unsigned.parts w .none .none
  rwa [List.append_nil, List.append_nil] at parts

/-- A whole number. -/
theorem numeral_nat (n : Nat) : Numeral (toString n).toList := by
  rw [toList_nat]
  exact .plain (Whole.unsigned (whole_toDigits n))

/-- A whole number with its sign. -/
theorem numeral_int (i : Int) : Numeral (toString i).toList := by
  rw [toList_int, signed]
  split
  · exact .negative (Whole.unsigned (whole_toDigits _))
  · exact .plain (Whole.unsigned (whole_toDigits _))

-- ==================================================== the leading digit

theorem pow2_pos (n : Nat) : 0 < pow2 n := Nat.pow_pos (by decide)

theorem pow10_pos (n : Nat) : 0 < pow10 n := Nat.pow_pos (by decide)

theorem pow10_le {m n : Nat} (le : m ≤ n) : pow10 m ≤ pow10 n := Nat.pow_le_pow_right (by decide) le

/-- A number is below the power of ten of its digit count. -/
theorem lt_pow10_digitCount (n : Nat) : n < pow10 (digitCount n) :=
  (Nat.length_toDigits_le_iff (by decide) Nat.length_toDigits_pos).1 (Nat.le_refl _)

/-- And not below the power before. -/
theorem pow10_digitCount_le (pos : 0 < n) : pow10 (digitCount n - 1) ≤ n := by
  refine Nat.le_of_not_lt fun below => ?_
  rcases Nat.eq_zero_or_pos (digitCount n - 1) with none | some
  · rw [none] at below
    exact absurd below (Nat.not_lt_of_le pos)
  · have few := (Nat.length_toDigits_le_iff (by decide) some).2 below
    have := Nat.length_toDigits_pos (b := 10) (n := n)
    unfold digitCount at few some
    omega

/-- A number has a digit other than zero at its leading power of ten, and so it is not below the
first point of any grid up to there. -/
theorem Binary.below_pos (pos : 0 < b.mantissa) (le : k ≤ b.leading) : 0 < b.below k := by
  have num_pos : 0 < b.mantissa * pow2 b.exponent.toNat := Nat.mul_pos pos (pow2_pos _)
  have den_pos : 0 < pow2 (-b.exponent).toNat := pow2_pos _
  unfold Binary.leading at le
  unfold Binary.below
  generalize b.mantissa * pow2 b.exponent.toNat = num at le num_pos ⊢
  generalize pow2 (-b.exponent).toNat = den at le den_pos ⊢
  refine Nat.div_pos ?_ (Nat.mul_pos den_pos (pow10_pos _))
  dsimp only at le
  split at le
  next large =>
    -- At or above one: ten to the leading power is at most the quotient.
    have lead := pow10_digitCount_le (Nat.div_pos large den_pos)
    calc den * pow10 k.toNat
        ≤ den * (num / den) := Nat.mul_le_mul_left den (Nat.le_trans (pow10_le (by omega)) lead)
      _ ≤ num := Nat.mul_div_le num den
      _ ≤ num * pow10 (-k).toNat := Nat.le_mul_of_pos_right num (pow10_pos _)
  next small =>
    -- Below one: the denominator is at most the numerator shifted by the leading power.
    have digits := Nat.length_toDigits_pos (b := 10) (n := (den - 1) / num)
    have lead := lt_pow10_digitCount ((den - 1) / num)
    have none : k.toNat = 0 := by
      unfold digitCount at le
      omega
    have reach : den - 1 < num * ((den - 1) / num + 1) := Nat.lt_mul_div_succ (den - 1) num_pos
    calc den * pow10 k.toNat
        = den := by rw [none]; exact Nat.mul_one den
      _ ≤ num * ((den - 1) / num + 1) := by omega
      _ ≤ num * pow10 (-k).toNat :=
        Nat.mul_le_mul_left num (Nat.le_trans lead (pow10_le (by omega)))

/-- A positive number on a grid within its leading digit has a digit. -/
theorem Binary.onGrid_pos (pos : 0 < b.mantissa) (le : k ≤ b.leading)
    (found : b.onGrid tie k = some x) : 0 < x.digits := by
  have least := below_pos pos le
  have near : b.below k ≤ b.nearer tie (b.below k) k := by
    unfold Binary.nearer
    split
    · exact Nat.le_refl _
    · exact Nat.le_succ _
    · split
      · exact Nat.le_succ _
      · split
        · exact Nat.le_refl _
        · exact Nat.le_succ _
  unfold Binary.onGrid at found
  dsimp only at found
  split at found <;> cases found
  · exact Nat.lt_of_lt_of_le least near
  · exact least
  · exact Nat.succ_pos _

/-- Dropping zeros at the end drops no other digit. -/
theorem Digits.trim_pos (pos : 0 < x.digits) : 0 < x.trim.digits := by
  fun_induction Digits.trim x with
  | case1 x zeros ih => exact ih (by simp only; omega)
  | case2 x other => exact pos

/-- The shortest decimal of a number above zero is above zero. -/
theorem Binary.shortest_pos (pos : 0 < b.mantissa) : 0 < (b.shortest tie).digits := by
  unfold Binary.shortest
  refine Digits.trim_pos ?_
  cases found : (List.range 17).findSome? fun n : Nat => b.onGrid tie (b.leading - n) with
  | none => exact below_pos pos (by omega)
  | some x =>
    obtain ⟨n, -, at_n⟩ := List.exists_of_findSome?_eq_some found
    exact onGrid_pos pos (by omega) at_n

-- ==================================================== layouts

theorem digits_zeros (n : Nat) : ∀ d ∈ zeros n, d.isDigit = true := by
  intro d mem
  rw [(List.mem_replicate.1 mem).2]
  decide

theorem Led.take (led : Led ds) (n : Nat) : Led (ds.take (n + 1)) := by
  cases ds with
  | nil => exact absurd rfl led.run.some
  | cons d ds =>
    exact ⟨⟨by simp, fun x mem => led.run.digits x (List.mem_of_mem_take mem)⟩, led.lead⟩

/-- Positional text is an unsigned numeral. -/
theorem unsigned_positional (led : Led ds) (e : Int) : Unsigned (positional ds e) := by
  unfold positional
  split
  · -- Below one: the zeros after the point and the digits are its fraction.
    have digits : Run (zeros (-e - 1).toNat ++ ds) :=
      ⟨by simp [led.run.some], fun d mem =>
        (List.mem_append.1 mem).elim (digits_zeros _ d) (led.run.digits d)⟩
    simpa using Unsigned.parts .zero (.digits digits) .none
  · dsimp only
    split
    · have whole := (led.append (digits_zeros (e.toNat + 1 - ds.length))).whole
      simpa using Unsigned.parts whole (.digits .zero) .none
    next many =>
      have rest : Run (ds.drop (e.toNat + 1)) :=
        ⟨by simpa using many, fun d mem => led.run.digits d (List.mem_of_mem_drop mem)⟩
      simpa using Unsigned.parts (led.take e.toNat).whole (.digits rest) .none

/-- And so is scientific text. -/
theorem unsigned_scientific (led : Led ds) (plusSign : Bool) (e : Int) :
    Unsigned (scientific plusSign ds e) := by
  have power := run_toDigits e.natAbs
  unfold scientific
  dsimp only
  have exponent : Exponent ('e' :: (if e < 0 then ['-'] else if plusSign then ['+'] else [])
      ++ Nat.toDigits 10 e.natAbs) := by
    split
    · exact .signed (by decide) power
    · split
      · exact .signed (by decide) power
      · exact .plain power
  cases rest : ds.drop 1 with
  | nil => simpa using Unsigned.parts (led.take 0).whole .none exponent
  | cons d more =>
    have digits : Run (d :: more) :=
      ⟨by simp, fun x mem => led.run.digits x (List.mem_of_mem_drop (rest ▸ mem))⟩
    simpa using Unsigned.parts (led.take 0).whole (.digits digits) exponent

/-- Whatever a layout writes of a finite number is a number. -/
theorem Layout.unsigned_magnitude (l : Layout) (b : Binary) : Unsigned (l.magnitude b) := by
  unfold Layout.magnitude
  split
  · exact Unsigned.parts .zero (.digits .zero) .none
  next some =>
    have pos : 0 < (b.shortest l.tie).digits := Binary.shortest_pos (Nat.pos_of_ne_zero some)
    have led := led_toDigits pos
    dsimp only
    split
    · exact unsigned_positional led _
    · exact unsigned_scientific led _ _

/-- Every layout of a finite number is a numeral. -/
theorem Layout.numeral_text (l : Layout) (f : Format) (bits : Nat) {negative : Bool} {b : Binary}
    (finite : f.read bits = .finite negative b) : Numeral (l.text f bits).toList := by
  have unsigned := l.unsigned_magnitude b
  unfold Layout.text
  rw [finite]
  cases negative with
  | false => simpa using Numeral.plain unsigned
  | true => simpa using Numeral.negative unsigned

end LayerFeed.Decimal
