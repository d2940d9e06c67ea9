/-
Whole numbers in decimal. Their texts tell them apart, and a minus sign stands
only before a digit, so that a lone dash is nobody's text.
-/
namespace LayerFeed.Text

variable {m n : Nat} {i j : Int} {c : Char}

/-- The digits of a number tell it from all others. -/
theorem toDigits_injective (same : Nat.toDigits 10 m = Nat.toDigits 10 n) : m = n := by
  have read := congrArg (Nat.ofDigitChars 10 · 0) same
  simpa only [Nat.ofDigitChars_ten_toDigits] using read

/-- A number is written with digits. -/
theorem isDigit_of_mem_digits (mem : c ∈ Nat.toDigits 10 n) : c.isDigit = true :=
  Nat.isDigit_of_mem_toDigits (by decide) (by decide) mem

/-- And without a dash. -/
theorem dash_not_mem_digits : '-' ∉ Nat.toDigits 10 n :=
  fun mem => absurd (isDigit_of_mem_digits mem) (by decide)

@[simp] theorem toList_nat (n : Nat) : (toString n).toList = Nat.toDigits 10 n := Nat.toList_repr

/-- The characters of a number with a sign. -/
def signed (i : Int) : List Char :=
  if i < 0 then '-' :: Nat.toDigits 10 i.natAbs else Nat.toDigits 10 i.natAbs

@[simp] theorem toList_int (i : Int) : (toString i).toList = signed i := by
  cases i with
  | ofNat n => exact Nat.toList_repr
  | negSucc n =>
    have text : (toString (Int.negSucc n)).toList = '-' :: (n + 1).repr.toList :=
      String.toList_append
    rw [text, Nat.toList_repr, signed, if_pos (Int.negSucc_lt_zero n)]
    rfl

/-- The text of an integer determines it. -/
theorem signed_injective (same : signed i = signed j) : i = j := by
  unfold signed at same
  split at same <;> split at same
  · have := toDigits_injective (List.cons.inj same).2
    omega
  · exact absurd (same ▸ List.mem_cons_self ..) dash_not_mem_digits
  · exact absurd (same ▸ List.mem_cons_self ..) dash_not_mem_digits
  · have := toDigits_injective same
    omega

/-- No number is written as a dash alone. -/
theorem signed_ne_dash : signed i ≠ ['-'] := by
  unfold signed
  split
  · exact fun same => Nat.toDigits_ne_nil (List.cons.inj same).2
  · exact fun same => dash_not_mem_digits (same ▸ List.mem_cons_self ..)

/-- It is written with digits and the sign. -/
theorem mem_signed (mem : c ∈ signed i) : c = '-' ∨ c.isDigit = true := by
  unfold signed at mem
  split at mem
  · exact (List.mem_cons.1 mem).imp_right isDigit_of_mem_digits
  · exact .inr (isDigit_of_mem_digits mem)

end LayerFeed.Text
