/-
The shortest decimal that reads back as a given binary floating-point number.

A finite number stands for the interval of reals that round to it. Among the
decimals in that interval those with the fewest digits are wanted, and of these
the one nearest to the number. All arithmetic is exact, over `Nat` and `Int`:
for one digit, two digits and so on the two grid points around the number are
tested, and the first grid with a point in the interval is taken.
-/
namespace LayerFeed.Decimal

-- ==================================================== powers

def pow2 (n : Nat) : Nat := Nat.pow 2 n

def pow10 (n : Nat) : Nat := Nat.pow 10 n

-- ==================================================== binary numbers

/-- A finite non-negative number `mantissa * 2 ^ exponent`. The gap to the
number below it is half the gap to the one above when `narrowBelow` holds. -/
structure Binary where
  mantissa : Nat
  exponent : Int
  narrowBelow : Bool
deriving DecidableEq

/-- Widths of the two fields of a binary interchange format. -/
structure Format where
  fractionBits : Nat
  exponentBits : Nat
deriving DecidableEq

/-- The 64-bit format. -/
def Format.double : Format := ⟨52, 11⟩

/-- The 32-bit format. -/
def Format.single : Format := ⟨23, 8⟩

/-- What a bit pattern stands for. -/
inductive Reading
  | nan
  | infinite (negative : Bool)
  | finite (negative : Bool) (magnitude : Binary)
deriving DecidableEq

/-- Reads a bit pattern: sign, biased exponent and fraction, the leading bit of
the mantissa left out except for the numbers next to zero. -/
def Format.read (f : Format) (bits : Nat) : Reading :=
  let fraction := bits % pow2 f.fractionBits
  let biased := bits / pow2 f.fractionBits % pow2 f.exponentBits
  let negative := bits / pow2 (f.fractionBits + f.exponentBits) % 2 == 1
  let shift : Int := (pow2 (f.exponentBits - 1) : Int) - 1 + f.fractionBits
  if biased = pow2 f.exponentBits - 1 then
    if fraction = 0 then .infinite negative else .nan
  else if biased = 0 then
    .finite negative ⟨fraction, 1 - shift, false⟩
  else
    .finite negative ⟨pow2 f.fractionBits + fraction, biased - shift, fraction == 0 && biased != 1⟩

-- ==================================================== the interval

/-- How `d * 10 ^ k` compares with `n * 2 ^ j`. -/
def compareScaled (d : Nat) (k : Int) (n : Nat) (j : Int) : Ordering :=
  compare (d * pow10 k.toNat * pow2 (-j).toNat) (n * pow2 j.toNat * pow10 (-k).toNat)

/-- Whether `d * 10 ^ k` lies among the reals that round to `b`. The ends of the
interval belong to it when the mantissa is even. -/
def Binary.covers (b : Binary) (d : Nat) (k : Int) : Bool :=
  let bottom := 4 * b.mantissa - (if b.narrowBelow then 1 else 2)
  let top := 4 * b.mantissa + 2
  let fromBottom := compareScaled d k bottom (b.exponent - 2)
  let fromTop := compareScaled d k top (b.exponent - 2)
  if b.mantissa % 2 = 0 then fromBottom != .lt && fromTop != .gt
  else fromBottom == .gt && fromTop == .lt

-- ==================================================== the search

/-- The number `digits * 10 ^ exponent`. -/
structure Digits where
  digits : Nat
  exponent : Int
deriving DecidableEq

/-- What to do with a number halfway between the two candidates. -/
inductive Tie
  | up
  | toEven
deriving DecidableEq

/-- How many decimal digits `n` has. -/
def digitCount (n : Nat) : Nat := (Nat.toDigits 10 n).length

/-- The power of ten at the first digit of `b`, for `b` above zero. -/
def Binary.leading (b : Binary) : Int :=
  let num := b.mantissa * pow2 b.exponent.toNat
  let den := pow2 (-b.exponent).toNat
  if den ≤ num then (digitCount (num / den) : Int) - 1
  else -(digitCount ((den - 1) / num) : Int)

/-- The largest multiple of `10 ^ k` that is not above `b`, in units of `10 ^ k`. -/
def Binary.below (b : Binary) (k : Int) : Nat :=
  b.mantissa * pow2 b.exponent.toNat * pow10 (-k).toNat
    / (pow2 (-b.exponent).toNat * pow10 k.toNat)

/-- Of the neighbours `d` and `d + 1` on the grid of `10 ^ k`, the one nearer to `b`. -/
def Binary.nearer (b : Binary) (tie : Tie) (d : Nat) (k : Int) : Nat :=
  match compareScaled (2 * d + 1) k (2 * b.mantissa) b.exponent with
  | .gt => d
  | .lt => d + 1
  | .eq =>
    match tie with
    | .up => d + 1
    | .toEven => if d % 2 = 0 then d else d + 1

/-- The grid point of `10 ^ k` that reads back as `b`, if there is one. -/
def Binary.onGrid (b : Binary) (tie : Tie) (k : Int) : Option Digits :=
  let d := b.below k
  match b.covers d k, b.covers (d + 1) k with
  | true, true => some ⟨b.nearer tie d k, k⟩
  | true, false => some ⟨d, k⟩
  | false, true => some ⟨d + 1, k⟩
  | false, false => none

/-- The same number without zeros at the end of its digits. -/
def Digits.trim (x : Digits) : Digits :=
  if h : x.digits ≠ 0 ∧ x.digits % 10 = 0 then
    Digits.trim ⟨x.digits / 10, x.exponent + 1⟩
  else x
termination_by x.digits
decreasing_by omega

/-- The shortest decimal that reads back as `b`, for `b` above zero. Seventeen
digits are enough for every 64-bit number, and nine for every 32-bit one. -/
def Binary.shortest (b : Binary) (tie : Tie) : Digits :=
  let start := b.leading
  let found := (List.range 17).findSome? fun n : Nat => b.onGrid tie (start - n)
  (found.getD ⟨b.below (start - 16), start - 16⟩).trim

end LayerFeed.Decimal
