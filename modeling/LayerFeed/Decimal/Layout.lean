/-
How a floating-point number is written: which powers of ten are written
positionally, and how an exponent looks. The digits come from
`Decimal.Binary.shortest`; a number that has no digits after the point is
written with `.0` unless it has an exponent.
-/
import LayerFeed.Decimal.Shortest

namespace LayerFeed.Decimal

/-- The decisions of one way of writing numbers. -/
structure Layout where
  /-- Which way a tie between two shortest decimals goes. -/
  tie : Tie
  /-- The first digit's power of ten from which numbers are written positionally. -/
  plainFrom : Int
  /-- The last such power. -/
  plainTo : Int
  /-- Whether an exponent that is not negative has a plus sign. -/
  plusSign : Bool
deriving DecidableEq

/-- `n` zeros. -/
def zeros (n : Nat) : List Char := List.replicate n '0'

/-- Digits with the point after the one that stands for units; the first digit
stands for `10 ^ e`. -/
def positional (ds : List Char) (e : Int) : List Char :=
  if e < 0 then
    '0' :: '.' :: (zeros (-e - 1).toNat ++ ds)
  else
    let units := e.toNat + 1
    if ds.length ≤ units then ds ++ zeros (units - ds.length) ++ ['.', '0']
    else ds.take units ++ '.' :: ds.drop units

/-- Digits with the point after the first one, and the power of ten of that digit. -/
def scientific (plusSign : Bool) (ds : List Char) (e : Int) : List Char :=
  let fraction := match ds.drop 1 with
    | [] => []
    | rest => '.' :: rest
  let sign := if e < 0 then ['-'] else if plusSign then ['+'] else []
  ds.take 1 ++ fraction ++ 'e' :: sign ++ Nat.toDigits 10 e.natAbs

/-- A finite number above or at zero. -/
def Layout.magnitude (l : Layout) (b : Binary) : List Char :=
  if b.mantissa = 0 then ['0', '.', '0']
  else
    let x := b.shortest l.tie
    let ds := Nat.toDigits 10 x.digits
    let e := x.exponent + ds.length - 1
    if l.plainFrom ≤ e ∧ e ≤ l.plainTo then positional ds e
    else scientific l.plusSign ds e

/-- The text of the number with the given bits. -/
def Layout.text (l : Layout) (f : Format) (bits : Nat) : String :=
  match f.read bits with
  | .nan => "NaN"
  | .infinite negative => if negative then "-inf" else "inf"
  | .finite negative b =>
    let text := String.ofList (l.magnitude b)
    if negative then "-" ++ text else text

/-- The text of a 64-bit number. -/
def Layout.double (l : Layout) (x : Float) : String := l.text .double x.toBits.toNat

/-- The text of a 32-bit number. -/
def Layout.single (l : Layout) (x : Float32) : String := l.text .single x.toBits.toNat

end LayerFeed.Decimal
