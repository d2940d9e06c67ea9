/-
Text between double quotes, as descriptions show it: quotes, backslashes, the
common control characters and every character that leaves no mark of its own
are escaped.
-/
namespace LayerFeed.Text

/-- Characters that leave no mark: controls, spaces other than the plain one,
and the invisible formatting characters. -/
def unmarked (c : Char) : Bool :=
  let n := c.toNat
  n < 0x20 || (0x7f ≤ n && n ≤ 0xa0) || n == 0xad || n == 0x1680 || n == 0x180e
    || (0x2000 ≤ n && n ≤ 0x200f) || (0x2028 ≤ n && n ≤ 0x202f) || (0x205f ≤ n && n ≤ 0x206f)
    || n == 0x3000 || n == 0xfeff || (0xfff9 ≤ n && n ≤ 0xfffb)

/-- One character between quotes. -/
def escapeChar (c : Char) : List Char :=
  if c = '"' then ['\\', '"']
  else if c = '\\' then ['\\', '\\']
  else if c = '\n' then ['\\', 'n']
  else if c = '\t' then ['\\', 't']
  else if c = '\r' then ['\\', 'r']
  else if c = '\x00' then ['\\', '0']
  else if unmarked c then
    ['\\', 'u', '\x7b'] ++ Nat.toDigits 16 c.toNat ++ ['\x7d']
  else [c]

/-- The text between quotes. -/
def quoted (s : String) : String :=
  String.ofList ('"' :: s.toList.flatMap escapeChar ++ ['"'])

end LayerFeed.Text
