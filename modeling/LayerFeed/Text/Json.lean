/-
JSON values and their written form with one item or member to a line, two
blanks for each level. The members of an object are written as they are listed.
-/
namespace LayerFeed.Text

/-- A JSON value. A number is given by its text. -/
inductive Json
  | null
  | bool (b : Bool)
  | number (text : String)
  | string (s : String)
  | array (items : List Json)
  | object (members : List (String × Json))

namespace Json

/-- A whole number. -/
def nat (n : Nat) : Json := .number (toString n)

/-- A whole number with a sign. -/
def int (n : Int) : Json := .number (toString n)

/-- A value that may be missing. -/
def option {α : Type} (encode : α → Json) : Option α → Json
  | some a => encode a
  | none => .null

/-- One character of a JSON string. -/
def escapeChar (c : Char) : List Char :=
  if c = '"' then ['\\', '"']
  else if c = '\\' then ['\\', '\\']
  else if c.toNat < 0x20 then
    let hex := Nat.toDigits 16 c.toNat
    ['\\', 'u'] ++ List.replicate (4 - hex.length) '0' ++ hex
  else [c]

/-- A JSON string. -/
def quote (s : String) : String :=
  String.ofList ('"' :: s.toList.flatMap escapeChar ++ ['"'])

/-- The start of a line at the given level. -/
def newline (level : Nat) : String := "\n" ++ String.ofList (List.replicate (2 * level) ' ')

mutual

/-- The written form of a value whose first line stands at `level`. -/
def pretty (level : Nat) : Json → String
  | .null => "null"
  | .bool b => if b then "true" else "false"
  | .number text => text
  | .string s => quote s
  | .array [] => "[]"
  | .array (item :: items) =>
    "[" ++ newline (level + 1) ++ pretty (level + 1) item ++ prettyItems (level + 1) items
      ++ newline level ++ "]"
  | .object [] => "\x7b\x7d"
  | .object ((name, value) :: members) =>
    "\x7b" ++ newline (level + 1) ++ quote name ++ ": " ++ pretty (level + 1) value
      ++ prettyMembers (level + 1) members ++ newline level ++ "\x7d"

/-- The items after the first, each after a comma on a line of its own. -/
def prettyItems (level : Nat) : List Json → String
  | [] => ""
  | item :: items => "," ++ newline level ++ pretty level item ++ prettyItems level items

/-- The members after the first. -/
def prettyMembers (level : Nat) : List (String × Json) → String
  | [] => ""
  | (name, value) :: members =>
    "," ++ newline level ++ quote name ++ ": " ++ pretty level value ++ prettyMembers level members

end

/-- The written form of a whole text. -/
def text (j : Json) : String := pretty 0 j

end Json

end LayerFeed.Text
