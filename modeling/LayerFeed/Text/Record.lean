/-
The notation in which values are described: records with named fields, tuples
with a name, lists, and optional values. A record that holds more than it shows
ends in two dots.
-/
import LayerFeed.Decimal.Layout

namespace LayerFeed.Text

/-- Items with a comma and a blank between them. -/
def commas (items : List String) : String := String.intercalate ", " items

/-- The fields of a record, each with its name. -/
def fieldTexts (fields : List (String × String)) : List String :=
  fields.map fun (name, value) => name ++ ": " ++ value

/-- A record that shows all it holds. -/
def record (name : String) (fields : List (String × String)) : String :=
  name ++ " \x7b " ++ commas (fieldTexts fields) ++ " \x7d"

/-- A record that holds more than the fields shown. -/
def openRecord (name : String) (fields : List (String × String)) : String :=
  name ++ " \x7b " ++ commas (fieldTexts fields ++ [".."]) ++ " \x7d"

/-- A name with values in parentheses. -/
def tuple (name : String) (values : List String) : String :=
  name ++ "(" ++ commas values ++ ")"

/-- Values in square brackets. -/
def list (values : List String) : String := "[" ++ commas values ++ "]"

/-- A value that may be missing. -/
def option {α : Type} (describe : α → String) : Option α → String
  | some a => tuple "Some" [describe a]
  | none => "None"

/-- A truth value. -/
def flag (b : Bool) : String := if b then "true" else "false"

/-- Numbers inside descriptions: positional from 0.0001 up to below 10^16, and
a tie between two shortest decimals goes up. -/
def numbers : Decimal.Layout := ⟨.up, -4, 15, false⟩

/-- A 64-bit floating-point number. -/
def double (x : Float) : String := numbers.double x

/-- A 32-bit floating-point number. -/
def single (x : Float32) : String := numbers.single x

end LayerFeed.Text
