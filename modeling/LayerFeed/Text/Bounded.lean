/-
Writing to a place that takes only so many characters. What does not fit is
lost; the part that fits stays. All texts written this way are plain ASCII, so
that characters and bytes are the same.
-/
namespace LayerFeed.Text

/-- The part of `text` that fits into `limit` characters; no limit takes all. -/
def clip (limit : Option Nat) (text : String) : String :=
  match limit with
  | none => text
  | some n => String.ofList (text.toList.take n)

/-- A text that grows up to a limit. -/
structure Bounded where
  limit : Option Nat := none
  text : String := ""
deriving DecidableEq

/-- Adds to the text as much as fits. -/
def Bounded.append (b : Bounded) (more : String) : Bounded :=
  { b with text := clip b.limit (b.text ++ more) }

/-- Why a write stopped. -/
inductive WriteError
  | storageFull
deriving DecidableEq

/-- The wording of a write error. -/
def WriteError.message : WriteError → String
  | .storageFull => "no room left"

/-- What is on the page after a write, and the error that stopped it, if any. -/
structure Written where
  text : String
  error : Option WriteError
deriving DecidableEq

/-- Writes a whole text. -/
def write (limit : Option Nat) (text : String) : Written :=
  let kept := clip limit text
  ⟨kept, if kept = text then none else some .storageFull⟩

end LayerFeed.Text
