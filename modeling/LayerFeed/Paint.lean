/-
How a layer is composited: blend modes, color filters and paints.
-/
import LayerFeed.Text.Record

namespace LayerFeed

/-- Rules for combining a layer with what lies beneath it. -/
inductive BlendMode
  | clear | src | dst | srcOver | dstOver | srcIn | dstIn | srcOut | dstOut
  | srcATop | dstATop | xor | plus | modulate | screen | multiply
deriving DecidableEq

namespace BlendMode

instance : Inhabited BlendMode := ⟨srcOver⟩

def name : BlendMode → String
  | clear => "Clear"
  | src => "Src"
  | dst => "Dst"
  | srcOver => "SrcOver"
  | dstOver => "DstOver"
  | srcIn => "SrcIn"
  | dstIn => "DstIn"
  | srcOut => "SrcOut"
  | dstOut => "DstOut"
  | srcATop => "SrcATop"
  | dstATop => "DstATop"
  | xor => "Xor"
  | plus => "Plus"
  | modulate => "Modulate"
  | screen => "Screen"
  | multiply => "Multiply"

/-- Every mode, once. -/
def all : List BlendMode :=
  [clear, src, dst, srcOver, dstOver, srcIn, dstIn, srcOut, dstOut, srcATop, dstATop, xor, plus,
    modulate, screen, multiply]

/-- The mode with the given name. -/
def ofName? (s : String) : Option BlendMode := all.find? (·.name = s)

end BlendMode

/-- A change of color while a layer is composited. -/
inductive ColorFilter
  /-- A matrix of four rows and five columns, row by row. -/
  | matrix (entries : List Float32)
  /-- One color blended onto every pixel. -/
  | blend (color : UInt32) (mode : BlendMode)
deriving DecidableEq

namespace ColorFilter

/-- Equality as floating-point numbers compare: a NaN differs from itself, and
the two zeros are equal. -/
def same : ColorFilter → ColorFilter → Bool
  | matrix a, matrix b => a.length == b.length && (a.zip b).all fun (x, y) => x == y
  | blend c m, blend c' m' => c == c' && decide (m = m')
  | _, _ => false

def describe : ColorFilter → String
  | matrix entries => Text.tuple "Matrix" [Text.list (entries.map Text.single)]
  | blend color mode =>
    Text.record "Blend" [("color", toString color.toNat), ("mode", mode.name)]

end ColorFilter

/-- Opacity, blend mode and color filter together. -/
structure Paint where
  alpha : UInt8 := 255
  blendMode : BlendMode := .srcOver
  colorFilter : Option ColorFilter := none
deriving DecidableEq

namespace Paint

/-- Opaque, source over destination, without filter. -/
def default : Paint := {}

instance : Inhabited Paint := ⟨default⟩

/-- Equality of all three parts, filters compared by `ColorFilter.same`. -/
def same (a b : Paint) : Bool :=
  a.alpha == b.alpha && decide (a.blendMode = b.blendMode) &&
    match a.colorFilter, b.colorFilter with
    | none, none => true
    | some f, some g => f.same g
    | _, _ => false

def describe (p : Paint) : String :=
  Text.record "LayerPaint" [("alpha", toString p.alpha.toNat), ("blend_mode", p.blendMode.name),
    ("color_filter", Text.option ColorFilter.describe p.colorFilter)]

end Paint

end LayerFeed
