/-
Rectangles and affine maps, as plain tuples of floating-point numbers.
-/
import LayerFeed.Text.Record

namespace LayerFeed

/-- An axis-aligned rectangle between two corners. -/
structure Rect where
  x0 : Float
  y0 : Float
  x1 : Float
  y1 : Float
deriving DecidableEq

/-- The rectangle with both corners at the origin. -/
def Rect.zero : Rect := ⟨0, 0, 0, 0⟩

/-- The rectangle from the origin that covers `width` by `height` pixels. -/
def Rect.ofSize (width height : UInt32) : Rect := ⟨0, 0, width.toFloat, height.toFloat⟩

/-- The rectangle with its corners named. -/
def Rect.describe (r : Rect) : String :=
  Text.record "Rect" [("x0", Text.double r.x0), ("y0", Text.double r.y0),
    ("x1", Text.double r.x1), ("y1", Text.double r.y1)]

/-- An affine map of the plane, its six coefficients by columns. -/
structure Affine where
  xx : Float
  yx : Float
  xy : Float
  yy : Float
  dx : Float
  dy : Float
deriving DecidableEq

/-- The six coefficients in order. -/
def Affine.coefficients (a : Affine) : List Float := [a.xx, a.yx, a.xy, a.yy, a.dx, a.dy]

/-- The map with its coefficients listed. -/
def Affine.describe (a : Affine) : String :=
  Text.tuple "Affine" [Text.list (a.coefficients.map Text.double)]

end LayerFeed
