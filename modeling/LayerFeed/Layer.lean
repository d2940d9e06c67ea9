/-
The layer that a render pass draws: its size, how it is composited, and the
image it shows with the parameters for sampling that image.
-/
import LayerFeed.Frame
import LayerFeed.Paint
import LayerFeed.Texture

namespace LayerFeed

/-- A committed layer. Its image is a holder of the image's texture. -/
structure Layer where
  width : UInt32
  height : UInt32
  blend : Bool
  forceFilter : Bool := false
  paint : Paint := .default
  transform : Option Affine := none
  crop : Rect := .zero
  windowTransform : TextureTransform := .identity
  image : Option TextureId := none
deriving DecidableEq

namespace Layer

/-- A layer that shows nothing yet. -/
def new (width height : UInt32) (blend : Bool) : Layer := { width, height, blend }

def describe (l : Layer) (w : World) : String :=
  Text.record "Layer" [("width", toString l.width.toNat), ("height", toString l.height.toNat),
    ("blend", Text.flag l.blend), ("force_filter", Text.flag l.forceFilter),
    ("alpha", toString l.paint.alpha.toNat), ("blend_mode", l.paint.blendMode.name),
    ("color_filter", Text.option ColorFilter.describe l.paint.colorFilter),
    ("transform", Text.option Affine.describe l.transform), ("crop", l.crop.describe),
    ("window_transform", l.windowTransform.describe),
    ("image", Text.option w.describeImage l.image)]

end Layer

end LayerFeed
