/-
The two rendering pipelines, and how a layer updater is set up.
-/
import LayerFeed.Text.Record

namespace LayerFeed

/-- Which graphics interface textures are imported through. Only on Vulkan does
a texture own its buffer's place in the producer's queue. -/
inductive Pipeline
  | gl
  | vulkan
deriving DecidableEq

namespace Pipeline

instance : Inhabited Pipeline := ⟨gl⟩

def name : Pipeline → String
  | gl => "Gl"
  | vulkan => "Vulkan"

end Pipeline

/-- Settings an updater keeps for life. -/
structure Config where
  pipeline : Pipeline := .gl
  /-- Whether a frame whose size differs from the layer's is sampled with filtering. -/
  filterOnSizeMismatch : Bool := true
deriving DecidableEq

namespace Config

instance : Inhabited Config := ⟨{}⟩

def describe (c : Config) : String :=
  Text.record "UpdaterConfig" [("pipeline", c.pipeline.name),
    ("filter_on_size_mismatch", Text.flag c.filterOnSizeMismatch)]

end Config

end LayerFeed
