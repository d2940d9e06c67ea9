/-
Why a call to the graphics backend failed, and how each cause is worded.
-/
import LayerFeed.Text.Quoted
import LayerFeed.Text.Record

namespace LayerFeed

/-- A failed backend call. -/
inductive GpuError
  | textureImport (reason : String)
  | syncCreation (reason : String)
  | fenceWait (reason : String)
  | contextLost
deriving DecidableEq

namespace GpuError

/-- The wording of the error. -/
def message : GpuError → String
  | textureImport reason => "texture import failed: " ++ reason
  | syncCreation reason => "sync object creation failed: " ++ reason
  | fenceWait reason => "fence wait failed: " ++ reason
  | contextLost => "GPU context has been destroyed"

/-- The name of the cause. -/
def kind : GpuError → String
  | textureImport _ => "TextureImport"
  | syncCreation _ => "SyncCreation"
  | fenceWait _ => "FenceWait"
  | contextLost => "ContextLost"

def describe (e : GpuError) : String :=
  match e with
  | textureImport reason | syncCreation reason | fenceWait reason =>
    Text.tuple e.kind [Text.quoted reason]
  | contextLost => e.kind

end GpuError

end LayerFeed
