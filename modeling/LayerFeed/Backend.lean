/-
The graphics backend as far as its callers can tell: which fences it supports,
the display it draws to, and which of its calls fail at present.
-/
import LayerFeed.Error
import LayerFeed.Fence.Release

namespace LayerFeed

/-- How a backend answers. A call fails with the error named for it, and
succeeds if none is named. -/
structure Backend where
  /-- Whether the backend lacks displays, sync objects and a way of its own to
  forget a texture. -/
  minimal : Bool := false
  nativeFences : Bool := true
  display : Option DisplayId := none
  importError : Option GpuError := none
  nativeError : Option GpuError := none
  syncError : Option GpuError := none
  waitError : Option GpuError := none
deriving DecidableEq

/-- One changed answer. -/
inductive BackendSetting
  | nativeFences (supported : Bool)
  | display (display : Option DisplayId)
  | importError (error : Option GpuError)
  | nativeError (error : Option GpuError)
  | syncError (error : Option GpuError)
  | waitError (error : Option GpuError)
deriving DecidableEq

namespace Backend

instance : Inhabited Backend := ⟨{}⟩

/-- The backend after one setting is changed. -/
def adjust (b : Backend) : BackendSetting → Backend
  | .nativeFences supported => { b with nativeFences := supported }
  | .display display => { b with display := display }
  | .importError error => { b with importError := error }
  | .nativeError error => { b with nativeError := error }
  | .syncError error => { b with syncError := error }
  | .waitError error => { b with waitError := error }

/-- The backend after several settings are changed in order. -/
def adjustAll (b : Backend) (settings : List BackendSetting) : Backend :=
  settings.foldl adjust b

/-- The display that fences belong to; a minimal backend has none. -/
def shownDisplay (b : Backend) : Option DisplayId := if b.minimal then none else b.display

/-- Why a sync object cannot be made; a minimal backend never makes one. -/
def syncFault (b : Backend) : Option GpuError :=
  if b.minimal then some (.syncCreation "sync objects unsupported") else b.syncError

end Backend

end LayerFeed
