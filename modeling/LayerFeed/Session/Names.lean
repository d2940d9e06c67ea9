/-
Giving names to objects and taking them back. A name that is in use passes to
the new object first; only then the old object lets go of what it held.
-/
import LayerFeed.Session.Basic

namespace LayerFeed.Session

-- ==================================================== updaters and observers

/-- Gives a name to an updater that the session holds. -/
def nameUpdater (s : Session) (name : String) (id : UpdaterId) : Session :=
  let old := s.updaterNames.get? name
  let s := { s with updaterNames := s.updaterNames.set name id }
  match old with
  | some old => s.letGo (.updater old)
  | none => s

/-- The session's hold on the updater of the given name ends. -/
def dropUpdater (s : Session) (name : String) : Session :=
  match s.updaterNames.get? name with
  | some id => { s with updaterNames := s.updaterNames.erase name }.letGo (.updater id)
  | none => s

/-- Gives a name to an observer that the session holds. -/
def nameObserver (s : Session) (name : String) (id : ObserverId) : Session :=
  let old := s.observerNames.get? name
  let s := { s with observerNames := s.observerNames.set name id }
  match old with
  | some old => s.letGo (.observer old)
  | none => s

/-- The session's hold on the observer of the given name ends. -/
def dropObserver (s : Session) (name : String) : Session :=
  match s.observerNames.get? name with
  | some id => { s with observerNames := s.observerNames.erase name }.letGo (.observer id)
  | none => s

-- ==================================================== images and handles

/-- A holder of a texture that may be there lets go. -/
def letGoTexture (s : Session) (t : Option TextureId) : Session := s.onWorld (·.letGoOf t)

/-- Gives a name to an image. -/
def keepImage (s : Session) (name : String) (t : TextureId) : Session :=
  { s with images := s.images.set name t }.letGoTexture (s.images.get? name)

/-- Gives a name to an image, or lets it go if there is no name for it. -/
def keepOrDropImage (s : Session) (name : Option String) (t : Option TextureId) : Session :=
  match name, t with
  | some name, some t => s.keepImage name t
  | none, some t => s.letGoTexture (some t)
  | _, none => s

def dropImage (s : Session) (name : String) : Session :=
  { s with images := s.images.erase name }.letGoTexture (s.images.get? name)

/-- Gives a name to a handle. -/
def keepHandle (s : Session) (name : String) (t : TextureId) : Session :=
  { s with handles := s.handles.set name t }.letGoTexture (s.handles.get? name)

def dropHandle (s : Session) (name : String) : Session :=
  { s with handles := s.handles.erase name }.letGoTexture (s.handles.get? name)

-- ==================================================== slots and caches

/-- A slot that may be there goes away. -/
def discardSlot (s : Session) (slot : Option Slot) : Session :=
  match slot with
  | some slot => s.onWorld slot.discard
  | none => s

def keepSlot (s : Session) (name : String) (slot : Slot) : Session :=
  { s with slots := s.slots.set name slot }.discardSlot (s.slots.get? name)

def dropSlot (s : Session) (name : String) : Session :=
  { s with slots := s.slots.erase name }.discardSlot (s.slots.get? name)

/-- A cache that may be there goes away. -/
def discardCache (s : Session) (cache : Option SlotCache) : Session :=
  match cache with
  | some cache => s.onWorld cache.discard
  | none => s

def keepCache (s : Session) (name : String) (cache : SlotCache) : Session :=
  { s with caches := s.caches.set name cache }.discardCache (s.caches.get? name)

def dropCache (s : Session) (name : String) : Session :=
  { s with caches := s.caches.erase name }.discardCache (s.caches.get? name)

end LayerFeed.Session
