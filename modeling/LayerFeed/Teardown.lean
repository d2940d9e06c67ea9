/-
The two ways of giving up resources, and what becomes of a texture when one of
its holders lets go.
-/
namespace LayerFeed

/-- How resources are given up. -/
inductive TeardownMode
  /-- The context lives: textures are deleted by calls to it. -/
  | normal
  /-- The context is gone: textures are only forgotten. -/
  | contextLost
deriving DecidableEq

def TeardownMode.name : TeardownMode → String
  | normal => "Normal"
  | contextLost => "ContextLost"

/-- What a release did to the texture. -/
inductive Release
  /-- An image still holds it. -/
  | shared
  /-- It had no other holder and is gone. -/
  | freed
deriving DecidableEq

def Release.name : Release → String
  | shared => "Shared"
  | freed => "Freed"

end LayerFeed
