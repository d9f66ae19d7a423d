import Rover.Value.Basic

/-!
# Scenes

What stands in front of the camera: a background and filled rectangles, later ones over earlier
ones.
-/

namespace Rover

structure Color where
  blue : UInt8
  green : UInt8
  red : UInt8
deriving DecidableEq, Repr, Inhabited

structure Patch where
  x : Int
  y : Int
  width : Int
  height : Int
  color : Color
deriving DecidableEq, Repr

/-- A background with rectangles on it, in the order in which they are laid down. -/
structure Scene where
  width : Nat := 640
  height : Nat := 480
  background : Color := ⟨0, 0, 0⟩
  patches : List Patch := []
deriving DecidableEq, Repr

inductive Shot where
  | scene (s : Scene)
  | missed
  | broken
deriving DecidableEq, Repr

end Rover
