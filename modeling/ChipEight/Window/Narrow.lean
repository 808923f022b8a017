import ChipEight.Width
import ChipEight.Window.System

set_option autoImplicit false

namespace ChipEight.WindowSystem

namespace Narrow

def desktop : WindowSize := ⟨1024, 768⟩

def longestSide : Int := 16384

def size (width height : Int) : Except Fault WindowSize :=
  match Width.narrow? width, Width.narrow? height with
  | some width, some height =>
    if width < 0 ∨ height < 0 then .error .negativeWindow
    else if width = 0 ∧ height = 0 then .ok desktop
    else if longestSide < width ∨ longestSide < height then .error .windowTooLarge
    else .ok ⟨max 1 width.toNat, max 1 height.toNat⟩
  | _, _ => .error .unusableWindowSize

def square (left top side : Int) : Except Fault Square :=
  match Width.narrow? left, Width.narrow? top, Width.narrow? side with
  | some left, some top, some side => .ok ⟨left, top, side⟩
  | _, _, _ => .error .unusableSquare

end Narrow

/-- The window system that measures in 32 bits: all numbers are narrowed before they are used. -/
def narrow : WindowSystem where
  size := Narrow.size
  square := Narrow.square

end ChipEight.WindowSystem
