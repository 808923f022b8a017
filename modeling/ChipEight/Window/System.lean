import ChipEight.Fault
import ChipEight.Window.Surface

set_option autoImplicit false

namespace ChipEight

structure WindowSize where
  width : Nat
  height : Nat
  deriving DecidableEq, Repr

-- The size that a window gets for the one that is asked for, and the square that is filled for a
-- corner and a side.
structure WindowSystem where
  size : Int → Int → Except Fault WindowSize
  square : Int → Int → Int → Except Fault Square

def WindowSystem.squareAt (system : WindowSystem) (x y : Nat) (scale : Int) :
    Except Fault Square :=
  system.square (x * scale) (y * scale) scale

end ChipEight
