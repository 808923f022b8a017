import ChipEight.Interpreter.Basic
import ChipEight.Window.Narrow

set_option autoImplicit false

namespace ChipEight

structure Screen where
  background : Colour
  foreground : Colour
  surface : Surface
  pending : Option Frame
  system : WindowSystem

namespace Screen

def ofSize (width height scale : Int) (background foreground : Colour)
    (system : WindowSystem := .narrow) : Except Fault Screen := do
  let size ← system.size (width * scale) (height * scale)
  return {
    background := background
    foreground := foreground
    surface := .ofColour size.width size.height background
    pending := none
    system := system }

def receive (screen : Screen) (frame : Frame) : Screen :=
  { screen with pending := some frame }

-- The pixels of a frame that a refresh gets to, row by row from the top: all of them, or those up
-- to the first one that the frame has no byte for.
def cells (frame : Frame) : List Nat :=
  List.range (min (frame.width.toNat * frame.height.toNat) (frame.pixels.size + 1))

def square? (system : WindowSystem) (frame : Frame) (cell : Nat) :
    Except Fault (Option Square) :=
  match frame.pixels[cell]? with
  | none => .error .frameTooShort
  | some byte =>
    if byte = 0 then .ok none
    else do
      let (x, y) := (cell % frame.width.toNat, cell / frame.width.toNat)
      return some (← system.squareAt x y frame.scale)

def paintCells (system : WindowSystem) (frame : Frame) (colour : Colour) :
    Surface → List Nat → Surface × Option Fault
  | surface, [] => (surface, none)
  | surface, cell :: rest =>
    match square? system frame cell with
    | .error fault => (surface, some fault)
    | .ok none => paintCells system frame colour surface rest
    | .ok (some square) => paintCells system frame colour (surface.fillSquare colour square) rest

def refresh (screen : Screen) : Screen × Option Fault :=
  match screen.pending with
  | none => (screen, none)
  | some frame =>
    let cleared := screen.surface.fill screen.background
    let (surface, fault) :=
      paintCells screen.system frame screen.foreground cleared (cells frame)
    ({ screen with surface := surface, pending := none }, fault)

end Screen

end ChipEight
