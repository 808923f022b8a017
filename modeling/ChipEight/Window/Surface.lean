set_option autoImplicit false

namespace ChipEight

structure Colour where
  red : UInt8
  green : UInt8
  blue : UInt8
  deriving DecidableEq, Repr

namespace Colour

def black : Colour := ⟨0, 0, 0⟩

def white : Colour := ⟨255, 255, 255⟩

end Colour

structure Square where
  left : Int
  top : Int
  side : Int
  deriving DecidableEq, Repr

structure Surface where
  width : Nat
  height : Nat
  pixels : Vector Colour (width * height)

namespace Surface

theorem place_lt {width height x y : Nat} (inside : x < width ∧ y < height) :
    y * width + x < width * height := by
  have rows : (y + 1) * width ≤ height * width := Nat.mul_le_mul_right width inside.2
  rw [Nat.add_mul, Nat.one_mul, Nat.mul_comm height width] at rows
  omega

def ofColour (width height : Nat) (colour : Colour) : Surface where
  width := width
  height := height
  pixels := Vector.replicate (width * height) colour

def colourAt? (surface : Surface) (x y : Nat) : Option Colour :=
  if inside : x < surface.width ∧ y < surface.height then
    some (surface.pixels.get ⟨y * surface.width + x, place_lt inside⟩)
  else
    none

def fill (surface : Surface) (colour : Colour) : Surface :=
  { surface with pixels := surface.pixels.map fun _ => colour }

def paint (surface : Surface) (colour : Colour) (x y : Nat) : Surface :=
  if inside : x < surface.width ∧ y < surface.height then
    { surface with pixels := surface.pixels.set (y * surface.width + x) colour (place_lt inside) }
  else
    surface

def span (start length : Int) (limit : Nat) : List Nat :=
  let first := max 0 start
  let last := min (start + length) limit
  (List.range (last - first).toNat).map fun place => first.toNat + place

def fillSquare (surface : Surface) (colour : Colour) (square : Square) : Surface :=
  let columns := span square.left square.side surface.width
  (span square.top square.side surface.height).foldl
    (fun painted y => columns.foldl (fun painted x => painted.paint colour x y) painted) surface

end Surface

end ChipEight
