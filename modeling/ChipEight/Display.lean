import ChipEight.Row

set_option autoImplicit false

namespace ChipEight

-- A display whose sizes are both negative has pixels but no point at which to reach them.
structure Display (width height : Int) where
  pixels : Vector UInt8 (width * height).toNat

namespace Display

variable {width height : Int}

def lit : UInt8 := 0xFF

def dark : UInt8 := 0x00

def blank : Display width height where
  pixels := Vector.replicate (width * height).toNat dark

def ofSize (width height : Int) (room : Int := Row.usualRoom) :
    Except Fault (Display width height) := do
  Row.checkSize (width * height) room
  if width * height < 0 then .error .negativeSize else return blank

theorem offset_lt {x y : Int} (inside : (0 ≤ x ∧ x < width) ∧ 0 ≤ y ∧ y < height) :
    (y * width + x).toNat < (width * height).toNat := by
  have rows : (y + 1) * width ≤ height * width :=
    Int.mul_le_mul_of_nonneg_right (by omega) (by omega)
  have first : 0 ≤ y * width := Int.mul_nonneg inside.2.1 (by omega)
  rw [Int.add_mul, Int.one_mul, Int.mul_comm height width] at rows
  omega

def offset (x y : Int) : Except Fault (Fin (width * height).toNat) :=
  if inside : (0 ≤ x ∧ x < width) ∧ 0 ≤ y ∧ y < height then
    .ok ⟨(y * width + x).toNat, offset_lt inside⟩
  else
    .error (.pixelOutside x y width height)

def read (display : Display width height) (x y : Int) : Except Fault Bool := do
  let place : Fin (width * height).toNat ← offset x y
  return display.pixels.get place == lit

def write (display : Display width height) (x y : Int) (on : Bool) :
    Except Fault (Bool × Display width height) := do
  let place : Fin (width * height).toNat ← offset x y
  let erased := display.pixels.get place == lit && !on
  return (erased, ⟨Row.replace display.pixels place (if on then lit else dark)⟩)

def clear (_display : Display width height) : Display width height :=
  blank

def view (display : Display width height) : Array UInt8 :=
  display.pixels.toArray

def viewByte (display : Display width height) (index : Int) : Except Fault UInt8 := do
  let place ← Row.position (width * height).toNat .viewIndexOutside index
  return display.pixels.get place

def writeThroughView (_display : Display width height) (_index _value : Int) :
    Except Fault (Display width height) :=
  .error .readOnlyView

end Display

end ChipEight
