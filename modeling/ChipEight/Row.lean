import ChipEight.Fault
import ChipEight.Width

set_option autoImplicit false

namespace ChipEight.Row

def checkWidth (index : Int) : Except Fault Unit :=
  if Width.fits index then .ok () else .error .indexTooWide

-- How many cells there is room for, unless somebody says otherwise.
def usualRoom : Int := 0x200000000

def checkSize (size room : Int) : Except Fault Unit :=
  if !Width.fits size then .error .countTooWide
  else if room < size then .error .noRoom
  else .ok ()

theorem index_lt {size : Nat} {index : Int} (inside : 0 ≤ index ∧ index < size) :
    index.toNat < size := by
  omega

def position (size : Nat) (outside : Fault) (index : Int) : Except Fault (Fin size) := do
  checkWidth index
  if front : 0 ≤ index ∧ index < size then
    .ok ⟨index.toNat, index_lt front⟩
  else if back : index < 0 ∧ 0 ≤ index + size then
    .ok ⟨(index + size).toNat, by omega⟩
  else
    .error outside

def byte (value : Int) : Except Fault UInt8 :=
  if 0 ≤ value ∧ value < 256 then .ok (UInt8.ofNat value.toNat) else .error .notAByte

def replace {α : Type} {size : Nat} (cells : Vector α size) (place : Fin size) (value : α) :
    Vector α size :=
  cells.set place.val value place.isLt

-- Stores one byte. The width of the index is checked first, then the value, then the position.
def store {size : Nat} (cells : Vector UInt8 size) (index value : Int) :
    Except Fault (Vector UInt8 size) := do
  checkWidth index
  let stored ← byte value
  let place ← position size .indexOutside index
  return replace cells place stored

end ChipEight.Row
