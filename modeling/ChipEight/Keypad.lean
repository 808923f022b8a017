import ChipEight.Row
import ChipEight.Text.Hex

set_option autoImplicit false

namespace ChipEight

structure Keypad where
  pressed : Vector Bool 16
  deriving DecidableEq

namespace Keypad

def released : Keypad :=
  ⟨Vector.replicate 16 false⟩

def read (keypad : Keypad) (key : Int) : Except Fault Bool := do
  let place ← Row.position 16 .indexOutside key
  return keypad.pressed.get place

def write (keypad : Keypad) (key : Int) (down : Bool) : Except Fault Keypad := do
  let place ← Row.position 16 .indexOutside key
  return ⟨Row.replace keypad.pressed place down⟩

def text (keypad : Keypad) : String :=
  let digits := (List.finRange 16).filter fun key => keypad.pressed.get key
  if digits.isEmpty then "-" else String.join (digits.map Text.nibbleText)

end Keypad

end ChipEight
