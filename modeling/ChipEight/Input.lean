import ChipEight.Keypad

set_option autoImplicit false

namespace ChipEight

inductive InputEvent where
  | keyDown (code : Int)
  | keyUp (code : Int)
  | quit
  | other
  deriving DecidableEq, Repr

namespace InputEvent

def escapeCode : Int := 27

def key? (code : Int) : Option (Fin 16) :=
  if digit : 48 ≤ code ∧ code ≤ 57 then
    some ⟨(code - 48).toNat, by omega⟩
  else if letter : 97 ≤ code ∧ code ≤ 102 then
    some ⟨(code - 87).toNat, by omega⟩
  else
    none

def leaves : InputEvent → Bool
  | quit => true
  | keyDown code => code == escapeCode
  | _ => false

end InputEvent

namespace Keypad

def latch (keypad : Keypad) (code : Int) (down : Bool) : Keypad :=
  match InputEvent.key? code with
  | some key => ⟨Row.replace keypad.pressed key down⟩
  | none => keypad

def apply (keypad : Keypad) : InputEvent → Keypad
  | .keyDown code => keypad.latch code true
  | .keyUp code => keypad.latch code false
  | _ => keypad

-- The first event that asks to leave is the last one to be looked at.
def poll (keypad : Keypad) : List InputEvent → Bool × Keypad
  | [] => (true, keypad)
  | event :: rest => if event.leaves then (false, keypad) else (keypad.apply event).poll rest

end Keypad

end ChipEight
