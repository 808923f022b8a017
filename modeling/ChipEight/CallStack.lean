import ChipEight.Row

set_option autoImplicit false

namespace ChipEight

-- A negative depth leaves no room at all.
structure CallStack (depth : Int) where
  slots : Vector Int depth.toNat
  used : Nat
  used_le : used ≤ depth.toNat

namespace CallStack

variable {depth : Int}

def empty : CallStack depth where
  slots := Vector.replicate depth.toNat 0
  used := 0
  used_le := Nat.zero_le _

def ofDepth (depth : Int) (room : Int := Row.usualRoom) : Except Fault (CallStack depth) := do
  Row.checkSize depth room
  return empty

def push (stack : CallStack depth) (address : Int) : Except Fault (CallStack depth) :=
  if room : stack.used < depth.toNat then
    .ok { slots := stack.slots.set stack.used address
          used := stack.used + 1
          used_le := room }
  else
    .error (.stackFull depth)

def pop (stack : CallStack depth) : Except Fault (Int × CallStack depth) :=
  if some_used : 0 < stack.used then
    have inside : stack.used - 1 < depth.toNat := by have := stack.used_le; omega
    .ok (stack.slots[stack.used - 1],
      { slots := stack.slots.set (stack.used - 1) 0
        used := stack.used - 1
        used_le := Nat.le_of_lt inside })
  else
    .error .stackEmpty

def live (stack : CallStack depth) : List Int :=
  stack.slots.toList.take stack.used

def text (stack : CallStack depth) : String :=
  "[" ++ String.intercalate ", " (stack.live.map fun address =>
    "'0x" ++ Text.addressText address ++ "'") ++ "]"

end CallStack

end ChipEight
