import ChipEight.Memory.Basic

set_option autoImplicit false

namespace ChipEight

structure Slice where
  start : Option Int
  stop : Option Int
  step : Option Int

namespace Slice

-- A bound counts from the end when it is negative, and is clamped to what the step can reach.
def clamp (size : Nat) (step bound : Int) : Int :=
  let lowest := if step < 0 then -1 else 0
  let highest := if step < 0 then (size : Int) - 1 else size
  if bound < 0 then max (bound + size) lowest else min bound highest

def first (slice : Slice) (size : Nat) (step : Int) : Int :=
  match slice.start with
  | some bound => clamp size step bound
  | none => if step < 0 then (size : Int) - 1 else 0

def last (slice : Slice) (size : Nat) (step : Int) : Int :=
  match slice.stop with
  | some bound => clamp size step bound
  | none => if step < 0 then -1 else size

def count (first last step : Int) : Nat :=
  if 0 < step then ((last - first + step - 1) / step).toNat
  else ((first - last - step - 1) / -step).toNat

def positions (slice : Slice) (size : Nat) : Except Fault (List Int) :=
  let step := slice.step.getD 1
  if step = 0 then
    .error .zeroStep
  else
    let first := slice.first size step
    .ok ((List.range (count first (slice.last size step) step)).map fun k : Nat => first + k * step)

end Slice

def Memory.slice (memory : Memory) (slice : Slice) : Except Fault (List UInt8) := do
  let positions ← slice.positions 4096
  return positions.filterMap fun position => memory.bytes[position.toNat]?

end ChipEight
