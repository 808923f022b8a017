import ChipEight.Instruction.Decode
import ChipEight.Machine.Trace

set_option autoImplicit false

namespace ChipEight

structure Obeyed where
  outcome : Outcome
  printed : List Printed

structure CycleResult where
  machine : Machine
  result : Except Fault Bool
  printed : List Printed

namespace Machine

def obey (tracing : Bool) (machine : Machine) (opcode : Int) : Obeyed :=
  match Instruction.decode opcode with
  | .error fault => ⟨machine.failed fault, []⟩
  | .ok instruction =>
    let outcome := machine.execute instruction
    if tracing && outcome.fault.isNone then
      ⟨outcome, [.output (traceLine machine outcome.machine instruction)]⟩
    else
      ⟨outcome, []⟩

def fetchAndObey (tracing : Bool) (machine : Machine) : Obeyed :=
  match machine.memory.readWord machine.pc with
  | .error fault => ⟨machine.failed fault, []⟩
  | .ok word => machine.obey tracing word

def tick (timer : Int) : Int :=
  if 0 < timer then timer - 1 else timer

def tickTimers (machine : Machine) : Machine :=
  { machine with delay := tick machine.delay, sound := tick machine.sound }

def cycle (tracing : Bool) (machine : Machine) : CycleResult :=
  let obeyed := { machine with draw := false }.fetchAndObey tracing
  let after := obeyed.outcome.machine
  match obeyed.outcome.fault with
  | none => ⟨after.tickTimers, .ok true, obeyed.printed⟩
  | some fault =>
    if fault.halts then
      ⟨after.halt (.fault fault), .ok false, obeyed.printed ++ [haltReport (.fault fault)]⟩
    else
      ⟨after, .error fault, obeyed.printed⟩

end Machine

end ChipEight
