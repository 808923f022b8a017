import ChipEight.CallStack
import ChipEight.Display
import ChipEight.Keypad
import ChipEight.Memory.Basic
import ChipEight.RandomSource

set_option autoImplicit false

namespace ChipEight

inductive RunState where
  | running
  | stopped
  deriving DecidableEq, Repr

def RunState.name : RunState → String
  | running => "RUNNING"
  | stopped => "STOPPED"

inductive HaltReason where
  | fault (cause : Fault)
  | note (text : String)
  deriving DecidableEq, Repr

def HaltReason.text : HaltReason → String
  | fault cause => cause.message
  | note text => text

structure Machine where
  -- In legacy mode `Fx33` stores nothing and `Fx65` loads every byte into `Vx`.
  legacy : Bool
  memory : Memory
  keypad : Keypad
  random : RandomSource
  registers : Vector UInt8 16
  stack : CallStack 24
  display : Display 64 32
  pc : Int
  index : Int
  delay : Int
  sound : Int
  draw : Bool
  state : RunState
  fault : Option HaltReason

inductive Printed where
  | output (line : String)
  | report (line : String)
  deriving DecidableEq, Repr

namespace Machine

def powerOn (legacy : Bool) (memory : Memory) (keypad : Keypad) (random : RandomSource) :
    Machine where
  legacy := legacy
  memory := memory
  keypad := keypad
  random := random
  registers := Vector.replicate 16 0
  stack := CallStack.empty
  display := Display.blank
  pc := Memory.programStart
  index := 0
  delay := 0
  sound := 0
  draw := false
  state := .stopped
  fault := none

def new (legacy : Bool) (random : RandomSource) : Machine :=
  powerOn legacy Memory.fresh Keypad.released random

def reset (machine : Machine) : Machine :=
  powerOn machine.legacy machine.memory.loadFont machine.keypad machine.random

def loadProgram (machine : Machine) (program : Array UInt8) : Except Fault (Nat × Machine) := do
  let (length, memory) ← machine.memory.loadProgram program
  return (length, { machine with memory := memory })

def halt (machine : Machine) (reason : HaltReason) : Machine :=
  { machine with fault := some reason, state := .stopped }

def haltReport (reason : HaltReason) : Printed :=
  .report ("********** THE EMULATOR HALTED: " ++ reason.text)

def describe (machine : Machine) : String :=
  let registers := String.intercalate ", " (machine.registers.toList.map fun byte => toString byte)
  let draw := if machine.draw then "True" else "False"
  s!"PC_REGISTER:0x{Text.addressText machine.pc} | " ++
  s!"IDX_REGISTER:0x{Text.addressText machine.index} | VARIABLE_REGISTERS:[{registers}]\n" ++
  s!"STACK:{machine.stack.text} | SP:{machine.stack.used}\n" ++
  s!"DELAY_TIMER:{machine.delay} | SOUND_TIMER:{machine.sound}\n" ++
  s!"STATE:{machine.state.name} | DRAW:{draw} | KEYS:{machine.keypad.text}"

end Machine

end ChipEight
