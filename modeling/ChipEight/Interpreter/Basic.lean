import ChipEight.Machine.Cycle

set_option autoImplicit false

namespace ChipEight

structure Frame where
  pixels : Array UInt8
  width : Int
  height : Int
  scale : Int
  deriving DecidableEq

inductive Event where
  | printed (line : Printed)
  | rendered (listener : Nat) (state : RunState) (frame : Frame)
  | gaveUp (listener : Nat) (state : RunState) (reason : Option HaltReason)

inductive Phase where
  | test
  | step
  | notify (listener : Nat)
  | settle
  | finish
  deriving DecidableEq, Repr

structure Interpreter where
  machine : Machine
  scale : Int
  tracing : Bool
  renderListeners : Nat
  haltListeners : Nat
  stopRequested : Bool
  worker : Option Phase

structure StepResult where
  interpreter : Interpreter
  result : Except Fault Bool
  events : List Event

namespace Interpreter

def new (machine : Machine) (scale : Int) (tracing : Bool) : Interpreter where
  machine := machine
  scale := scale
  tracing := tracing
  renderListeners := 0
  haltListeners := 0
  stopRequested := false
  worker := none

def addRenderListener (interpreter : Interpreter) : Interpreter :=
  { interpreter with renderListeners := interpreter.renderListeners + 1 }

def addHaltListener (interpreter : Interpreter) : Interpreter :=
  { interpreter with haltListeners := interpreter.haltListeners + 1 }

def running (interpreter : Interpreter) : Bool :=
  interpreter.worker.isSome

def frame (interpreter : Interpreter) : Frame where
  pixels := interpreter.machine.display.view
  width := 64
  height := 32
  scale := interpreter.scale

def renderEvents (interpreter : Interpreter) : List Event :=
  (List.range interpreter.renderListeners).map fun listener =>
    .rendered listener interpreter.machine.state interpreter.frame

def step (interpreter : Interpreter) : StepResult :=
  let cycle := interpreter.machine.cycle interpreter.tracing
  let after := { interpreter with machine := cycle.machine }
  let printed := cycle.printed.map .printed
  match cycle.result with
  | .ok true =>
    ⟨after, .ok true, if after.machine.draw then printed ++ after.renderEvents else printed⟩
  | other => ⟨after, other, printed⟩

end Interpreter

end ChipEight
