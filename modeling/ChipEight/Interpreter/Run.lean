import ChipEight.Interpreter.Client

set_option autoImplicit false

namespace ChipEight

structure Run where
  interpreter : Interpreter
  begun : Nat
  events : List Event

namespace Run

def act (run : Run) (stopAt : Option Nat) : Run :=
  if run.interpreter.worker = some .step then
    let begun := run.begun + 1
    let interpreter := if stopAt = some begun then run.interpreter.stop else run.interpreter
    let (after, events) := interpreter.act
    ⟨after, begun, run.events ++ events⟩
  else
    let (after, events) := run.interpreter.act
    ⟨after, run.begun, run.events ++ events⟩

def actTimes (stopAt : Option Nat) : Nat → Run → Run
  | 0, run => run
  | count + 1, run => actTimes stopAt count (run.act stopAt)

end Run

namespace Interpreter

-- Enough actions for a worker to end that is asked to stop in its cycle number `cycles`.
def actionsFor (interpreter : Interpreter) (cycles : Nat) : Nat :=
  2 * cycles + interpreter.haltListeners + 3

def runFor (interpreter : Interpreter) (cycles : Nat) : Run :=
  Run.actTimes (some cycles) (interpreter.actionsFor cycles) ⟨interpreter.launch, 0, []⟩

end Interpreter

end ChipEight
