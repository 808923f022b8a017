import ChipEight.Interpreter.Basic

set_option autoImplicit false

namespace ChipEight.Interpreter

def goOn (interpreter : Interpreter) (phase : Phase) : Interpreter :=
  { interpreter with worker := some phase }

def notifyFrom (interpreter : Interpreter) (listener : Nat) : Phase :=
  if listener < interpreter.haltListeners then .notify listener else .settle

def markStopped (interpreter : Interpreter) : Interpreter :=
  { interpreter with machine := { interpreter.machine with state := .stopped } }

def farewell (interpreter : Interpreter) : List Event :=
  if interpreter.tracing then
    [.printed (.output ("Interpreter stopped\n" ++ interpreter.machine.describe))]
  else
    []

/-- The next action of the worker. A fault that escapes from a step ends the worker at once. -/
def act (interpreter : Interpreter) : Interpreter × List Event :=
  match interpreter.worker with
  | none => (interpreter, [])
  | some .test => (interpreter.goOn (if interpreter.stopRequested then .settle else .step), [])
  | some .step =>
    let step := interpreter.step
    match step.result with
    | .ok true => (step.interpreter.goOn .test, step.events)
    | .ok false => (step.interpreter.goOn (step.interpreter.notifyFrom 0), step.events)
    | .error _ => ({ step.interpreter with worker := none }, step.events)
  | some (.notify listener) =>
    (interpreter.goOn (interpreter.notifyFrom (listener + 1)),
      [.gaveUp listener interpreter.machine.state interpreter.machine.fault])
  | some .settle => (interpreter.markStopped.goOn .finish, [])
  | some .finish => ({ interpreter with worker := none }, interpreter.farewell)

end ChipEight.Interpreter
