import ChipEight.Interpreter.Worker

set_option autoImplicit false

namespace ChipEight.Interpreter

def launch (interpreter : Interpreter) : Interpreter :=
  { interpreter with
    stopRequested := false
    machine := { interpreter.machine with state := .running, fault := none }
    worker := some .test }

def start? (interpreter : Interpreter) : Option Interpreter :=
  if interpreter.running then
    if interpreter.stopRequested then none else some interpreter
  else
    some interpreter.launch

def stop (interpreter : Interpreter) : Interpreter :=
  { interpreter with stopRequested := true }

def join? (interpreter : Interpreter) : Option Interpreter :=
  if interpreter.running then none else some interpreter

end ChipEight.Interpreter
