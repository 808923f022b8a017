import ChipEight.Interpreter.Client

set_option autoImplicit false

namespace ChipEight

inductive Call where
  | start
  | stop
  | join
  deriving DecidableEq, Repr

inductive Stage where
  | idle
  | findWorker
  | findStop
  | awaitWorker
  | clearStop
  | markRunning
  | clearFault
  | launch
  | requestStop
  | join
  deriving DecidableEq, Repr

def Call.stage : Call → Stage
  | start => .findWorker
  | stop => .requestStop
  | join => .join

structure Configuration where
  interpreter : Interpreter
  -- The next actions of the workers launched before the last one, of those that are alive.
  former : List (Option Phase)
  stage : Stage

-- Whose turn it is. A worker is known by its place in the order of the launches.
inductive Move where
  | worker (number : Nat)
  | call (call : Call)
  | proceed
  deriving DecidableEq, Repr

namespace Configuration

def ofInterpreter (interpreter : Interpreter) : Configuration :=
  ⟨interpreter, [], .idle⟩

def workers (configuration : Configuration) : List (Option Phase) :=
  configuration.former ++ [configuration.interpreter.worker]

def goTo (configuration : Configuration) (stage : Stage) : Configuration :=
  { configuration with stage := stage }

def setInterpreter (configuration : Configuration) (interpreter : Interpreter) : Configuration :=
  { configuration with interpreter := interpreter }

def act (configuration : Configuration) (number : Nat) : Configuration :=
  let interpreter := configuration.interpreter
  if number = configuration.former.length then
    configuration.setInterpreter interpreter.act.1
  else
    match configuration.former[number]? with
    | none => configuration
    | some worker =>
      let acted := { interpreter with worker := worker }.act.1
      { configuration with
        interpreter := { acted with worker := interpreter.worker }
        former := configuration.former.set number acted.worker }

def proceed (configuration : Configuration) : Configuration :=
  let interpreter := configuration.interpreter
  match configuration.stage with
  | .idle => configuration
  | .findWorker => configuration.goTo (if interpreter.running then .findStop else .clearStop)
  | .findStop => configuration.goTo (if interpreter.stopRequested then .awaitWorker else .idle)
  | .awaitWorker => if interpreter.running then configuration else configuration.goTo .clearStop
  | .clearStop =>
    (configuration.setInterpreter { interpreter with stopRequested := false }).goTo .markRunning
  | .markRunning =>
    (configuration.setInterpreter { interpreter with
      machine := { interpreter.machine with state := .running } }).goTo .clearFault
  | .clearFault =>
    (configuration.setInterpreter { interpreter with
      machine := { interpreter.machine with fault := none } }).goTo .launch
  | .launch => ⟨{ interpreter with worker := some .test }, configuration.workers, .idle⟩
  | .requestStop => (configuration.setInterpreter interpreter.stop).goTo .idle
  | .join => if interpreter.running then configuration else configuration.goTo .idle

def take (configuration : Configuration) : Move → Configuration
  | .worker number => configuration.act number
  | .call call =>
    if configuration.stage = .idle then configuration.goTo call.stage else configuration
  | .proceed => configuration.proceed

def run (configuration : Configuration) (moves : List Move) : Configuration :=
  moves.foldl take configuration

def Stepping (configuration : Configuration) (number : Nat) : Prop :=
  configuration.workers[number]? = some (some .step)

instance (configuration : Configuration) (number : Nat) :
    Decidable (configuration.Stepping number) :=
  inferInstanceAs (Decidable (_ = _))

def cyclesBegun (number : Nat) : Configuration → List Move → Nat
  | _, [] => 0
  | configuration, move :: rest =>
    (if move = .worker number ∧ configuration.Stepping number then 1 else 0) +
      cyclesBegun number (configuration.take move) rest

end Configuration

end ChipEight
