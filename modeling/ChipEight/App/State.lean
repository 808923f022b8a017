import ChipEight.Input
import ChipEight.Interpreter.Client
import ChipEight.Window.Screen

set_option autoImplicit false

namespace ChipEight

inductive Exit where
  | quit
  | code (number : Nat)
  | message (text : String)
  | crash (fault : Fault)
  deriving DecidableEq, Repr

structure Transcript where
  printed : List Printed
  exit : Exit
  deriving DecidableEq

structure App where
  interpreter : Interpreter
  screen : Screen
  queue : List InputEvent
  begun : Nat
  -- Events to be queued when the cycle with the given number begins.
  script : List (Nat × List InputEvent)
  printed : List Printed
  leaving : Bool

namespace App

-- The window is the render listener.
def notice (app : App) : Event → App
  | .printed line => { app with printed := app.printed ++ [line] }
  | .rendered _ _ frame => { app with screen := app.screen.receive frame }
  | .gaveUp _ _ _ => app

def beginCycle (app : App) : App :=
  let begun := app.begun + 1
  let due := app.script.filter fun (cycle, _) => cycle == begun
  { app with begun := begun, queue := app.queue ++ due.flatMap fun (_, events) => events }

def tick (app : App) : App :=
  let started := if app.interpreter.worker = some .step then app.beginCycle else app
  let (interpreter, events) := started.interpreter.act
  events.foldl notice { started with interpreter := interpreter }

def tickTimes : Nat → App → App
  | 0, app => app
  | count + 1, app => tickTimes count app.tick

def polled (app : App) : App :=
  let machine := app.interpreter.machine
  let (goOn, keypad) := machine.keypad.poll app.queue
  { app with
    interpreter := { app.interpreter with machine := { machine with keypad := keypad } }
    queue := []
    leaving := app.leaving || !goOn }

def refreshed (app : App) : App :=
  { app with screen := app.screen.refresh.1 }

def askedToStop (app : App) : App :=
  { app with interpreter := app.interpreter.stop }

def transcript (app : App) : Transcript :=
  let machine := app.interpreter.machine
  if machine.fault.isSome then
    ⟨app.printed, .message ("********** THE EMULATOR CRASHED WITH THE FOLLOWING STATE\n" ++
      machine.describe)⟩
  else
    ⟨app.printed, .quit⟩

end App

inductive Turn where
  | worker
  | presentation
  deriving DecidableEq, Repr

end ChipEight
