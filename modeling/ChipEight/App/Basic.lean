import ChipEight.App.Presentation
import ChipEight.CommandLine.Options
import ChipEight.Files.Path

set_option autoImplicit false

namespace ChipEight.App

open CommandLine

def refuse : Refusal → Transcript
  | .help => ⟨[.output helpText], .code 0⟩
  | .complaint complaint =>
    ⟨[.report (usage ++ "\nchip8: error: " ++ complaint.message)], .code 2⟩

def greeting : Printed :=
  .output "CHIP-8 emulator is starting"

def loadFailure (path : Path) (problem : String) : Transcript :=
  ⟨[greeting], .message s!"Cannot load the ROM at path {path.text}: {problem}"⟩

def openWindow (path : Path) (scale : Option Int) (system : WindowSystem := .narrow) :
    Except Fault (Int × Screen) :=
  if path.name.contains '\x00' then .error .nullInTitle
  else
    match scale with
    | none => .error .unusableWindowSize
    | some scale => return (scale, ← Screen.ofSize 64 32 scale .black .white system)

def loadMachine (legacy : Bool) (random : RandomSource) (path : Path)
    (content : Except ReadProblem (Array UInt8)) : Except Transcript Machine :=
  match content with
  | .error problem => .error (loadFailure path (problem.message path))
  | .ok program =>
    match (Machine.new legacy random).loadProgram program with
    | .error fault => .error (loadFailure path fault.message)
    | .ok (_, machine) => .ok machine

def launch (options : Options) (contentOf : Path → Except ReadProblem (Array UInt8))
    (random : RandomSource) (script : List (Nat × List InputEvent)) (tracing : Bool)
    (system : WindowSystem := .narrow) : Except Transcript App :=
  match options.file with
  | none => .error ⟨[], .crash .noFileName⟩
  | some file =>
    let path := Path.ofString file
    match openWindow path options.scale system with
    | .error fault => .error ⟨[greeting], .crash fault⟩
    | .ok (scale, screen) => do
      let machine ← loadMachine options.legacy random path (contentOf path)
      return {
        interpreter := (Interpreter.new machine scale tracing).addRenderListener.launch
        screen := screen
        queue := []
        begun := 0
        script := script
        printed := [greeting, .output s!"Loaded ROM: {path.text}"]
        leaving := false }

def isOver (app : App) : Bool :=
  app.leaving || !app.interpreter.running

-- Larger turns than those of a presentation: it always completes a pass.
def take (app : App) (turn : Turn) : App :=
  if app.isOver then app
  else
    match turn with
    | .worker => app.tick
    | .presentation => (Presentation.ofApp app).pass.app

def takeAll (app : App) (turns : List Turn) : App :=
  turns.foldl take app

-- The worker has no more actions than these left once it has been asked to stop.
def close (app : App) : App :=
  tickTimes (app.interpreter.haltListeners + 5) app.askedToStop

end ChipEight.App
