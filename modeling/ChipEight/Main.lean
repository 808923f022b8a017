import ChipEight.App.Basic

set_option autoImplicit false

namespace ChipEight

open CommandLine

def printLine : Printed → IO Unit
  | .output line => IO.println line
  | .report line => IO.eprintln line

def conclude (transcript : Transcript) : IO UInt32 := do
  transcript.printed.forM printLine
  match transcript.exit with
  | .quit => return 0
  | .code number => return UInt32.ofNat number
  | .message text =>
    IO.eprintln text
    return 1
  | .crash fault =>
    IO.eprintln fault.message
    return 1

def readFile (path : Path) : IO (Except ReadProblem (Array UInt8)) := do
  if path.text.contains '\x00' then
    return .error .nullInPath
  try
    return .ok (← IO.FS.readBinFile path.text).data
  catch error =>
    let problem : FileError := match error with
      | .inappropriateType _ code _ => if code = 21 then .isDirectory else .notDirectory
      | .invalidArgument _ _ _ => .nameTooLong
      | .permissionDenied _ _ _ => .permissionDenied
      | _ => .missing
    return .error (.file problem)

partial def play (app : App) : IO Transcript := do
  app.printed.forM printLine
  let silent := { app with printed := [] }
  if app.isOver then
    return silent.close.transcript
  else
    play (silent.takeAll [.worker, .presentation])

def runApp (words : List String) : IO UInt32 := do
  match tracingRequested (← IO.getEnv "DEBUG") with
  | .error problem =>
    IO.eprintln problem.message
    return 1
  | .ok tracing =>
    match Options.ofWords words with
    | .error refusal => conclude (App.refuse refusal)
    | .ok options =>
      let content ← match options.file with
        | some file => readFile (Path.ofString file)
        | none => pure (.error (.file .missing))
      let random := RandomSource.seeded (UInt64.ofNat (← IO.rand 0 0xFFFFFFFFFFFFFFFF))
      match App.launch options (fun _ => content) random [] tracing with
      | .error transcript => conclude transcript
      | .ok app => conclude (← play app)

end ChipEight

def main (words : List String) : IO UInt32 :=
  ChipEight.runApp words
