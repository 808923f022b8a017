import ChipEight.CommandLine.Token
import ChipEight.Text.Integer

set_option autoImplicit false

namespace ChipEight.CommandLine

structure Options where
  file : Option String
  scale : Option Int
  legacy : Bool
  deriving DecidableEq, Repr

inductive Refusal where
  | help
  | complaint (complaint : Complaint)
  deriving DecidableEq, Repr

structure Draft where
  file : Option (Option String)
  scale : Option Int
  legacy : Bool
  unused : List String

namespace Draft

def initial : Draft :=
  ⟨none, some 10, false, []⟩

def ignore (draft : Draft) (text : String) : Draft :=
  { draft with unused := draft.unused ++ [text] }

-- A lone `--` attached to a switch is not a value: the switch then counts as given, and takes its
-- setting away.
def valueOf? (attached : List Char) : Option String :=
  if attached = ['-', '-'] then none else some (String.ofList attached)

def readScale (text : String) : Except Refusal Int :=
  match Text.Integer.read text with
  | .ok scale => .ok scale
  | .error _ => .error (.complaint (.notAnInteger text))

def apply (draft : Draft) (switch : Switch) (value : Option String) : Except Refusal Draft :=
  match switch with
  | .help => .error .help
  | .file => .ok { draft with file := some value }
  | .scale => do return { draft with scale := ← value.mapM readScale }
  | .legacy => .ok { draft with legacy := true }

def nextIsArgument : List Token → Bool
  | .argument _ :: _ => true
  | _ => false

-- What comes of a short help switch with something attached to it. That has to be more short
-- switches, the last of which may have a value; help is shown once all of them are in order.
def helpCluster (rest : List Token) : List Char → Refusal
  | [] => .complaint (.ignoredValue .help "")
  | letter :: more =>
    match Switch.ofSpelling? (String.ofList ['-', letter]) with
    | none => .complaint (.ignoredValue .help (String.ofList (letter :: more)))
    | some switch =>
      if switch.takesValue then
        if more.isEmpty && !nextIsArgument rest then .complaint (.missingValue switch) else .help
      else if more.isEmpty then .help
      else helpCluster rest more

def read (draft : Draft) : List Token → Except Refusal Draft
  | [] => .ok draft
  | .argument text :: rest => (draft.ignore text).read rest
  | .separator :: rest => (draft.ignore "--").read rest
  | .unknown text :: rest => (draft.ignore text).read rest
  | .switch switch short (some attached) :: rest =>
    if switch.takesValue then do
      (← draft.apply switch (valueOf? attached)).read rest
    else if switch = .help && short then
      .error (helpCluster rest attached)
    else
      .error (.complaint (.ignoredValue switch (String.ofList attached)))
  | .switch switch _ none :: rest =>
    if switch.takesValue then
      match rest with
      | .argument value :: rest => do (← draft.apply switch (some value)).read rest
      | _ => .error (.complaint (.missingValue switch))
    else do
      (← draft.apply switch none).read rest

def complete (draft : Draft) : Except Refusal Options :=
  match draft.file with
  | none => .error (.complaint .missingFile)
  | some file =>
    if draft.unused.isEmpty then
      .ok { file := file, scale := draft.scale, legacy := draft.legacy }
    else
      .error (.complaint (.unrecognized draft.unused))

end Draft

def Options.ofWords (words : List String) : Except Refusal Options :=
  match Token.ofWords words with
  | .error complaint => .error (.complaint complaint)
  | .ok tokens => do (← Draft.initial.read tokens).complete

def tracingRequested : Option String → Except Text.Integer.Problem Bool
  | none => .ok false
  | some text => return 1 ≤ (← Text.Integer.read text)

end ChipEight.CommandLine
