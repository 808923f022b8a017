import ChipEight.CommandLine.Switch
import ChipEight.Text.Quoted

set_option autoImplicit false

namespace ChipEight.CommandLine

open Text

inductive Complaint where
  | ambiguous (text : String) (candidates : List String)
  | ignoredValue (switch : Switch) (value : String)
  | missingValue (switch : Switch)
  | notAnInteger (value : String)
  | missingFile
  | unrecognized (texts : List String)
  deriving DecidableEq, Repr

namespace Complaint

def about (switch : Switch) (problem : String) : String :=
  s!"argument {switch.name}: {problem}"

def message : Complaint → String
  | ambiguous text candidates =>
    "ambiguous option: " ++ text ++ " could match " ++ String.intercalate ", " candidates
  | ignoredValue switch value => about switch ("ignored explicit argument " ++ quoted value)
  | missingValue switch => about switch "expected one argument"
  | notAnInteger value => about .scale ("invalid int value: " ++ quoted value)
  | missingFile => s!"the following arguments are required: {Switch.file.name}"
  | unrecognized texts => "unrecognized arguments: " ++ String.intercalate " " texts

end Complaint

end ChipEight.CommandLine
