set_option autoImplicit false

namespace ChipEight.CommandLine

inductive Switch where
  | help
  | file
  | scale
  | legacy
  deriving DecidableEq, Repr

namespace Switch

def all : List Switch :=
  [help, file, scale, legacy]

def spellings : Switch → List String
  | help => ["-h", "--help"]
  | file => ["-f", "--file"]
  | scale => ["-s", "--scale"]
  | legacy => ["--legacy-quirks"]

def name (switch : Switch) : String :=
  String.intercalate "/" switch.spellings

def takesValue : Switch → Bool
  | file | scale => true
  | help | legacy => false

def ofSpelling? (text : String) : Option Switch :=
  all.find? fun switch => switch.spellings.contains text

def abbreviatedBy (text : List Char) : List (Switch × String) :=
  all.flatMap fun switch =>
    (switch.spellings.filter fun spelling => text.isPrefixOf spelling.toList).map fun spelling =>
      (switch, spelling)

end Switch

def usage : String :=
  "usage: chip8 [-h] -f FILE [-s SCALE] [--legacy-quirks]"

def helpText : String :=
  usage ++ "\n\nCHIP-8 emulator\n\noptions:\n" ++
    "  -h, --help            show this help message and exit\n" ++
    "  -f FILE, --file FILE  input rom file\n" ++
    "  -s SCALE, --scale SCALE\n" ++
    "                        size in screen pixels of a CHIP-8 pixel\n" ++
    "  --legacy-quirks       FX33 stores nothing and FX65 loads every byte into Vx"

end ChipEight.CommandLine
