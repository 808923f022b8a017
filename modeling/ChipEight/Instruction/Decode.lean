import ChipEight.Fault
import ChipEight.Instruction.Basic

set_option autoImplicit false

namespace ChipEight.Instruction

def registerX (word : Nat) : Fin 16 :=
  ⟨word / 0x100 % 16, Nat.mod_lt _ (by decide)⟩

def registerY (word : Nat) : Fin 16 :=
  ⟨word / 0x10 % 16, Nat.mod_lt _ (by decide)⟩

def lastDigit (word : Nat) : Fin 16 :=
  ⟨word % 16, Nat.mod_lt _ (by decide)⟩

def lastByte (word : Nat) : UInt8 :=
  UInt8.ofNat (word % 0x100)

def lastAddress (word : Nat) : Fin 4096 :=
  ⟨word % 0x1000, Nat.mod_lt _ (by decide)⟩

def ofArithmetic? (word : Nat) : Option Instruction :=
  let x := registerX word
  let y := registerY word
  match word % 0x10 with
  | 0x0 => some (copy x y)
  | 0x2 => some (and x y)
  | 0x4 => some (add x y)
  | 0x5 => some (subtract x y)
  | _ => none

def ofKeys? (word : Nat) : Option Instruction :=
  match word % 0x100 with
  | 0x9E => some (skipPressed (registerX word))
  | 0xA1 => some (skipReleased (registerX word))
  | _ => none

def ofDevices? (word : Nat) : Option Instruction :=
  let x := registerX word
  match word % 0x100 with
  | 0x07 => some (readDelay x)
  | 0x15 => some (setDelay x)
  | 0x18 => some (setSound x)
  | 0x1E => some (addIndex x)
  | 0x29 => some (selectGlyph x)
  | 0x33 => some (storeDigits x)
  | 0x65 => some (loadRegisters x)
  | _ => none

def ofWord? (word : Nat) : Option Instruction :=
  match word / 0x1000 with
  | 0x0 => if word = 0x00E0 then some clearScreen else if word = 0x00EE then some ret else none
  | 0x1 => some (jump (lastAddress word))
  | 0x2 => some (call (lastAddress word))
  | 0x3 => some (skipEqual (registerX word) (lastByte word))
  | 0x4 => some (skipNotEqual (registerX word) (lastByte word))
  | 0x6 => some (set (registerX word) (lastByte word))
  | 0x7 => some (addConstant (registerX word) (lastByte word))
  | 0x8 => ofArithmetic? word
  | 0xA => some (setIndex (lastAddress word))
  | 0xC => some (random (registerX word) (lastByte word))
  | 0xD => some (draw (registerX word) (registerY word) (lastDigit word))
  | 0xE => ofKeys? word
  | 0xF => ofDevices? word
  | _ => none

-- The low sixteen bits of an opcode, a negative one in two's complement.
def word (opcode : Int) : Nat :=
  (opcode % 0x10000).toNat

def decode (opcode : Int) : Except Fault Instruction :=
  match ofWord? (word opcode) with
  | some instruction => .ok instruction
  | none => .error (.unimplemented opcode)

end ChipEight.Instruction
