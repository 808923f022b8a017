import ChipEight.Font
import ChipEight.Row

set_option autoImplicit false

namespace ChipEight

structure Memory where
  bytes : Vector UInt8 4096
  deriving DecidableEq

namespace Memory

def size : Nat := 4096

def programStart : Nat := 0x200

def overlay (memory : Memory) (start : Nat) (block : Array UInt8) : Memory where
  bytes := Vector.ofFn fun address =>
    if start ≤ address.val then (block[address.val - start]?).getD (memory.bytes.get address)
    else memory.bytes.get address

def loadFont (memory : Memory) : Memory :=
  memory.overlay Font.start Font.glyphs

def fresh : Memory :=
  loadFont ⟨Vector.replicate 4096 0⟩

theorem address_lt {address : Int} (inside : 0 ≤ address ∧ address < 4096) :
    address.toNat < 4096 := by
  omega

def read (memory : Memory) (address : Int) : Except Fault UInt8 :=
  if inside : 0 ≤ address ∧ address < 4096 then
    .ok (memory.bytes.get ⟨address.toNat, address_lt inside⟩)
  else
    .error (.addressOutside address)

def write (memory : Memory) (index value : Int) : Except Fault Memory := do
  return ⟨← Row.store memory.bytes index value⟩

def checkRange (address length : Int) : Except Fault Unit :=
  if 0 ≤ address ∧ address + length ≤ size then .ok () else .error (.rangeOutside address length)

def readWord (memory : Memory) (address : Int) : Except Fault Nat := do
  let high ← memory.read address
  let low ← memory.read (address + 1)
  return high.toNat * 256 + low.toNat

def loadProgram (memory : Memory) (program : Array UInt8) : Except Fault (Nat × Memory) :=
  if program.size ≤ size - programStart then
    .ok (program.size, memory.overlay programStart program)
  else
    .error (.programTooLong program.size)

end Memory

end ChipEight
