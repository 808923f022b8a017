import ChipEight.Instruction.Basic
import ChipEight.Machine.Basic

set_option autoImplicit false

namespace ChipEight

structure Outcome where
  machine : Machine
  fault : Option Fault

namespace Machine

def advance (machine : Machine) : Outcome :=
  ⟨{ machine with pc := machine.pc + 2 }, none⟩

def skipWhen (machine : Machine) (condition : Bool) : Outcome :=
  ⟨{ machine with pc := machine.pc + if condition then 4 else 2 }, none⟩

def jumpTo (machine : Machine) (address : Int) : Outcome :=
  ⟨{ machine with pc := address }, none⟩

def failed (machine : Machine) (fault : Fault) : Outcome :=
  ⟨machine, some fault⟩

def register (machine : Machine) (x : Fin 16) : UInt8 :=
  machine.registers.get x

def setRegister (machine : Machine) (x : Fin 16) (value : UInt8) : Machine :=
  { machine with registers := Row.replace machine.registers x value }

-- Writes a flag into `VF` and then a result into `Vx`, so that with `x = F` the result stays.
def setWithFlag (machine : Machine) (x : Fin 16) (flag : Bool) (result : UInt8) : Machine :=
  (machine.setRegister 15 (if flag then 1 else 0)).setRegister x result

def spriteCells (height : Nat) : List (Nat × Nat) :=
  (List.range height).flatMap fun row => (List.range 8).map fun column => (row, column)

def plotCell (machine : Machine) (originX originY : UInt8) (row column : Nat) : Outcome :=
  match machine.memory.read (machine.index + row) with
  | .error fault => machine.failed fault
  | .ok byte =>
    match machine.display.write (originX.toNat + column) (originY.toNat + row)
        (byte.toNat.testBit (7 - column)) with
    | .error fault => machine.failed fault
    | .ok (erased, display) =>
      let flagged := if erased then machine.setRegister 15 1 else machine
      ⟨{ flagged with display := display }, none⟩

def plot (machine : Machine) (originX originY : UInt8) : List (Nat × Nat) → Outcome
  | [] => ⟨machine, none⟩
  | (row, column) :: rest =>
    let drawn := machine.plotCell originX originY row column
    match drawn.fault with
    | some _ => drawn
    | none => plot drawn.machine originX originY rest

def storeBytes (machine : Machine) (address : Int) : List UInt8 → Outcome
  | [] => ⟨machine, none⟩
  | byte :: rest =>
    match machine.memory.write address byte.toNat with
    | .error fault => machine.failed fault
    | .ok memory => storeBytes { machine with memory := memory } (address + 1) rest

def loadBytes (machine : Machine) : List (Fin 16) → Outcome
  | [] => ⟨machine, none⟩
  | register :: rest =>
    match machine.memory.read machine.index with
    | .error fault => machine.failed fault
    | .ok byte =>
      let loaded := machine.setRegister register byte
      loadBytes { loaded with index := machine.index + 1 } rest

def decimalDigits (value : UInt8) : List UInt8 :=
  [value / 100, value / 10 % 10, value % 10]

-- The registers that `Fx65` loads, in order: all up to `Vx`, or in legacy mode `Vx` each time.
def loadTargets (legacy : Bool) (x : Fin 16) : List (Fin 16) :=
  if legacy then List.replicate (x.val + 1) x
  else (List.finRange 16).take (x.val + 1)

end Machine

namespace Outcome

def thenAdvance (outcome : Outcome) : Outcome :=
  match outcome.fault with
  | some _ => outcome
  | none => outcome.machine.advance

def thenDraw (outcome : Outcome) : Outcome :=
  match outcome.fault with
  | some _ => outcome
  | none => ⟨{ outcome.machine with draw := true }, none⟩

end Outcome

namespace Machine

def returnToCaller (machine : Machine) : Outcome :=
  match machine.stack.pop with
  | .error fault => machine.failed fault
  | .ok (address, stack) => { machine with stack := stack }.jumpTo (address + 2)

def callTo (machine : Machine) (target : Int) : Outcome :=
  match machine.stack.push machine.pc with
  | .error fault => machine.failed fault
  | .ok stack => { machine with stack := stack }.jumpTo target

def drawSprite (machine : Machine) (x y : Fin 16) (height : Nat) : Outcome :=
  (machine.plot (machine.register x) (machine.register y) (spriteCells height)).thenDraw.thenAdvance

def skipOnKey (machine : Machine) (x : Fin 16) (down : Bool) : Outcome :=
  match machine.keypad.read (machine.register x).toNat with
  | .error fault => machine.failed fault
  | .ok pressed => machine.skipWhen (pressed == down)

-- The delay timer is stored as a byte, whatever it was set to from outside.
def readDelay (machine : Machine) (x : Fin 16) : Outcome :=
  match Row.byte machine.delay with
  | .error fault => machine.failed fault
  | .ok value => (machine.setRegister x value).advance

def storeDigits (machine : Machine) (x : Fin 16) : Outcome :=
  if machine.legacy then
    machine.advance
  else
    match Memory.checkRange machine.index 3 with
    | .error fault => machine.failed fault
    | .ok () => (machine.storeBytes machine.index (decimalDigits (machine.register x))).thenAdvance

def loadRegisters (machine : Machine) (x : Fin 16) : Outcome :=
  match Memory.checkRange machine.index (x.val + 1) with
  | .error fault => machine.failed fault
  | .ok () => (machine.loadBytes (loadTargets machine.legacy x)).thenAdvance

def execute (machine : Machine) : Instruction → Outcome
  | .clearScreen => { machine with display := machine.display.clear, draw := true }.advance
  | .ret => machine.returnToCaller
  | .jump target => machine.jumpTo target.val
  | .call target => machine.callTo target.val
  | .skipEqual x value => machine.skipWhen (machine.register x == value)
  | .skipNotEqual x value => machine.skipWhen (machine.register x != value)
  | .set x value => (machine.setRegister x value).advance
  | .addConstant x value => (machine.setRegister x (machine.register x + value)).advance
  | .copy x y => (machine.setRegister x (machine.register y)).advance
  | .and x y => (machine.setRegister x (machine.register x &&& machine.register y)).advance
  | .add x y =>
    let left := machine.register x
    let right := machine.register y
    (machine.setWithFlag x (255 < left.toNat + right.toNat) (left + right)).advance
  | .subtract x y =>
    let left := machine.register x
    let right := machine.register y
    (machine.setWithFlag x (right ≤ left) (left - right)).advance
  | .setIndex address => { machine with index := address.val }.advance
  | .random x mask =>
    let (byte, random) := machine.random.next
    ({ machine with random := random }.setRegister x (byte &&& mask)).advance
  | .draw x y height => machine.drawSprite x y height.val
  | .skipPressed x => machine.skipOnKey x true
  | .skipReleased x => machine.skipOnKey x false
  | .readDelay x => machine.readDelay x
  | .setDelay x => { machine with delay := (machine.register x).toNat }.advance
  | .setSound x => { machine with sound := (machine.register x).toNat }.advance
  | .addIndex x =>
    { machine with index := (machine.index + (machine.register x).toNat) % 0x10000 }.advance
  | .selectGlyph x =>
    { machine with index := Font.glyphAddress (machine.register x).toNat }.advance
  | .storeDigits x => machine.storeDigits x
  | .loadRegisters x => machine.loadRegisters x

end Machine

end ChipEight
