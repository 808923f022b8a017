set_option autoImplicit false

namespace ChipEight

inductive Instruction where
  | clearScreen
  | ret
  | jump (target : Fin 4096)
  | call (target : Fin 4096)
  | skipEqual (x : Fin 16) (value : UInt8)
  | skipNotEqual (x : Fin 16) (value : UInt8)
  | set (x : Fin 16) (value : UInt8)
  | addConstant (x : Fin 16) (value : UInt8)
  | copy (x y : Fin 16)
  | and (x y : Fin 16)
  | add (x y : Fin 16)
  | subtract (x y : Fin 16)
  | setIndex (address : Fin 4096)
  | random (x : Fin 16) (mask : UInt8)
  | draw (x y : Fin 16) (height : Fin 16)
  | skipPressed (x : Fin 16)
  | skipReleased (x : Fin 16)
  | readDelay (x : Fin 16)
  | setDelay (x : Fin 16)
  | setSound (x : Fin 16)
  | addIndex (x : Fin 16)
  | selectGlyph (x : Fin 16)
  | storeDigits (x : Fin 16)
  | loadRegisters (x : Fin 16)
  deriving DecidableEq, Repr

inductive Operation where
  | clearScreen | ret | jump | call | skipEqual | skipNotEqual | set | addConstant
  | copy | and | add | subtract | setIndex | random | draw | skipPressed | skipReleased
  | readDelay | setDelay | setSound | addIndex | selectGlyph | storeDigits | loadRegisters
  deriving DecidableEq, Repr

def Instruction.operation : Instruction → Operation
  | clearScreen => .clearScreen
  | ret => .ret
  | jump _ => .jump
  | call _ => .call
  | skipEqual _ _ => .skipEqual
  | skipNotEqual _ _ => .skipNotEqual
  | set _ _ => .set
  | addConstant _ _ => .addConstant
  | copy _ _ => .copy
  | and _ _ => .and
  | add _ _ => .add
  | subtract _ _ => .subtract
  | setIndex _ => .setIndex
  | random _ _ => .random
  | draw _ _ _ => .draw
  | skipPressed _ => .skipPressed
  | skipReleased _ => .skipReleased
  | readDelay _ => .readDelay
  | setDelay _ => .setDelay
  | setSound _ => .setSound
  | addIndex _ => .addIndex
  | selectGlyph _ => .selectGlyph
  | storeDigits _ => .storeDigits
  | loadRegisters _ => .loadRegisters

end ChipEight
