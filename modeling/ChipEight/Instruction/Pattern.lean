import ChipEight.Instruction.Basic

set_option autoImplicit false

namespace ChipEight

structure Pattern where
  first : Option Nat
  second : Option Nat
  third : Option Nat
  fourth : Option Nat
  deriving DecidableEq, Repr

namespace Pattern

def Admits (digit : Option Nat) (actual : Nat) : Prop :=
  ∀ fixed, digit = some fixed → actual = fixed

def Matches (pattern : Pattern) (word : Nat) : Prop :=
  Admits pattern.first (word / 0x1000 % 0x10) ∧ Admits pattern.second (word / 0x100 % 0x10) ∧
    Admits pattern.third (word / 0x10 % 0x10) ∧ Admits pattern.fourth (word % 0x10)

end Pattern

def Operation.pattern : Operation → Pattern
  | clearScreen => ⟨some 0x0, some 0x0, some 0xE, some 0x0⟩
  | ret => ⟨some 0x0, some 0x0, some 0xE, some 0xE⟩
  | jump => ⟨some 0x1, none, none, none⟩
  | call => ⟨some 0x2, none, none, none⟩
  | skipEqual => ⟨some 0x3, none, none, none⟩
  | skipNotEqual => ⟨some 0x4, none, none, none⟩
  | set => ⟨some 0x6, none, none, none⟩
  | addConstant => ⟨some 0x7, none, none, none⟩
  | copy => ⟨some 0x8, none, none, some 0x0⟩
  | and => ⟨some 0x8, none, none, some 0x2⟩
  | add => ⟨some 0x8, none, none, some 0x4⟩
  | subtract => ⟨some 0x8, none, none, some 0x5⟩
  | setIndex => ⟨some 0xA, none, none, none⟩
  | random => ⟨some 0xC, none, none, none⟩
  | draw => ⟨some 0xD, none, none, none⟩
  | skipPressed => ⟨some 0xE, none, some 0x9, some 0xE⟩
  | skipReleased => ⟨some 0xE, none, some 0xA, some 0x1⟩
  | readDelay => ⟨some 0xF, none, some 0x0, some 0x7⟩
  | setDelay => ⟨some 0xF, none, some 0x1, some 0x5⟩
  | setSound => ⟨some 0xF, none, some 0x1, some 0x8⟩
  | addIndex => ⟨some 0xF, none, some 0x1, some 0xE⟩
  | selectGlyph => ⟨some 0xF, none, some 0x2, some 0x9⟩
  | storeDigits => ⟨some 0xF, none, some 0x3, some 0x3⟩
  | loadRegisters => ⟨some 0xF, none, some 0x6, some 0x5⟩

end ChipEight
