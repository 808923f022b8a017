import ChipEight.Proofs.Cycle

set_option autoImplicit false

namespace ChipEight

theorem Operation.eq_draw_of_instruction {operation : Operation} {word : Nat}
    {x y height : Fin 16} (decoded : operation.instruction word = .draw x y height) :
    operation = .draw ∧ x = Instruction.registerX word ∧ y = Instruction.registerY word ∧
      height = Instruction.lastDigit word := by
  have named := congrArg Instruction.operation decoded
  rw [operation_instruction] at named
  subst named
  cases decoded
  exact ⟨rfl, rfl, rfl, rfl⟩

namespace Machine

open Instruction

theorem mem_spritePoints {height : Nat} {originX originY : UInt8} {x y : Int}
    (member : (x, y) ∈ (spriteCells height).map (cellPoint originX originY)) :
    (originX.toNat ≤ x ∧ x < originX.toNat + 8) ∧
      originY.toNat ≤ y ∧ y < originY.toNat + height := by
  obtain ⟨⟨row, column⟩, cell, same⟩ := List.mem_map.mp member
  have bounds := mem_spriteCells.mp cell
  simp only [cellPoint, Prod.mk.injEq] at same
  omega

/-- What is left in the registers and on the display when a cycle of this machine halts. -/
structure Residue (machine : Machine) (registers : Vector UInt8 16) (display : Display 64 32) :
    Prop where
  untouched : (∀ word, machine.memory.readWord machine.pc = .ok word →
      ¬ Operation.draw.pattern.Matches word) →
    registers = machine.registers ∧ display = machine.display
  others : ∀ x, x ≠ 15 → registers.get x = machine.registers.get x
  flag : registers.get 15 = machine.registers.get 15 ∨ registers.get 15 = 1
  pixels : ∀ word, machine.memory.readWord machine.pc = .ok word → ∀ x y : Int,
    ¬ (((machine.register (registerX word)).toNat ≤ x ∧
        x < (machine.register (registerX word)).toNat + 8) ∧
      (machine.register (registerY word)).toNat ≤ y ∧
        y < (machine.register (registerY word)).toNat + word % 16) →
    display.byteAt x y = machine.display.byteAt x y

theorem Residue.nothing (machine : Machine) : machine.Residue machine.registers machine.display where
  untouched := fun _ => ⟨rfl, rfl⟩
  others := fun _ _ => rfl
  flag := .inl rfl
  pixels := fun _ _ _ _ _ => rfl

theorem Residue.painted {machine drawn : Machine} {word : Nat}
    (fetched : machine.memory.readWord machine.pc = .ok word)
    (written : Operation.draw.pattern.Matches word)
    (painted : Painted ((spriteCells (lastDigit word).val).map
      (cellPoint (machine.register (registerX word)) (machine.register (registerY word))))
      machine.ready drawn) :
    machine.Residue drawn.registers drawn.display where
  untouched := fun other => absurd written (other word fetched)
  others := painted.registers
  flag := painted.flag
  pixels := by
    intro other same x y outside
    cases fetched.symm.trans same
    exact painted.pixels x y fun member => outside (mem_spritePoints member)

theorem halt_residue {tracing : Bool} {machine : Machine}
    (gaveUp : (machine.cycle tracing).result = .ok false) :
    ∃ fault registers display, machine.Residue registers display ∧
      machine.cycle tracing =
        { machine with registers := registers, display := display, draw := false }.halted fault := by
  have course := machine.cycle_course tracing
  generalize machine.cycle tracing = cycled at gaveUp course
  cases course with
  | completed => cases gaveUp
  | escaped => cases gaveUp
  | outside => exact ⟨_, _, _, Residue.nothing machine, rfl⟩
  | unknown => exact ⟨_, _, _, Residue.nothing machine, rfl⟩
  -- Every instruction but one checks all it needs before it changes anything.
  | broken fetched written decoded refused kind breaks =>
    cases breaks with
    | bounds => exact ⟨_, _, _, Residue.nothing machine, rfl⟩
    | delay => exact ⟨_, _, _, Residue.nothing machine, rfl⟩
    | draw x y height _ painted =>
      obtain ⟨rfl, rfl, rfl, rfl⟩ := Operation.eq_draw_of_instruction decoded
      have residue := Residue.painted fetched written painted
      obtain ⟨registers, display, rfl⟩ := painted.frame
      exact ⟨_, registers, display, residue, rfl⟩

end Machine

end ChipEight
