import ChipEight.Proofs.Decode

set_option autoImplicit false

namespace ChipEight

theorem Pattern.admits_iff_getD (digit : Option Nat) (actual : Nat) :
    Admits digit actual ↔ digit.getD actual = actual := by
  cases digit <;> simp [eq_comm]

namespace Instruction

def spelled (first second third fourth : Fin 16) : Int :=
  0x1000 * first.val + 0x100 * second.val + 0x10 * third.val + fourth.val

section Spelled

variable (first second third fourth : Fin 16)

theorem word_spelled :
    word (spelled first second third fourth) =
      0x1000 * first.val + 0x100 * second.val + 0x10 * third.val + fourth.val := by
  simp only [word, spelled]
  omega

@[simp]
theorem registerX_spelled : registerX (word (spelled first second third fourth)) = second := by
  apply Fin.ext
  simp only [registerX, word_spelled]
  omega

@[simp]
theorem registerY_spelled : registerY (word (spelled first second third fourth)) = third := by
  apply Fin.ext
  simp only [registerY, word_spelled]
  omega

@[simp]
theorem lastDigit_spelled : lastDigit (word (spelled first second third fourth)) = fourth := by
  apply Fin.ext
  simp only [lastDigit, word_spelled]
  omega

theorem decode_spelled (operation : Operation)
    (fits : operation.pattern.first.getD first.val = first.val ∧
      operation.pattern.second.getD second.val = second.val ∧
      operation.pattern.third.getD third.val = third.val ∧
      operation.pattern.fourth.getD fourth.val = fourth.val) :
    decode (spelled first second third fourth) =
      .ok (operation.instruction (word (spelled first second third fourth))) := by
  have highest : word (spelled first second third fourth) / 0x1000 % 0x10 = first.val := by
    rw [word_spelled]
    omega
  have higher : word (spelled first second third fourth) / 0x100 % 0x10 = second.val :=
    congrArg Fin.val (registerX_spelled first second third fourth)
  have lower : word (spelled first second third fourth) / 0x10 % 0x10 = third.val :=
    congrArg Fin.val (registerY_spelled first second third fourth)
  have lowest : word (spelled first second third fourth) % 0x10 = fourth.val :=
    congrArg Fin.val (lastDigit_spelled first second third fourth)
  have written : operation.pattern.Matches (word (spelled first second third fourth)) := by
    simpa only [Pattern.Matches, Pattern.admits_iff_getD, highest, higher, lower, lowest] using fits
  simp only [decode, ofWord?_of_matches (word_lt _) written]

end Spelled

variable (x y height : Fin 16)

theorem decode_add : decode (spelled 0x8 x y 0x4) = .ok (.add x y) := by
  simpa [Operation.instruction] using decode_spelled 0x8 x y 0x4 .add ⟨rfl, rfl, rfl, rfl⟩

theorem decode_subtract : decode (spelled 0x8 x y 0x5) = .ok (.subtract x y) := by
  simpa [Operation.instruction] using decode_spelled 0x8 x y 0x5 .subtract ⟨rfl, rfl, rfl, rfl⟩

theorem decode_draw : decode (spelled 0xD x y height) = .ok (.draw x y height) := by
  simpa [Operation.instruction] using decode_spelled 0xD x y height .draw ⟨rfl, rfl, rfl, rfl⟩

theorem decode_selectGlyph : decode (spelled 0xF x 0x2 0x9) = .ok (.selectGlyph x) := by
  simpa [Operation.instruction] using decode_spelled 0xF x 0x2 0x9 .selectGlyph ⟨rfl, rfl, rfl, rfl⟩

end Instruction

end ChipEight
