import ChipEight.Instruction.Decode
import ChipEight.Instruction.Pattern

set_option autoImplicit false

namespace ChipEight

@[simp]
theorem Pattern.admits_none (digit : Nat) : Pattern.Admits none digit ↔ True := by
  simp [Admits]

@[simp]
theorem Pattern.admits_some (fixed digit : Nat) :
    Pattern.Admits (some fixed) digit ↔ digit = fixed := by
  simp [Admits]

open Instruction in
def Operation.instruction (word : Nat) : Operation → Instruction
  | clearScreen => .clearScreen
  | ret => .ret
  | jump => .jump (lastAddress word)
  | call => .call (lastAddress word)
  | skipEqual => .skipEqual (registerX word) (lastByte word)
  | skipNotEqual => .skipNotEqual (registerX word) (lastByte word)
  | set => .set (registerX word) (lastByte word)
  | addConstant => .addConstant (registerX word) (lastByte word)
  | copy => .copy (registerX word) (registerY word)
  | and => .and (registerX word) (registerY word)
  | add => .add (registerX word) (registerY word)
  | subtract => .subtract (registerX word) (registerY word)
  | setIndex => .setIndex (lastAddress word)
  | random => .random (registerX word) (lastByte word)
  | draw => .draw (registerX word) (registerY word) (lastDigit word)
  | skipPressed => .skipPressed (registerX word)
  | skipReleased => .skipReleased (registerX word)
  | readDelay => .readDelay (registerX word)
  | setDelay => .setDelay (registerX word)
  | setSound => .setSound (registerX word)
  | addIndex => .addIndex (registerX word)
  | selectGlyph => .selectGlyph (registerX word)
  | storeDigits => .storeDigits (registerX word)
  | loadRegisters => .loadRegisters (registerX word)

@[simp]
theorem Operation.operation_instruction (operation : Operation) (word : Nat) :
    (operation.instruction word).operation = operation := by
  cases operation <;> rfl

namespace Instruction

variable {word : Nat} {instruction : Instruction} {operation : Operation}

theorem ofWord?_of_matches (small : word < 0x10000) (written : operation.pattern.Matches word) :
    ofWord? word = some (operation.instruction word) := by
  cases operation <;> simp only [Operation.pattern, Pattern.Matches, Pattern.admits_some,
    Pattern.admits_none, and_true, true_and] at written
  case clearScreen =>
    have same : word = 0x00E0 := by omega
    rw [same]
    rfl
  case ret =>
    have same : word = 0x00EE := by omega
    rw [same]
    rfl
  case copy | and | add | subtract =>
    have family : word / 0x1000 = 0x8 := by omega
    simp only [ofWord?, family, ofArithmetic?, written, Operation.instruction]
  case skipPressed =>
    have family : word / 0x1000 = 0xE := by omega
    have member : word % 0x100 = 0x9E := by omega
    simp only [ofWord?, family, ofKeys?, member, Operation.instruction]
  case skipReleased =>
    have family : word / 0x1000 = 0xE := by omega
    have member : word % 0x100 = 0xA1 := by omega
    simp only [ofWord?, family, ofKeys?, member, Operation.instruction]
  case readDelay | setDelay | setSound | addIndex | selectGlyph | storeDigits | loadRegisters =>
    have family : word / 0x1000 = 0xF := by omega
    have member : word % 0x100 = word / 0x10 % 0x10 * 0x10 + word % 0x10 := by omega
    simp only [written] at member
    simp only [ofWord?, family, ofDevices?, member, Operation.instruction]
  all_goals
    rw [Nat.mod_eq_of_lt (show word / 0x1000 < 0x10 by omega)] at written
    simp only [ofWord?, written, Operation.instruction]

theorem matches_of_ofWord? (found : ofWord? word = some instruction) :
    instruction.operation.pattern.Matches word ∧
      instruction = instruction.operation.instruction word := by
  simp only [ofWord?, ofArithmetic?, ofKeys?, ofDevices?] at found
  -- There is a case for every branch of the decoder. In most of them the first digit is known from
  -- the family, and the last ones from the member.
  repeat' split at found
  all_goals cases found
  all_goals
    refine ⟨?_, ?_⟩
    · simp only [operation, Operation.pattern, Pattern.Matches, Pattern.admits_some,
        Pattern.admits_none, and_true, true_and]
      omega
    · rfl

theorem ofWord?_eq_some_iff (small : word < 0x10000) :
    ofWord? word = some instruction ↔
      ∃ operation : Operation,
        operation.pattern.Matches word ∧ operation.instruction word = instruction := by
  constructor
  · intro found
    have read := matches_of_ofWord? found
    exact ⟨instruction.operation, read.1, read.2.symm⟩
  · rintro ⟨operation, written, rfl⟩
    exact ofWord?_of_matches small written

theorem word_of_small (small : word < 0x10000) : Instruction.word word = word := by
  simp only [Instruction.word]
  omega

theorem decode_of_matches (small : word < 0x10000) (written : operation.pattern.Matches word) :
    decode word = .ok (operation.instruction word) := by
  simp only [decode, word_of_small small, ofWord?_of_matches small written]

theorem word_lt (opcode : Int) : Instruction.word opcode < 0x10000 := by
  simp only [Instruction.word]
  omega

theorem decode_opcode_cases (opcode : Int) :
    (∃ operation : Operation, operation.pattern.Matches (Instruction.word opcode) ∧
      decode opcode = .ok (operation.instruction (Instruction.word opcode))) ∨
    (∀ operation : Operation, ¬ operation.pattern.Matches (Instruction.word opcode)) ∧
      decode opcode = .error (.unimplemented opcode) := by
  have small := word_lt opcode
  simp only [decode]
  cases found : ofWord? (Instruction.word opcode) with
  | some instruction =>
    obtain ⟨operation, written, rfl⟩ := (ofWord?_eq_some_iff small).mp found
    exact .inl ⟨operation, written, rfl⟩
  | none =>
    refine .inr ⟨fun operation written => ?_, rfl⟩
    cases found.symm.trans (ofWord?_of_matches small written)

theorem decode_cases (small : word < 0x10000) :
    (∃ operation : Operation, operation.pattern.Matches word ∧
      decode word = .ok (operation.instruction word)) ∨
    (∀ operation : Operation, ¬ operation.pattern.Matches word) ∧
      decode word = .error (.unimplemented word) := by
  have course := decode_opcode_cases word
  rwa [word_of_small small] at course

theorem operation_unique {other : Operation} (small : word < 0x10000)
    (written : operation.pattern.Matches word) (same : other.pattern.Matches word) :
    operation = other := by
  have equal : operation.instruction word = other.instruction word :=
    Option.some.inj
      ((ofWord?_of_matches small written).symm.trans (ofWord?_of_matches small same))
  simpa only [Operation.operation_instruction] using congrArg Instruction.operation equal

theorem word_of_matches_ret (small : word < 0x10000)
    (written : Operation.ret.pattern.Matches word) : word = 0x00EE := by
  simp only [Operation.pattern, Pattern.Matches, Pattern.admits_some] at written
  omega

end Instruction

end ChipEight
