import ChipEight.Proofs.Decode
import Mathlib.Data.Int.Bitwise

set_option autoImplicit false

namespace ChipEight

namespace Pattern

def digits (pattern : Pattern) : List (Option Nat) :=
  [pattern.first, pattern.second, pattern.third, pattern.fourth]

def mask (pattern : Pattern) : Nat :=
  pattern.digits.foldl (fun mask digit => mask * 0x10 + if digit.isSome then 0xF else 0) 0

def key (pattern : Pattern) : Nat :=
  pattern.digits.foldl (fun key digit => key * 0x10 + digit.getD 0) 0

theorem land_digit (word mask : Nat) :
    word &&& mask = (word / 0x10 &&& mask / 0x10) * 0x10 + (word % 0x10 &&& mask % 0x10) := by
  have quotient := @Nat.and_div_two_pow word mask 4
  have remainder := @Nat.and_mod_two_pow word mask 4
  simp only [Nat.reducePow] at quotient remainder
  omega

theorem land_digit_iff (word mask key : Nat) {digit : Option Nat}
    (small : ∀ fixed ∈ digit, fixed < 0x10) :
    word &&& (mask * 0x10 + if digit.isSome then 0xF else 0) = key * 0x10 + digit.getD 0 ↔
      word / 0x10 &&& mask = key ∧ Admits digit (word % 0x10) := by
  have whole : word % 0x10 &&& 0xF = word % 0x10 :=
    (Nat.and_two_pow_sub_one_eq_mod _ 4).trans (Nat.mod_mod _ _)
  rw [land_digit]
  cases digit with
  | none =>
    simp only [Option.isSome_none, Bool.false_eq_true, if_false, Option.getD_none, admits_none,
      Nat.add_zero, Nat.mul_mod_left, Nat.and_zero, and_true]
    rw [Nat.mul_div_cancel _ (by decide)]
    omega
  | some fixed =>
    have bound := small fixed rfl
    have quotient : (mask * 0x10 + 0xF) / 0x10 = mask := by omega
    have remainder : (mask * 0x10 + 0xF) % 0x10 = 0xF := by omega
    simp only [Option.isSome_some, if_true, Option.getD_some, admits_some, quotient, remainder,
      whole]
    omega

theorem land_mask_iff {pattern : Pattern}
    (small : ∀ digit ∈ pattern.digits, ∀ fixed ∈ digit, fixed < 0x10) (word : Nat) :
    word &&& pattern.mask = pattern.key ↔ pattern.Matches word := by
  obtain ⟨first, second, third, fourth⟩ := pattern
  simp only [digits, List.forall_mem_cons] at small
  simp only [mask, key, digits, List.foldl_cons, List.foldl_nil, Matches]
  rw [land_digit_iff _ _ _ small.2.2.2.1, land_digit_iff _ _ _ small.2.2.1,
    land_digit_iff _ _ _ small.2.1, land_digit_iff _ _ _ small.1]
  simp only [Nat.div_div_eq_div_mul, Nat.reduceMul, Nat.and_zero, true_and, and_assoc]

end Pattern

namespace Instruction

def masks : List (Nat × List Nat) :=
  [(0xFFFF, [0x00E0, 0x00EE]),
    (0xF0FF, [0xE09E, 0xE0A1, 0xF007, 0xF015, 0xF018, 0xF01E, 0xF029, 0xF033, 0xF065]),
    (0xF00F, [0x8000, 0x8002, 0x8004, 0x8005]),
    (0xF000, [0x1000, 0x2000, 0x3000, 0x4000, 0x6000, 0x7000, 0xA000, 0xC000, 0xD000])]

def operations : List (Nat × Operation) :=
  [(0x00E0, .clearScreen), (0x00EE, .ret), (0x1000, .jump), (0x2000, .call),
    (0x3000, .skipEqual), (0x4000, .skipNotEqual), (0x6000, .set), (0x7000, .addConstant),
    (0x8000, .copy), (0x8002, .and), (0x8004, .add), (0x8005, .subtract), (0xA000, .setIndex),
    (0xC000, .random), (0xD000, .draw), (0xE09E, .skipPressed), (0xE0A1, .skipReleased),
    (0xF007, .readDelay), (0xF015, .setDelay), (0xF018, .setSound), (0xF01E, .addIndex),
    (0xF029, .selectGlyph), (0xF033, .storeDigits), (0xF065, .loadRegisters)]

def findKey? (masks : List (Nat × List Nat)) (opcode : Int) : Option Nat :=
  masks.findSome? fun (mask, keys) => keys.find? fun key => opcode.land mask == (key : Int)

def decodeBy? (masks : List (Nat × List Nat)) (opcode : Int) : Option (Except Fault Instruction) :=
  match findKey? masks opcode with
  | none => some (.error (.unimplemented opcode))
  | some key =>
    (operations.lookup key).map fun operation => .ok (operation.instruction (word opcode))

theorem testBit_word (opcode : Int) (place : Nat) :
    (word opcode).testBit place = (decide (place < 16) && opcode.testBit place) := by
  cases opcode with
  | ofNat number =>
    have reduced : word (Int.ofNat number) = number % 2 ^ 16 := by
      simp only [word, Int.ofNat_eq_natCast]
      omega
    rw [reduced, Nat.testBit_mod_two_pow]
    rfl
  | negSucc number =>
    -- The low bits of `-(number + 1)` are those of `number`, each of them turned over.
    have reduced : word (Int.negSucc number) = 2 ^ 16 - (number % 2 ^ 16 + 1) := by
      simp only [word, Int.negSucc_eq]
      omega
    rw [reduced, Nat.testBit_two_pow_sub_succ (Nat.mod_lt _ (by decide)), Nat.testBit_mod_two_pow]
    by_cases low : place < 16 <;> simp [low, Int.testBit]

theorem land_eq_word (opcode : Int) {mask : Nat} (small : mask < 0x10000) :
    opcode.land mask = (word opcode &&& mask : Nat) := by
  have low {place : Nat} (set : mask.testBit place = true) : place < 16 := by
    by_contra high
    have above : mask < 2 ^ place :=
      Nat.lt_of_lt_of_le small (Nat.pow_le_pow_right Nat.two_pos (Nat.not_lt.mp high))
    cases set.symm.trans (Nat.testBit_lt_two_pow above)
  cases opcode with
  | ofNat number =>
    refine congrArg Int.ofNat (Nat.eq_of_testBit_eq fun place => ?_)
    rw [Nat.testBit_and, Nat.testBit_and, testBit_word]
    cases set : mask.testBit place
    · simp
    · simp [low set, Int.testBit]
  | negSucc number =>
    refine congrArg Int.ofNat (Nat.eq_of_testBit_eq fun place => ?_)
    rw [Nat.testBit_ldiff, Nat.testBit_and, testBit_word]
    cases set : mask.testBit place
    · simp
    · simp [low set, Int.testBit]

theorem operation_of_key : ∀ entry ∈ masks, ∀ key ∈ entry.2,
    ∃ operation ∈ operations.lookup key,
      operation.pattern.mask = entry.1 ∧ operation.pattern.key = key := by
  decide

theorem key_of_operation (operation : Operation) :
    ∃ entry ∈ masks, entry.1 = operation.pattern.mask ∧ operation.pattern.key ∈ entry.2 := by
  cases operation <;> decide

theorem land_pattern_iff (operation : Operation) (opcode : Int) :
    opcode.land operation.pattern.mask = operation.pattern.key ↔
      operation.pattern.Matches (word opcode) := by
  have digits : ∀ digit ∈ operation.pattern.digits, ∀ fixed ∈ digit, fixed < 0x10 := by
    cases operation <;> decide
  have small : operation.pattern.mask < 0x10000 := by
    cases operation <;> decide
  rw [land_eq_word opcode small, Int.natCast_inj]
  exact Pattern.land_mask_iff digits (word opcode)

variable {order : List (Nat × List Nat)} {opcode : Int}

theorem findKey?_found {key : Nat} (same : order.Perm masks)
    (found : findKey? order opcode = some key) :
    ∃ operation ∈ operations.lookup key, operation.pattern.Matches (word opcode) := by
  obtain ⟨⟨mask, keys⟩, member, fits⟩ := List.exists_of_findSome?_eq_some found
  obtain ⟨operation, named, rfl, rfl⟩ :=
    operation_of_key _ (same.mem_iff.mp member) key (List.mem_of_find?_eq_some fits)
  have equal := List.find?_some fits
  exact ⟨operation, named, (land_pattern_iff operation opcode).mp (eq_of_beq equal)⟩

theorem findKey?_missing (same : order.Perm masks) (missing : findKey? order opcode = none)
    (operation : Operation) : ¬ operation.pattern.Matches (word opcode) := by
  intro written
  obtain ⟨entry, member, mask, listed⟩ := key_of_operation operation
  have unfound := List.findSome?_eq_none_iff.mp missing entry (same.mem_iff.mpr member)
  have unfit := List.find?_eq_none.mp unfound operation.pattern.key listed
  rw [mask, (land_pattern_iff operation opcode).mpr written] at unfit
  exact unfit (beq_self_eq_true _)

theorem decodeBy?_eq_decode (same : order.Perm masks) (opcode : Int) :
    decodeBy? order opcode = some (decode opcode) := by
  simp only [decodeBy?]
  rcases decode_opcode_cases opcode with ⟨operation, written, decoded⟩ | ⟨unwritten, unknown⟩
  · cases found : findKey? order opcode with
    | none => exact absurd written (findKey?_missing same found operation)
    | some key =>
      obtain ⟨other, named, matching⟩ := findKey?_found same found
      rw [operation_unique (word_lt opcode) written matching] at decoded
      simp only [decoded, Option.mem_def.mp named, Option.map_some]
  · cases found : findKey? order opcode with
    | none => rw [unknown]
    | some key =>
      obtain ⟨operation, _, written⟩ := findKey?_found same found
      exact absurd written (unwritten operation)

/-- An opcode is decoded by its low sixteen bits alone, in whatever order the masks are tried. -/
theorem decode_exact (opcode : Int) :
    (∀ operation : Operation, decode opcode = .ok (operation.instruction (word opcode)) ↔
      operation.pattern.Matches (word opcode)) ∧
    (decode opcode = .error (.unimplemented opcode) ↔
      ∀ operation : Operation, ¬ operation.pattern.Matches (word opcode)) ∧
    (∀ place, (word opcode).testBit place = (decide (place < 16) && opcode.testBit place)) ∧
    (∀ other, word other = word opcode → (decode other).toOption = (decode opcode).toOption) ∧
    (∀ operation other : Operation, operation.pattern.Matches (word opcode) →
      other.pattern.Matches (word opcode) → operation = other) ∧
    (∀ order : List (Nat × List Nat), order.Perm masks →
      decodeBy? order opcode = some (decode opcode)) ∧
    ∀ entry ∈ masks, ∀ key ∈ entry.2, (operations.lookup key).isSome := by
  have unique {operation other : Operation} (written : operation.pattern.Matches (word opcode))
      (matching : other.pattern.Matches (word opcode)) : operation = other :=
    operation_unique (word_lt opcode) written matching
  refine ⟨fun operation => ?_, ?_, testBit_word opcode, fun other same => ?_, fun _ _ => unique,
    fun order same => decodeBy?_eq_decode same opcode, fun entry member key listed => ?_⟩
  · rcases decode_opcode_cases opcode with ⟨other, written, decoded⟩ | ⟨unwritten, unknown⟩
    · rw [decoded]
      refine ⟨fun equal => ?_, fun matching => by rw [unique written matching]⟩
      have named := congrArg Instruction.operation (Except.ok.inj equal)
      rw [Operation.operation_instruction, Operation.operation_instruction] at named
      exact named ▸ written
    · rw [unknown]
      exact iff_of_false nofun (unwritten operation)
  · rcases decode_opcode_cases opcode with ⟨operation, written, decoded⟩ | ⟨unwritten, unknown⟩
    · rw [decoded]
      exact iff_of_false nofun fun unwritten => unwritten operation written
    · exact iff_of_true unknown unwritten
  · simp only [decode, same]
    cases ofWord? (word opcode) <;> rfl
  · obtain ⟨operation, named, _⟩ := operation_of_key entry member key listed
    exact Option.isSome_iff_exists.mpr ⟨operation, named⟩

end Instruction

end ChipEight
