import ChipEight.Proofs.Assembly
import ChipEight.Proofs.Lockstep

set_option autoImplicit false

namespace ChipEight

namespace Instruction

theorem lastByte_inj {word other : Nat} (same : lastByte word = lastByte other) :
    word % 0x100 = other % 0x100 := by
  have equal := congrArg UInt8.toNat same
  simpa [lastByte] using equal

theorem word_of_instruction {operation : Operation} {word other : Nat} (small : word < 0x10000)
    (otherSmall : other < 0x10000) (written : operation.pattern.Matches word)
    (otherWritten : operation.pattern.Matches other)
    (same : operation.instruction word = operation.instruction other) : word = other := by
  -- The form fixes the digits that are no operands, and the instruction tells all the others.
  cases operation <;>
    simp only [Operation.pattern, Pattern.Matches, Pattern.admits_some, Pattern.admits_none,
      and_true, true_and] at written otherWritten <;>
    simp [Operation.instruction, registerX, registerY, lastDigit, lastAddress] at same
  case skipEqual | skipNotEqual | set | addConstant | random =>
    have bytes := lastByte_inj same.2
    omega
  all_goals omega

end Instruction

def CycleResult.silent (cycled : CycleResult) : CycleResult :=
  { cycled with printed := [] }

namespace Machine

variable {machine first second : Machine}

theorem printed_of_success (success : (machine.cycle true).result = .ok true) :
    ∃ (word : Nat) (operation : Operation) (after : Machine),
      machine.memory.readWord machine.pc = .ok word ∧ operation.pattern.Matches word ∧
      (machine.cycle true).printed =
        [.output (traceLine machine.ready after (operation.instruction word))] := by
  obtain ⟨word, operation, after, fetched, written, executed, _⟩ := executed_of_success success
  have decoded := Instruction.decode_of_matches (Memory.readWord_ok _ fetched).2 written
  have refetched : machine.ready.memory.readWord machine.ready.pc = .ok word := fetched
  have obeyed : machine.ready.fetchAndObey true = ⟨⟨after, none⟩,
      [.output (traceLine machine.ready after (operation.instruction word))]⟩ := by
    simp [fetchAndObey, refetched, obey, decoded, executed]
  exact ⟨word, operation, after, fetched, written, by rw [cycle_complete true obeyed]⟩

theorem untraced_of_failure (failure : (machine.cycle true).result ≠ .ok true) (line : String) :
    .output line ∉ (machine.cycle true).printed := by
  have course := machine.cycle_course true
  generalize machine.cycle true = cycled at failure course
  cases course with
  | completed => exact absurd rfl failure
  | escaped => simp
  | _ => simp [halted, haltReport]

theorem same_of_traceLine {word other : Nat} {operation otherOperation : Operation}
    {after otherAfter : Machine} (fetched : first.memory.readWord first.pc = .ok word)
    (otherFetched : second.memory.readWord second.pc = .ok other)
    (written : operation.pattern.Matches word)
    (otherWritten : otherOperation.pattern.Matches other)
    (same : traceLine first.ready after (operation.instruction word) =
      traceLine second.ready otherAfter (otherOperation.instruction other)) :
    first.pc = second.pc ∧ word = other := by
  obtain ⟨inside, small⟩ := Memory.readWord_ok _ fetched
  obtain ⟨otherInside, otherSmall⟩ := Memory.readWord_ok _ otherFetched
  have read := ofTraceLine?_traceLine first.ready after (operation.instruction word) inside.1
  have reread := ofTraceLine?_traceLine second.ready otherAfter (otherOperation.instruction other)
    otherInside.1
  rw [same, reread] at read
  obtain ⟨address, instruction⟩ := Prod.mk.inj (Option.some.inj read)
  -- The same instruction has the same form, and a form is filled in by one word only.
  have named := congrArg Instruction.operation instruction
  simp only [Operation.operation_instruction] at named
  subst named
  refine ⟨?_, Instruction.word_of_instruction small otherSmall written otherWritten
    instruction.symm⟩
  have pc : second.pc.toNat = first.pc.toNat := address
  omega

theorem fetchAndObey_outcome (tracing : Bool) (machine : Machine) :
    (machine.fetchAndObey tracing).outcome = (machine.fetchAndObey false).outcome := by
  simp only [fetchAndObey, obey]
  split
  next => rfl
  next =>
    split
    next => rfl
    next => split <;> rfl

theorem cycle_silent (tracing : Bool) (machine : Machine) :
    (machine.cycle tracing).silent = (machine.cycle false).silent := by
  have same := machine.ready.fetchAndObey_outcome tracing
  rw [ready] at same
  simp only [cycle, same, CycleResult.silent]
  split
  next => rfl
  next => split <;> rfl

theorem cycles_silent (tracing : Bool) (machine : Machine) (keypads : List Keypad) :
    (machine.cycles tracing keypads).map CycleResult.silent =
      (machine.cycles false keypads).map CycleResult.silent := by
  induction keypads generalizing machine with
  | nil => rfl
  | cons keypad rest ih =>
    have here := (machine.hold keypad).cycle_silent tracing
    have next : ((machine.hold keypad).cycle tracing).machine =
        ((machine.hold keypad).cycle false).machine := by
      have equal := congrArg CycleResult.machine here
      exact equal
    have later := ih ((machine.hold keypad).cycle false).machine
    simp only [cycles, visited, List.map_cons, next, here] at later ⊢
    rw [later]

/-- Equal lines of a trace come from the same opcode at the same address. -/
theorem trace_identifies :
    (∀ machine : Machine,
      ((machine.cycle true).result = .ok true →
        ∃ line, (machine.cycle true).printed = [.output line] ∧ '\n' ∉ line.toList) ∧
      ((machine.cycle true).result ≠ .ok true →
        ∀ line, .output line ∉ (machine.cycle true).printed)) ∧
    (∀ first second : Machine, (first.cycle true).result = .ok true →
      (second.cycle true).result = .ok true →
      (first.cycle true).printed = (second.cycle true).printed →
        first.pc = second.pc ∧ ∃ word < 0x10000,
          first.memory.readWord first.pc = .ok word ∧
          second.memory.readWord second.pc = .ok word) ∧
    ∀ (machine : Machine) (keypads : List Keypad),
      (machine.cycles true keypads).map CycleResult.silent =
        (machine.cycles false keypads).map CycleResult.silent := by
  refine ⟨fun machine => ⟨fun success => ?_, untraced_of_failure⟩, ?_,
    fun machine keypads => machine.cycles_silent true keypads⟩
  next =>
    obtain ⟨word, operation, after, _, _, printed⟩ := printed_of_success success
    exact ⟨_, printed, newline_not_mem_traceLine machine.ready after (operation.instruction word)⟩
  next =>
    intro first second success otherSuccess same
    obtain ⟨word, operation, after, fetched, written, printed⟩ := printed_of_success success
    obtain ⟨other, otherOperation, otherAfter, otherFetched, otherWritten, otherPrinted⟩ :=
      printed_of_success otherSuccess
    rw [printed, otherPrinted] at same
    have line := Printed.output.inj (List.cons.inj same).1
    obtain ⟨pc, rfl⟩ := same_of_traceLine fetched otherFetched written otherWritten line
    exact ⟨pc, word, (Memory.readWord_ok _ fetched).2, fetched, otherFetched⟩

end Machine

end ChipEight
