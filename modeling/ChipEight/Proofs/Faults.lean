import ChipEight.Proofs.Invariant

set_option autoImplicit false

namespace ChipEight

namespace Machine

def Refuses (machine : Machine) : Instruction → Prop
  | .ret => machine.stack.used = 0
  | .call _ => machine.stack.used = 24
  | .draw x y height =>
    1 ≤ height.val ∧ (56 < (machine.register x).toNat ∨
      32 < (machine.register y).toNat + height.val ∨ 4096 < machine.index + height.val)
  | .skipPressed x | .skipReleased x => 15 < (machine.register x).toNat
  | .storeDigits _ => machine.legacy = false ∧ 4096 < machine.index + 3
  | .loadRegisters x => 4096 < machine.index + x.val + 1
  | _ => False

/-- The reasons for a machine to halt in its next cycle. -/
inductive Doomed (machine : Machine) : Prop where
  | outside (beyond : 0xFFE < machine.pc)
  | unknown (word : Nat) (fetched : machine.memory.readWord machine.pc = .ok word)
    (unwritten : ∀ operation : Operation, ¬ operation.pattern.Matches word)
  | refused (word : Nat) (operation : Operation)
    (fetched : machine.memory.readWord machine.pc = .ok word)
    (written : operation.pattern.Matches word)
    (refuses : machine.Refuses (operation.instruction word))

variable {machine : Machine}

theorem Invariant.permits_iff (invariant : machine.Invariant) (instruction : Instruction) :
    machine.ready.Permits instruction ↔ ¬ machine.Refuses instruction := by
  -- No index is negative, timers hold bytes, and the stack is never deeper than it can be: the
  -- other half of each need is met in every such machine.
  have index := invariant.index
  have delay := invariant.delay
  have used := invariant.used
  cases instruction <;> simp only [Permits, Refuses, Machine.ready, register, not_false_eq_true,
    iff_true]
  case storeDigits =>
    cases machine.legacy
    · simp only [Bool.false_eq_true, false_or, true_and]
      omega
    · simp
  all_goals omega

theorem Invariant.halts_iff (invariant : machine.Invariant) (tracing : Bool) :
    (machine.cycle tracing).result = .ok false ↔ machine.Doomed := by
  have course := machine.cycle_course tracing
  generalize machine.cycle tracing = cycled at course
  cases course with
  | @completed word operation _ _ _ fetched written decoded permitted =>
    refine ⟨nofun, fun doomed => ?_⟩
    have inside := Memory.readWord_ok _ fetched
    cases doomed with
    | outside beyond => omega
    | unknown other same unwritten =>
      cases fetched.symm.trans same
      exact absurd written (unwritten operation)
    | refused other member same matching refuses =>
      cases fetched.symm.trans same
      cases Instruction.operation_unique inside.2 written matching
      rw [decoded] at refuses
      exact absurd refuses ((invariant.permits_iff _).mp permitted)
  | outside failed =>
    refine ⟨fun _ => .outside (Int.not_le.mp fun within => ?_), fun _ => rfl⟩
    obtain ⟨word, _, fetched⟩ := machine.memory.readWord_inside ⟨invariant.pc.1, within⟩
    cases failed.symm.trans fetched
  | unknown fetched unwritten => exact ⟨fun _ => .unknown _ fetched unwritten, fun _ => rfl⟩
  | broken fetched written decoded refused =>
    refine ⟨fun _ => .refused _ _ fetched written ?_, fun _ => rfl⟩
    rw [decoded]
    exact Classical.not_not.mp fun complete => refused ((invariant.permits_iff _).mpr complete)
  | escaped _ _ _ outside =>
    have delay := invariant.delay
    omega

theorem fault_of_unknown {word : Nat} (tracing : Bool)
    (fetched : machine.memory.readWord machine.pc = .ok word)
    (unwritten : ∀ operation : Operation, ¬ operation.pattern.Matches word) :
    (machine.cycle tracing).machine.fault = some (.fault (.unimplemented word)) := by
  have course := machine.cycle_course tracing
  generalize machine.cycle tracing = cycled at course
  cases course with
  | completed _ same written | broken same written | escaped same written =>
    cases fetched.symm.trans same
    exact absurd written (unwritten _)
  | outside failed => cases fetched.symm.trans failed
  | unknown same _ =>
    cases fetched.symm.trans same
    rfl

theorem fault_of_known {tracing : Bool} (gaveUp : (machine.cycle tracing).result = .ok false)
    (known : ∀ word, machine.memory.readWord machine.pc = .ok word →
      ∃ operation : Operation, operation.pattern.Matches word) :
    ∃ fault, (machine.cycle tracing).machine.fault = some (.fault fault) ∧
      fault.kind = .bounds := by
  have course := machine.cycle_course tracing
  generalize machine.cycle tracing = cycled at gaveUp course
  cases course with
  | completed => cases gaveUp
  | escaped => cases gaveUp
  | outside => exact ⟨_, rfl, rfl⟩
  | broken _ _ _ _ kind => exact ⟨_, rfl, kind⟩
  | unknown fetched unwritten =>
    obtain ⟨operation, written⟩ := known _ fetched
    exact absurd written (unwritten operation)

end Machine

theorem Interpreter.reachable_halts_iff (legacy : Bool) (random : RandomSource) (scale : Int)
    (traced : Bool) (requests : List Request) :
    let machine :=
      ((new (Machine.new legacy random) scale traced).performAll requests).machine
    ∀ tracing,
      ((machine.cycle tracing).result = .ok false ↔ machine.Doomed) ∧
      (∀ word, machine.memory.readWord machine.pc = .ok word →
        (∀ operation : Operation, ¬ operation.pattern.Matches word) →
          (machine.cycle tracing).machine.fault = some (.fault (.unimplemented word))) ∧
      ((machine.cycle tracing).result = .ok false →
        (∀ word, machine.memory.readWord machine.pc = .ok word →
          ∃ operation : Operation, operation.pattern.Matches word) →
        ∃ fault, (machine.cycle tracing).machine.fault = some (.fault fault) ∧
          fault.kind = .bounds) := by
  intro machine tracing
  have invariant : machine.Invariant :=
    performAll_invariant (new_invariant legacy random scale traced) requests
  exact ⟨invariant.halts_iff tracing,
    fun _ fetched unwritten => Machine.fault_of_unknown tracing fetched unwritten,
    fun gaveUp known => Machine.fault_of_known gaveUp known⟩

end ChipEight
