import ChipEight.Proofs.Cycle

set_option autoImplicit false

namespace ChipEight

namespace CallStack

variable {depth : Int} {outer stack after : CallStack depth} {site address : Int}

structure Within (outer : CallStack depth) (site : Int) (stack : CallStack depth) : Prop where
  deeper : outer.used < stack.used
  kept : ∀ inside : outer.used < depth.toNat, stack.slots[outer.used] = site
  below : ∀ (slot : Nat) (inside : slot < depth.toNat), slot < outer.used →
    stack.slots[slot] = outer.slots[slot]

theorem Within.of_push (pushed : outer.push site = .ok after) : Within outer site after := by
  obtain ⟨used, slots⟩ := push_ok pushed
  constructor
  case deeper => omega
  case kept => exact fun inside => (slots _ inside).trans (if_pos rfl)
  case below => exact fun slot inside low => (slots slot inside).trans (if_neg (by omega))

theorem Within.of_same (within : Within outer site stack) (deeper : outer.used < after.used)
    (same : ∀ (slot : Nat) (inside : slot < depth.toNat), slot ≤ outer.used →
      after.slots[slot] = stack.slots[slot]) : Within outer site after where
  deeper := deeper
  kept := fun inside => (same _ inside (Nat.le_refl _)).trans (within.kept inside)
  below := fun slot inside low =>
    (same slot inside (Nat.le_of_lt low)).trans (within.below slot inside low)

theorem Within.push (within : Within outer site stack) (pushed : stack.push address = .ok after) :
    Within outer site after := by
  obtain ⟨used, slots⟩ := push_ok pushed
  have deeper := within.deeper
  apply within.of_same (by omega)
  intro slot inside low
  rw [slots slot inside, if_neg (by omega)]

theorem Within.pop (within : Within outer site stack)
    (popped : stack.pop = .ok (address, after)) (deeper : outer.used < after.used) :
    Within outer site after := by
  obtain ⟨used, _, slots⟩ := pop_ok popped
  apply within.of_same deeper
  intro slot inside low
  rw [slots slot inside, if_neg (by omega)]

theorem Within.return (within : Within outer site stack)
    (popped : stack.pop = .ok (address, after)) (ended : after.used = outer.used) :
    address = site ∧ ∀ (slot : Nat) (inside : slot < depth.toNat), slot < outer.used →
      after.slots[slot] = outer.slots[slot] := by
  obtain ⟨used, youngest, slots⟩ := pop_ok popped
  have bound : outer.used < depth.toNat := by
    have := stack.used_le
    omega
  constructor
  · rw [youngest (by omega)]
    simp only [ended]
    exact within.kept bound
  · intro slot inside low
    rw [slots slot inside, if_neg (by omega), within.below slot inside low]

end CallStack

namespace Machine

inductive Flow (machine after : Machine) : Prop where
  | straight {word : Nat} {operation : Operation}
    (fetched : machine.memory.readWord machine.pc = .ok word)
    (written : operation.pattern.Matches word)
    (other : operation ≠ .call) (same : after.stack = machine.stack)
  | call (pushed : machine.stack.push machine.pc = .ok after.stack)
  | ret {address : Int} (fetched : machine.memory.readWord machine.pc = .ok 0x00EE)
    (popped : machine.stack.pop = .ok (address, after.stack)) (back : after.pc = address + 2)

theorem cycle_flow {tracing : Bool} {machine : Machine}
    (complete : (machine.cycle tracing).result = .ok true) :
    machine.Flow (machine.cycle tracing).machine := by
  have course := machine.cycle_course tracing
  generalize machine.cycle tracing = cycled at complete course
  cases course with
  | outside | unknown | broken | escaped => cases complete
  | @completed word operation instruction after _ fetched written decoded permitted completes =>
    have named := congrArg Instruction.operation decoded
    rw [Operation.operation_instruction] at named
    have straight (other : operation ≠ .call) (same : after.stack = machine.stack) :
        machine.Flow after.tickTimers := .straight fetched written other same
    cases completes with
    | ret popped =>
      subst named
      have word := Instruction.word_of_matches_ret (Memory.readWord_ok _ fetched).2 written
      subst word
      exact .ret fetched popped rfl
    | call target pushed => exact .call pushed
    | draw x y height drawn painted =>
      obtain ⟨_, _, rfl⟩ := painted.frame
      exact straight (by simp [named, Instruction.operation]) rfl
    | compute _ _ member | skip _ member | point _ _ member =>
      refine straight (fun equal => ?_) rfl
      rw [← named, equal] at member
      simp at member
    | jump | setDelay | setSound | clearScreen | storeDigits | loadRegisters =>
      exact straight (by simp [named, Instruction.operation]) rfl

/-- A run of complete cycles. Anything may be changed from outside between them but the stack. -/
structure Undisturbed (last : Nat) (before after : Nat → Machine) : Prop where
  cycles : ∀ number, number ≤ last → ∃ tracing,
    ((before number).cycle tracing).result = .ok true ∧
      ((before number).cycle tracing).machine = after number
  gaps : ∀ number, number < last → (before (number + 1)).stack = (after number).stack

section Returning

variable {last : Nat} {before after : Nat → Machine}

theorem Undisturbed.flow (run : Undisturbed last before after) {number : Nat}
    (inside : number ≤ last) : (before number).Flow (after number) := by
  obtain ⟨tracing, complete, same⟩ := run.cycles number inside
  rw [← same]
  exact cycle_flow complete

theorem Flow.within {machine after : Machine} {outer : CallStack 24} {site : Int}
    (flow : machine.Flow after) (within : CallStack.Within outer site machine.stack)
    (deeper : outer.used < after.stack.used) : CallStack.Within outer site after.stack := by
  cases flow with
  | straight _ _ _ same =>
    rw [same]
    exact within
  | call pushed => exact within.push pushed
  | ret _ popped => exact within.pop popped deeper

theorem Undisturbed.within (run : Undisturbed last before after)
    (called : CallStack.Within (before 0).stack (before 0).pc (after 0).stack)
    (deeper : ∀ number, number < last → (before 0).stack.used < (after number).stack.used)
    (number : Nat) (inside : number < last) :
    CallStack.Within (before 0).stack (before 0).pc (after number).stack := by
  -- The slot of the call site is out of reach as long as the stack is deeper than at the call.
  induction number with
  | zero => exact called
  | succ number ih =>
    have within := ih (by omega)
    rw [← run.gaps number (by omega)] at within
    exact (run.flow (by omega)).within within (deeper _ inside)

theorem call_returns (run : Undisturbed last before after) (several : 1 ≤ last) {word : Nat}
    (fetched : (before 0).memory.readWord (before 0).pc = .ok word)
    (call : Operation.call.pattern.Matches word)
    (deeper : ∀ number, number < last → (before 0).stack.used < (after number).stack.used)
    (ended : (after last).stack.used = (before 0).stack.used) :
    (before last).memory.readWord (before last).pc = .ok 0x00EE ∧
      (after last).pc = (before 0).pc + 2 ∧
      ∀ (slot : Nat) (inside : slot < (24 : Int).toNat), slot < (before 0).stack.used →
        (after last).stack.slots[slot] = (before 0).stack.slots[slot] := by
  have small := (Memory.readWord_ok _ fetched).2
  have called : CallStack.Within (before 0).stack (before 0).pc (after 0).stack := by
    cases run.flow (Nat.zero_le last) with
    | call pushed => exact .of_push pushed
    | straight other written unlike =>
      cases fetched.symm.trans other
      exact absurd (Instruction.operation_unique small written call) unlike
    | ret other =>
      cases fetched.symm.trans other
      simp [Operation.pattern, Pattern.Matches] at call
  -- Before the last cycle the stack is still within the call, and after it no longer.
  obtain ⟨previous, rfl⟩ : ∃ previous, last = previous + 1 := ⟨last - 1, by omega⟩
  have within := run.within called deeper previous (by omega)
  rw [← run.gaps previous (by omega)] at within
  cases run.flow (Nat.le_refl _) with
  | straight _ _ _ same =>
    have := within.deeper
    rw [same] at ended
    omega
  | call pushed =>
    have := (within.push pushed).deeper
    omega
  | ret popping popped back =>
    have returned := within.return popped ended
    exact ⟨popping, by rw [back, returned.1], returned.2⟩

end Returning

def nested : Machine :=
  { Machine.new false (RandomSource.cycling #[]) with
    memory := ⟨(((((Vector.replicate 4096 0x22).set 0x223 0x32).set 0x224 0x00).set 0x225 0xEE).set
      0x232 0x00).set 0x233 0xEE⟩ }

theorem nested_returns :
    (nested.afterCycles false 3).memory.readWord (nested.afterCycles false 3).pc = .ok 0x00EE ∧
      ((nested.afterCycles false 3).cycle false).machine.pc =
        (nested.afterCycles false 0).pc + 2 := by
  have complete : ∀ number, number ≤ 3 →
      ((nested.afterCycles false number).cycle false).result = .ok true := by decide +kernel
  have run : Undisturbed 3 (nested.afterCycles false)
      fun number => ((nested.afterCycles false number).cycle false).machine :=
    ⟨fun number inside => ⟨false, complete number inside, rfl⟩, fun _ _ => rfl⟩
  have fetched : (nested.afterCycles false 0).memory.readWord (nested.afterCycles false 0).pc =
      .ok 0x2222 := by
    decide +kernel
  have call : Operation.call.pattern.Matches 0x2222 := by
    simp [Operation.pattern, Pattern.Matches]
  have deeper : ∀ number, number < 3 →
      (nested.afterCycles false 0).stack.used <
        ((nested.afterCycles false number).cycle false).machine.stack.used := by
    decide +kernel
  have ended : ((nested.afterCycles false 3).cycle false).machine.stack.used =
      (nested.afterCycles false 0).stack.used := by
    decide +kernel
  have returned := call_returns run (by decide) fetched call deeper ended
  exact ⟨returned.1, returned.2.1⟩

end Machine

end ChipEight
