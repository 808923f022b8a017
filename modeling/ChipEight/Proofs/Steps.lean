import ChipEight.Proofs.Halt
import ChipEight.Proofs.Invariant
import ChipEight.Proofs.Setting

set_option autoImplicit false

namespace ChipEight

namespace Machine

variable {machine after : Machine}

theorem Completes.delay {instruction : Instruction}
    (completes : Completes machine instruction after)
    (byte : 0 ≤ machine.delay ∧ machine.delay ≤ 255) : 0 ≤ after.delay ∧ after.delay ≤ 255 := by
  cases completes with
  | setDelay x => exact machine.register_bounds x
  | draw _ _ _ _ painted =>
    obtain ⟨_, _, rfl⟩ := painted.frame
    exact byte
  | _ => exact byte

theorem report_of_success {tracing : Bool} (success : (machine.cycle tracing).result = .ok true) :
    (machine.cycle tracing).machine.state = machine.state ∧
      (machine.cycle tracing).machine.fault = machine.fault := by
  obtain ⟨word, operation, _, _, _, executed, same⟩ := executed_of_success success
  have setting := machine.ready.execute_setting (operation.instruction word)
  rw [executed] at setting
  rw [same]
  exact ⟨congrArg Setting.state setting, congrArg Setting.fault setting⟩

theorem cycle_delay (tracing : Bool) (byte : 0 ≤ machine.delay ∧ machine.delay ≤ 255) :
    (0 ≤ (machine.cycle tracing).machine.delay ∧ (machine.cycle tracing).machine.delay ≤ 255) ∧
      ∃ ok, (machine.cycle tracing).result = .ok ok := by
  have course := machine.cycle_course tracing
  generalize machine.cycle tracing = cycled at course
  cases course with
  | completed _ _ _ _ _ completes =>
    -- A timer that was set to 255 has ticked already when the cycle is over.
    have ticked := tick_bounds (completes.delay byte)
    exact ⟨⟨ticked.1, Int.le_trans ticked.2 (by decide)⟩, true, rfl⟩
  | outside => exact ⟨byte, false, rfl⟩
  | unknown => exact ⟨byte, false, rfl⟩
  | broken _ _ _ _ _ breaks =>
    obtain ⟨_, _, rfl⟩ := breaks.frame
    exact ⟨byte, false, rfl⟩
  | escaped _ _ _ outside => omega

end Machine

namespace Interpreter

def afterSteps (interpreter : Interpreter) : Nat → Interpreter
  | 0 => interpreter
  | count + 1 => (interpreter.afterSteps count).step.interpreter

def stepEvents (interpreter : Interpreter) : Nat → List Event
  | 0 => []
  | count + 1 => interpreter.stepEvents count ++ (interpreter.afterSteps count).step.events

def resumed (interpreter : Interpreter) : Interpreter :=
  { interpreter with machine := { interpreter.machine with state := .running, fault := none } }

def workedBy (interpreter : Interpreter) (worker : Option Phase) (stopRequested : Bool) :
    Interpreter :=
  { interpreter with worker := worker, stopRequested := stopRequested }

section Steps

variable (interpreter : Interpreter) (worker : Option Phase) (stopRequested : Bool)

theorem step_workedBy :
    (interpreter.workedBy worker stopRequested).step =
      ⟨interpreter.step.interpreter.workedBy worker stopRequested, interpreter.step.result,
        interpreter.step.events⟩ := by
  simp only [step, workedBy]
  split <;> rfl

theorem afterSteps_workedBy (count : Nat) :
    (interpreter.workedBy worker stopRequested).afterSteps count =
      (interpreter.afterSteps count).workedBy worker stopRequested := by
  induction count with
  | zero => rfl
  | succ count ih => rw [afterSteps, ih, step_workedBy, afterSteps]

theorem stepEvents_workedBy (count : Nat) :
    (interpreter.workedBy worker stopRequested).stepEvents count =
      interpreter.stepEvents count := by
  induction count with
  | zero => rfl
  | succ count ih => rw [stepEvents, ih, afterSteps_workedBy, step_workedBy, stepEvents]

theorem afterSteps_add (first second : Nat) :
    interpreter.afterSteps (first + second) =
      (interpreter.afterSteps first).afterSteps second := by
  induction second with
  | zero => rfl
  | succ second ih => rw [← Nat.add_assoc, afterSteps, ih, afterSteps]

theorem stepEvents_add (first second : Nat) :
    interpreter.stepEvents (first + second) =
      interpreter.stepEvents first ++ (interpreter.afterSteps first).stepEvents second := by
  induction second with
  | zero => exact (List.append_nil _).symm
  | succ second ih =>
    rw [← Nat.add_assoc, stepEvents, ih, afterSteps_add, List.append_assoc, stepEvents]

theorem step_result :
    interpreter.step.result = (interpreter.machine.cycle interpreter.tracing).result := by
  simp only [step]
  split
  next success => exact success.symm
  next => rfl

theorem step_frame :
    ∃ machine, interpreter.step.interpreter = { interpreter with machine := machine } := by
  simp only [step]
  split <;> exact ⟨_, rfl⟩

theorem afterSteps_haltListeners (count : Nat) :
    (interpreter.afterSteps count).haltListeners = interpreter.haltListeners := by
  induction count with
  | zero => rfl
  | succ count ih =>
    obtain ⟨machine, same⟩ := (interpreter.afterSteps count).step_frame
    rw [afterSteps, same, ← ih]

end Steps

section Results

variable {interpreter : Interpreter}

theorem afterSteps_report {count : Nat}
    (success : ∀ number, number < count → (interpreter.afterSteps number).step.result = .ok true) :
    (interpreter.afterSteps count).machine.state = interpreter.machine.state ∧
      (interpreter.afterSteps count).machine.fault = interpreter.machine.fault := by
  induction count with
  | zero => exact ⟨rfl, rfl⟩
  | succ count ih =>
    have before := ih fun number less => success number (Nat.lt_succ_of_lt less)
    have last := success count (Nat.lt_succ_self count)
    rw [step_result] at last
    have kept := Machine.report_of_success last
    rw [afterSteps, step_machine]
    exact ⟨kept.1.trans before.1, kept.2.trans before.2⟩

theorem afterSteps_delay (byte : 0 ≤ interpreter.machine.delay ∧ interpreter.machine.delay ≤ 255)
    (count : Nat) : 0 ≤ (interpreter.afterSteps count).machine.delay ∧
      (interpreter.afterSteps count).machine.delay ≤ 255 := by
  induction count with
  | zero => exact byte
  | succ count ih =>
    rw [afterSteps, step_machine]
    exact (Machine.cycle_delay _ ih).1

theorem step_settled (byte : 0 ≤ interpreter.machine.delay ∧ interpreter.machine.delay ≤ 255)
    (count : Nat) : ∃ ok, (interpreter.afterSteps count).step.result = .ok ok := by
  rw [step_result]
  exact (Machine.cycle_delay _ (afterSteps_delay byte count)).2

theorem first_failure (byte : 0 ≤ interpreter.machine.delay ∧ interpreter.machine.delay ≤ 255)
    (count : Nat) :
    (∀ number, number < count → (interpreter.afterSteps number).step.result = .ok true) ∨
      ∃ earlier, earlier < count ∧
        (∀ number, number < earlier →
          (interpreter.afterSteps number).step.result = .ok true) ∧
        (interpreter.afterSteps earlier).step.result = .ok false := by
  induction count with
  | zero => exact .inl nofun
  | succ count ih =>
    rcases ih with success | ⟨earlier, within, success, gaveUp⟩
    · -- Nothing has failed so far, and the next step decides.
      obtain ⟨ok, last⟩ := step_settled byte count
      cases ok with
      | false => exact .inr ⟨count, Nat.lt_succ_self count, success, last⟩
      | true =>
        refine .inl fun number less => ?_
        rcases Nat.lt_succ_iff_lt_or_eq.mp less with before | rfl
        · exact success number before
        · exact last
    · exact .inr ⟨earlier, Nat.lt_succ_of_lt within, success, gaveUp⟩

theorem state_of_halt (gaveUp : interpreter.step.result = .ok false) :
    interpreter.step.interpreter.machine.state = .stopped := by
  rw [step_result] at gaveUp
  obtain ⟨_, _, _, _, halted⟩ := Machine.halt_residue gaveUp
  rw [step_machine, halted]
  rfl

end Results

end Interpreter

end ChipEight
