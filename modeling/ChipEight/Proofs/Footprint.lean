import ChipEight.Proofs.Setting
import ChipEight.Proofs.Stores

set_option autoImplicit false

namespace ChipEight

def Instruction.Writes (legacy : Bool) (y : Fin 16) : Instruction → Prop
  | .set x _ | .addConstant x _ | .copy x _ | .and x _ | .random x _ | .readDelay x => y = x
  | .add x _ | .subtract x _ => y = x ∨ y.val = 15
  | .draw _ _ _ => y.val = 15
  | .loadRegisters x => if legacy then y = x else y ≤ x
  | _ => False

namespace Machine

def Overwrites (machine : Machine) (place : Fin 4096) : Instruction → Prop
  | .storeDigits _ => machine.legacy = false ∧
    machine.index ≤ place.val ∧ place.val ≤ machine.index + 2
  | _ => False

def GoesTo (machine : Machine) (target : Int) : Instruction → Prop
  | .jump address | .call address => target = address.val
  | .ret => ∃ older site, machine.stack.live = older ++ [site] ∧ target = site + 2
  | .skipEqual x value => target = machine.pc + if machine.register x = value then 4 else 2
  | .skipNotEqual x value => target = machine.pc + if machine.register x ≠ value then 4 else 2
  | .skipPressed x => ∃ inside : (machine.register x).toNat < 16,
    target = machine.pc + if machine.keypad.pressed.get ⟨_, inside⟩ = true then 4 else 2
  | .skipReleased x => ∃ inside : (machine.register x).toNat < 16,
    target = machine.pc + if machine.keypad.pressed.get ⟨_, inside⟩ = false then 4 else 2
  | _ => target = machine.pc + 2

/-- All that a complete instruction may have done, before the timers tick. -/
structure Footprint (machine : Machine) (instruction : Instruction) (after : Machine) : Prop
    extends Kept machine instruction after where
  pc : machine.GoesTo after.pc instruction
  registers : ∀ y, ¬ instruction.Writes machine.legacy y → after.register y = machine.register y
  memory : ∀ place, ¬ machine.Overwrites place instruction →
    after.memory.bytes.get place = machine.memory.bytes.get place
  random : instruction.operation ≠ .random → after.random = machine.random
  keypad : after.keypad = machine.keypad
  legacy : after.legacy = machine.legacy
  state : after.state = machine.state
  fault : after.fault = machine.fault

variable {machine after : Machine} {instruction : Instruction} {y : Fin 16}

theorem mem_loadTargets {legacy : Bool} {x : Fin 16} :
    y ∈ loadTargets legacy x ↔ if legacy then y = x else y ≤ x := by
  cases legacy
  · simp only [loadTargets, Bool.false_eq_true, if_false, List.mem_take_iff_getElem,
      List.getElem_finRange, List.length_finRange]
    constructor
    · rintro ⟨place, small, rfl⟩
      simp only [Fin.le_def, Fin.val_cast]
      omega
    · intro below
      exact ⟨y.val, by omega, rfl⟩
  · simp [loadTargets, List.mem_replicate]

theorem register_thenAdvance (outcome : Outcome) (y : Fin 16) :
    outcome.thenAdvance.machine.register y = outcome.machine.register y := by
  simp only [Outcome.thenAdvance]
  split <;> rfl

theorem register_setWithFlag {x : Fin 16} {flag : Bool} {result : UInt8}
    (other : ¬ (y = x ∨ y.val = 15)) :
    (machine.setWithFlag x flag result).register y = machine.register y := by
  rw [not_or] at other
  rw [setWithFlag, register_setRegister, if_neg other.1, register_setRegister,
    if_neg (Fin.ne_of_val_ne other.2)]

theorem register_loadBytes {targets : List (Fin 16)} (other : y ∉ targets) :
    (machine.loadBytes targets).machine.register y = machine.register y := by
  induction targets generalizing machine with
  | nil => rfl
  | cons target rest ih =>
    rw [List.mem_cons, not_or] at other
    simp only [loadBytes]
    split
    next => rfl
    next byte _ =>
      exact (ih other.2).trans ((register_setRegister machine target y byte).trans (if_neg other.1))

theorem register_loadRegisters {x : Fin 16}
    (unwritten : ¬ (Instruction.loadRegisters x).Writes machine.legacy y) :
    (machine.loadRegisters x).machine.register y = machine.register y := by
  have other : y ∉ loadTargets machine.legacy x := mt mem_loadTargets.mp unwritten
  simp only [loadRegisters]
  split
  next => rfl
  next => rw [register_thenAdvance, register_loadBytes other]

theorem register_drawSprite {x z : Fin 16} {height : Nat} (other : y.val ≠ 15) :
    (machine.drawSprite x z height).machine.register y = machine.register y := by
  have painted := machine.plot_painted (machine.register x) (machine.register z) (spriteCells height)
  rw [← painted.registers y (Fin.ne_of_val_ne other)]
  rcases machine.drawSprite_cases x z height with ⟨_, same⟩ | ⟨_, _, same⟩ <;> rw [same]
  rfl

theorem execute_register (unwritten : ¬ instruction.Writes machine.legacy y) :
    (machine.execute instruction).machine.register y = machine.register y := by
  cases instruction with
  | set x value | addConstant x value | copy x z | and x z | random x mask =>
    exact (register_setRegister _ x y _).trans (if_neg unwritten)
  | add x z | subtract x z => exact register_setWithFlag unwritten
  | draw x z height => exact register_drawSprite unwritten
  | loadRegisters x => exact register_loadRegisters unwritten
  | readDelay x =>
    rcases machine.readDelay_cases x with ⟨_, value, same⟩ | ⟨_, same⟩ <;> rw [execute, same]
    · exact (register_setRegister machine x y value).trans (if_neg unwritten)
    · rfl
  | ret =>
    rcases machine.returnToCaller_cases with ⟨_, _, _, _, same⟩ | ⟨_, same⟩ <;>
      rw [execute, same] <;> rfl
  | call target =>
    rcases machine.callTo_cases target.val with ⟨_, _, _, same⟩ | ⟨_, same⟩ <;>
      rw [execute, same] <;> rfl
  | skipPressed x | skipReleased x =>
    rcases machine.skipOnKey_cases x _ with ⟨_, same⟩ | ⟨_, same⟩ <;> rw [execute, same] <;> rfl
  | storeDigits x =>
    rcases machine.storeDigits_cases x with ⟨_, _, same⟩ | ⟨_, same⟩ <;> rw [execute, same] <;> rfl
  | _ => rfl

theorem pc_of_skipWhen {condition : Bool} (executed : machine.skipWhen condition = ⟨after, none⟩) :
    after.pc = machine.pc + if condition then 4 else 2 := by
  cases executed
  rfl

theorem execute_goesTo (executed : machine.execute instruction = ⟨after, none⟩) :
    machine.GoesTo after.pc instruction := by
  cases instruction with
  | ret =>
    rcases machine.returnToCaller_cases with ⟨_, address, stack, popped, same⟩ | ⟨_, same⟩
    · cases same.symm.trans executed
      exact ⟨stack.live, address, CallStack.pop_live popped, rfl⟩
    · cases same.symm.trans executed
  | call target =>
    rcases machine.callTo_cases target.val with ⟨_, _, _, same⟩ | ⟨_, same⟩ <;>
      cases same.symm.trans executed
    rfl
  | skipEqual x value =>
    have skipped := pc_of_skipWhen executed
    simp only [beq_iff_eq] at skipped
    exact skipped
  | skipNotEqual x value =>
    have skipped := pc_of_skipWhen executed
    simp only [bne_iff_ne] at skipped
    exact skipped
  | skipPressed x | skipReleased x =>
    rcases machine.skipOnKey_cases x _ with ⟨inside, same⟩ | ⟨_, same⟩
    · have skipped := pc_of_skipWhen (same.symm.trans executed)
      simp only [beq_iff_eq] at skipped
      exact ⟨inside, skipped⟩
    · cases same.symm.trans executed
  | draw x z height =>
    have painted := machine.plot_painted (machine.register x) (machine.register z)
      (spriteCells height.val)
    rcases machine.drawSprite_cases x z height.val with ⟨_, same⟩ | ⟨fault, found, same⟩
    · cases same.symm.trans executed
      obtain ⟨_, _, drawn⟩ := painted.frame
      rw [drawn]
      rfl
    · have failed := congrArg Outcome.fault (same.symm.trans executed)
      cases found.symm.trans failed
  | readDelay x =>
    rcases machine.readDelay_cases x with ⟨_, _, same⟩ | ⟨_, same⟩ <;>
      cases same.symm.trans executed
    rfl
  | storeDigits x =>
    rcases machine.storeDigits_cases x with ⟨_, _, same⟩ | ⟨_, same⟩ <;>
      cases same.symm.trans executed
    rfl
  | loadRegisters x =>
    rcases machine.loadRegisters_cases x with ⟨_, _, same⟩ | ⟨_, same⟩ <;>
      cases same.symm.trans executed
    rfl
  | _ => cases executed; rfl

theorem execute_byte {place : Fin 4096} (unwritten : ¬ machine.Overwrites place instruction) :
    (machine.execute instruction).machine.memory.bytes.get place =
      machine.memory.bytes.get place := by
  cases instruction with
  | storeDigits x =>
    refine (machine.get_storeDigits x place).trans (if_neg ?_)
    rintro ⟨⟨legacy, _⟩, covered⟩
    exact unwritten ⟨legacy, covered⟩
  | _ => rw [execute_memory (by simp)]

theorem footprint_of_executed (executed : machine.ready.execute instruction = ⟨after, none⟩) :
    machine.Footprint instruction after := by
  have kept := (completes_of_executed executed).kept rfl
  have flow : machine.ready.GoesTo after.pc instruction := execute_goesTo executed
  have registers (y : Fin 16) (unwritten : ¬ instruction.Writes machine.legacy y) :
      (machine.ready.execute instruction).machine.register y = machine.register y :=
    machine.ready.execute_register unwritten
  have memory (place : Fin 4096) (unwritten : ¬ machine.ready.Overwrites place instruction) :
      (machine.ready.execute instruction).machine.memory.bytes.get place =
        machine.memory.bytes.get place := execute_byte unwritten
  have setting := machine.ready.execute_setting instruction
  rw [executed] at registers memory setting
  exact { kept with
    pc := flow
    registers := registers
    memory := memory
    random := fun other => (congrArg Setting.random setting).trans (RandomSource.after_other _ other)
    keypad := congrArg Setting.keypad setting
    legacy := congrArg Setting.legacy setting
    state := congrArg Setting.state setting
    fault := congrArg Setting.fault setting }

/-- A cycle that succeeds changes no more than the footprint of its instruction and the timers. -/
theorem cycle_footprint {tracing : Bool} (success : (machine.cycle tracing).result = .ok true) :
    ∃ (word : Nat) (operation : Operation) (after : Machine),
      machine.memory.readWord machine.pc = .ok word ∧ operation.pattern.Matches word ∧
      machine.Footprint (operation.instruction word) after ∧
      (machine.cycle tracing).machine = after.tickTimers := by
  obtain ⟨word, operation, after, fetched, written, executed, same⟩ := executed_of_success success
  exact ⟨word, operation, after, fetched, written, footprint_of_executed executed, same⟩

def calling : Machine :=
  { Machine.new false (RandomSource.cycling #[]) with memory := ⟨Vector.replicate 4096 0x22⟩ }

theorem calling_footprint :
    ∃ after, calling.Footprint (.call 0x222) after ∧
      (calling.cycle false).machine = after.tickTimers := by
  have success : (calling.cycle false).result = .ok true := by decide +kernel
  have fetched : calling.memory.readWord calling.pc = .ok 0x2222 := by decide +kernel
  obtain ⟨word, operation, after, same, written, footprint, ticked⟩ := cycle_footprint success
  cases fetched.symm.trans same
  have call : operation = .call :=
    Instruction.operation_unique (by decide) written (by simp [Operation.pattern, Pattern.Matches])
  subst call
  exact ⟨after, footprint, ticked⟩

end Machine

end ChipEight
