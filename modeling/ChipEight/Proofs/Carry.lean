import ChipEight.Proofs.Digits
import ChipEight.Proofs.Drawing
import ChipEight.Proofs.Footprint

set_option autoImplicit false

namespace ChipEight.Machine

open Instruction

variable {machine : Machine} {x y : Fin 16} {flag : Bool} {result : UInt8}

/-- What an instruction with a flag leaves behind when it has computed a number. -/
structure Computed (machine : Machine) (x : Fin 16) (number : Int) (flag : Prop)
    (after : Machine) : Prop where
  number : ((after.register x).toNat : Int) = number % 256
  raised : x ≠ 15 → flag → after.register 15 = 1
  lowered : x ≠ 15 → ¬ flag → after.register 15 = 0
  others : ∀ z, z ≠ x → z ≠ 15 → after.register z = machine.register z
  frame : ∃ registers, after = { machine with registers := registers, pc := machine.pc + 2 }

theorem register_setWithFlag_result : (machine.setWithFlag x flag result).register x = result := by
  simp [setWithFlag, register_setRegister]

theorem register_setWithFlag_flag (other : x ≠ 15) :
    (machine.setWithFlag x flag result).register 15 = if flag then 1 else 0 := by
  simp [setWithFlag, register_setRegister, Ne.symm other]

theorem setWithFlag_computed {number : Int} {condition : Prop}
    (reduced : (result.toNat : Int) = number % 256) (tells : flag = true ↔ condition) :
    machine.Computed x number condition (machine.setWithFlag x flag result).advance.machine where
  number := by
    rw [← reduced]
    exact congrArg (fun byte : UInt8 => (byte.toNat : Int)) register_setWithFlag_result
  raised := by
    intro other holds
    exact (register_setWithFlag_flag other).trans (if_pos (tells.mpr holds))
  lowered := by
    intro other fails
    exact (register_setWithFlag_flag other).trans (if_neg (mt tells.mp fails))
  others := by
    intro z apart unflagged
    have unwritten : ¬ (z = x ∨ z.val = 15) := by omega
    exact register_setWithFlag unwritten
  frame := ⟨_, rfl⟩

theorem add_computed (machine : Machine) (x y : Fin 16) :
    (machine.execute (.add x y)).fault = none ∧
      machine.Computed x ((machine.register x).toNat + (machine.register y).toNat)
        (256 ≤ (machine.register x).toNat + (machine.register y).toNat)
        (machine.execute (.add x y)).machine := by
  refine ⟨rfl, setWithFlag_computed ?_ ?_⟩
  next =>
    rw [UInt8.toNat_add]
    omega
  next =>
    rw [decide_eq_true_eq]
    omega

theorem subtract_computed (machine : Machine) (x y : Fin 16) :
    (machine.execute (.subtract x y)).fault = none ∧
      machine.Computed x ((machine.register x).toNat - (machine.register y).toNat)
        ((machine.register y).toNat ≤ (machine.register x).toNat)
        (machine.execute (.subtract x y)).machine := by
  refine ⟨rfl, setWithFlag_computed ?_ ?_⟩
  next =>
    have small := (machine.register y).toNat_lt
    rw [UInt8.toNat_sub]
    omega
  next =>
    rw [decide_eq_true_eq, UInt8.le_iff_toNat_le]

/-- If neither register is `VF` nor the other one, a sum can be taken back. -/
theorem sum_taken_back (machine : Machine) (tracing : Bool) (x y : Fin 16) :
    let left := (machine.register x).toNat
    let right := (machine.register y).toNat
    let sum := (machine.obey tracing (spelled 0x8 x y 0x4)).outcome
    let difference := (machine.obey tracing (spelled 0x8 x y 0x5)).outcome
    let back := (sum.machine.obey tracing (spelled 0x8 x y 0x5)).outcome
    (sum.fault = none ∧ machine.Computed x (left + right) (256 ≤ left + right) sum.machine) ∧
    (difference.fault = none ∧ machine.Computed x (left - right) (right ≤ left)
      difference.machine) ∧
    (x ≠ y → x ≠ 15 → y ≠ 15 → back.fault = none ∧
      (∀ z, z ≠ 15 → back.machine.register z = machine.register z) ∧
      back.machine.register 15 = if 256 ≤ left + right then 0 else 1) := by
  intro left right sum difference back
  have summed : sum = machine.execute (.add x y) := obey_outcome (decode_add x y)
  have subtracted : difference = machine.execute (.subtract x y) :=
    obey_outcome (decode_subtract x y)
  have returned : back = sum.machine.execute (.subtract x y) := obey_outcome (decode_subtract x y)
  have adds := machine.add_computed x y
  have takes := sum.machine.subtract_computed x y
  rw [← summed] at adds
  rw [← returned] at takes
  refine ⟨adds, ?_, ?_⟩
  next =>
    rw [subtracted]
    exact machine.subtract_computed x y
  next =>
    intro apart first second
    obtain ⟨complete, taken⟩ := takes
    have kept : sum.machine.register y = machine.register y :=
      adds.2.others y (Ne.symm apart) second
    have total := adds.2.number
    have small : left < 256 := (machine.register x).toNat_lt
    have bound : right < 256 := (machine.register y).toNat_lt
    rw [kept] at taken
    refine ⟨complete, ?_, ?_⟩
    next =>
      intro z unflagged
      by_cases same : z = x
      next =>
        subst same
        have number := taken.number
        apply UInt8.toNat_inj.mp
        omega
      next => exact (taken.others z same unflagged).trans (adds.2.others z same unflagged)
    next =>
      -- A sum that has wrapped around is less than what was added, and any other one is not.
      split
      next wrapped => exact taken.lowered first (by omega)
      next whole => exact taken.raised first (by omega)

end ChipEight.Machine
