import ChipEight.Machine.Execute
import ChipEight.Proofs.Display

set_option autoImplicit false

namespace ChipEight.Machine

theorem register_setRegister (machine : Machine) (x y : Fin 16) (value : UInt8) :
    (machine.setRegister x value).register y = if y = x then value else machine.register y :=
  Row.get_replace machine.registers x y value

structure Painted (points : List (Int × Int)) (before after : Machine) : Prop where
  frame : ∃ registers display, after = { before with registers := registers, display := display }
  registers : ∀ x, x ≠ 15 → after.register x = before.register x
  flag : after.register 15 = before.register 15 ∨ after.register 15 = 1
  pixels : ∀ x y, (x, y) ∉ points → after.display.byteAt x y = before.display.byteAt x y
  monochrome : before.display.Monochrome → after.display.Monochrome

theorem Painted.nothing (points : List (Int × Int)) (machine : Machine) :
    Painted points machine machine where
  frame := ⟨machine.registers, machine.display, rfl⟩
  registers := fun _ _ => rfl
  flag := .inl rfl
  pixels := fun _ _ _ => rfl
  monochrome := id

theorem Painted.trans {points more : List (Int × Int)} {first second third : Machine}
    (left : Painted points first second) (right : Painted more second third) :
    Painted (points ++ more) first third where
  frame := by
    obtain ⟨_, _, rfl⟩ := left.frame
    obtain ⟨registers, display, rfl⟩ := right.frame
    exact ⟨registers, display, rfl⟩
  registers := fun x other => (right.registers x other).trans (left.registers x other)
  flag := by
    rcases right.flag with same | raised
    · rw [same]
      exact left.flag
    · exact .inr raised
  pixels := by
    intro x y outside
    rw [List.mem_append, not_or] at outside
    rw [right.pixels x y outside.2, left.pixels x y outside.1]
  monochrome := fun before => right.monochrome (left.monochrome before)

def cellPoint (originX originY : UInt8) (cell : Nat × Nat) : Int × Int :=
  (originX.toNat + cell.2, originY.toNat + cell.1)

def cellFault (index : Int) (originX originY : UInt8) : Nat × Nat → Option Fault
  | (row, column) =>
    if 0 ≤ index + row ∧ index + row < 4096 then
      if originX.toNat + column < 64 ∧ originY.toNat + row < 32 then none
      else some (.pixelOutside (originX.toNat + column) (originY.toNat + row) 64 32)
    else
      some (.addressOutside (index + row))

theorem plotCell_fault (machine : Machine) (originX originY : UInt8) (row column : Nat) :
    (machine.plotCell originX originY row column).fault =
      cellFault machine.index originX originY (row, column) := by
  simp only [plotCell, cellFault]
  by_cases address : 0 ≤ machine.index + row ∧ machine.index + row < 4096
  · rw [Memory.read_inside _ address, if_pos address]
    by_cases pixel : originX.toNat + column < 64 ∧ originY.toNat + row < 32
    · have inside : (0 ≤ (originX.toNat : Int) + column ∧ (originX.toNat : Int) + column < 64) ∧
          0 ≤ (originY.toNat : Int) + row ∧ (originY.toNat : Int) + row < 32 := by omega
      simp only [Display.write_inside _ _ inside, if_pos pixel]
    · have outside : ¬ ((0 ≤ (originX.toNat : Int) + column ∧ (originX.toNat : Int) + column < 64) ∧
          0 ≤ (originY.toNat : Int) + row ∧ (originY.toNat : Int) + row < 32) := by omega
      simp only [Display.write_outside _ _ outside, if_neg pixel, failed]
  · rw [Memory.read_outside _ address, if_neg address]
    rfl

theorem plotCell_painted (machine : Machine) (originX originY : UInt8) (row column : Nat) :
    Painted [cellPoint originX originY (row, column)] machine
      (machine.plotCell originX originY row column).machine := by
  unfold plotCell
  split
  next => exact Painted.nothing _ machine
  next byte _ =>
    split
    next => exact Painted.nothing _ machine
    next erased display written =>
      constructor
      case frame => cases erased <;> exact ⟨_, _, rfl⟩
      case registers =>
        intro x other
        cases erased
        · rfl
        · exact (register_setRegister machine 15 x 1).trans (if_neg other)
      case flag =>
        cases erased
        · exact .inl rfl
        · exact .inr ((register_setRegister machine 15 15 1).trans (if_pos rfl))
      case pixels =>
        intro x y outside
        simp only [cellPoint, List.mem_singleton, Prod.mk.injEq] at outside
        exact (Display.byteAt_write written x y).trans (if_neg outside)
      case monochrome => exact fun before => before.write written

theorem plot_painted (machine : Machine) (originX originY : UInt8) (cells : List (Nat × Nat)) :
    Painted (cells.map (cellPoint originX originY)) machine
      (machine.plot originX originY cells).machine := by
  induction cells generalizing machine with
  | nil => exact Painted.nothing _ machine
  | cons cell rest ih =>
    have first := plotCell_painted machine originX originY cell.1 cell.2
    simp only [plot]
    split
    next => exact first.trans (Painted.nothing _ _)
    next => exact first.trans (ih _)

theorem plot_fault (machine : Machine) (originX originY : UInt8) (cells : List (Nat × Nat)) :
    (machine.plot originX originY cells).fault =
      cells.findSome? (cellFault machine.index originX originY) := by
  induction cells generalizing machine with
  | nil => rfl
  | cons cell rest ih =>
    have first := plotCell_fault machine originX originY cell.1 cell.2
    -- Drawing never moves `I`, so the faults of the cells to come are known from the start.
    obtain ⟨_, _, after⟩ := (plotCell_painted machine originX originY cell.1 cell.2).frame
    simp only [plot, List.findSome?_cons, ← first]
    split
    next fault found => simp only [found]
    next complete => simp only [complete, ih, after]

theorem plot_fault_kind {machine : Machine} {originX originY : UInt8} {cells : List (Nat × Nat)}
    {fault : Fault} (failed : (machine.plot originX originY cells).fault = some fault) :
    fault.kind = .bounds := by
  rw [plot_fault] at failed
  obtain ⟨cell, _, found⟩ := List.exists_of_findSome?_eq_some failed
  simp only [cellFault] at found
  split at found
  · split at found <;> cases found
    rfl
  · cases found
    rfl

theorem mem_spriteCells {height row column : Nat} :
    (row, column) ∈ spriteCells height ↔ row < height ∧ column < 8 := by
  simp [spriteCells]

/-- A sprite without rows is drawn anywhere; all others have to be inside memory and display. -/
theorem plot_complete_iff (machine : Machine) (originX originY : UInt8) (height : Nat) :
    (machine.plot originX originY (spriteCells height)).fault = none ↔
      height = 0 ∨ (0 ≤ machine.index ∧ machine.index + height ≤ 4096) ∧
        originX.toNat ≤ 56 ∧ originY.toNat + height ≤ 32 := by
  -- A cell can be drawn when its byte is in memory and its pixel is on the display.
  have cellFault_none (row column : Nat) :
      cellFault machine.index originX originY (row, column) = none ↔
        (0 ≤ machine.index + row ∧ machine.index + row < 4096) ∧
          originX.toNat + column < 64 ∧ originY.toNat + row < 32 := by
    simp only [cellFault]
    split
    next address =>
      split
      next pixel => simp only [true_iff]; omega
      next pixel => simp only [reduceCtorEq, false_iff]; omega
    next address => simp only [reduceCtorEq, false_iff]; omega
  rw [plot_fault, List.findSome?_eq_none_iff]
  constructor
  · intro complete
    by_cases empty : height = 0
    · exact .inl empty
    · -- The first cell bounds `I` from below, and the last one bounds all the rest from above.
      have first := (cellFault_none _ _).mp (complete (0, 0) (mem_spriteCells.mpr (by omega)))
      have last := (cellFault_none _ _).mp
        (complete (height - 1, 7) (mem_spriteCells.mpr (by omega)))
      omega
  · rintro inside ⟨row, column⟩ member
    have bounds := mem_spriteCells.mp member
    exact (cellFault_none _ _).mpr (by omega)

end ChipEight.Machine
