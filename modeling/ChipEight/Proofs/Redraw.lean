import ChipEight.Proofs.Sprite

set_option autoImplicit false

namespace ChipEight

theorem Row.replace_self {α : Type} {size : Nat} (cells : Vector α size) (place : Fin size) :
    replace cells place (cells.get place) = cells := by
  change cells.set place.val cells[place.val] place.isLt = cells
  exact Vector.set_getElem_self place.isLt

theorem Display.write_shown {width height : Int} {display : Display width height} {x y : Int}
    {on : Bool} (shown : display.byteAt x y = .ok (if on then lit else dark)) :
    display.write x y on = .ok (false, display) := by
  by_cases inside : (0 ≤ x ∧ x < width) ∧ 0 ≤ y ∧ y < height
  · simp only [byteAt, offset_inside inside] at shown
    have byte := Except.ok.inj shown
    rw [write_inside display on inside, ← byte, Row.replace_self, byte]
    cases on <;> rfl
  · simp only [byteAt, offset_outside inside] at shown
    cases shown

namespace Machine

variable {machine : Machine} {originX originY : UInt8}

def Settled (machine : Machine) (originX originY : UInt8) (cell : Nat × Nat) : Prop :=
  ∃ byte, machine.memory.read (machine.index + cell.1) = .ok byte ∧
    machine.display.byteAt (originX.toNat + cell.2) (originY.toNat + cell.1) =
      .ok (if byte.toNat.testBit (7 - cell.2) then Display.lit else Display.dark)

theorem Settled.plotCell {row column : Nat}
    (settled : machine.Settled originX originY (row, column)) :
    machine.plotCell originX originY row column = ⟨machine, none⟩ := by
  obtain ⟨byte, read, shown⟩ := settled
  simp only [Machine.plotCell, read, Display.write_shown shown]
  rfl

theorem plotCell_failed {row column : Nat} {fault : Fault}
    (failed : (machine.plotCell originX originY row column).fault = some fault) :
    (machine.plotCell originX originY row column).machine = machine := by
  unfold plotCell at failed ⊢
  split
  next => rfl
  next byte read =>
    simp only [read] at failed
    split
    next => rfl
    next written => simp only [written, reduceCtorEq] at failed

theorem settled_plotCell {row column : Nat}
    (complete : (machine.plotCell originX originY row column).fault = none) :
    (machine.plotCell originX originY row column).machine.Settled originX originY
      (row, column) := by
  unfold plotCell at complete ⊢
  split at complete
  next => cases complete
  next byte read =>
    split at complete
    next => cases complete
    next erased display written =>
      have shown := (Display.byteAt_write written _ _).trans (if_pos ⟨rfl, rfl⟩)
      cases erased <;> exact ⟨byte, read, shown⟩

theorem cellPoint_injective {cell other : Nat × Nat}
    (same : cellPoint originX originY cell = cellPoint originX originY other) : cell = other := by
  simp only [cellPoint, Prod.mk.injEq] at same
  apply Prod.ext <;> omega

theorem Settled.after_plotCell {cell : Nat × Nat}
    (settled : machine.Settled originX originY cell) (row column : Nat) :
    (machine.plotCell originX originY row column).machine.Settled originX originY cell := by
  by_cases same : cell = (row, column)
  · subst same
    rw [settled.plotCell]
    exact settled
  · -- Another cell has its pixel at another point, and drawing changes neither memory nor `I`.
    obtain ⟨byte, read, shown⟩ := settled
    have painted := plotCell_painted machine originX originY row column
    have apart : cellPoint originX originY cell ∉ [cellPoint originX originY (row, column)] :=
      fun member => same (cellPoint_injective (List.mem_singleton.mp member))
    have kept := painted.pixels _ _ apart
    obtain ⟨_, _, after⟩ := painted.frame
    refine ⟨byte, ?_, kept.trans shown⟩
    rw [after]
    exact read

theorem Settled.after_plot {cell : Nat × Nat} (settled : machine.Settled originX originY cell)
    (cells : List (Nat × Nat)) :
    (machine.plot originX originY cells).machine.Settled originX originY cell := by
  induction cells generalizing machine with
  | nil => exact settled
  | cons next rest ih =>
    have first := settled.after_plotCell next.1 next.2
    simp only [plot]
    split
    next => exact first
    next => exact ih first

section Plotting

variable {cell : Nat × Nat} {fault : Fault} (rest : List (Nat × Nat))

theorem plot_cons_failed
    (failed : (machine.plotCell originX originY cell.1 cell.2).fault = some fault) :
    machine.plot originX originY (cell :: rest) =
      machine.plotCell originX originY cell.1 cell.2 := by
  simp only [plot, failed]

theorem plot_cons_complete
    (complete : (machine.plotCell originX originY cell.1 cell.2).fault = none) :
    machine.plot originX originY (cell :: rest) =
      (machine.plotCell originX originY cell.1 cell.2).machine.plot originX originY rest := by
  simp only [plot, complete]

theorem Settled.plot_cons (settled : machine.Settled originX originY cell) :
    machine.plot originX originY (cell :: rest) = machine.plot originX originY rest := by
  simp only [plot, settled.plotCell]

end Plotting

theorem plot_again (machine : Machine) (originX originY : UInt8) (cells : List (Nat × Nat)) :
    (machine.plot originX originY cells).machine.plot originX originY cells =
      machine.plot originX originY cells := by
  induction cells generalizing machine with
  | nil => rfl
  | cons cell rest ih =>
    cases first : (machine.plotCell originX originY cell.1 cell.2).fault with
    | some fault =>
      rw [plot_cons_failed rest first, plotCell_failed first, plot_cons_failed rest first]
    | none =>
      -- The first cell stays settled, whatever is drawn after it.
      have settled := (settled_plotCell first).after_plot rest
      rw [plot_cons_complete rest first, settled.plot_cons, ih]

end Machine

end ChipEight
