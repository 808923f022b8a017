import ChipEight.Proofs.History
import ChipEight.Proofs.Redraw

set_option autoImplicit false

namespace ChipEight

inductive Stroke where
  | wipe
  | dot (x y : Int) (on : Bool)

namespace Stroke

def Touches (x y : Int) : Stroke → Prop
  | wipe => True
  | dot column row _ => column = x ∧ row = y

instance (x y : Int) : DecidablePred (Touches x y)
  | wipe => .isTrue trivial
  | dot column row _ => inferInstanceAs (Decidable (column = x ∧ row = y))

def leaves : Stroke → Bool
  | wipe => false
  | dot _ _ on => on

theorem eq_dot {stroke : Stroke} {x y : Int} (touched : stroke.Touches x y)
    (lit : stroke.leaves = true) : stroke = .dot x y true := by
  cases stroke with
  | wipe => cases lit
  | dot column row on =>
    obtain ⟨rfl, rfl⟩ := touched
    cases lit
    rfl

end Stroke

namespace Display

variable {width height : Int} {display after : Display width height}

theorem read_eq_byteAt (display : Display width height) (x y : Int) :
    display.read x y = (display.byteAt x y).map (· == lit) := by
  simp only [read, byteAt]
  cases (offset x y : Except Fault (Fin (width * height).toNat)) <;> rfl

theorem read_blank {x y : Int} (inside : (0 ≤ x ∧ x < width) ∧ 0 ≤ y ∧ y < height) :
    (blank : Display width height).read x y = .ok false := by
  rw [read_eq_view blank_monochrome inside, view_blank]

theorem read_write {x y : Int} {on erased : Bool}
    (written : display.write x y on = .ok (erased, after)) (pointX pointY : Int) :
    after.read pointX pointY =
      if pointX = x ∧ pointY = y then .ok on else display.read pointX pointY := by
  rw [read_eq_byteAt, read_eq_byteAt, byteAt_write written]
  split
  next => cases on <;> rfl
  next => rfl

end Display

namespace Machine

variable {machine : Machine} {originX originY : UInt8} {x y : Int}

def cellStroke (memory : Memory) (index : Int) (originX originY : UInt8) (cell : Nat × Nat) :
    Stroke :=
  .dot (originX.toNat + cell.2) (originY.toNat + cell.1)
    (match memory.read (index + cell.1) with
    | .ok byte => byte.toNat.testBit (7 - cell.2)
    | .error _ => false)

def drawnCells (index : Int) (originX originY : UInt8) (cells : List (Nat × Nat)) :
    List (Nat × Nat) :=
  cells.takeWhile fun cell => (cellFault index originX originY cell).isNone

def strokes (machine : Machine) : List Stroke :=
  match machine.next? with
  | some .clearScreen => [.wipe]
  | some (.draw x y height) =>
    (drawnCells machine.index (machine.register x) (machine.register y)
      (spriteCells height.val)).map
      (cellStroke machine.memory machine.index (machine.register x) (machine.register y))
  | _ => []

theorem drawnCells_cons (index : Int) (originX originY : UInt8) (cell : Nat × Nat)
    (rest : List (Nat × Nat)) :
    drawnCells index originX originY (cell :: rest) =
      if cellFault index originX originY cell = none then
        cell :: drawnCells index originX originY rest
      else [] := by
  simp only [drawnCells, List.takeWhile_cons, Option.isNone_iff_eq_none]

theorem read_plotCell {cell : Nat × Nat}
    (complete : (machine.plotCell originX originY cell.1 cell.2).fault = none) :
    (machine.plotCell originX originY cell.1 cell.2).machine.display.read x y =
      if (cellStroke machine.memory machine.index originX originY cell).Touches x y then
        .ok (cellStroke machine.memory machine.index originX originY cell).leaves
      else machine.display.read x y := by
  unfold plotCell at complete ⊢
  split at complete
  next => cases complete
  next byte read =>
    split at complete
    next => cases complete
    next erased display written =>
      simp only [Display.read_write written, cellStroke, Stroke.Touches, Stroke.leaves, read,
        eq_comm (a := x), eq_comm (a := y)]

theorem read_plot (machine : Machine) (originX originY : UInt8) (cells : List (Nat × Nat)) :
    (machine.plot originX originY cells).machine.display.read x y =
      latest (Stroke.Touches x y) (fun stroke => .ok stroke.leaves) (machine.display.read x y)
        ((drawnCells machine.index originX originY cells).map
          (cellStroke machine.memory machine.index originX originY)) := by
  induction cells generalizing machine with
  | nil => rfl
  | cons cell rest ih =>
    have first := plotCell_fault machine originX originY cell.1 cell.2
    cases fault : cellFault machine.index originX originY cell with
    | some found =>
      rw [fault] at first
      rw [plot_cons_failed rest first, plotCell_failed first, drawnCells_cons,
        if_neg (by simp [fault])]
      rfl
    | none =>
      rw [fault] at first
      -- Neither `I` nor the bytes of the sprite are changed by drawing one of its cells.
      obtain ⟨_, _, after⟩ := (plotCell_painted machine originX originY cell.1 cell.2).frame
      rw [plot_cons_complete rest first, ih, read_plotCell first, drawnCells_cons, if_pos fault,
        after]
      rfl

theorem execute_display {instruction : Instruction} (unwiped : instruction ≠ .clearScreen)
    (undrawn : ∀ x y height, instruction ≠ .draw x y height) :
    (machine.execute instruction).machine.display = machine.display := by
  rcases machine.execute_cases instruction with
    ⟨_, after, executed, completes⟩ | ⟨_, fault, after, executed, breaks⟩ <;> rw [executed]
  · cases completes with
    | clearScreen => exact absurd rfl unwiped
    | draw x y height => exact absurd rfl (undrawn x y height)
    | _ => rfl
  · cases breaks with
    | draw x y height => exact absurd rfl (undrawn x y height)
    | _ => rfl

theorem read_attempted (inside : (0 ≤ x ∧ x < 64) ∧ 0 ≤ y ∧ y < 32) :
    machine.attempted.display.read x y =
      latest (Stroke.Touches x y) (fun stroke => .ok stroke.leaves) (machine.display.read x y)
        machine.strokes := by
  simp only [attempted, strokes]
  cases machine.next? with
  | none => rfl
  | some instruction =>
    cases instruction with
    | clearScreen => exact Display.read_blank inside
    | draw column row height =>
      have drawn := read_plot machine.ready (machine.register column) (machine.register row)
        (spriteCells height.val) (x := x) (y := y)
      -- Complete or not, the instruction leaves the display as the cells have left it.
      refine Eq.trans ?_ drawn
      rcases machine.ready.drawSprite_cases column row height.val with
        ⟨_, same⟩ | ⟨_, _, same⟩
      all_goals exact congrArg (fun outcome => outcome.machine.display.read x y) same
    | _ =>
      apply congrArg (fun display : Display 64 32 => display.read x y) (execute_display ?_ ?_)
      all_goals simp

theorem pixel_recorded (tracing : Bool) (inside : (0 ≤ x ∧ x < 64) ∧ 0 ≤ y ∧ y < 32) :
    Recorded tracing (Stroke.Touches x y) (fun stroke => .ok stroke.leaves)
      (fun machine => machine.display.read x y) strokes where
  held := fun _ _ => rfl
  step := by
    intro machine
    obtain ⟨_, _, _, _, same⟩ := machine.cycle_machine tracing
    rw [same]
    exact read_attempted inside

theorem display_cycle {tracing : Bool}
    (elsewhere : ∀ word, machine.memory.readWord machine.pc = .ok word →
      ¬ Operation.clearScreen.pattern.Matches word ∧ ¬ Operation.draw.pattern.Matches word) :
    (machine.cycle tracing).machine.display = machine.display := by
  obtain ⟨_, _, _, _, same⟩ := machine.cycle_machine tracing
  rw [same]
  cases next : machine.next? with
  | none => simp only [attempted, next, ready]
  | some instruction =>
    obtain ⟨word, fetched, written, -⟩ := next?_matches next
    simp only [attempted, next]
    apply execute_display
    · rintro rfl
      exact (elsewhere word fetched).1 written
    · rintro x y height rfl
      exact (elsewhere word fetched).2 written

/-- A pixel is lit exactly if the last stroke that touched it was a lit dot. -/
theorem lit_iff_last_stroke (legacy : Bool) (memory : Memory) (keypad : Keypad)
    (random : RandomSource) (tracing : Bool) (keypads : List Keypad) (x : Fin 64) (y : Fin 32) :
    let start := powerOn legacy memory keypad random
    let history := (start.visited tracing keypads).flatMap strokes
    (∃ on, (start.run tracing keypads).display.read x.val y.val = .ok on ∧
      (on = true ↔ ∃ earlier later, history = earlier ++ .dot x.val y.val true :: later ∧
        ∀ stroke ∈ later, ¬ stroke.Touches x.val y.val)) ∧
    ∀ machine : Machine, (∀ word, machine.memory.readWord machine.pc = .ok word →
        ¬ Operation.clearScreen.pattern.Matches word ∧ ¬ Operation.draw.pattern.Matches word) →
      (machine.cycle tracing).machine.display = machine.display := by
  intro start history
  have inside : (0 ≤ (x.val : Int) ∧ (x.val : Int) < 64) ∧
      0 ≤ (y.val : Int) ∧ (y.val : Int) < 32 := by omega
  have recorded := pixel_recorded tracing inside
  refine ⟨?_, fun machine elsewhere => display_cycle elsewhere⟩
  rcases untouched_or_last (Stroke.Touches x.val y.val) history with
    untouched | ⟨earlier, stroke, later, same, touched, untouched⟩
  · -- Nothing has been drawn here since the machine was switched on.
    have dark := (recorded.run_untouched untouched).trans (Display.read_blank inside)
    refine ⟨false, dark, nofun, ?_⟩
    rintro ⟨earlier, later, same, -⟩
    have member : Stroke.dot x.val y.val true ∈ history := by
      rw [same]
      exact List.mem_append_right earlier List.mem_cons_self
    exact absurd ⟨rfl, rfl⟩ (untouched _ member)
  · have last := recorded.run_last same touched untouched
    refine ⟨stroke.leaves, last, ?_, ?_⟩
    · intro lit
      rw [Stroke.eq_dot touched lit] at same
      exact ⟨earlier, later, same, untouched⟩
    · rintro ⟨_, _, dotted, others⟩
      exact Except.ok.inj (last.symm.trans (recorded.run_last dotted ⟨rfl, rfl⟩ others))

end Machine

end ChipEight
