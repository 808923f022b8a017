import Mathlib.Data.List.TakeWhile
import ChipEight.Proofs.Strokes

set_option autoImplicit false

namespace ChipEight

theorem Display.erased_iff {width height : Int} {display after : Display width height} {x y : Int}
    {on erased : Bool} (written : display.write x y on = .ok (erased, after)) :
    erased = true ↔ display.byteAt x y = .ok lit ∧ on = false := by
  have inside := write_ok written
  rw [write_inside display on inside] at written
  obtain ⟨rfl, -⟩ := Prod.mk.inj (Except.ok.inj written)
  have byte : display.byteAt x y = .ok (display.pixels.get ⟨_, offset_lt inside⟩) := by
    simp only [byteAt, offset_inside inside]
    rfl
  rw [byte, Except.ok.injEq, Bool.and_eq_true, beq_iff_eq, Bool.not_eq_true']

namespace Machine

open Instruction

variable {machine : Machine} {originX originY : UInt8} {cells : List (Nat × Nat)}

def Erases (machine : Machine) (originX originY : UInt8) (cell : Nat × Nat) : Prop :=
  machine.display.byteAt (originX.toNat + cell.2) (originY.toNat + cell.1) = .ok Display.lit ∧
    ∃ byte, machine.memory.read (machine.index + cell.1) = .ok byte ∧
      byte.toNat.testBit (7 - cell.2) = false

structure Drawn (before : Machine) (originX originY : UInt8) (cells : List (Nat × Nat))
    (after : Machine) : Prop where
  bits : ∀ cell ∈ cells, ∃ byte, before.memory.read (before.index + cell.1) = .ok byte ∧
    after.display.byteAt (originX.toNat + cell.2) (originY.toNat + cell.1) =
      .ok (if byte.toNat.testBit (7 - cell.2) then Display.lit else Display.dark)
  pixels : ∀ x y, (x, y) ∉ cells.map (cellPoint originX originY) →
    after.display.byteAt x y = before.display.byteAt x y
  raised : (∃ cell ∈ cells, before.Erases originX originY cell) → after.register 15 = 1
  unraised : (∀ cell ∈ cells, ¬ before.Erases originX originY cell) →
    after.register 15 = before.register 15
  registers : ∀ x, x ≠ 15 → after.register x = before.register x
  memory : after.memory = before.memory
  index : after.index = before.index
  stack : after.stack = before.stack

theorem not_erases_of_settled {cell : Nat × Nat}
    (settled : machine.Settled originX originY cell) : ¬ machine.Erases originX originY cell := by
  rintro ⟨lit, byte, read, clear⟩
  obtain ⟨shown, reread, pixel⟩ := settled
  cases read.symm.trans reread
  rw [clear] at pixel
  cases lit.symm.trans pixel

theorem flag_plotCell {row column : Nat}
    (complete : (machine.plotCell originX originY row column).fault = none) :
    (machine.Erases originX originY (row, column) →
      (machine.plotCell originX originY row column).machine.register 15 = 1) ∧
    (¬ machine.Erases originX originY (row, column) →
      (machine.plotCell originX originY row column).machine.register 15 =
        machine.register 15) := by
  unfold plotCell at complete ⊢
  split at complete
  next => cases complete
  next byte read =>
    split at complete
    next => cases complete
    next erased display written =>
      have tells := Display.erased_iff written
      cases erased with
      | true =>
        refine ⟨fun _ => (register_setRegister machine 15 15 1).trans (if_pos rfl), fun kept => ?_⟩
        exact absurd ⟨(tells.mp rfl).1, byte, read, (tells.mp rfl).2⟩ kept
      | false =>
        refine ⟨fun ⟨lit, other, reread, clear⟩ => ?_, fun _ => rfl⟩
        cases read.symm.trans reread
        cases tells.mpr ⟨lit, clear⟩

theorem erases_after_plotCell {row column : Nat} {cell : Nat × Nat}
    (complete : (machine.plotCell originX originY row column).fault = none) :
    (machine.plotCell originX originY row column).machine.Erases originX originY cell ↔
      cell ≠ (row, column) ∧ machine.Erases originX originY cell := by
  by_cases same : cell = (row, column)
  · subst same
    exact iff_of_false (not_erases_of_settled (settled_plotCell complete)) fun apart => apart.1 rfl
  · have painted := plotCell_painted machine originX originY row column
    have apart : cellPoint originX originY cell ∉ [cellPoint originX originY (row, column)] :=
      fun member => same (cellPoint_injective (List.mem_singleton.mp member))
    have pixel := painted.pixels _ _ apart
    obtain ⟨_, _, after⟩ := painted.frame
    simp only [Erases, pixel, ne_eq, same, not_false_eq_true, true_and]
    rw [after]

inductive Plots (originX originY : UInt8) : Machine → List (Nat × Nat) → Machine → Prop where
  | nothing (machine : Machine) : Plots originX originY machine [] machine
  | cell {machine after : Machine} {cell : Nat × Nat} {rest : List (Nat × Nat)}
    (complete : (machine.plotCell originX originY cell.1 cell.2).fault = none)
    (others : Plots originX originY (machine.plotCell originX originY cell.1 cell.2).machine
      rest after) :
    Plots originX originY machine (cell :: rest) after

theorem plot_plots (machine : Machine) (originX originY : UInt8) (cells : List (Nat × Nat)) :
    Plots originX originY machine (drawnCells machine.index originX originY cells)
      (machine.plot originX originY cells).machine := by
  induction cells generalizing machine with
  | nil => exact .nothing machine
  | cons cell rest ih =>
    have first := plotCell_fault machine originX originY cell.1 cell.2
    rw [drawnCells_cons]
    cases fault : cellFault machine.index originX originY cell with
    | some found =>
      rw [fault] at first
      rw [plot_cons_failed rest first, plotCell_failed first, if_neg nofun]
      exact .nothing machine
    | none =>
      rw [fault] at first
      -- Drawing never moves `I`, so the cell that is going to fail stays the same.
      obtain ⟨_, _, after⟩ := (plotCell_painted machine originX originY cell.1 cell.2).frame
      have index : (machine.plotCell originX originY cell.1 cell.2).machine.index =
          machine.index := by
        rw [after]
      rw [plot_cons_complete rest first, if_pos rfl, ← index]
      exact .cell first (ih _)

namespace Plots

variable {after : Machine}

theorem painted (plots : Plots originX originY machine cells after) :
    Painted (cells.map (cellPoint originX originY)) machine after := by
  induction plots with
  | nothing machine => exact Painted.nothing _ machine
  | cell complete others ih => exact (plotCell_painted _ originX originY _ _).trans ih

theorem keeps_settled (plots : Plots originX originY machine cells after) {cell : Nat × Nat}
    (settled : machine.Settled originX originY cell) : after.Settled originX originY cell := by
  induction plots with
  | nothing => exact settled
  | cell complete others ih => exact ih (settled.after_plotCell _ _)

theorem settles (plots : Plots originX originY machine cells after) {cell : Nat × Nat}
    (member : cell ∈ cells) : after.Settled originX originY cell := by
  induction plots with
  | nothing => exact absurd member List.not_mem_nil
  | cell complete others ih =>
    rcases List.mem_cons.mp member with rfl | later
    · exact others.keeps_settled (settled_plotCell complete)
    · exact ih later

theorem raises (plots : Plots originX originY machine cells after) {cell : Nat × Nat}
    (member : cell ∈ cells) (erases : machine.Erases originX originY cell) :
    after.register 15 = 1 := by
  induction plots with
  | nothing => exact absurd member List.not_mem_nil
  | @cell machine _ first _ complete others ih =>
    by_cases same : cell = first
    · -- The flag is up from here on, since drawing never lowers it.
      subst same
      have raised := (flag_plotCell complete).1 erases
      rcases others.painted.flag with kept | again
      · exact kept.trans raised
      · exact again
    · have later := (List.mem_cons.mp member).resolve_left same
      exact ih later ((erases_after_plotCell complete).mpr ⟨same, erases⟩)

theorem keeps_flag (plots : Plots originX originY machine cells after)
    (harmless : ∀ cell ∈ cells, ¬ machine.Erases originX originY cell) :
    after.register 15 = machine.register 15 := by
  induction plots with
  | nothing => rfl
  | cell complete others ih =>
    rw [List.forall_mem_cons] at harmless
    refine (ih fun later member erases => ?_).trans ((flag_plotCell complete).2 harmless.1)
    exact harmless.2 later member ((erases_after_plotCell complete).mp erases).2

theorem drawn (plots : Plots originX originY machine cells after) :
    Drawn machine originX originY cells after := by
  have painted := plots.painted
  obtain ⟨registers, display, same⟩ := painted.frame
  constructor
  case bits =>
    intro cell member
    obtain ⟨byte, read, shown⟩ := plots.settles member
    rw [same] at read
    exact ⟨byte, read, shown⟩
  case pixels => exact painted.pixels
  case raised => exact fun ⟨_, member, erases⟩ => plots.raises member erases
  case unraised => exact plots.keeps_flag
  case registers => exact painted.registers
  all_goals rw [same]

end Plots

section Sprite

variable (machine : Machine) (x y : Fin 16) (height : Nat)

def spriteFault (machine : Machine) (x y : Fin 16) (height : Nat) : Option Fault :=
  (spriteCells height).findSome? (cellFault machine.index (machine.register x) (machine.register y))

def spriteDrawn (machine : Machine) (x y : Fin 16) (height : Nat) : List (Nat × Nat) :=
  drawnCells machine.index (machine.register x) (machine.register y) (spriteCells height)

variable {machine x y height} in
theorem spriteDrawn_of_complete (complete : machine.spriteFault x y height = none) :
    machine.spriteDrawn x y height = spriteCells height := by
  rw [spriteFault, List.findSome?_eq_none_iff] at complete
  rw [spriteDrawn, drawnCells, List.takeWhile_eq_self_iff]
  intro cell member
  simp [complete cell member]

theorem drawSprite_drawn :
    (machine.drawSprite x y height).fault = machine.spriteFault x y height ∧
    Drawn machine (machine.register x) (machine.register y) (machine.spriteDrawn x y height)
      (machine.drawSprite x y height).machine ∧
    (machine.spriteFault x y height = none →
      (machine.drawSprite x y height).machine.draw = true ∧
      (machine.drawSprite x y height).machine.pc = machine.pc + 2) ∧
    (machine.spriteFault x y height ≠ none →
      (machine.drawSprite x y height).machine.pc = machine.pc) := by
  have plots := machine.plot_plots (machine.register x) (machine.register y) (spriteCells height)
  have fault := machine.plot_fault (machine.register x) (machine.register y) (spriteCells height)
  obtain ⟨_, _, frame⟩ := plots.painted.frame
  have pc := congrArg Machine.pc frame
  have drawn := plots.drawn
  rcases machine.drawSprite_cases x y height with ⟨complete, same⟩ | ⟨cause, found, same⟩
  · rw [complete] at fault
    rw [same]
    refine ⟨fault, { drawn with }, fun _ => ⟨rfl, congrArg (· + 2) pc⟩, fun broken => ?_⟩
    exact absurd fault.symm broken
  · rw [same]
    refine ⟨fault, drawn, fun complete => ?_, fun _ => pc⟩
    cases found.symm.trans (fault.trans complete)

end Sprite

theorem obey_outcome {tracing : Bool} {opcode : Int} {instruction : Instruction}
    (decoded : decode opcode = .ok instruction) :
    (machine.obey tracing opcode).outcome = machine.execute instruction := by
  simp only [obey, decoded]
  split <;> rfl

/-- A sprite is drawn cell by cell, up to the first cell that cannot be drawn. -/
theorem sprite_drawn (machine : Machine) {opcode : Int} (tracing : Bool)
    (written : Operation.draw.pattern.Matches (word opcode)) :
    let x := registerX (word opcode)
    let y := registerY (word opcode)
    let height := word opcode % 0x10
    let fault := machine.spriteFault x y height
    let outcome := (machine.obey tracing opcode).outcome
    let cycled := machine.cycle tracing
    (outcome.fault = fault ∧
      Drawn machine (machine.register x) (machine.register y) (machine.spriteDrawn x y height)
        outcome.machine ∧
      (fault = none → outcome.machine.draw = true ∧ outcome.machine.pc = machine.pc + 2) ∧
      (fault ≠ none → outcome.machine.pc = machine.pc)) ∧
    (machine.memory.readWord machine.pc = .ok (word opcode) →
      Drawn machine (machine.register x) (machine.register y) (machine.spriteDrawn x y height)
        cycled.machine ∧
      (fault = none → cycled.result = .ok true ∧ cycled.machine.draw = true ∧
        cycled.machine.pc = machine.pc + 2) ∧
      ∀ cause, fault = some cause → cycled.result = .ok false ∧
        cycled.machine.fault = some (.fault cause) ∧ cycled.machine.pc = machine.pc) := by
  intro x y height fault outcome cycled
  have decoded : decode opcode = .ok (.draw x y (lastDigit (word opcode))) := by
    simp only [decode, ofWord?_of_matches (word_lt opcode) written]
    rfl
  constructor
  · have same : outcome = machine.drawSprite x y height := obey_outcome decoded
    rw [same]
    exact machine.drawSprite_drawn x y height
  · intro fetched
    have obeyed : machine.ready.fetchAndObey tracing = machine.ready.obey tracing (word opcode) :=
      fetchAndObey_fetched tracing fetched
    have redecoded := decode_of_matches (word_lt opcode) written
    obtain ⟨failure, drawn, complete, broken⟩ := machine.ready.drawSprite_drawn x y height
    have same : machine.ready.spriteFault x y height = fault := rfl
    rw [same] at failure complete broken
    rcases executed : machine.ready.execute (.draw x y (lastDigit (word opcode))) with
      ⟨after, _ | cause⟩
    · obtain ⟨printed, done⟩ := obey_complete tracing redecoded executed
      have course : cycled = ⟨after.tickTimers, .ok true, printed⟩ :=
        cycle_complete tracing (obeyed.trans done)
      have same : machine.ready.drawSprite x y height = ⟨after, none⟩ := executed
      rw [same] at failure drawn complete
      rw [course]
      refine ⟨{ drawn with }, fun whole => ⟨rfl, complete whole⟩, fun cause found => ?_⟩
      cases failure.trans found
    · have halts : cause.halts = true := by
        have raised := congrArg Outcome.fault executed
        exact halts_of_bounds (plot_fault_kind ((machine.ready.plot_fault _ _ _).trans
          (failure.symm.trans raised)))
      have course : cycled = after.halted cause :=
        cycle_halted tracing (obeyed.trans (obey_broken tracing redecoded executed)) halts
      have same : machine.ready.drawSprite x y height = ⟨after, some cause⟩ := executed
      rw [same] at failure drawn broken
      rw [course]
      refine ⟨{ drawn with }, fun whole => ?_, fun other found => ?_⟩
      · cases failure.trans whole
      · cases failure.trans found
        exact ⟨rfl, rfl, broken (by simp [← failure])⟩

-- A fully lit machine about to draw fifteen rows at column 60, which `VF` holds.
def smudged : Machine :=
  { Machine.new false (RandomSource.cycling #[]) with
    memory := ⟨Vector.replicate 4096 0xDF⟩
    registers := (Vector.replicate 16 0).set 15 60
    display := ⟨Vector.replicate 2048 Display.lit⟩ }

theorem smudged_drawn :
    Operation.draw.pattern.Matches (word 0xDFDF) ∧
    smudged.memory.readWord smudged.pc = .ok (word 0xDFDF) ∧
    (smudged.cycle false).machine.fault = some (.fault (.pixelOutside 64 0 64 32)) ∧
    (smudged.cycle false).machine.register 15 = 1 ∧
    (smudged.cycle false).machine.display.byteAt 62 0 = .ok Display.dark ∧
    (smudged.cycle false).machine.display.byteAt 0 1 = .ok Display.lit := by
  have opcode : word 0xDFDF = 0xDFDF := rfl
  have written : Operation.draw.pattern.Matches (word 0xDFDF) := by
    simp [opcode, Operation.pattern, Pattern.Matches]
  have fetched : smudged.memory.readWord smudged.pc = .ok (word 0xDFDF) := by decide +kernel
  obtain ⟨drawn, -, broken⟩ := (sprite_drawn smudged false written).2 fetched
  have fault : smudged.spriteFault 15 13 15 = some (.pixelOutside 64 0 64 32) := by decide +kernel
  have cells : smudged.spriteDrawn 15 13 15 = [(0, 0), (0, 1), (0, 2), (0, 3)] := by decide +kernel
  have erases : smudged.Erases 60 0 (0, 2) :=
    ⟨by decide +kernel, 0xDF, by decide +kernel, by decide⟩
  refine ⟨written, fetched, (broken _ fault).2.1, ?_, ?_, ?_⟩
  · exact drawn.raised ⟨(0, 2), by decide +kernel, erases⟩
  · obtain ⟨byte, read, shown⟩ := drawn.bits (0, 2) (by decide +kernel)
    have first : smudged.memory.read (smudged.index + (0 : Nat)) = .ok 0xDF := by decide +kernel
    cases first.symm.trans read
    exact shown
  · exact (drawn.pixels 0 1 (by decide +kernel)).trans (by decide +kernel)

end Machine

end ChipEight
