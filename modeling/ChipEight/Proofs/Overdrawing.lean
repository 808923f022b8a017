import ChipEight.Proofs.Digits
import ChipEight.Proofs.Drawing

set_option autoImplicit false

namespace ChipEight.Machine

open Instruction

variable {machine after : Machine} {originX originY : UInt8} {cells : List (Nat × Nat)}

theorem Drawn.settled (drawn : Drawn machine originX originY cells after) {cell : Nat × Nat}
    (member : cell ∈ cells) : after.Settled originX originY cell := by
  obtain ⟨byte, read, shown⟩ := drawn.bits cell member
  rw [← drawn.memory, ← drawn.index] at read
  exact ⟨byte, read, shown⟩

theorem plot_settled (settled : ∀ cell ∈ cells, machine.Settled originX originY cell) :
    machine.plot originX originY cells = ⟨machine, none⟩ := by
  induction cells with
  | nil => rfl
  | cons cell rest ih =>
    rw [List.forall_mem_cons] at settled
    rw [settled.1.plot_cons, ih settled.2]

theorem drawSprite_settled {x y : Fin 16} {height : Nat} (shown : machine.draw = true)
    (settled : ∀ cell ∈ spriteCells height,
      machine.Settled (machine.register x) (machine.register y) cell) :
    machine.drawSprite x y height = ⟨{ machine with pc := machine.pc + 2 }, none⟩ := by
  have flagged : { machine with draw := true } = machine := by rw [← shown]
  simp only [drawSprite, plot_settled settled, Outcome.thenDraw, flagged, Outcome.thenAdvance,
    advance]

theorem obey_draw (machine : Machine) (tracing : Bool) (x y height : Fin 16) :
    (machine.obey tracing (spelled 0xD x y height)).outcome = machine.drawSprite x y height :=
  obey_outcome (decode_draw x y height)

/-- Once a sprite has been drawn, drawing it again changes nothing, whatever `VF` holds by then. -/
theorem redrawn_unchanged {drawn : Machine} {x y height : Fin 16} (tracing : Bool)
    (column : x ≠ 15) (row : y ≠ 15)
    (first : (machine.obey tracing (spelled 0xD x y height)).outcome = ⟨drawn, none⟩) :
    (drawn.obey tracing (spelled 0xD x y height)).outcome =
      ⟨{ drawn with pc := drawn.pc + 2 }, none⟩ ∧
    ∀ flag, ((drawn.setRegister 15 flag).obey tracing (spelled 0xD x y height)).outcome =
      ⟨{ drawn.setRegister 15 flag with pc := drawn.pc + 2 }, none⟩ := by
  obtain ⟨fault, sprite, whole, -⟩ := machine.drawSprite_drawn x y height
  rw [← obey_draw machine tracing, first] at fault sprite whole
  rw [spriteDrawn_of_complete fault.symm] at sprite
  have again (flag : UInt8) :
      ((drawn.setRegister 15 flag).obey tracing (spelled 0xD x y height)).outcome =
        ⟨{ drawn.setRegister 15 flag with pc := drawn.pc + 2 }, none⟩ := by
    have coordinate (z : Fin 16) (other : z ≠ 15) :
        (drawn.setRegister 15 flag).register z = machine.register z := by
      rw [register_setRegister, if_neg other, sprite.registers z other]
    have shown : (drawn.setRegister 15 flag).draw = true := (whole fault.symm).1
    rw [obey_draw, drawSprite_settled shown]
    next => rfl
    next =>
      -- Whether a pixel shows its bit does not depend on the registers.
      rw [coordinate x column, coordinate y row]
      exact fun cell member => sprite.settled member
  refine ⟨?_, again⟩
  have same : drawn.setRegister 15 (drawn.register 15) = drawn := by
    rw [setRegister, register, Row.replace_self]
  simpa only [same] using again (drawn.register 15)

theorem smudged_unchanged :
    ∃ drawn : Machine, (smudged.obey false (spelled 0xD 0 0 15)).outcome = ⟨drawn, none⟩ ∧
      drawn.register 15 = 1 ∧
      (drawn.obey false (spelled 0xD 0 0 15)).outcome =
        ⟨{ drawn with pc := drawn.pc + 2 }, none⟩ ∧
      ((drawn.setRegister 15 0).obey false (spelled 0xD 0 0 15)).outcome =
        ⟨{ drawn.setRegister 15 0 with pc := drawn.pc + 2 }, none⟩ := by
  obtain ⟨fault, sprite, -⟩ := smudged.drawSprite_drawn 0 0 (15 : Fin 16)
  have complete : smudged.spriteFault 0 0 (15 : Fin 16) = none := by decide +kernel
  have erases : smudged.Erases (smudged.register 0) (smudged.register 0) (0, 2) :=
    ⟨by decide +kernel, 0xDF, by decide +kernel, by decide⟩
  have member : (0, 2) ∈ spriteCells (15 : Fin 16) := mem_spriteCells.mpr (by decide)
  rw [← obey_draw smudged false, complete] at fault
  rw [← obey_draw smudged false, spriteDrawn_of_complete complete] at sprite
  have raised := sprite.raised ⟨(0, 2), member, erases⟩
  rcases first : (smudged.obey false (spelled 0xD 0 0 15)).outcome with ⟨drawn, failure⟩
  rw [first] at fault raised
  cases fault
  obtain ⟨second, lowered⟩ := redrawn_unchanged false (by decide) (by decide) first
  exact ⟨drawn, rfl, raised, second, lowered 0⟩

end ChipEight.Machine
