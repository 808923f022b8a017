import ChipEight.Proofs.Digits
import ChipEight.Proofs.Drawing
import ChipEight.Proofs.Replay
import ChipEight.Proofs.Timers

set_option autoImplicit false

namespace ChipEight

namespace Memory.Lettered

variable {memory : Memory}

theorem read_glyph (lettered : memory.Lettered) {digit row : Nat} (small : digit ≤ 15)
    (inside : row < 5) :
    ∃ byte, Font.glyphs[5 * digit + row]? = some byte ∧
      memory.read (Font.glyphAddress digit + row) = .ok byte := by
  have place : (Font.glyphAddress digit + row).toNat = 0x50 + (5 * digit + row) := by
    simp only [Font.glyphAddress, Font.start, Font.glyphSize]
    omega
  have bounds : 0 ≤ Font.glyphAddress digit + row ∧ Font.glyphAddress digit + row < 4096 := by
    omega
  have found := lettered ⟨_, address_lt bounds⟩ (by simp only [InFont]; omega)
  rw [show 5 * digit + row = (Font.glyphAddress digit + row).toNat - 0x50 by omega]
  exact ⟨_, found, read_inside memory bounds⟩

end Memory.Lettered

namespace Machine

open Instruction

variable {machine : Machine} {tracing : Bool}

def SparesFont (machine : Machine) : Prop :=
  ∀ x, machine.next? = some (.storeDigits x) → machine.legacy = false →
    ¬ (0x4E ≤ machine.index ∧ machine.index ≤ 0x9F)

instance : DecidablePred SparesFont :=
  fun _ => inferInstanceAs (Decidable (∀ _, _ → _ → ¬ (_ ∧ _)))

theorem lettered_cycle (lettered : machine.memory.Lettered)
    (spares : (machine.cycle tracing).result = .ok true → machine.SparesFont) :
    (machine.cycle tracing).machine.memory.Lettered := by
  intro place inside
  have apart : ∀ store ∈ machine.digitStores tracing, ¬ store.Covers place.val := by
    intro store member
    obtain ⟨x, next, unquirked, success, rfl⟩ := mem_digitStores member
    have beside := spares success x next unquirked
    simp only [Memory.InFont, DigitStore.Covers] at inside ⊢
    omega
  have step := (byte_recorded tracing place).step machine
  rw [latest_of_untouched apart] at step
  simpa only [step] using lettered place inside

/-- The glyph of a digit on the display, and everything around it as it was before. -/
structure Lettering (before : Display 64 32) (digit left top : Nat) (after : Display 64 32) :
    Prop where
  glyph : ∀ row column : Nat, row < 5 → column < 8 → ∃ byte,
    Font.glyphs[5 * digit + row]? = some byte ∧
    after.read (left + column) (top + row) = .ok (byte.toNat.testBit (7 - column))
  around : ∀ x y : Int, ¬ ((left ≤ x ∧ x < left + 8) ∧ top ≤ y ∧ y < top + 5) →
    after.byteAt x y = before.byteAt x y

theorem drawSprite_glyph {x y : Fin 16} {digit : Nat} (lettered : machine.memory.Lettered)
    (pointed : machine.index = Font.glyphAddress digit) (small : digit ≤ 15)
    (column : (machine.register x).toNat ≤ 56) (row : (machine.register y).toNat ≤ 27) :
    (machine.drawSprite x y 5).fault = none ∧
      Lettering machine.display digit (machine.register x).toNat (machine.register y).toNat
        (machine.drawSprite x y 5).machine.display := by
  obtain ⟨fault, drawn, -⟩ := machine.drawSprite_drawn x y 5
  have complete : machine.spriteFault x y 5 = none := by
    rw [spriteFault, ← plot_fault, plot_complete_iff, pointed]
    simp only [Font.glyphAddress, Font.start, Font.glyphSize]
    omega
  rw [spriteDrawn_of_complete complete] at drawn
  refine ⟨fault.trans complete, ?_, ?_⟩
  · intro row column inside within
    obtain ⟨byte, found, read⟩ := lettered.read_glyph small inside
    obtain ⟨other, reread, shown⟩ := drawn.bits (row, column) (mem_spriteCells.mpr ⟨inside, within⟩)
    rw [pointed, read] at reread
    cases reread
    refine ⟨byte, found, ?_⟩
    rw [Display.read_eq_byteAt, shown]
    cases byte.toNat.testBit (7 - column) <;> rfl
  · intro x y outside
    apply drawn.pixels
    simp only [List.mem_map, not_exists, not_and, Prod.forall, cellPoint, mem_spriteCells,
      Prod.mk.injEq]
    omega

end Machine

namespace Interpreter

variable {interpreter : Interpreter}

theorem lettered_perform {request : Request} (lettered : interpreter.machine.memory.Lettered)
    (spared : ∀ machine ∈ interpreter.executes request, machine.SparesFont) :
    (interpreter.perform request).machine.memory.Lettered := by
  cases traced : interpreter.cycleTraced? request with
  | some tracing =>
    rw [perform_cycle traced]
    apply Machine.lettered_cycle lettered
    intro success
    simpa [executes, traced, success] using spared
  | none =>
    by_cases resets : request = .reset
    · subst resets
      simpa only [perform, Machine.reset_memory] using Memory.loadFont_lettered _
    · obtain ⟨memory, keypad, state, fault, same, kept | ⟨program, length, loaded⟩⟩ :=
        perform_idle traced resets
      · simpa only [same, kept] using lettered
      · simpa only [same] using lettered.loadProgram loaded

theorem lettered_performAll {requests : List Request} (lettered : interpreter.machine.memory.Lettered)
    (spared : ∀ machine ∈ interpreter.executed requests, machine.SparesFont) :
    (interpreter.performAll requests).machine.memory.Lettered := by
  induction requests generalizing interpreter with
  | nil => exact lettered
  | cons request rest ih =>
    simp only [executed, List.forall_mem_append] at spared
    exact ih (lettered_perform lettered spared.1) spared.2

/-- As long as no digits are stored over the font, it stays in memory and is drawn as it is. -/
theorem digits_lettered (legacy : Bool) (random : RandomSource) (scale : Int) (tracing : Bool)
    (requests : List Request) :
    let start := new (Machine.new legacy random) scale tracing
    ((∀ machine ∈ start.executed requests, machine.SparesFont) →
      (start.performAll requests).machine.memory.Lettered) ∧
    ∀ (machine : Machine) (tracing : Bool) (x y z : Fin 16), machine.memory.Lettered →
      (machine.register z).toNat ≤ 15 → (machine.register x).toNat ≤ 56 →
      (machine.register y).toNat ≤ 27 →
        let pointed := (machine.obey tracing (Instruction.spelled 0xF z 0x2 0x9)).outcome
        let drawn := (pointed.machine.obey tracing (Instruction.spelled 0xD x y 0x5)).outcome
        pointed.fault = none ∧ drawn.fault = none ∧
          Machine.Lettering machine.display (machine.register z).toNat (machine.register x).toNat
            (machine.register y).toNat drawn.machine.display := by
  intro start
  constructor
  · exact lettered_performAll (Memory.loadFont_lettered _)
  · intro machine tracing x y z lettered digit column row pointed drawn
    have points : pointed = machine.execute (.selectGlyph z) :=
      Machine.obey_outcome (Instruction.decode_selectGlyph z)
    have draws : drawn = pointed.machine.drawSprite x y 5 :=
      Machine.obey_outcome (Instruction.decode_draw x y 0x5)
    rw [draws, points]
    exact ⟨rfl, Machine.drawSprite_glyph lettered rfl digit column row⟩

-- Stores the digits of 123 right before the font and right behind it, and points at its last glyph
-- with `VF`.
def bordering : List UInt8 :=
  [0x60, 0x7B, 0xA0, 0x4D, 0xF0, 0x33, 0xA0, 0xA0, 0xF0, 0x33, 0x6F, 0x0F]

theorem bordering_fits : bordering.length ≤ 0xE00 := by
  decide

def bordered : Machine :=
  (Machine.ofProgram false (RandomSource.cycling #[]) bordering bordering_fits).afterCycles false 6

theorem bordered_lettered :
    bordered.memory.read 0x4F = .ok 3 ∧ bordered.memory.read 0xA0 = .ok 1 ∧
    bordered.memory.Lettered ∧
    let pointed := (bordered.obey false (Instruction.spelled 0xF 15 0x2 0x9)).outcome
    let drawn := (pointed.machine.obey false (Instruction.spelled 0xD 15 15 0x5)).outcome
    drawn.fault = none ∧ drawn.machine.display.read 18 15 = .ok true ∧
      drawn.machine.display.read 19 15 = .ok false ∧
      drawn.machine.display.byteAt 23 15 = .ok Display.dark := by
  obtain ⟨run, draws⟩ := digits_lettered false (RandomSource.cycling #[]) 10 false
    (.load bordering.toArray :: List.replicate 6 (.cycle false))
  have loaded := perform_load_new false (RandomSource.cycling #[]) 10 false bordering_fits
  have spared : ∀ number < 6, (Machine.afterCycles false
      (Machine.ofProgram false (RandomSource.cycling #[]) bordering bordering_fits)
      number).SparesFont := by
    decide +kernel
  have lettered : bordered.memory.Lettered := by
    simp only [executed, performAll_cons, loaded, executed_cycles, performAll_cycles] at run
    apply run
    simpa [executes, cycleTraced?, new] using fun number small _ => spared number small
  have digit : bordered.register 15 = 15 := by decide +kernel
  obtain ⟨-, complete, shown⟩ := draws bordered false 15 15 15 lettered (by simp [digit])
    (by simp [digit]) (by simp [digit])
  -- The first row of the last glyph is `0xF0`.
  obtain ⟨lit, first, fourth⟩ := shown.glyph 0 3 (by decide) (by decide)
  obtain ⟨dark, same, fifth⟩ := shown.glyph 0 4 (by decide) (by decide)
  have outside := shown.around 23 15 (by simp [digit])
  simp only [digit] at first same fourth fifth
  cases first
  cases same
  exact ⟨by decide +kernel, by decide +kernel, lettered, complete, fourth, fifth,
    outside.trans (by decide +kernel)⟩

end Interpreter

end ChipEight
