import ChipEight.Proofs.Loading
import ChipEight.Proofs.Setting
import Mathlib.Data.List.Forall2

set_option autoImplicit false

namespace ChipEight

structure CycleResult.Agrees (relation : Machine → Machine → Prop) (first second : CycleResult) :
    Prop where
  result : second.result = first.result
  printed : second.printed = first.printed
  machine : relation first.machine second.machine

def Instruction.readsMode : Instruction → Bool
  | .storeDigits _ => true
  | .loadRegisters x => x.val != 0
  | _ => false

namespace Machine

def cycles (tracing : Bool) (machine : Machine) (keypads : List Keypad) : List CycleResult :=
  (machine.visited tracing keypads).map (cycle tracing)

def SameButMode (first second : Machine) : Prop :=
  second = { first with legacy := second.legacy }

def SameButInputs (first second : Machine) : Prop :=
  second = { first with keypad := second.keypad, random := second.random }

def Unswayed (machine : Machine) (other : Keypad) : Instruction → Prop
  | .random _ mask => mask = 0
  | .skipPressed x | .skipReleased x => ∀ inside : (machine.register x).toNat < 16,
    other.pressed.get ⟨_, inside⟩ = machine.keypad.pressed.get ⟨_, inside⟩
  | _ => True

instance (machine : Machine) (other : Keypad) : DecidablePred (machine.Unswayed other) := by
  intro instruction
  cases instruction <;> dsimp only [Unswayed] <;> infer_instance

section Runs

variable {tracing : Bool} {first second : Machine}

theorem readsAlike_of_unread {legacy : Bool} {instruction : Instruction}
    (unread : instruction.readsMode = false) :
    first.ReadsAlike (first.fitted legacy first.keypad first.random) instruction := by
  cases instruction with
  | storeDigits x => cases unread
  | loadRegisters x => exact .inl (bne_eq_false_iff_eq.mp unread)
  | skipPressed x | skipReleased x => exact fun _ => rfl
  | random x mask => rfl
  | _ => trivial

theorem cycle_unread (tracing : Bool) (same : SameButMode first second)
    (unread : ∀ instruction ∈ first.next?, instruction.readsMode = false) :
    CycleResult.Agrees SameButMode (first.cycle tracing) (second.cycle tracing) := by
  have fitted : second = first.fitted second.legacy first.keypad first.random := same
  have cycled := cycle_fitted second.legacy first.keypad first.random tracing
    fun instruction next => readsAlike_of_unread (unread instruction next)
  obtain ⟨_, keypad, random⟩ := first.cycle_fittings tracing
  rw [← fitted] at cycled
  rw [cycled, ← random]
  refine ⟨rfl, rfl, ?_⟩
  rw [SameButMode, Machine.fitted, ← keypad]

theorem readsAlike_of_unswayed {keypad : Keypad} {random : RandomSource}
    {instruction : Instruction} (unswayed : first.Unswayed keypad instruction) :
    first.ReadsAlike (first.fitted first.legacy keypad random) instruction := by
  cases instruction with
  | storeDigits x => rfl
  | loadRegisters x => exact .inr rfl
  | skipPressed x | skipReleased x => exact unswayed
  | random x mask =>
    cases unswayed
    rw [ReadsAlike, UInt8.and_zero, UInt8.and_zero]
  | _ => trivial

theorem cycle_unswayed (tracing : Bool) (same : SameButInputs first second)
    (unswayed : ∀ instruction ∈ first.next?, first.Unswayed second.keypad instruction) :
    CycleResult.Agrees SameButInputs (first.cycle tracing) (second.cycle tracing) := by
  have fitted : second = first.fitted first.legacy second.keypad second.random := same
  have cycled := cycle_fitted first.legacy second.keypad second.random tracing
    fun instruction next => readsAlike_of_unswayed (unswayed instruction next)
  obtain ⟨legacy, _, _⟩ := first.cycle_fittings tracing
  rw [← fitted] at cycled
  rw [cycled, ← legacy]
  exact ⟨rfl, rfl, rfl⟩

/-- Machines that differ in the mode alone run in lockstep, as long as nothing depends on the mode.
-/
theorem modes_in_lockstep (same : SameButMode first second) (keypads : List Keypad)
    (unread : ∀ visited ∈ first.visited tracing keypads, ∀ instruction ∈ visited.next?,
      instruction.readsMode = false) :
    List.Forall₂ (CycleResult.Agrees SameButMode) (first.cycles tracing keypads)
      (second.cycles tracing keypads) := by
  induction keypads generalizing first second with
  | nil => exact .nil
  | cons keypad rest ih =>
    rw [visited, List.forall_mem_cons] at unread
    have held : SameButMode (first.hold keypad) (second.hold keypad) := by
      rw [same]
      rfl
    have agrees := cycle_unread tracing held unread.1
    exact .cons agrees (ih agrees.machine unread.2)

-- Points at the glyph of 0, loads its first byte into `V0`, and halts.
def glyphLoader (legacy : Bool) : Machine :=
  ofProgram legacy (RandomSource.cycling #[]) [0xA0, 0x50, 0xF0, 0x65] (by decide)

theorem glyphLoaders_in_lockstep :
    List.Forall₂ (CycleResult.Agrees SameButMode)
      ((glyphLoader false).cycles false (List.replicate 3 Keypad.released))
      ((glyphLoader true).cycles false (List.replicate 3 Keypad.released)) := by
  have same : SameButMode (glyphLoader false) (glyphLoader true) := rfl
  have unread : ∀ visited ∈ (glyphLoader false).visited false (List.replicate 3 Keypad.released),
      ∀ instruction ∈ visited.next?, instruction.readsMode = false := by
    decide +kernel
  exact modes_in_lockstep same _ unread

/-- Machines that differ in their inputs alone run in lockstep, as long as nothing depends on these.
-/
theorem inputs_in_lockstep (same : SameButInputs first second) (latches : List (Keypad × Keypad))
    (unswayed : ∀ met ∈ (first.visited tracing (latches.map Prod.fst)).zip (latches.map Prod.snd),
      ∀ instruction ∈ met.1.next?, met.1.Unswayed met.2 instruction) :
    List.Forall₂ (CycleResult.Agrees SameButInputs)
      (first.cycles tracing (latches.map Prod.fst))
      (second.cycles tracing (latches.map Prod.snd)) := by
  induction latches generalizing first second with
  | nil => exact .nil
  | cons latch rest ih =>
    simp only [List.map_cons, visited, List.zip_cons_cons, List.forall_mem_cons] at unswayed
    have held : SameButInputs (first.hold latch.1) (second.hold latch.2) := by
      rw [same]
      rfl
    have agrees := cycle_unswayed tracing held unswayed.1
    exact .cons agrees (ih agrees.machine unswayed.2)

end Runs

-- Asks for key 0, draws a random byte that is masked away, and then asks for a key 16.
def keyReader (random : RandomSource) : Machine :=
  ofProgram false random [0xE0, 0x9E, 0xC1, 0x00, 0x60, 0x10, 0xE0, 0xA1] (by decide)

def fiveDown : Keypad :=
  ⟨(Vector.replicate 16 false).set 5 true⟩

theorem keyReaders_in_lockstep :
    List.Forall₂ (CycleResult.Agrees SameButInputs)
      ((keyReader (RandomSource.cycling #[])).cycles false (List.replicate 4 Keypad.released))
      ((keyReader (RandomSource.cycling #[7])).cycles false (List.replicate 4 fiveDown)) := by
  have same : SameButInputs (keyReader (RandomSource.cycling #[]))
      (keyReader (RandomSource.cycling #[7])) := rfl
  have unswayed :
      ∀ met ∈ ((keyReader (RandomSource.cycling #[])).visited false
          (List.replicate 4 Keypad.released)).zip (List.replicate 4 fiveDown),
        ∀ instruction ∈ met.1.next?, met.1.Unswayed met.2 instruction := by
    decide +kernel
  exact inputs_in_lockstep same (List.replicate 4 (Keypad.released, fiveDown)) unswayed

end Machine

end ChipEight
