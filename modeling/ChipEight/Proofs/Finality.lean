import ChipEight.Proofs.Halt
import ChipEight.Proofs.Loading
import ChipEight.Proofs.Redraw
import ChipEight.Proofs.Setting

set_option autoImplicit false

namespace ChipEight

namespace Machine

open Instruction

variable {tracing : Bool} {machine after : Machine} {fault : Fault}

theorem execute_failed_frame {instruction : Instruction}
    (executed : machine.execute instruction = ⟨after, some fault⟩) :
    ∃ registers display, after = { machine with registers := registers, display := display } := by
  rcases machine.execute_cases instruction with ⟨_, _, complete, _⟩ | ⟨_, _, _, broken, breaks⟩
  · cases executed.symm.trans complete
  · cases executed.symm.trans broken
    exact breaks.frame

theorem drawSprite_again {x y : Fin 16} {height : Nat}
    (failed : machine.drawSprite x y height = ⟨after, some fault⟩)
    (sameX : after.register x = machine.register x)
    (sameY : after.register y = machine.register y) :
    after.drawSprite x y height = ⟨after, some fault⟩ := by
  rcases machine.drawSprite_cases x y height with ⟨_, complete⟩ | ⟨_, _, drawn⟩
  · cases failed.symm.trans complete
  · have first := drawn.symm.trans failed
    have second := machine.plot_again (machine.register x) (machine.register y)
      (spriteCells height)
    rw [first, ← sameX, ← sameY] at second
    rcases after.drawSprite_cases x y height with ⟨complete, _⟩ | ⟨_, _, same⟩
    · rw [second] at complete
      cases complete
    · exact same.trans second

theorem execute_again {instruction : Instruction}
    (executed : machine.execute instruction = ⟨after, some fault⟩)
    (steady : ∀ x y height, instruction = .draw x y height → x = 15 ∨ y = 15 →
      after.register 15 = machine.register 15) :
    after.execute instruction = ⟨after, some fault⟩ := by
  rcases machine.execute_cases instruction with ⟨_, _, complete, _⟩ | ⟨_, _, _, broken, breaks⟩
  · cases executed.symm.trans complete
  · cases executed.symm.trans broken
    cases breaks with
    | bounds => exact executed
    | delay => exact executed
    | draw x y height _ painted =>
      have same (z : Fin 16) (coordinate : x = z ∨ y = z) :
          after.register z = machine.register z := by
        by_cases flag : z = 15
        · subst flag
          exact steady x y height rfl coordinate
        · exact painted.registers z flag
      exact drawSprite_again executed (same x (.inl rfl)) (same y (.inr rfl))

-- A sprite at `pc` that has `VF` as a coordinate finds it unchanged.
structure Steady (machine after : Machine) : Prop where
  flag : ∀ word, machine.memory.readWord machine.pc = .ok word →
    Operation.draw.pattern.Matches word → registerX word = 15 ∨ registerY word = 15 →
      after.register 15 = machine.register 15

theorem obeyed_failed {printed : List Printed}
    (obeyed : machine.fetchAndObey tracing = ⟨⟨after, some fault⟩, printed⟩) :
    printed = [] ∧ (after = machine ∨ ∃ (word : Nat) (operation : Operation),
      machine.memory.readWord machine.pc = .ok word ∧ operation.pattern.Matches word ∧
      decode word = .ok (operation.instruction word) ∧
      machine.execute (operation.instruction word) = ⟨after, some fault⟩) := by
  cases fetched : machine.memory.readWord machine.pc with
  | error missing =>
    cases (fetchAndObey_failed tracing fetched).symm.trans obeyed
    exact ⟨rfl, .inl rfl⟩
  | ok word =>
    rw [fetchAndObey_fetched tracing fetched] at obeyed
    rcases decode_cases (Memory.readWord_ok _ fetched).2 with
      ⟨operation, written, decoded⟩ | ⟨_, unknown⟩
    · rcases executed : machine.execute (operation.instruction word) with ⟨next, _ | cause⟩
      · obtain ⟨_, complete⟩ := obey_complete tracing decoded executed
        cases complete.symm.trans obeyed
      · cases (obey_broken tracing decoded executed).symm.trans obeyed
        exact ⟨rfl, .inr ⟨word, operation, rfl, written, decoded, executed⟩⟩
    · cases (obey_unknown tracing unknown).symm.trans obeyed
      exact ⟨rfl, .inl rfl⟩

theorem fetchAndObey_again
    (obeyed : machine.fetchAndObey tracing = ⟨⟨after, some fault⟩, []⟩)
    (steady : machine.Steady after) :
    after.fetchAndObey tracing = ⟨⟨after, some fault⟩, []⟩ := by
  rcases (obeyed_failed obeyed).2 with rfl | ⟨word, operation, fetched, written, decoded, executed⟩
  · exact obeyed
  · -- The same word is fetched, because a failing instruction changes neither memory nor `pc`.
    have refetched : after.memory.readWord after.pc = .ok word := by
      obtain ⟨_, _, rfl⟩ := execute_failed_frame executed
      exact fetched
    rw [fetchAndObey_fetched tracing refetched]
    apply obey_broken tracing decoded
    apply execute_again executed
    intro x y height draws coordinate
    obtain ⟨rfl, rfl, rfl, rfl⟩ := Operation.eq_draw_of_instruction draws
    exact steady.flag word fetched written coordinate

theorem obeyed_of_halt (gaveUp : (machine.cycle tracing).result = .ok false) :
    ∃ drawn fault, machine.ready.fetchAndObey tracing = ⟨⟨drawn, some fault⟩, []⟩ ∧
      fault.halts = true := by
  rcases obeyed : machine.ready.fetchAndObey tracing with ⟨⟨drawn, _ | fault⟩, printed⟩
  · rw [cycle_complete tracing obeyed] at gaveUp
    cases gaveUp
  · obtain ⟨rfl, _⟩ := obeyed_failed obeyed
    refine ⟨drawn, fault, rfl, ?_⟩
    cases halts : fault.halts
    · rw [cycle_escaped tracing obeyed halts] at gaveUp
      cases gaveUp
    · rfl

theorem cycle_again (gaveUp : (machine.cycle tracing).result = .ok false)
    (steady : machine.Steady (machine.cycle tracing).machine) :
    (machine.cycle tracing).machine.cycle tracing = machine.cycle tracing := by
  obtain ⟨drawn, fault, obeyed, halts⟩ := obeyed_of_halt gaveUp
  have halted := cycle_halted tracing obeyed halts
  rw [halted] at steady ⊢
  have unready : drawn.ready = drawn := by
    rcases (obeyed_failed obeyed).2 with rfl | ⟨_, _, _, _, _, executed⟩
    · rfl
    · obtain ⟨_, _, rfl⟩ := execute_failed_frame executed
      rfl
  -- What the first failure has reported about the machine makes no difference to the second one.
  have again := drawn.ready.marked_fetchAndObey .stopped (some (.fault fault)) tracing
  rw [unready, fetchAndObey_again obeyed ⟨steady.flag⟩] at again
  have readied : (drawn.marked .stopped (some (.fault fault))).ready =
      drawn.marked .stopped (some (.fault fault)) :=
    congrArg (marked · .stopped (some (.fault fault))) unready
  have cycled := cycle_halted tracing ((congrArg (fetchAndObey tracing) readied).trans again) halts
  exact cycled

theorem afterCycles_again (gaveUp : (machine.cycle tracing).result = .ok false)
    (steady : machine.Steady (machine.cycle tracing).machine) (count : Nat) :
    ((machine.cycle tracing).machine.afterCycles tracing count).cycle tracing =
      machine.cycle tracing := by
  have same := cycle_again gaveUp steady
  induction count with
  | zero => exact same
  | succ count ih => rw [afterCycles, ih, same]

theorem flag_of_halt (gaveUp : (machine.cycle tracing).result = .ok false) :
    (machine.cycle tracing).machine.register 15 = machine.register 15 ∨
      (machine.cycle tracing).machine.register 15 = 1 := by
  obtain ⟨fault, registers, display, residue, same⟩ := halt_residue gaveUp
  rw [same]
  exact residue.flag

theorem steady_of_halt_twice (gaveUp : (machine.cycle tracing).result = .ok false)
    (again : ((machine.cycle tracing).machine.cycle tracing).result = .ok false) :
    (machine.cycle tracing).machine.Steady
      ((machine.cycle tracing).machine.cycle tracing).machine := by
  refine ⟨fun _ _ _ _ => ?_⟩
  -- Once `VF` has been raised it stays as it is.
  rcases flag_of_halt gaveUp with kept | raised
  · -- The first failure was steady, and then the second one has done just the same.
    have steady : machine.Steady (machine.cycle tracing).machine := ⟨fun _ _ _ _ => kept⟩
    rw [cycle_again gaveUp steady]
  · rcases flag_of_halt again with kept | raisedAgain
    · exact kept
    · rw [raised, raisedAgain]

/-- A fault is final, unless a sprite with `VF` as a coordinate has raised `VF` before it failed;
and whatever fails twice in a row goes on failing. -/
theorem fault_final (gaveUp : (machine.cycle tracing).result = .ok false) :
    (machine.Steady (machine.cycle tracing).machine → ∀ count,
      ((machine.cycle tracing).machine.afterCycles tracing count).cycle tracing =
        machine.cycle tracing) ∧
    (((machine.cycle tracing).machine.cycle tracing).result = .ok false → ∀ count,
      (((machine.cycle tracing).machine.cycle tracing).machine.afterCycles tracing count).cycle
        tracing = (machine.cycle tracing).machine.cycle tracing) := by
  constructor
  · intro steady count
    exact afterCycles_again gaveUp steady count
  · intro again count
    exact afterCycles_again again (steady_of_halt_twice gaveUp again) count

-- Lights the row `F0` at `(56, 0)`, and then draws the row `20` at `(57, 0)`, so that a pixel goes
-- dark before the end of the display is met. The second row's column is in the register `x`.
def overlapping (x : UInt8) : List UInt8 :=
  [0x60, 0x38, 0xA0, 0x50, 0xD0, 0x11, 0xA0, 0x55, 0x60 + x, 0x39, 0xD0 + x, 0x11]

theorem overlapping_fits (x : UInt8) : (overlapping x).length ≤ 0xE00 := by
  simp [overlapping]

def beforeOverlap (x : UInt8) : Machine :=
  (ofProgram false (RandomSource.cycling #[]) (overlapping x) (overlapping_fits x)).afterCycles
    false 5

theorem overlap_final :
    ((beforeOverlap 0).cycle false).result = .ok false ∧
      ((beforeOverlap 0).cycle false).machine.register 15 ≠ (beforeOverlap 0).register 15 ∧
      (((beforeOverlap 0).cycle false).machine.afterCycles false 3).cycle false =
        (beforeOverlap 0).cycle false := by
  have gaveUp : ((beforeOverlap 0).cycle false).result = .ok false := by decide +kernel
  have raised : ((beforeOverlap 0).cycle false).machine.register 15 ≠
      (beforeOverlap 0).register 15 := by decide +kernel
  have fetched : (beforeOverlap 0).memory.readWord (beforeOverlap 0).pc = .ok 0xD011 := by
    decide +kernel
  have steady : (beforeOverlap 0).Steady ((beforeOverlap 0).cycle false).machine := by
    refine ⟨fun word same _ coordinate => ?_⟩
    cases fetched.symm.trans same
    exact absurd coordinate (by decide)
  exact ⟨gaveUp, raised, (fault_final gaveUp).1 steady 3⟩

end Machine

theorem Interpreter.fault_not_final :
    let machine :=
      ((new (Machine.new false (RandomSource.cycling #[])) 10 false).performAll
        (.load (Machine.overlapping 15).toArray :: List.replicate 5 (.cycle false))).machine
    (machine.cycle false).result = .ok false ∧
      ((machine.cycle false).machine.cycle false).result = .ok true := by
  have loaded := perform_load_new false (RandomSource.cycling #[]) 10 false
    (Machine.overlapping_fits 15)
  simp only [performAll, List.foldl_cons]
  rw [loaded]
  decide +kernel

end ChipEight
