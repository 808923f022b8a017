import ChipEight.Proofs.Loading
import ChipEight.Proofs.Worker

set_option autoImplicit false

namespace ChipEight

namespace Interpreter

variable {interpreter : Interpreter} {cycles : Nat}

structure Round (before : Interpreter) (cycles earlier : Nat) (ok : Bool) (run : Run) : Prop where
  within : earlier < cycles
  success : ∀ number, number < earlier →
    (before.resumed.afterSteps number).step.result = .ok true
  last : (before.resumed.afterSteps earlier).step.result = .ok ok
  full : ok = true → earlier + 1 = cycles
  begun : run.begun = earlier + 1
  joined : run.interpreter.join? = some run.interpreter
  machine : run.interpreter.machine =
    { (before.resumed.afterSteps (earlier + 1)).machine with state := .stopped }
  events : run.events =
    before.resumed.stepEvents (earlier + 1) ++
      (if ok then [] else (List.range before.haltListeners).map fun listener =>
        .gaveUp listener .stopped run.interpreter.machine.fault) ++
      run.interpreter.farewell

theorem round_success {earlier : Nat}
    (success : ∀ number, number < earlier + 1 →
      (interpreter.resumed.afterSteps number).step.result = .ok true) :
    interpreter.Round (earlier + 1) earlier true (interpreter.runFor (earlier + 1)) := by
  rw [runFor_success (Nat.le_add_left 1 earlier) success]
  exact {
    within := Nat.lt_succ_self earlier
    success := fun number less => success number (Nat.lt_succ_of_lt less)
    last := success earlier (Nat.lt_succ_self earlier)
    full := fun _ => rfl
    begun := rfl
    joined := rfl
    machine := rfl
    events := congrArg (· ++ _) (List.append_nil _).symm }

theorem round_halt {earlier : Nat} (within : earlier < cycles)
    (success : ∀ number, number < earlier →
      (interpreter.resumed.afterSteps number).step.result = .ok true)
    (gaveUp : (interpreter.resumed.afterSteps earlier).step.result = .ok false) :
    interpreter.Round cycles earlier false (interpreter.runFor cycles) := by
  have stopped : (interpreter.resumed.afterSteps (earlier + 1)).machine.state = .stopped :=
    state_of_halt gaveUp
  have told : (interpreter.resumed.afterSteps (earlier + 1)).tellHalt = fun listener =>
      .gaveUp listener .stopped (interpreter.resumed.afterSteps (earlier + 1)).machine.fault := by
    funext listener
    rw [tellHalt, stopped]
  rw [runFor_halt within success gaveUp]
  exact {
    within := within
    success := success
    last := gaveUp
    full := nofun
    begun := rfl
    joined := rfl
    machine := rfl
    events := by
      rw [told]
      rfl }

theorem exists_round (byte : 0 ≤ interpreter.machine.delay ∧ interpreter.machine.delay ≤ 255)
    (positive : 1 ≤ cycles) :
    ∃ earlier ok, interpreter.Round cycles earlier ok (interpreter.runFor cycles) := by
  rcases @first_failure interpreter.resumed byte cycles with
    success | ⟨earlier, within, success, gaveUp⟩
  · obtain ⟨earlier, rfl⟩ := Nat.exists_eq_add_of_le' positive
    exact ⟨earlier, true, round_success success⟩
  · exact ⟨earlier, false, round_halt within success gaveUp⟩

def runRounds (interpreter : Interpreter) : List Nat → Interpreter × List Event
  | [] => (interpreter, [])
  | cycles :: rest =>
    let round := interpreter.runFor cycles
    let (after, events) := round.interpreter.runRounds rest
    (after, round.events ++ events)

end Interpreter

def Event.isRendered : Event → Bool
  | .rendered .. => true
  | _ => false

namespace Interpreter

variable {interpreter : Interpreter} {cycles : Nat}

theorem farewell_unrendered (interpreter : Interpreter) :
    interpreter.farewell.filter Event.isRendered = [] := by
  rw [farewell]
  split <;> rfl

theorem resumed_again
    (success : ∀ number, number < cycles →
      (interpreter.resumed.afterSteps number).step.result = .ok true) :
    ((interpreter.resumed.afterSteps cycles).markStopped.workedBy none true).resumed =
      (interpreter.resumed.afterSteps cycles).workedBy none true := by
  -- Cycles that succeed leave the machine marked as running and without a fault.
  have report := afterSteps_report success
  generalize interpreter.resumed.afterSteps cycles = after at report
  obtain ⟨machine, _, _, _, _, _, _⟩ := after
  obtain ⟨_, _, _, _, _, _, _, _, _, _, _, _, state, fault⟩ := machine
  obtain ⟨rfl, rfl⟩ : state = .running ∧ fault = none := report
  rfl

theorem runRounds_success {rounds : List Nat} (some : rounds ≠ [])
    (positive : ∀ part ∈ rounds, 1 ≤ part)
    (success : ∀ number, number < rounds.foldr (· + ·) 0 →
      (interpreter.resumed.afterSteps number).step.result = .ok true) :
    (interpreter.runRounds rounds).1.machine =
        (interpreter.resumed.afterSteps (rounds.foldr (· + ·) 0)).markStopped.machine ∧
      (interpreter.runRounds rounds).2.filter Event.isRendered =
        (interpreter.resumed.stepEvents (rounds.foldr (· + ·) 0)).filter Event.isRendered := by
  induction rounds generalizing interpreter with
  | nil => exact absurd rfl some
  | cons part rest ih =>
    rw [List.foldr_cons] at success ⊢
    have enough : 1 ≤ part := positive part List.mem_cons_self
    have early (number : Nat) (less : number < part) :
        (interpreter.resumed.afterSteps number).step.result = .ok true :=
      success number (Nat.lt_add_right _ less)
    have first := runFor_success enough early
    cases rest with
    | nil =>
      simp only [runRounds, first, List.foldr_nil, Nat.add_zero, List.append_nil,
        List.filter_append, farewell_unrendered, and_true]
      rfl
    | cons next others =>
      have again := resumed_again early
      have rest := @ih ((interpreter.resumed.afterSteps part).markStopped.workedBy none true)
        (List.cons_ne_nil next others)
        (fun part member => positive part (List.mem_cons_of_mem _ member))
        (fun number less => by
          rw [again, afterSteps_workedBy, ← afterSteps_add, step_workedBy]
          exact success (part + number) (by omega))
      rw [again, afterSteps_workedBy, stepEvents_workedBy, ← afterSteps_add] at rest
      rw [runRounds, first, stepEvents_add]
      simp only [List.filter_append, farewell_unrendered, List.append_nil, rest.2, and_true]
      exact rest.1

/-- A run of the worker is a run of plain steps, up to the requested cycle or the first that fails.
-/
theorem runFor_eq_steps (idle : interpreter.worker = none)
    (byte : 0 ≤ interpreter.machine.delay ∧ interpreter.machine.delay ≤ 255)
    (positive : 1 ≤ cycles) :
    interpreter.start? = some interpreter.launch ∧
      (∃ earlier ok, interpreter.Round cycles earlier ok (interpreter.runFor cycles)) ∧
      ∀ rounds : List Nat, (∀ part ∈ rounds, 1 ≤ part) → rounds.foldr (· + ·) 0 = cycles →
        (∀ number, number < cycles →
          (interpreter.resumed.afterSteps number).step.result = .ok true) →
        (interpreter.runRounds rounds).1.machine = (interpreter.runFor cycles).interpreter.machine ∧
          (interpreter.runRounds rounds).2.filter Event.isRendered =
            (interpreter.runFor cycles).events.filter Event.isRendered := by
  refine ⟨start_idle idle, exists_round byte positive, ?_⟩
  rintro rounds parts rfl success
  have some : rounds ≠ [] := by
    rintro rfl
    exact absurd positive (by decide)
  have split := runRounds_success some parts success
  rw [runFor_success positive success]
  simp only [List.filter_append, farewell_unrendered, List.append_nil]
  exact split

def redrawing : List UInt8 :=
  [0xD0, 0x01, 0x12, 0x00]

theorem redrawing_fits : redrawing.length ≤ 0xE00 := by
  decide

def redrawer : Interpreter :=
  (new (Machine.ofProgram false (RandomSource.cycling #[]) redrawing redrawing_fits) 10
    false).addRenderListener.addHaltListener

theorem redrawer_rounds :
    redrawer.worker = none ∧
      (∃ earlier ok, redrawer.Round 3 earlier ok (redrawer.runFor 3)) ∧
      (redrawer.runRounds [1, 2]).1.machine = (redrawer.runFor 3).interpreter.machine ∧
      (redrawer.runRounds [1, 2]).2.filter Event.isRendered =
        (redrawer.runFor 3).events.filter Event.isRendered := by
  have byte : 0 ≤ redrawer.machine.delay ∧ redrawer.machine.delay ≤ 255 := by decide
  have success : ∀ number, number < 3 →
      (redrawer.resumed.afterSteps number).step.result = .ok true := by decide +kernel
  obtain ⟨_, round, parts⟩ := @runFor_eq_steps redrawer 3 rfl byte (by decide)
  exact ⟨rfl, round, parts [1, 2] (by decide) rfl success⟩

end Interpreter

end ChipEight
