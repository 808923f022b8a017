import ChipEight.Proofs.Loading
import ChipEight.Proofs.Presentation

set_option autoImplicit false

namespace ChipEight

def Printed.isReport : Printed → Bool
  | .output _ => false
  | .report _ => true

namespace Machine

variable {machine : Machine} {tracing : Bool} {number : Nat}

def Succeeds (machine : Machine) (tracing : Bool) (number : Nat) : Prop :=
  ((machine.afterCycles tracing number).cycle tracing).result = .ok true

def GivesUp (machine : Machine) (tracing : Bool) (number : Nat) : Prop :=
  ((machine.afterCycles tracing number).cycle tracing).result = .ok false

theorem GivesUp.not_succeeds (gaveUp : machine.GivesUp tracing number) :
    ¬ machine.Succeeds tracing number := by
  intro success
  cases gaveUp.symm.trans success

theorem settled (invariant : machine.Invariant) (tracing : Bool) (number : Nat) :
    machine.Succeeds tracing number ∨ machine.GivesUp tracing number := by
  have later : (machine.afterCycles tracing number).Invariant := by
    induction number with
    | zero => exact invariant
    | succ number ih => exact (ih.cycle tracing).1
  obtain ⟨ok, result⟩ := (later.cycle tracing).2
  cases ok with
  | true => exact .inl result
  | false => exact .inr result

theorem cycle_marked (machine : Machine) (tracing : Bool) (state : RunState)
    (fault : Option HaltReason) :
    ((machine.cycle tracing).result = .ok true →
      (machine.marked state fault).cycle tracing =
        { machine.cycle tracing with
          machine := (machine.cycle tracing).machine.marked state fault }) ∧
    ((machine.cycle tracing).result = .ok false →
      (machine.marked state fault).cycle tracing = machine.cycle tracing) := by
  have concluded (machine : Machine) :
      machine.cycle tracing = (machine.ready.fetchAndObey tracing).concluded := rfl
  have obeyed : (machine.marked state fault).ready.fetchAndObey tracing = _ :=
    machine.ready.marked_fetchAndObey state fault tracing
  rw [concluded, concluded, obeyed]
  simp only [Obeyed.concluded, Outcome.marked]
  cases raised : (machine.ready.fetchAndObey tracing).outcome.fault with
  | none => exact ⟨fun _ => rfl, fun gaveUp => absurd gaveUp (by simp)⟩
  | some met =>
    cases halts : met.halts with
    | true =>
      simp only [halts, if_true]
      exact ⟨fun succeeds => absurd succeeds (by simp), fun _ => rfl⟩
    | false => simp [halts]

theorem reports_of_success (success : (machine.cycle tracing).result = .ok true) :
    (machine.cycle tracing).printed.filter Printed.isReport = [] := by
  have concluded : machine.cycle tracing = (machine.ready.fetchAndObey tracing).concluded := rfl
  have silent : (machine.ready.fetchAndObey tracing).printed.filter Printed.isReport = [] := by
    simp only [fetchAndObey, obey]
    split
    next => rfl
    next =>
      split
      next => rfl
      next => split <;> rfl
  rw [concluded] at success ⊢
  simp only [Obeyed.concluded] at success ⊢
  split at success
  next => exact silent
  next => split at success <;> cases success

theorem reports_of_halt (gaveUp : (machine.cycle tracing).result = .ok false) :
    ∃ reason, (machine.cycle tracing).machine.fault = some reason ∧
      (machine.cycle tracing).machine.state = .stopped ∧
      (machine.cycle tracing).printed.filter Printed.isReport = [haltReport reason] := by
  obtain ⟨fault, _, _, _, same⟩ := halt_residue gaveUp
  rw [same]
  exact ⟨.fault fault, rfl, rfl, rfl⟩

end Machine

def reports (events : List Event) : List Printed :=
  (events.filterMap Event.line?).filter Printed.isReport

namespace Interpreter

variable {interpreter : Interpreter}

theorem reports_of_step (interpreter : Interpreter) :
    reports interpreter.step.events =
      (interpreter.machine.cycle interpreter.tracing).printed.filter Printed.isReport := by
  have printed : reports interpreter.cyclePrints =
      (interpreter.machine.cycle interpreter.tracing).printed.filter Printed.isReport := by
    rw [reports, cyclePrints, List.filterMap_map]
    exact congrArg _ (List.filterMap_some)
  have unprinted : interpreter.cycled.renderEvents.filterMap Event.line? = [] := by
    rw [renderEvents, List.filterMap_map]
    exact List.filterMap_eq_nil_iff.mpr fun _ _ => rfl
  rcases interpreter.step_events with same | same
  · rw [same, printed]
  · rw [same, ← printed, reports, List.filterMap_append, unprinted, List.append_nil, reports]

theorem act_of_step (step : interpreter.worker = some .step) {ok : Bool}
    (result : (interpreter.machine.cycle interpreter.tracing).result = .ok ok) :
    interpreter.act = (interpreter.step.interpreter.goOn
      (if ok then .test else interpreter.step.interpreter.notifyFrom 0),
        interpreter.step.events) := by
  rw [← step_result] at result
  simp only [act, step, result]
  cases ok <;> rfl

theorem ending_of_other (untested : interpreter.worker ≠ some .test)
    (unstepped : interpreter.worker ≠ some .step) : interpreter.Ending := by
  cases worker : interpreter.worker with
  | none => rw [Ending, worker]; rfl
  | some phase =>
    rw [Ending, worker]
    cases phase with
    | test => exact absurd worker untested
    | step => exact absurd worker unstepped
    | _ => rfl

theorem Ending.act_silent (ending : interpreter.Ending) :
    reports interpreter.act.2 = [] ∧
      interpreter.act.1.machine.fault = interpreter.machine.fault := by
  cases worker : interpreter.worker with
  | none =>
    simp only [Interpreter.act, worker]
    exact ⟨rfl, trivial⟩
  | some phase =>
    simp only [Interpreter.act, worker]
    cases phase with
    | test => exact absurd worker (ending.not_working rfl)
    | step => exact absurd worker (ending.not_working rfl)
    | notify listener => exact ⟨rfl, rfl⟩
    | settle => exact ⟨rfl, rfl⟩
    | finish =>
      refine ⟨?_, rfl⟩
      simp only [farewell]
      split <;> rfl

end Interpreter

namespace App

variable {machine : Machine} {tracing : Bool} {app : App}

/-- What the worker has made of a machine, in terms of its bare cycles. -/
inductive Worked (machine : Machine) (tracing : Bool) (app : App) : Prop where
  | working (phase : Phase) (worker : app.interpreter.worker = some phase)
    (works : phase.ends = false)
    (same : app.interpreter.machine =
      (machine.afterCycles tracing app.begun).marked .running none)
    (success : ∀ earlier < app.begun, machine.Succeeds tracing earlier)
    (silent : app.printed.filter Printed.isReport = [])
  | stopped (ending : app.interpreter.Ending) (left : app.leaving = true)
    (faultless : app.interpreter.machine.fault = none)
    (silent : app.printed.filter Printed.isReport = [])
  | failed (ending : app.interpreter.Ending) (number : Nat) (reason : HaltReason)
    (success : ∀ earlier < number, machine.Succeeds tracing earlier)
    (gaveUp : machine.GivesUp tracing number)
    (same : app.interpreter.machine = machine.afterCycles tracing (number + 1))
    (remembered : app.interpreter.machine.fault = some reason)
    (halted : app.interpreter.machine.state = .stopped)
    (told : app.printed.filter Printed.isReport = [Machine.haltReport reason])

theorem tick_reports (app : App) : app.tick.printed.filter Printed.isReport =
    app.printed.filter Printed.isReport ++ reports app.interpreter.act.2 := by
  rw [tick_eq]
  exact List.filter_append ..

namespace Worked

theorem frame (worked : app.Worked machine tracing) {after : App}
    (same : after.interpreter.machine = app.interpreter.machine)
    (worker : after.interpreter.worker = app.interpreter.worker)
    (begun : after.begun = app.begun) (printed : after.printed = app.printed)
    (left : app.leaving = true → after.leaving = true) : after.Worked machine tracing := by
  have ends (ending : app.interpreter.Ending) : after.interpreter.Ending := by
    rw [Interpreter.Ending, worker]
    exact ending
  cases worked with
  | working phase working works machine success silent =>
    exact .working phase (worker.trans working) works (begun ▸ same.trans machine)
      (begun ▸ success) (printed ▸ silent)
  | stopped ending gone faultless silent =>
    exact .stopped (ends ending) (left gone) (same ▸ faultless) (printed ▸ silent)
  | failed ending number reason success gaveUp machine remembered halted told =>
    exact .failed (ends ending) number reason success gaveUp (same.trans machine)
      (same ▸ remembered) (same ▸ halted) (printed ▸ told)

theorem tick_test (worked : app.Worked machine tracing)
    (asked : app.interpreter.stopRequested = true → app.leaving = true)
    (test : app.interpreter.worker = some .test) : app.tick.Worked machine tracing := by
  have acted : app.interpreter.act =
      (app.interpreter.goOn (if app.interpreter.stopRequested then .settle else .step), []) := by
    simp only [Interpreter.act, test]
  have still : app.tick.printed.filter Printed.isReport = app.printed.filter Printed.isReport := by
    rw [tick_reports, acted]
    exact List.append_nil _
  cases worked with
  | working phase worker works same success silent =>
    have begun : app.tick.begun = app.begun := by
      rw [tick_eq]
      exact if_neg (by rw [test]; decide)
    by_cases stop : app.interpreter.stopRequested = true
    · refine .stopped ?_ ?_ ?_ (still.trans silent)
      · rw [tick_eq, acted, if_pos stop]
        rfl
      · rw [tick_eq]
        exact asked stop
      · rw [tick_eq, acted]
        exact congrArg Machine.fault same
    · refine .working .step ?_ rfl ?_ (begun ▸ success) (still.trans silent)
      · rw [tick_eq, acted, if_neg stop]
        rfl
      · rw [begun, ← same, tick_eq, acted]
        rfl
  | stopped ending => exact absurd test (ending.not_working rfl)
  | failed ending => exact absurd test (ending.not_working rfl)

theorem cycled (worked : app.Worked machine tracing)
    (traced : app.interpreter.tracing = tracing) (step : app.interpreter.worker = some .step) :
    (machine.Succeeds tracing app.begun →
      app.interpreter.machine.cycle app.interpreter.tracing =
        { (machine.afterCycles tracing app.begun).cycle tracing with
          machine := (machine.afterCycles tracing (app.begun + 1)).marked .running none }) ∧
    (machine.GivesUp tracing app.begun →
      app.interpreter.machine.cycle app.interpreter.tracing =
        (machine.afterCycles tracing app.begun).cycle tracing) := by
  cases worked with
  | working _ _ _ same =>
    rw [same, traced]
    exact (machine.afterCycles tracing app.begun).cycle_marked tracing .running none
  | stopped ending => exact absurd step (ending.not_working rfl)
  | failed ending => exact absurd step (ending.not_working rfl)

theorem tick_step (worked : app.Worked machine tracing) (invariant : machine.Invariant)
    (traced : app.interpreter.tracing = tracing) (step : app.interpreter.worker = some .step) :
    app.tick.Worked machine tracing := by
  obtain ⟨goesOn, halts⟩ := worked.cycled traced step
  cases worked with
  | working phase worker works same success silent =>
    have begun : app.tick.begun = app.begun + 1 := by
      rw [tick_eq]
      exact if_pos step
    have cycled (ok : Bool)
        (result : (app.interpreter.machine.cycle app.interpreter.tracing).result = .ok ok) :
        app.tick.interpreter.machine =
          (app.interpreter.machine.cycle app.interpreter.tracing).machine := by
      rw [tick_interpreter, Interpreter.act_of_step step result]
      exact app.interpreter.step_machine
    rcases machine.settled invariant tracing app.begun with succeeds | givesUp
    · have result : (app.interpreter.machine.cycle app.interpreter.tracing).result = .ok true := by
        rw [goesOn succeeds]
        exact succeeds
      have acted := Interpreter.act_of_step step result
      refine .working .test ?_ rfl ?_ ?_ ?_
      · rw [tick_interpreter, acted]
        rfl
      · rw [begun, cycled true result, goesOn succeeds]
      · intro earlier less
        rw [begun] at less
        rcases Nat.lt_succ_iff_lt_or_eq.mp less with before | rfl
        · exact success earlier before
        · exact succeeds
      · rw [tick_reports, silent, acted, List.nil_append, Interpreter.reports_of_step]
        exact Machine.reports_of_success result
    · have result : (app.interpreter.machine.cycle app.interpreter.tracing).result = .ok false := by
        rw [halts givesUp]
        exact givesUp
      have acted := Interpreter.act_of_step step result
      obtain ⟨reason, remembered, halted, told⟩ := Machine.reports_of_halt result
      rw [← cycled false result] at remembered halted
      refine .failed ?_ app.begun reason success givesUp ?_ remembered halted ?_
      · rw [tick_interpreter, acted]
        exact Interpreter.ending_goOn_notifyFrom _ 0
      · rw [cycled false result, halts givesUp]
        rfl
      · rw [tick_reports, silent, acted, List.nil_append, Interpreter.reports_of_step]
        exact told
  | stopped ending => exact absurd step (ending.not_working rfl)
  | failed ending => exact absurd step (ending.not_working rfl)

theorem tick_ending (worked : app.Worked machine tracing) (ending : app.interpreter.Ending) :
    app.tick.Worked machine tracing := by
  obtain ⟨silence, kept⟩ := ending.act_silent
  have still : app.tick.printed.filter Printed.isReport = app.printed.filter Printed.isReport := by
    rw [tick_reports, silence, List.append_nil]
  have acted : app.tick.interpreter = app.interpreter.act.1 := by rw [tick_eq]
  have ends : app.tick.interpreter.Ending := acted ▸ ending.act
  cases worked with
  | working phase worker works => exact absurd worker (ending.not_working works)
  | stopped _ left faultless silent =>
    refine .stopped ends ?_ ?_ (still.trans silent)
    · rw [tick_eq]
      exact left
    · rw [acted, kept, faultless]
  | failed _ number reason success gaveUp same remembered halted told =>
    have machine := ending.act_machine halted
    rw [← acted] at machine
    exact .failed ends number reason success gaveUp (machine.trans same)
      ((congrArg Machine.fault machine).trans remembered)
      ((congrArg Machine.state machine).trans halted) (still.trans told)

theorem tick (worked : app.Worked machine tracing) (invariant : machine.Invariant)
    (traced : app.interpreter.tracing = tracing)
    (asked : app.interpreter.worker ≠ none → app.interpreter.stopRequested = true →
      app.leaving = true) : app.tick.Worked machine tracing := by
  by_cases test : app.interpreter.worker = some .test
  · exact worked.tick_test (asked (by rw [test]; decide)) test
  by_cases step : app.interpreter.worker = some .step
  · exact worked.tick_step invariant traced step
  exact worked.tick_ending (Interpreter.ending_of_other test step)

end Worked

namespace Worked

end Worked

end App

end ChipEight
