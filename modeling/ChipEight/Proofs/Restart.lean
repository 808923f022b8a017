import ChipEight.Proofs.Loading
import ChipEight.Proofs.Worker

set_option autoImplicit false

namespace ChipEight

def Request.delegates : Request → Bool
  | .cycle _ | .step => false
  | _ => true

def Phase.ends : Phase → Bool
  | .test | .step => false
  | _ => true

def Request.awaits : Request → Bool
  | .start | .join => true
  | _ => false

namespace Interpreter

def acted (interpreter : Interpreter) : Nat → Interpreter
  | 0 => interpreter
  | count + 1 => interpreter.act.1.acted count

structure Fresh (interpreter : Interpreter) : Prop where
  fault : interpreter.machine.fault = none
  state : interpreter.machine.state = .running
  worker : interpreter.worker = some .test
  unstopped : interpreter.stopRequested = false
  next : ∀ first second : List Request,
    (∀ request ∈ first, request.awaits) → (∀ request ∈ second, request.awaits) →
    (interpreter.performAll (first ++ .act :: (second ++ [.act]))).machine =
      (interpreter.machine.cycle interpreter.tracing).machine

-- A start that is called now returns, perhaps after some actions of the worker, with a new run.
def Restarts (interpreter : Interpreter) : Prop :=
  ∃ waited started, (∀ fewer, fewer < waited → (interpreter.acted fewer).start? = none) ∧
    (interpreter.acted waited).start? = some started ∧ started.Fresh

variable {interpreter : Interpreter}

theorem performAll_awaits (alive : interpreter.running = true)
    (unstopped : interpreter.stopRequested = false) {requests : List Request}
    (await : ∀ request ∈ requests, request.awaits) :
    interpreter.performAll requests = interpreter := by
  induction requests with
  | nil => rfl
  | cons request rest ih =>
    have same : interpreter.perform request = interpreter := by
      cases request with
      | start =>
        simp only [perform, start?, alive, unstopped, if_true, Bool.false_eq_true, if_false,
          Option.getD_some]
      | join => simp only [perform, join?, alive, if_true, Option.getD_none]
      | _ => cases await _ List.mem_cons_self
    rw [performAll_cons, same]
    exact ih fun request member => await request (List.mem_cons_of_mem _ member)

theorem act_step_machine (interpreter : Interpreter) (stop : Bool) :
    (interpreter.workedBy (some .step) stop).act.1.machine =
      (interpreter.machine.cycle interpreter.tracing).machine := by
  have working : (interpreter.workedBy (some .step) stop).worker = some .step := rfl
  simp only [act, working, step_workedBy, ← step_machine]
  split <;> rfl

theorem launch_fresh (interpreter : Interpreter) : interpreter.launch.Fresh where
  fault := rfl
  state := rfl
  worker := rfl
  unstopped := rfl
  next := by
    intro first second before between
    have tested : interpreter.launch.act.1 = interpreter.resumed.workedBy (some .step) false := rfl
    rw [performAll_append, performAll_awaits rfl rfl before, performAll_cons, performAll_append,
      perform, tested, performAll_awaits rfl rfl between]
    exact act_step_machine interpreter.resumed false

def remaining (interpreter : Interpreter) : Nat :=
  match interpreter.worker with
  | none => 0
  | some .finish => 1
  | some .settle => 2
  | some .test => 3
  | some (.notify listener) => interpreter.haltListeners - listener + 3
  | some .step => interpreter.haltListeners + 5

theorem act_stopRequested (interpreter : Interpreter) :
    interpreter.act.1.stopRequested = interpreter.stopRequested := by
  obtain ⟨machine, same⟩ := interpreter.step_frame
  simp only [act, same]
  split
  next => rfl
  next => rfl
  next => split <;> rfl
  next => rfl
  next => rfl
  next => rfl

theorem remaining_notifyFrom (interpreter : Interpreter) (listener : Nat) :
    (interpreter.goOn (interpreter.notifyFrom listener)).remaining ≤
      interpreter.haltListeners + 1 - listener + 2 := by
  by_cases more : listener < interpreter.haltListeners
  · simp only [notifyFrom, more, if_true, goOn, remaining]
    omega
  · simp only [notifyFrom, more, if_false, goOn, remaining]
    omega

theorem act_remaining_untested (alive : interpreter.worker ≠ none)
    (untested : interpreter.worker ≠ some .test) :
    interpreter.act.1.remaining < interpreter.remaining := by
  obtain ⟨phase, worker⟩ := Option.ne_none_iff_exists'.mp alive
  cases phase with
  | test => exact absurd worker untested
  | step =>
    have before : interpreter.remaining = interpreter.haltListeners + 5 := by
      simp only [remaining, worker]
    obtain ⟨machine, same⟩ := interpreter.step_frame
    -- The longest way to the end leads past all the listeners.
    have told := interpreter.step.interpreter.remaining_notifyFrom 0
    rw [same] at told
    rw [before]
    simp only [act, worker, same]
    split
    next => simp only [goOn, remaining]; omega
    next => exact Nat.lt_of_le_of_lt told (by simp only; omega)
    next => exact Nat.succ_pos _
  | notify listener =>
    have before : interpreter.remaining = interpreter.haltListeners - listener + 3 := by
      simp only [remaining, worker]
    have told := interpreter.remaining_notifyFrom (listener + 1)
    rw [before]
    simp only [act, worker]
    omega
  | settle =>
    simp only [act, remaining, worker, markStopped, goOn]
    decide
  | finish =>
    simp only [act, remaining, worker]
    decide

theorem act_remaining (alive : interpreter.worker ≠ none)
    (asked : interpreter.stopRequested = true) :
    interpreter.act.1.remaining < interpreter.remaining := by
  by_cases test : interpreter.worker = some .test
  · simp only [act, remaining, test, asked, if_true, goOn]
    decide
  · exact act_remaining_untested alive test

theorem worker_ends (interpreter : Interpreter) (asked : interpreter.stopRequested = true) :
    ∃ waited, (∀ fewer, fewer < waited → (interpreter.acted fewer).start? = none) ∧
      (interpreter.acted waited).worker = none := by
  by_cases alive : interpreter.worker = none
  · exact ⟨0, nofun, alive⟩
  · -- Until the worker has ended the start is blocked, and the stop stays requested.
    have less := act_remaining alive asked
    obtain ⟨waited, blocked, ended⟩ :=
      worker_ends interpreter.act.1 (interpreter.act_stopRequested.trans asked)
    refine ⟨waited + 1, fun fewer early => ?_, ended⟩
    cases fewer with
    | zero =>
      simp only [acted, start?, running, Option.isSome_iff_ne_none.mpr alive, asked, if_true]
    | succ fewer => exact blocked fewer (Nat.lt_of_succ_lt_succ early)
termination_by interpreter.remaining

theorem restarts_of_asked (asked : interpreter.stopRequested = true) : interpreter.Restarts := by
  obtain ⟨waited, blocked, ended⟩ := worker_ends interpreter asked
  exact ⟨waited, _, blocked, start_idle ended, launch_fresh _⟩

theorem start_working (alive : interpreter.worker ≠ none)
    (unstopped : interpreter.stopRequested = false) :
    interpreter.start? = some interpreter := by
  simp only [start?, running, Option.isSome_iff_ne_none.mpr alive, unstopped, if_true,
    Bool.false_eq_true, if_false]

theorem restarts_iff (faulted : interpreter.machine.fault ≠ none) :
    interpreter.Restarts ↔ interpreter.worker = none ∨ interpreter.stopRequested = true := by
  constructor
  · rintro ⟨waited, started, blocked, returned, fresh⟩
    apply Classical.byContradiction
    intro neither
    obtain ⟨alive, unasked⟩ := not_or.mp neither
    have same := start_working alive (Bool.eq_false_iff.mpr unasked)
    -- The start returns at once, and the fault is as it was.
    cases waited with
    | zero =>
      cases same.symm.trans returned
      exact faulted fresh.fault
    | succ waited => cases same.symm.trans (blocked 0 (Nat.succ_pos waited))
  · rintro (idle | asked)
    · exact ⟨0, _, nofun, start_idle idle, launch_fresh _⟩
    · exact restarts_of_asked asked

def Ending (interpreter : Interpreter) : Prop :=
  interpreter.worker.all Phase.ends = true

theorem ending_goOn_notifyFrom (interpreter : Interpreter) (listener : Nat) :
    (interpreter.goOn (interpreter.notifyFrom listener)).Ending := by
  simp only [Ending, goOn, notifyFrom]
  split <;> rfl

theorem ending_act (untested : interpreter.worker ≠ some .test)
    (unstepped : interpreter.worker ≠ some .step) : interpreter.act.1.Ending := by
  cases worker : interpreter.worker with
  | none => simp only [act, Ending, worker, Option.all_none]
  | some phase =>
    simp only [act, worker]
    cases phase with
    | test => exact absurd worker untested
    | step => exact absurd worker unstepped
    | notify listener => exact interpreter.ending_goOn_notifyFrom (listener + 1)
    | settle => rfl
    | finish => rfl

theorem Ending.not_working {phase : Phase} (ending : interpreter.Ending)
    (working : phase.ends = false) : interpreter.worker ≠ some phase := by
  intro worker
  rw [Ending, worker, Option.all_some, working] at ending
  cases ending

theorem Ending.act (ending : interpreter.Ending) : interpreter.act.1.Ending :=
  ending_act (ending.not_working rfl) (ending.not_working rfl)

theorem Ending.act_machine (ending : interpreter.Ending)
    (stopped : interpreter.machine.state = .stopped) :
    interpreter.act.1.machine = interpreter.machine := by
  cases worker : interpreter.worker with
  | none => simp only [Interpreter.act, worker]
  | some phase =>
    simp only [Interpreter.act, worker]
    cases phase with
    | test => exact absurd worker (ending.not_working rfl)
    | step => exact absurd worker (ending.not_working rfl)
    | notify listener => rfl
    | settle => simp only [markStopped, goOn, ← stopped]
    | finish => rfl

theorem Ending.acted (ending : interpreter.Ending)
    (stopped : interpreter.machine.state = .stopped) (count : Nat) :
    (interpreter.acted count).machine = interpreter.machine := by
  induction count generalizing interpreter with
  | zero => rfl
  | succ count ih =>
    have same := ending.act_machine stopped
    exact (ih ending.act (same ▸ stopped)).trans same

structure Delegated (interpreter : Interpreter) : Prop where
  invariant : interpreter.machine.Invariant
  ending : interpreter.machine.fault ≠ none → interpreter.Ending

theorem Delegated.act (delegated : interpreter.Delegated) : interpreter.act.1.Delegated := by
  refine ⟨perform_invariant delegated.invariant .act, fun faulted => ?_⟩
  -- A worker that is not ending has met no fault so far.
  have unfaulted (phase : Phase) (worker : interpreter.worker = some phase)
      (working : phase.ends = false) : interpreter.machine.fault = none :=
    Classical.byContradiction fun before =>
      (delegated.ending before).not_working working worker
  by_cases test : interpreter.worker = some .test
  · have same : interpreter.act.1.machine = interpreter.machine := by
      simp only [Interpreter.act, test, goOn]
    rw [same] at faulted
    exact absurd (unfaulted _ test rfl) faulted
  by_cases step : interpreter.worker = some .step
  · simp only [Interpreter.act, step] at faulted ⊢
    split
    next success =>
      have kept : interpreter.step.interpreter.machine.fault = interpreter.machine.fault := by
        rw [step_machine]
        exact (Machine.report_of_success (interpreter.step_result.symm.trans success)).2
      simp only [success, goOn, kept] at faulted
      exact absurd (unfaulted _ step rfl) faulted
    next => exact ending_goOn_notifyFrom _ 0
    next => rfl
  · exact ending_act test step

theorem Delegated.perform {request : Request} (delegated : interpreter.Delegated)
    (delegates : request.delegates) : (interpreter.perform request).Delegated := by
  refine ⟨perform_invariant delegated.invariant request, ?_⟩
  have ending := delegated.ending
  cases request with
  | act => exact delegated.act.ending
  | cycle => cases delegates
  | step => cases delegates
  | load program =>
    obtain ⟨memory, same⟩ := interpreter.perform_load program
    rw [same]
    exact ending
  | key index down =>
    simp only [Interpreter.perform]
    split <;> exact ending
  | reset => exact fun faulted => absurd rfl faulted
  | watch => exact ending
  | watchHalt => exact ending
  | start =>
    simp only [Interpreter.perform, start?]
    split
    next => split <;> exact ending
    next => exact fun faulted => absurd rfl faulted
  | stop => exact ending
  | join =>
    simp only [Interpreter.perform, join?]
    split <;> exact ending

theorem Delegated.performAll {requests : List Request} (delegated : interpreter.Delegated)
    (delegates : ∀ request ∈ requests, request.delegates) :
    (interpreter.performAll requests).Delegated := by
  induction requests generalizing interpreter with
  | nil => exact delegated
  | cons request rest ih =>
    exact ih (delegated.perform (delegates request List.mem_cons_self))
      fun request member => delegates request (List.mem_cons_of_mem _ member)

/-- After a fault, a start brings a new run exactly if the worker has ended or a stop was requested.
-/
theorem start_after_fault (legacy : Bool) (random : RandomSource) (scale : Int) (tracing : Bool)
    {requests : List Request} (delegates : ∀ request ∈ requests, request.delegates)
    (faulted : ((new (Machine.new legacy random) scale tracing).performAll
      requests).machine.fault ≠ none) :
    let interpreter := (new (Machine.new legacy random) scale tracing).performAll requests
    (interpreter.Restarts ↔ interpreter.worker = none ∨ interpreter.stopRequested = true) ∧
      (interpreter.Restarts ∨ interpreter.start? = some interpreter ∧
        ∀ count, (interpreter.acted count).machine = interpreter.machine) := by
  intro interpreter
  have delegated : interpreter.Delegated :=
    Delegated.performAll
      ⟨new_invariant legacy random scale tracing, fun faulty => absurd rfl faulty⟩ delegates
  have restarts := restarts_iff faulted
  refine ⟨restarts, Classical.or_iff_not_imp_left.mpr fun lost => ?_⟩
  obtain ⟨alive, unasked⟩ := not_or.mp (mt restarts.mpr lost)
  exact ⟨start_working alive (Bool.eq_false_iff.mpr unasked),
    (delegated.ending faulted).acted (delegated.invariant.fault faulted)⟩

def unknownWord : List UInt8 :=
  [0x5A, 0xB0]

theorem unknownWord_fits : unknownWord.length ≤ 0xE00 := by
  decide

def faultyRun (rest : List Request) : List Request :=
  .load unknownWord.toArray :: .start :: .act :: .act :: rest

theorem performAll_faultyRun (rest : List Request) :
    (new (Machine.new false (RandomSource.cycling #[])) 10 false).performAll (faultyRun rest) =
      (new (Machine.ofProgram false (RandomSource.cycling #[]) unknownWord unknownWord_fits) 10
        false).performAll (.start :: .act :: .act :: rest) := by
  rw [faultyRun, performAll_cons, perform_load_new _ _ _ _ unknownWord_fits]

theorem start_after_stop :
    ((new (Machine.new false (RandomSource.cycling #[])) 10 false).performAll
      (faultyRun [.stop])).Restarts := by
  have faulted : ((new (Machine.new false (RandomSource.cycling #[])) 10 false).performAll
      (faultyRun [.stop])).machine.fault ≠ none := by
    rw [performAll_faultyRun]
    decide +kernel
  apply (start_after_fault false _ 10 false (by decide) faulted).1.mpr
  rw [performAll_faultyRun]
  decide +kernel

theorem start_lost :
    let interpreter :=
      (new (Machine.new false (RandomSource.cycling #[])) 10 false).performAll (faultyRun [])
    (interpreter.machine.fault ≠ none ∧ interpreter.machine.state = .stopped) ∧
      ¬ interpreter.Restarts := by
  rw [performAll_faultyRun]
  intro interpreter
  have faulted : interpreter.machine.fault ≠ none ∧ interpreter.machine.state = .stopped := by
    decide +kernel
  have working : ¬ (interpreter.worker = none ∨ interpreter.stopRequested = true) := by
    decide +kernel
  exact ⟨faulted, fun restarts => working ((restarts_iff faulted.1).mp restarts)⟩

end Interpreter

end ChipEight
