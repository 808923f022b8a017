import ChipEight.Interpreter.Interleaving
import ChipEight.Proofs.Restart

set_option autoImplicit false

namespace ChipEight

def Stage.launches : Stage → Bool
  | clearStop | markRunning | clearFault | launch => true
  | _ => false

def Stage.cleared : Stage → Bool
  | markRunning | clearFault | launch => true
  | _ => false

def Stage.marked : Stage → Bool
  | clearFault | launch => true
  | _ => false

namespace Interpreter

variable {interpreter : Interpreter}

theorem act_delay (byte : 0 ≤ interpreter.machine.delay ∧ interpreter.machine.delay ≤ 255) :
    0 ≤ interpreter.act.1.machine.delay ∧ interpreter.act.1.machine.delay ≤ 255 := by
  rcases interpreter.act_machine with same | stopped | cycled
  · rw [same]
    exact byte
  · rw [stopped]
    exact byte
  · rw [cycled]
    exact (Machine.cycle_delay _ byte).1

theorem act_ended (byte : 0 ≤ interpreter.machine.delay ∧ interpreter.machine.delay ≤ 255)
    (alive : interpreter.worker ≠ none) (ended : interpreter.act.1.worker = none) :
    interpreter.worker = some .finish ∧ interpreter.act.1.machine = interpreter.machine := by
  obtain ⟨phase, worker⟩ := Option.ne_none_iff_exists'.mp alive
  cases phase with
  | finish =>
    refine ⟨worker, ?_⟩
    simp only [act, worker]
  | step =>
    -- No fault escapes, and so the worker has something left to do after its step.
    obtain ⟨ok, result⟩ := interpreter.step_settled byte 0
    rw [afterSteps] at result
    cases ok <;> simp only [act, worker, result, goOn, reduceCtorEq] at ended
  | test | notify | settle => simp only [act, worker, goOn, reduceCtorEq] at ended

theorem notifyFrom_ne (interpreter : Interpreter) (listener : Nat) {phase : Phase}
    (other : phase = .step ∨ phase = .finish) : interpreter.notifyFrom listener ≠ phase := by
  simp only [notifyFrom]
  rcases other with rfl | rfl <;> split <;> simp

theorem act_finishing (finishing : interpreter.act.1.worker = some .finish) :
    interpreter.act.1.machine.state = .stopped := by
  cases worker : interpreter.worker with
  | none =>
    simp only [act, worker] at finishing
    cases finishing
  | some phase =>
    cases phase with
    | settle => simp only [act, worker, goOn, markStopped]
    | test =>
      simp only [act, worker, goOn] at finishing
      split at finishing <;> cases finishing
    | step =>
      simp only [act, worker] at finishing
      split at finishing
      next => cases finishing
      next => exact absurd (Option.some.inj finishing) (notifyFrom_ne _ 0 (.inr rfl))
      next => cases finishing
    | notify listener =>
      simp only [act, worker] at finishing
      exact absurd (Option.some.inj finishing) (notifyFrom_ne _ (listener + 1) (.inr rfl))
    | finish =>
      simp only [act, worker] at finishing
      cases finishing

theorem alive_of_act (alive : interpreter.act.1.worker ≠ none) : interpreter.worker ≠ none := by
  intro idle
  simp only [act, idle] at alive
  exact alive rfl

theorem act_stepping (asked : interpreter.stopRequested = true) :
    interpreter.act.1.worker ≠ some .step := by
  intro stepping
  cases worker : interpreter.worker with
  | none =>
    simp only [act, worker] at stepping
    cases stepping
  | some phase =>
    cases phase with
    | settle | finish | test =>
      simp only [act, worker, goOn, asked, if_true] at stepping
      cases stepping
    | step =>
      simp only [act, worker] at stepping
      split at stepping
      next => cases stepping
      next => exact notifyFrom_ne _ 0 (.inl rfl) (Option.some.inj stepping)
      next => cases stepping
    | notify listener =>
      simp only [act, worker] at stepping
      exact notifyFrom_ne _ (listener + 1) (.inl rfl) (Option.some.inj stepping)

end Interpreter

namespace Configuration

/-- What always holds of the workers, their machine and their client. -/
structure Orderly (configuration : Configuration) : Prop where
  delay : 0 ≤ configuration.interpreter.machine.delay ∧
    configuration.interpreter.machine.delay ≤ 255
  former : ∀ worker ∈ configuration.former, worker = none
  alone : configuration.stage.launches = true → configuration.interpreter.worker = none
  unstopped : configuration.stage.cleared = true →
    configuration.interpreter.stopRequested = false
  stopped : configuration.interpreter.worker = none → configuration.stage.marked = false →
    configuration.interpreter.machine.state = .stopped
  settled : configuration.interpreter.worker = some .finish →
    configuration.interpreter.machine.state = .stopped

variable {configuration : Configuration}

theorem act_last (configuration : Configuration) :
    configuration.act configuration.former.length =
      configuration.setInterpreter configuration.interpreter.act.1 :=
  if_pos rfl

theorem act_former {number : Nat} (former : ∀ worker ∈ configuration.former, worker = none)
    (other : number ≠ configuration.former.length) : configuration.act number = configuration := by
  simp only [act, other, if_false]
  split
  next => rfl
  next worker found =>
    obtain ⟨inside, same⟩ := List.getElem?_eq_some_iff.mp found
    have ended := former worker (List.mem_of_getElem? found)
    subst ended
    simp only [Interpreter.act, ← same, List.set_getElem_self]

namespace Orderly

theorem setAct (orderly : configuration.Orderly) :
    (configuration.setInterpreter configuration.interpreter.act.1).Orderly := by
  by_cases idle : configuration.interpreter.worker = none
  · have same : configuration.interpreter.act.1 = configuration.interpreter := by
      simp only [Interpreter.act, idle]
    rw [same]
    exact orderly
  · -- While a worker is alive, no start is about to launch one.
    have waiting : configuration.stage.launches ≠ true := fun launching =>
      idle (orderly.alone launching)
    exact {
      delay := Interpreter.act_delay orderly.delay
      former := orderly.former
      alone := fun launching => absurd launching waiting
      unstopped := fun cleared => (configuration.interpreter.act_stopRequested).trans
        (orderly.unstopped cleared)
      stopped := fun ended _ => by
        obtain ⟨finishing, same⟩ := Interpreter.act_ended orderly.delay idle ended
        exact (congrArg Machine.state same).trans (orderly.settled finishing)
      settled := Interpreter.act_finishing }

theorem act (orderly : configuration.Orderly) (number : Nat) :
    (configuration.act number).Orderly := by
  by_cases last : number = configuration.former.length
  · subst last
    rw [act_last]
    exact orderly.setAct
  · rw [act_former orderly.former last]
    exact orderly

theorem goTo (orderly : configuration.Orderly) {stage : Stage}
    (unmarked : configuration.stage.marked = false) (before : stage.cleared = false)
    (alone : stage.launches = true → configuration.interpreter.worker = none) :
    (configuration.goTo stage).Orderly :=
  { orderly with
    alone := alone
    unstopped := fun cleared => by rw [Configuration.goTo, before] at cleared; cases cleared
    stopped := fun ended _ => orderly.stopped ended unmarked }

theorem call (orderly : configuration.Orderly) (call : Call) :
    (configuration.take (.call call)).Orderly := by
  simp only [take]
  split
  next idle =>
    apply orderly.goTo
    · rw [idle]
      rfl
    · cases call <;> rfl
    · cases call <;> nofun
  next => exact orderly

theorem proceed (orderly : configuration.Orderly) : configuration.proceed.Orderly := by
  obtain ⟨interpreter, former, stage⟩ := configuration
  have ended (idle : ¬ interpreter.running = true) : interpreter.worker = none :=
    Option.not_isSome_iff_eq_none.mp idle
  cases stage with
  | idle => exact orderly
  | findWorker =>
    simp only [Configuration.proceed]
    split
    next => exact orderly.goTo rfl rfl nofun
    next idle => exact orderly.goTo rfl rfl fun _ => ended idle
  | findStop =>
    simp only [Configuration.proceed]
    split <;> exact orderly.goTo rfl rfl nofun
  | awaitWorker =>
    simp only [Configuration.proceed]
    split
    next => exact orderly
    next idle => exact orderly.goTo rfl rfl fun _ => ended idle
  | join =>
    simp only [Configuration.proceed]
    split
    next => exact orderly
    next => exact orderly.goTo rfl rfl nofun
  | requestStop =>
    exact { orderly with
      alone := nofun
      unstopped := nofun
      stopped := fun idle _ => orderly.stopped idle rfl }
  | clearStop =>
    exact { orderly with
      unstopped := fun _ => rfl
      stopped := fun idle _ => orderly.stopped idle rfl }
  -- From here on no worker is alive, and so none can overwrite what the machine is marked with.
  | markRunning =>
    have idle : interpreter.worker = none := orderly.alone rfl
    exact { orderly with
      stopped := nofun
      settled := fun finishing => by cases idle.symm.trans finishing }
  | clearFault =>
    exact { orderly with stopped := nofun }
  | launch =>
    have idle : interpreter.worker = none := orderly.alone rfl
    have others : ∀ worker ∈ former ++ [interpreter.worker], worker = none := by
      intro worker member
      rcases List.mem_append.mp member with earlier | last
      · exact orderly.former worker earlier
      · exact (List.mem_singleton.mp last).trans idle
    exact {
      delay := orderly.delay
      former := others
      alone := nofun
      unstopped := nofun
      stopped := nofun
      settled := nofun }

theorem take (orderly : configuration.Orderly) (move : Move) :
    (configuration.take move).Orderly := by
  cases move with
  | worker number => exact orderly.act number
  | call call => exact orderly.call call
  | proceed => exact orderly.proceed

theorem run (orderly : configuration.Orderly) (moves : List Move) :
    (configuration.run moves).Orderly := by
  induction moves generalizing configuration with
  | nil => exact orderly
  | cons move rest ih => exact ih (orderly.take move)

theorem stepping_iff (orderly : configuration.Orderly) {number : Nat} :
    configuration.Stepping number ↔
      number = configuration.former.length ∧ configuration.interpreter.worker = some .step := by
  simp only [Stepping, workers]
  rcases Nat.lt_trichotomy number configuration.former.length with earlier | last | beyond
  · have ended := orderly.former _ (List.getElem_mem earlier)
    simp only [List.getElem?_append_left earlier, List.getElem?_eq_getElem earlier, ended]
    constructor
    · nofun
    · omega
  · subst last
    simp
  · simp only [List.getElem?_append_right (Nat.le_of_lt beyond)]
    rw [List.getElem?_eq_none (by simp only [List.length_singleton]; omega)]
    constructor
    · nofun
    · omega

end Orderly

structure Unbroken (configuration : Configuration) : Prop where
  start : configuration.stage = .idle →
    ∃ former, configuration.run (.call .start :: List.replicate 5 .proceed) =
      match configuration.interpreter.start? with
      | some started => ⟨started, former, .idle⟩
      | none => configuration.goTo .awaitWorker
  stop : configuration.stage = .idle → configuration.run [.call .stop, .proceed] =
    configuration.setInterpreter configuration.interpreter.stop
  join : configuration.stage = .idle → configuration.run [.call .join, .proceed] =
    match configuration.interpreter.join? with
    | some joined => configuration.setInterpreter joined
    | none => configuration.goTo .join

theorem start_unbroken (interpreter : Interpreter) (former : List (Option Phase)) :
    ∃ others, run ⟨interpreter, former, .idle⟩ (.call .start :: List.replicate 5 .proceed) =
      match interpreter.start? with
      | some started => ⟨started, others, .idle⟩
      | none => ⟨interpreter, former, .awaitWorker⟩ := by
  cases worker : interpreter.worker with
  | none =>
    have idle : interpreter.running = false := by rw [Interpreter.running, worker]; rfl
    rw [Interpreter.start_idle worker]
    refine ⟨former ++ [interpreter.worker], ?_⟩
    simp only [run, List.replicate, List.foldl_cons, List.foldl_nil, take, proceed, goTo, Call.stage,
      idle, if_true, Bool.false_eq_true, if_false]
    rfl
  | some phase =>
    have alive : interpreter.running = true := by rw [Interpreter.running, worker]; rfl
    refine ⟨former, ?_⟩
    cases stop : interpreter.stopRequested <;>
      simp only [Interpreter.start?, run, List.replicate, List.foldl_cons, List.foldl_nil, take,
        proceed, goTo, Call.stage, alive, stop, if_true, Bool.false_eq_true, if_false]

theorem join_unbroken (interpreter : Interpreter) (former : List (Option Phase)) :
    run ⟨interpreter, former, .idle⟩ [.call .join, .proceed] =
      match interpreter.join? with
      | some joined => ⟨joined, former, .idle⟩
      | none => ⟨interpreter, former, .join⟩ := by
  cases alive : interpreter.running <;>
    simp only [Interpreter.join?, run, List.foldl_cons, List.foldl_nil, take, proceed, goTo,
      Call.stage, alive, if_true, Bool.false_eq_true, if_false]

theorem unbroken (configuration : Configuration) : configuration.Unbroken := by
  obtain ⟨interpreter, former, stage⟩ := configuration
  constructor
  case start =>
    rintro ⟨⟩
    exact start_unbroken interpreter former
  case stop =>
    rintro ⟨⟩
    rfl
  case join =>
    rintro ⟨⟩
    exact join_unbroken interpreter former

end Configuration

end ChipEight
