import ChipEight.Proofs.Interleaving

set_option autoImplicit false

namespace ChipEight

namespace Configuration

variable {configuration : Configuration}

theorem Orderly.proceed_worker (orderly : configuration.Orderly) :
    configuration.proceed.former = configuration.workers ∨
      configuration.proceed.former = configuration.former ∧
        configuration.proceed.interpreter.worker = configuration.interpreter.worker ∧
        (configuration.interpreter.worker ≠ none →
          configuration.interpreter.stopRequested = true →
            configuration.proceed.interpreter.stopRequested = true) := by
  obtain ⟨interpreter, former, stage⟩ := configuration
  cases stage with
  | launch => exact .inl rfl
  | clearStop => exact .inr ⟨rfl, rfl, fun alive => absurd (orderly.alone rfl) alive⟩
  | requestStop => exact .inr ⟨rfl, rfl, fun _ _ => rfl⟩
  | awaitWorker | join =>
    simp only [Configuration.proceed]
    split <;> exact .inr ⟨rfl, rfl, fun _ asked => asked⟩
  | idle | findWorker | findStop | markRunning | clearFault =>
    exact .inr ⟨rfl, rfl, fun _ asked => asked⟩

def Asked (configuration : Configuration) (number : Nat) : Prop :=
  number < configuration.former.length ∨ number = configuration.former.length ∧
    (configuration.interpreter.worker ≠ none → configuration.interpreter.stopRequested = true)

theorem Asked.act {number : Nat} (asked : configuration.Asked number) :
    (configuration.setInterpreter configuration.interpreter.act.1).Asked number := by
  rcases asked with earlier | ⟨last, stop⟩
  · exact .inl earlier
  · refine .inr ⟨last, fun alive => ?_⟩
    exact configuration.interpreter.act_stopRequested.trans
      (stop (Interpreter.alive_of_act alive))

theorem Asked.not_stepping {number : Nat} (asked : configuration.Asked number)
    (last : number = configuration.former.length) :
    configuration.interpreter.act.1.worker ≠ some .step := by
  intro stepping
  rcases asked with earlier | ⟨_, stop⟩
  · omega
  · have alive : configuration.interpreter.act.1.worker ≠ none := by
      rw [stepping]
      nofun
    exact Interpreter.act_stepping (stop (Interpreter.alive_of_act alive)) stepping

theorem Asked.take {number : Nat} (asked : configuration.Asked number)
    (orderly : configuration.Orderly) (move : Move) :
    (configuration.take move).Asked number ∧
      ((configuration.take move).Stepping number →
        configuration.Stepping number ∧ move ≠ .worker number) := by
  have after := orderly.take move
  rw [after.stepping_iff, orderly.stepping_iff]
  cases move with
  | worker other =>
    rw [Configuration.take]
    by_cases last : other = configuration.former.length
    · subst last
      rw [act_last]
      exact ⟨asked.act, fun stepping => absurd stepping.2 (asked.not_stepping stepping.1)⟩
    · rw [act_former orderly.former last]
      refine ⟨asked, fun stepping => ⟨stepping, ?_⟩⟩
      rintro ⟨⟩
      exact last stepping.1
  | call call =>
    have same : (configuration.take (.call call)).interpreter = configuration.interpreter ∧
        (configuration.take (.call call)).former = configuration.former := by
      simp only [Configuration.take]
      split <;> exact ⟨rfl, rfl⟩
    rw [Asked, same.1, same.2]
    exact ⟨asked, fun stepping => ⟨stepping, by simp⟩⟩
  | proceed =>
    rw [Configuration.take]
    rcases orderly.proceed_worker with launched | ⟨former, worker, kept⟩
    · -- The worker has joined the former ones, of which none is alive.
      have more : configuration.proceed.former.length = configuration.former.length + 1 := by
        rw [launched, workers, List.length_append, List.length_singleton]
      have earlier : number < configuration.proceed.former.length := by
        rcases asked with earlier | ⟨last, _⟩ <;> omega
      exact ⟨.inl earlier, fun stepping => absurd stepping.1 (Nat.ne_of_lt earlier)⟩
    · rw [Asked, former, worker]
      refine ⟨asked.imp_right fun last => ⟨last.1, fun alive => kept alive (last.2 alive)⟩, ?_⟩
      exact fun stepping => ⟨stepping, by simp⟩

theorem Asked.cyclesBegun {number : Nat} (asked : configuration.Asked number)
    (orderly : configuration.Orderly) (moves : List Move) :
    cyclesBegun number configuration moves ≤ if configuration.Stepping number then 1 else 0 := by
  induction moves generalizing configuration with
  | nil => exact Nat.zero_le _
  | cons move rest ih =>
    obtain ⟨still, stepping⟩ := asked.take orderly move
    have later := ih still (orderly.take move)
    rw [Configuration.cyclesBegun]
    by_cases turn : move = .worker number
    · -- Whatever the worker does now, it will not be before a step again.
      have past : ¬ (configuration.take move).Stepping number :=
        fun again => (stepping again).2 turn
      rw [if_neg past] at later
      simp only [turn, true_and] at later ⊢
      omega
    · simp only [turn, false_and, if_false, Nat.zero_add]
      apply Nat.le_trans later
      split
      next again => exact Nat.le_of_eq (if_pos (stepping again).1).symm
      next => exact Nat.zero_le _

theorem proceed_stopRequested (other : configuration.stage ≠ .requestStop)
    (unstopped : configuration.interpreter.stopRequested = false) :
    configuration.proceed.stage ≠ .requestStop ∧
      configuration.proceed.interpreter.stopRequested = false := by
  obtain ⟨interpreter, former, stage⟩ := configuration
  cases stage with
  | requestStop => exact absurd rfl other
  | findWorker | findStop =>
    simp only [proceed, goTo]
    split <;> exact ⟨by simp, unstopped⟩
  | awaitWorker | join =>
    simp only [proceed]
    split <;> exact ⟨by simp [goTo], unstopped⟩
  | clearStop => exact ⟨by simp [proceed, goTo], rfl⟩
  | idle | markRunning | clearFault | launch => exact ⟨by simp [proceed, goTo], unstopped⟩

theorem act_stopRequested (configuration : Configuration) (number : Nat) :
    (configuration.act number).interpreter.stopRequested =
      configuration.interpreter.stopRequested := by
  simp only [act]
  split
  next => exact configuration.interpreter.act_stopRequested
  next =>
    split
    next => rfl
    next worker _ => exact Interpreter.act_stopRequested _

theorem act_stage (configuration : Configuration) (number : Nat) :
    (configuration.act number).stage = configuration.stage := by
  simp only [act]
  split
  next => rfl
  next => split <;> rfl

theorem run_unstopped (other : configuration.stage ≠ .requestStop)
    (unstopped : configuration.interpreter.stopRequested = false) {moves : List Move}
    (never : .call .stop ∉ moves) :
    (configuration.run moves).interpreter.stopRequested = false := by
  induction moves generalizing configuration with
  | nil => exact unstopped
  | cons move rest ih =>
    rw [List.mem_cons, not_or] at never
    suffices kept : (configuration.take move).stage ≠ .requestStop ∧
        (configuration.take move).interpreter.stopRequested = false from ih kept.1 kept.2 never.2
    cases move with
    | worker number =>
      simp only [take, act_stage, act_stopRequested]
      exact ⟨other, unstopped⟩
    | proceed => exact proceed_stopRequested other unstopped
    | call call =>
      simp only [take]
      split
      next =>
        refine ⟨?_, unstopped⟩
        cases call with
        | stop => exact absurd rfl never.1
        | start | join => simp [goTo, Call.stage]
      next => exact ⟨other, unstopped⟩

-- A start that has found a stop requested, and has not launched its worker yet: it waits until the
-- other one has ended.
def Waiting (configuration : Configuration) : Prop :=
  (configuration.stage = .findStop ∨ configuration.stage = .awaitWorker) ∧
      configuration.interpreter.stopRequested = true ∨
    configuration.stage.launches = true ∧ configuration.interpreter.worker = none

theorem Waiting.proceed (waiting : configuration.Waiting) (after : configuration.proceed.Orderly) :
    configuration.former.length < configuration.proceed.former.length ∨
      configuration.proceed.Waiting := by
  have launching (begins : configuration.proceed.stage.launches = true) :
      configuration.proceed.Waiting :=
    .inr ⟨begins, after.alone begins⟩
  obtain ⟨interpreter, former, stage⟩ := configuration
  rcases waiting with ⟨rfl | rfl, asked⟩ | ⟨begins, _⟩
  · have goes : Configuration.proceed ⟨interpreter, former, .findStop⟩ =
        ⟨interpreter, former, .awaitWorker⟩ := by
      have stop : interpreter.stopRequested = true := asked
      simp only [Configuration.proceed, goTo, stop, if_true]
    rw [goes]
    exact .inr (.inl ⟨.inr rfl, asked⟩)
  · refine .inr ?_
    cases alive : interpreter.running
    · apply launching
      simp only [Configuration.proceed, goTo, alive, Bool.false_eq_true, if_false, Stage.launches]
    · simp only [Configuration.proceed, alive, if_true]
      exact .inl ⟨.inr rfl, asked⟩
  · cases stage with
    | launch =>
      left
      simp only [Configuration.proceed, workers, List.length_append, List.length_singleton]
      omega
    | clearStop | markRunning | clearFault => exact .inr (launching rfl)
    | _ => cases begins

theorem length_act (configuration : Configuration) (number : Nat) :
    (configuration.act number).former.length = configuration.former.length := by
  simp only [act]
  split
  next => rfl
  next =>
    split
    next => rfl
    next => exact List.length_set

theorem length_run (configuration : Configuration) (moves : List Move) :
    configuration.former.length ≤ (configuration.run moves).former.length := by
  induction moves generalizing configuration with
  | nil => exact Nat.le_refl _
  | cons move rest ih =>
    apply Nat.le_trans _ (ih (configuration.take move))
    cases move with
    | worker number => exact Nat.le_of_eq (configuration.length_act number).symm
    | call call =>
      simp only [take]
      split <;> exact Nat.le_refl _
    | proceed =>
      obtain ⟨interpreter, former, stage⟩ := configuration
      cases stage with
      | launch =>
        simp only [take, proceed, workers, List.length_append]
        omega
      | awaitWorker | join =>
        simp only [take, proceed]
        split <;> exact Nat.le_refl _
      | _ => exact Nat.le_refl _

theorem Waiting.take (waiting : configuration.Waiting) (orderly : configuration.Orderly)
    (move : Move) : configuration.former.length < (configuration.take move).former.length ∨
      (configuration.take move).Waiting := by
  cases move with
  | proceed => exact waiting.proceed orderly.proceed
  | call call =>
    have busy : configuration.stage ≠ .idle := by
      intro idle
      rw [Waiting, idle] at waiting
      simp [Stage.launches] at waiting
    simp only [Configuration.take, busy, if_false]
    exact .inr waiting
  | worker number =>
    have after := orderly.act number
    refine .inr ?_
    rw [Configuration.take, Waiting, act_stage, act_stopRequested]
    refine waiting.imp_right fun launching => ⟨launching.1, after.alone ?_⟩
    rw [act_stage]
    exact launching.1

theorem Waiting.run (waiting : configuration.Waiting) (orderly : configuration.Orderly)
    (moves : List Move) : configuration.former.length < (configuration.run moves).former.length ∨
      (configuration.run moves).Waiting := by
  induction moves generalizing configuration with
  | nil => exact .inr waiting
  | cons move rest ih =>
    rcases waiting.take orderly move with launched | still
    · exact .inl (Nat.lt_of_lt_of_le launched (length_run _ rest))
    · have grows := length_run configuration [move]
      refine (ih still (orderly.take move)).imp_left fun launched => ?_
      exact Nat.lt_of_le_of_lt grows launched

structure Quiet (configuration : Configuration) : Prop where
  former : ∀ worker ∈ configuration.former, worker = none
  idle : configuration.interpreter.worker = none
  stage : configuration.stage ∈ [.idle, .requestStop, .join]

theorem Quiet.take (quiet : configuration.Quiet) {move : Move} (other : move ≠ .call .start) :
    (configuration.take move).Quiet ∧
      (configuration.take move).interpreter.machine = configuration.interpreter.machine := by
  obtain ⟨interpreter, former, stage⟩ := configuration
  have idle : interpreter.worker = none := quiet.idle
  cases move with
  | worker number =>
    rw [Configuration.take]
    by_cases last : number = former.length
    · subst last
      have same : interpreter.act.1 = interpreter := by simp only [Interpreter.act, idle]
      rw [act_last, same]
      exact ⟨quiet, rfl⟩
    · rw [act_former quiet.former last]
      exact ⟨quiet, rfl⟩
  | call call =>
    simp only [Configuration.take]
    split
    next =>
      refine ⟨⟨quiet.former, quiet.idle, ?_⟩, rfl⟩
      cases call with
      | start => exact absurd rfl other
      | stop | join => simp [goTo, Call.stage]
    next => exact ⟨quiet, rfl⟩
  | proceed =>
    have finished (interpreter : Interpreter) (idle : interpreter.worker = none) :
        Quiet ⟨interpreter, former, .idle⟩ := ⟨quiet.former, idle, by simp⟩
    cases stage with
    | idle => exact ⟨quiet, rfl⟩
    | requestStop => exact ⟨finished _ idle, rfl⟩
    | join =>
      simp only [Configuration.take, proceed]
      split
      next => exact ⟨quiet, rfl⟩
      next => exact ⟨finished _ idle, rfl⟩
    | _ => simpa using quiet.stage

theorem Quiet.run (quiet : configuration.Quiet) {moves : List Move}
    (never : .call .start ∉ moves) :
    (configuration.run moves).interpreter.machine = configuration.interpreter.machine ∧
      ∀ number, cyclesBegun number configuration moves = 0 := by
  induction moves generalizing configuration with
  | nil => exact ⟨rfl, fun _ => rfl⟩
  | cons move rest ih =>
    rw [List.mem_cons, not_or] at never
    obtain ⟨still, same⟩ := quiet.take (Ne.symm never.1)
    obtain ⟨machine, none⟩ := ih still never.2
    refine ⟨machine.trans same, fun number => ?_⟩
    have ended : ¬ configuration.Stepping number := by
      intro stepping
      have member := List.mem_of_getElem? stepping
      rcases List.mem_append.mp member with earlier | last
      · cases quiet.former _ earlier
      · cases (List.mem_singleton.mp last).trans quiet.idle
    rw [cyclesBegun, if_neg (fun begins => ended begins.2), none number]

theorem act_goTo (configuration : Configuration) (stage : Stage) (number : Nat) :
    (configuration.goTo stage).act number = (configuration.act number).goTo stage := by
  by_cases last : number = configuration.former.length
  · simp only [act, goTo, last, if_true]
    rfl
  · simp only [act, goTo, last, if_false]
    cases configuration.former[number]? <;> rfl

theorem run_workers {moves : List Move} (workers : ∀ move ∈ moves, ∃ number, move = .worker number)
    (configuration : Configuration) (stage : Stage) :
    (configuration.goTo stage).run moves = (configuration.run moves).goTo stage ∧
      (configuration.run moves).interpreter.stopRequested =
        configuration.interpreter.stopRequested := by
  induction moves generalizing configuration with
  | nil => exact ⟨rfl, rfl⟩
  | cons move rest ih =>
    obtain ⟨number, rfl⟩ := workers move List.mem_cons_self
    obtain ⟨same, kept⟩ := ih (fun move member => workers move (List.mem_cons_of_mem _ member))
      (configuration.act number)
    refine ⟨?_, kept.trans (configuration.act_stopRequested number)⟩
    rw [← act_goTo] at same
    exact same

theorem start_working (found : configuration.stage = .findWorker)
    (alive : configuration.interpreter.worker ≠ none)
    (unstopped : configuration.interpreter.stopRequested = false) {moves : List Move}
    (workers : ∀ move ∈ moves, ∃ number, move = .worker number) :
    configuration.run (.proceed :: (moves ++ [.proceed])) =
      (configuration.run moves).goTo .idle := by
  have first : configuration.proceed = configuration.goTo .findStop := by
    simp only [proceed, found, Interpreter.running, Option.isSome_iff_ne_none.mpr alive, if_true]
  obtain ⟨between, kept⟩ := run_workers workers configuration .findStop
  have parts : configuration.run (.proceed :: (moves ++ [.proceed])) =
      (configuration.proceed.run moves).proceed := by
    simp only [run, List.foldl_cons, List.foldl_append, List.foldl_nil, take]
  rw [parts, first, between]
  simp only [proceed, goTo, kept, unstopped, Bool.false_eq_true, if_false]

/-- What holds in a configuration for the calls of its client, whatever comes next. -/
structure Safe (configuration : Configuration) : Prop where
  alone : configuration.workers.countP Option.isSome ≤ 1
  stopped : configuration.stage = .idle → (∀ worker ∈ configuration.workers, worker = none) →
    configuration.interpreter.machine.state = .stopped
  -- When a stop returns, each worker there is so far begins at most one more cycle.
  stop : configuration.stage = .requestStop → ∀ number, number < configuration.workers.length →
    ∀ moves, cyclesBegun number configuration.proceed moves ≤ 1
  -- A start that finds a stop requested launches a worker before it returns.
  waits : configuration.stage = .findStop → configuration.interpreter.stopRequested = true →
    ∀ moves, configuration.former.length < (configuration.run moves).former.length ∨
      (configuration.run moves).Waiting
  -- When a start launches a worker, all others have ended, and no stop is requested until the
  -- client asks for the next one.
  launch : configuration.stage = .launch → (∀ worker ∈ configuration.workers, worker = none) ∧
    ∀ moves, .call .stop ∉ moves →
      (configuration.proceed.run moves).interpreter.stopRequested = false
  -- A start that finds a worker alive and no stop requested might as well not have been called.
  working : configuration.stage = .findWorker → configuration.interpreter.worker ≠ none →
    configuration.interpreter.stopRequested = false → ∀ moves,
      (∀ move ∈ moves, ∃ number, move = .worker number) →
        configuration.run (.proceed :: (moves ++ [.proceed])) =
          (configuration.run moves).goTo .idle
  -- When a join returns, the machine rests until the next start.
  joined : configuration.stage = .join → configuration.proceed.stage = .idle → ∀ moves,
    .call .start ∉ moves →
      (configuration.proceed.run moves).interpreter.machine = configuration.interpreter.machine ∧
        ∀ number, cyclesBegun number configuration.proceed moves = 0

theorem Orderly.alone_safe (orderly : configuration.Orderly) :
    configuration.workers.countP Option.isSome ≤ 1 := by
  have former : configuration.former.countP Option.isSome = 0 := by
    apply List.countP_eq_zero.mpr
    intro worker member alive
    rw [orderly.former worker member] at alive
    cases alive
  rw [workers, List.countP_append, former, Nat.zero_add]
  exact List.countP_le_length

theorem Orderly.launch_safe (orderly : configuration.Orderly)
    (launching : configuration.stage = .launch) :
    (∀ worker ∈ configuration.workers, worker = none) ∧
      ∀ moves, .call .stop ∉ moves →
        (configuration.proceed.run moves).interpreter.stopRequested = false := by
  obtain ⟨interpreter, former, stage⟩ := configuration
  subst launching
  refine ⟨orderly.proceed.former, fun moves never => ?_⟩
  apply run_unstopped _ _ never
  · nofun
  · exact orderly.unstopped rfl

theorem Orderly.joined_safe (orderly : configuration.Orderly)
    (joining : configuration.stage = .join) (returned : configuration.proceed.stage = .idle) :
    configuration.proceed.Quiet ∧
      configuration.proceed.interpreter = configuration.interpreter := by
  obtain ⟨interpreter, former, stage⟩ := configuration
  subst joining
  simp only [Configuration.proceed] at returned ⊢
  split at returned
  next => cases returned
  next ended =>
    rw [if_neg ended]
    exact ⟨⟨orderly.former, Option.not_isSome_iff_eq_none.mp ended, List.mem_cons_self⟩, rfl⟩

theorem Orderly.stop_safe (orderly : configuration.Orderly)
    (stopping : configuration.stage = .requestStop) {number : Nat}
    (launched : number < configuration.workers.length) :
    configuration.proceed.Asked number := by
  obtain ⟨interpreter, former, stage⟩ := configuration
  subst stopping
  rw [workers, List.length_append, List.length_singleton] at launched
  rcases Nat.lt_succ_iff_lt_or_eq.mp launched with earlier | last
  · exact .inl earlier
  · exact .inr ⟨last, fun _ => rfl⟩

theorem Orderly.safe (orderly : configuration.Orderly) : configuration.Safe where
  alone := orderly.alone_safe
  stopped := by
    intro idle ended
    apply orderly.stopped
    · exact ended _ (List.mem_append_right _ List.mem_cons_self)
    · rw [idle]
      rfl
  stop := by
    intro stopping number launched moves
    apply Nat.le_trans ((orderly.stop_safe stopping launched).cyclesBegun orderly.proceed moves)
    split <;> omega
  waits := fun found asked moves => Waiting.run (.inl ⟨.inl found, asked⟩) orderly moves
  launch := orderly.launch_safe
  working := fun found alive unstopped _ workers => start_working found alive unstopped workers
  joined := by
    intro joining returned moves never
    obtain ⟨quiet, same⟩ := orderly.joined_safe joining returned
    obtain ⟨machine, none⟩ := quiet.run never
    exact ⟨machine.trans (congrArg Interpreter.machine same), none⟩

def new (legacy : Bool) (random : RandomSource) (scale : Int) (tracing : Bool)
    (program : Array UInt8) (renderListeners haltListeners : Nat) : Configuration :=
  ofInterpreter
    { (Interpreter.new (Machine.new legacy random) scale tracing).perform (.load program) with
      renderListeners := renderListeners
      haltListeners := haltListeners }

theorem new_orderly (legacy : Bool) (random : RandomSource) (scale : Int) (tracing : Bool)
    (program : Array UInt8) (renderListeners haltListeners : Nat) :
    (new legacy random scale tracing program renderListeners haltListeners).Orderly := by
  obtain ⟨memory, loaded⟩ :=
    (Interpreter.new (Machine.new legacy random) scale tracing).perform_load program
  rw [new, loaded]
  exact {
    delay := ⟨Int.le_refl 0, (by decide : (0 : Int) ≤ 255)⟩
    former := nofun
    alone := nofun
    unstopped := nofun
    stopped := fun _ _ => rfl
    settled := nofun }

/-- The calls of a client are safe, however its actions and those of the workers are interleaved. -/
theorem lifecycle_safe (legacy : Bool) (random : RandomSource) (scale : Int) (tracing : Bool)
    (program : Array UInt8) (renderListeners haltListeners : Nat) (moves : List Move) :
    let reached := (new legacy random scale tracing program renderListeners haltListeners).run moves
    reached.Safe ∧ reached.Unbroken :=
  ⟨((new_orderly legacy random scale tracing program renderListeners haltListeners).run moves).safe,
    unbroken _⟩

def idling : List UInt8 :=
  [0x12, 0x00]

theorem idling_fits : idling.length ≤ 0xE00 := by
  decide

-- A worker is launched, and asked to stop before its first step. While it obeys that step and ends,
-- the next start waits for it.
def restarting : List Move :=
  .call .start :: List.replicate 5 .proceed ++ [.worker 1, .call .stop, .proceed, .call .start,
    .proceed, .proceed, .proceed, .worker 1, .worker 1, .worker 1, .worker 1] ++
    List.replicate 4 .proceed

def restarted : Configuration :=
  (new false (RandomSource.cycling #[]) 10 false idling.toArray 0 0).run restarting

theorem restarted_launches :
    restarted.stage = .launch ∧ (∀ worker ∈ restarted.workers, worker = none) ∧
      restarted.proceed.interpreter.stopRequested = false := by
  have loaded := Interpreter.perform_load_new false (RandomSource.cycling #[]) 10 false idling_fits
  have launching : restarted.stage = .launch := by
    rw [restarted, new, loaded]
    decide +kernel
  have safe : restarted.Safe := (lifecycle_safe _ _ _ _ _ _ _ restarting).1
  obtain ⟨ended, unstopped⟩ := safe.launch launching
  have clear := unstopped [] List.not_mem_nil
  rw [run, List.foldl_nil] at clear
  exact ⟨launching, ended, clear⟩

end Configuration

end ChipEight
