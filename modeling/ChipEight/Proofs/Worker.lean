import ChipEight.Interpreter.Run
import ChipEight.Proofs.Steps

set_option autoImplicit false

namespace ChipEight

namespace Interpreter

def tellHalt (interpreter : Interpreter) (listener : Nat) : Event :=
  .gaveUp listener interpreter.machine.state interpreter.machine.fault

section Acts

variable (interpreter : Interpreter) (stop : Bool)

theorem act_test : (interpreter.workedBy (some .test) stop).act =
    (interpreter.workedBy (some (if stop then .settle else .step)) stop, []) :=
  rfl

theorem act_notify (listener : Nat) : (interpreter.workedBy (some (.notify listener)) stop).act =
    (interpreter.workedBy (some (interpreter.notifyFrom (listener + 1))) stop,
      [interpreter.tellHalt listener]) :=
  rfl

theorem act_settle : (interpreter.workedBy (some .settle) stop).act =
    (interpreter.markStopped.workedBy (some .finish) stop, []) :=
  rfl

theorem act_finish : (interpreter.workedBy (some .finish) stop).act =
    (interpreter.workedBy none stop, interpreter.farewell) :=
  rfl

theorem act_step_success (success : interpreter.step.result = .ok true) :
    (interpreter.workedBy (some .step) stop).act =
      (interpreter.step.interpreter.workedBy (some .test) stop, interpreter.step.events) := by
  have working : (interpreter.workedBy (some .step) stop).worker = some .step := rfl
  simp only [act, working, step_workedBy, success]
  rfl

theorem act_step_halt (gaveUp : interpreter.step.result = .ok false) :
    (interpreter.workedBy (some .step) stop).act =
      (interpreter.step.interpreter.workedBy
        (some (interpreter.step.interpreter.notifyFrom 0)) stop, interpreter.step.events) := by
  have working : (interpreter.workedBy (some .step) stop).worker = some .step := rfl
  simp only [act, working, step_workedBy, gaveUp]
  rfl

end Acts

end Interpreter

namespace Run

variable (stopAt : Option Nat)

theorem actTimes_add (first second : Nat) (run : Run) :
    actTimes stopAt (first + second) run = actTimes stopAt second (actTimes stopAt first run) := by
  induction first generalizing run with
  | zero => rw [Nat.zero_add, actTimes]
  | succ first ih =>
    rw [Nat.succ_add, actTimes, actTimes]
    exact ih (run.act stopAt)

theorem act_idle {run : Run} (idle : run.interpreter.worker = none) : run.act stopAt = run := by
  simp only [act, Interpreter.act, idle, reduceCtorEq, if_false, List.append_nil]

theorem actTimes_idle {run : Run} (idle : run.interpreter.worker = none) (count : Nat) :
    actTimes stopAt count run = run := by
  induction count with
  | zero => rfl
  | succ count ih => rw [actTimes, act_idle stopAt idle, ih]

section

variable {interpreter next : Interpreter} {stop : Bool} {more : List Event} (begun : Nat)
  (events : List Event)

theorem act_between {phase : Phase} (between : phase ≠ .step)
    (acts : (interpreter.workedBy (some phase) stop).act = (next, more)) :
    act ⟨interpreter.workedBy (some phase) stop, begun, events⟩ stopAt =
      ⟨next, begun, events ++ more⟩ := by
  -- A stop is requested at the beginning of a cycle only.
  have other : (interpreter.workedBy (some phase) stop).worker ≠ some .step :=
    fun same => between (Option.some.inj same)
  rw [act, if_neg other, acts]

theorem act_begin
    (acts : (interpreter.workedBy (some .step) (stopAt = some (begun + 1))).act = (next, more)) :
    act ⟨interpreter.workedBy (some .step) false, begun, events⟩ stopAt =
      ⟨next, begun + 1, events ++ more⟩ := by
  have asked : (if stopAt = some (begun + 1) then (interpreter.workedBy (some .step) false).stop
      else interpreter.workedBy (some .step) false) =
      interpreter.workedBy (some .step) (stopAt = some (begun + 1)) := by
    split
    next asked => simp only [asked, decide_true, Interpreter.workedBy, Interpreter.stop]
    next other => simp only [other, decide_false]
  have working : (interpreter.workedBy (some .step) false).worker = some .step := rfl
  simp only [act, working, if_true, asked, acts]

theorem actTimes_cycle
    (acts : (interpreter.workedBy (some .step) (stopAt = some (begun + 1))).act = (next, more)) :
    actTimes stopAt 2 ⟨interpreter.workedBy (some .test) false, begun, events⟩ =
      ⟨next, begun + 1, events ++ more⟩ := by
  rw [actTimes, act_between stopAt begun events (by decide) (interpreter.act_test false),
    List.append_nil, actTimes]
  exact act_begin stopAt begun events acts

theorem actTimes_close :
    actTimes stopAt 2 ⟨interpreter.workedBy (some .settle) stop, begun, events⟩ =
      ⟨interpreter.markStopped.workedBy none stop, begun,
        events ++ interpreter.markStopped.farewell⟩ := by
  rw [actTimes, act_between stopAt begun events (by decide) (interpreter.act_settle stop),
    List.append_nil, actTimes,
    act_between stopAt begun events (by decide) (interpreter.markStopped.act_finish stop), actTimes]

theorem actTimes_stop :
    actTimes stopAt 3 ⟨interpreter.workedBy (some .test) true, begun, events⟩ =
      ⟨interpreter.markStopped.workedBy none true, begun,
        events ++ interpreter.markStopped.farewell⟩ := by
  rw [actTimes, act_between stopAt begun events (by decide) (interpreter.act_test true),
    List.append_nil]
  exact actTimes_close stopAt begun events

theorem actTimes_notify {remaining listener : Nat}
    (all : listener + remaining = interpreter.haltListeners) :
    actTimes stopAt remaining
        ⟨interpreter.workedBy (some (interpreter.notifyFrom listener)) stop, begun, events⟩ =
      ⟨interpreter.workedBy (some .settle) stop, begun,
        events ++ (List.range' listener remaining).map interpreter.tellHalt⟩ := by
  induction remaining generalizing listener events with
  | zero =>
    have last : interpreter.notifyFrom listener = .settle := if_neg (by omega)
    rw [actTimes, last, List.range'_zero, List.map_nil, List.append_nil]
  | succ remaining ih =>
    have next : interpreter.notifyFrom listener = .notify listener := if_pos (by omega)
    rw [actTimes, next,
      act_between stopAt begun events (by simp) (interpreter.act_notify stop listener),
      ih _ (by omega), List.range'_succ, List.map_cons, List.append_assoc, List.singleton_append]

theorem actTimes_halt {after : Interpreter} (same : interpreter.step.interpreter = after)
    (gaveUp : interpreter.step.result = .ok false) :
    actTimes stopAt (2 + (after.haltListeners + 2))
        ⟨interpreter.workedBy (some .test) false, begun, events⟩ =
      ⟨after.markStopped.workedBy none (stopAt = some (begun + 1)), begun + 1,
        events ++ interpreter.step.events ++
          (List.range after.haltListeners).map after.tellHalt ++ after.markStopped.farewell⟩ := by
  subst same
  have failed := interpreter.act_step_halt (stopAt = some (begun + 1)) gaveUp
  rw [actTimes_add, actTimes_cycle stopAt begun events failed, actTimes_add,
    actTimes_notify stopAt _ _ (Nat.zero_add _), actTimes_close, List.range_eq_range']

end

section Working

variable {interpreter : Interpreter} {cycles count : Nat}

theorem actTimes_success (within : count ≤ cycles) (positive : 1 ≤ cycles)
    (success : ∀ number, number < count → (interpreter.afterSteps number).step.result = .ok true) :
    actTimes (some cycles) (2 * count) ⟨interpreter.workedBy (some .test) false, 0, []⟩ =
      ⟨(interpreter.afterSteps count).workedBy (some .test) (cycles = count), count,
        interpreter.stepEvents count⟩ := by
  induction count with
  | zero =>
    have early : ¬ cycles = 0 := by omega
    simp only [actTimes, Interpreter.afterSteps, Interpreter.stepEvents, early, decide_false]
  | succ count ih =>
    -- The worker is back at its test, and no stop is requested before the cycle that now begins.
    have early : ¬ cycles = count := by omega
    have before := ih (by omega) fun number less => success number (by omega)
    have next := Interpreter.act_step_success (interpreter.afterSteps count)
      (some cycles = some (count + 1)) (success count (Nat.lt_succ_self count))
    rw [Nat.mul_succ, actTimes_add, before]
    simp only [early, decide_false]
    rw [actTimes_cycle _ count _ next]
    simp only [Interpreter.afterSteps, Interpreter.stepEvents, Option.some.injEq]

end Working

end Run

namespace Interpreter

variable {interpreter : Interpreter} {cycles : Nat}

theorem launch_eq (interpreter : Interpreter) :
    interpreter.launch = interpreter.resumed.workedBy (some .test) false :=
  rfl

theorem start_idle (idle : interpreter.worker = none) :
    interpreter.start? = some interpreter.launch := by
  simp only [start?, running, idle, Option.isSome_none, Bool.false_eq_true, if_false]

theorem runFor_success (positive : 1 ≤ cycles)
    (success : ∀ number, number < cycles →
      (interpreter.resumed.afterSteps number).step.result = .ok true) :
    interpreter.runFor cycles =
      ⟨(interpreter.resumed.afterSteps cycles).markStopped.workedBy none true, cycles,
        interpreter.resumed.stepEvents cycles ++
          (interpreter.resumed.afterSteps cycles).markStopped.farewell⟩ := by
  have worked := Run.actTimes_success (Nat.le_refl cycles) positive success
  -- Three actions close the run, and those that are left over find no worker.
  have acts : interpreter.actionsFor cycles = 2 * cycles + (3 + interpreter.haltListeners) := by
    rw [actionsFor]
    omega
  rw [runFor, launch_eq, acts, Run.actTimes_add, worked, Run.actTimes_add]
  simp only [decide_true]
  rw [Run.actTimes_stop]
  exact Run.actTimes_idle _ rfl _

theorem runFor_halt {earlier : Nat} (within : earlier < cycles)
    (success : ∀ number, number < earlier →
      (interpreter.resumed.afterSteps number).step.result = .ok true)
    (gaveUp : (interpreter.resumed.afterSteps earlier).step.result = .ok false) :
    interpreter.runFor cycles =
      ⟨(interpreter.resumed.afterSteps (earlier + 1)).markStopped.workedBy none
          (cycles = earlier + 1), earlier + 1,
        interpreter.resumed.stepEvents (earlier + 1) ++
          (List.range interpreter.haltListeners).map
            (interpreter.resumed.afterSteps (earlier + 1)).tellHalt ++
          (interpreter.resumed.afterSteps (earlier + 1)).markStopped.farewell⟩ := by
  have early : ¬ cycles = earlier := by omega
  have worked := Run.actTimes_success (Nat.le_of_lt within) (by omega) success
  have listeners : (interpreter.resumed.afterSteps (earlier + 1)).haltListeners =
      interpreter.haltListeners :=
    afterSteps_haltListeners _ _
  have ended := Run.actTimes_halt (some cycles) earlier (interpreter.resumed.stepEvents earlier)
    (Eq.refl (interpreter.resumed.afterSteps (earlier + 1))) gaveUp
  have acts : interpreter.actionsFor cycles =
      2 * earlier + (2 + (interpreter.haltListeners + 2) + (2 * (cycles - earlier) - 1)) := by
    rw [actionsFor]
    omega
  rw [listeners] at ended
  rw [runFor, launch_eq, acts, Run.actTimes_add, worked, Run.actTimes_add]
  simp only [early, decide_false]
  rw [ended, Run.actTimes_idle _ rfl]
  simp only [Option.some.injEq, stepEvents]

end Interpreter

end ChipEight
