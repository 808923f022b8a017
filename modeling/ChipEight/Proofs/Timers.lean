import Mathlib.Data.List.Induction
import ChipEight.Proofs.Halt
import ChipEight.Proofs.History
import ChipEight.Proofs.Loading

set_option autoImplicit false

namespace ChipEight

inductive Timer where
  | delay
  | sound

namespace Timer

def value (machine : Machine) : Timer → Int
  | delay => machine.delay
  | sound => machine.sound

def load? (timer : Timer) (machine : Machine) : Option Nat :=
  match timer, machine.next? with
  | delay, some (.setDelay x) => some (machine.register x).toNat
  | sound, some (.setSound x) => some (machine.register x).toNat
  | _, _ => none

structure CountedDown (timer : Timer) (initial : Int) (executed : List Machine) (value : Int) :
    Prop where
  unloaded : (∀ machine ∈ executed, timer.load? machine = none) →
    value = max 0 (initial - executed.length)
  loaded : ∀ earlier machine later number, executed = earlier ++ machine :: later →
    timer.load? machine = some number → (∀ other ∈ later, timer.load? other = none) →
      value = max 0 ((number : Int) - (later.length + 1))

end Timer

namespace Machine

variable {machine : Machine} {tracing : Bool}

theorem tick_max (value : Int) : tick (max 0 value) = max 0 (value - 1) := by
  simp only [tick]
  split <;> omega

theorem timer_of_success (timer : Timer) (success : (machine.cycle tracing).result = .ok true) :
    timer.value (machine.cycle tracing).machine =
      tick (((timer.load? machine).map Int.ofNat).getD (timer.value machine)) := by
  obtain ⟨word, operation, after, fetched, written, executed, same⟩ := executed_of_success success
  have kept := (completes_of_executed executed).kept rfl
  simp only [same, Timer.load?, next?_of_matches fetched written]
  generalize operation.instruction word = instruction at executed kept
  cases timer with
  | delay =>
    cases instruction with
    | setDelay x => cases executed; rfl
    | _ => exact congrArg tick (kept.delay nofun)
  | sound =>
    cases instruction with
    | setSound x => cases executed; rfl
    | _ => exact congrArg tick (kept.sound nofun)

theorem timer_of_halt (timer : Timer) (gaveUp : (machine.cycle tracing).result = .ok false) :
    timer.value (machine.cycle tracing).machine = timer.value machine := by
  obtain ⟨_, _, _, _, same⟩ := halt_residue gaveUp
  rw [same]
  cases timer <;> rfl

theorem register_of_readDelay {x : Fin 16} (success : (machine.cycle tracing).result = .ok true)
    (next : machine.next? = some (.readDelay x)) :
    (((machine.cycle tracing).machine.register x).toNat : Int) = machine.delay := by
  obtain ⟨word, operation, after, fetched, written, executed, same⟩ := executed_of_success success
  rw [Option.some.inj ((next?_of_matches fetched written).symm.trans next)] at executed
  rw [same]
  by_cases inside : 0 ≤ machine.delay ∧ machine.delay < 256
  · simp only [execute, readDelay, ready, Row.byte_inside inside] at executed
    cases executed
    refine (congrArg (fun byte : UInt8 => (byte.toNat : Int))
      ((register_setRegister _ x x _).trans (if_pos rfl))).trans ?_
    rw [UInt8.toNat_ofNat']
    omega
  · simp only [execute, readDelay, ready, Row.byte_outside inside] at executed
    cases executed

end Machine

namespace Timer.CountedDown

variable {timer : Timer} {initial value : Int} {executed : List Machine}

theorem nothing (positive : 0 ≤ initial) : CountedDown timer initial [] initial where
  unloaded := by
    intro _
    simp only [List.length_nil]
    omega
  loaded := by
    intro earlier machine later number same
    exact absurd same.symm (by simp)

theorem step (counted : CountedDown timer initial executed value) (machine : Machine) :
    CountedDown timer initial (executed ++ [machine])
      (Machine.tick (((timer.load? machine).map Int.ofNat).getD value)) where
  unloaded := by
    intro unloaded
    have before := counted.unloaded fun other member =>
      unloaded other (List.mem_append_left _ member)
    rw [unloaded machine (List.mem_append_right _ List.mem_cons_self), Option.map_none,
      Option.getD_none, before, Machine.tick_max, List.length_append, List.length_singleton]
    omega
  loaded := by
    intro earlier found later number same loads unloaded
    rcases List.eq_nil_or_concat later with rfl | ⟨between, last, rfl⟩
    · -- The instruction itself has loaded the timer, and it has ticked once since.
      obtain ⟨rfl, last⟩ := List.append_inj' same rfl
      cases last
      have positive : max 0 (number : Int) = number := Int.max_eq_right (Int.natCast_nonneg _)
      rw [loads, Option.map_some, Option.getD_some, Int.ofNat_eq_natCast, ← positive,
        Machine.tick_max, positive]
      rfl
    · rw [List.concat_eq_append, ← List.cons_append, ← List.append_assoc] at same
      obtain ⟨rfl, last⟩ := List.append_inj' same rfl
      cases last
      rw [List.concat_eq_append] at unloaded ⊢
      have before := counted.loaded earlier found between number rfl loads fun other member =>
        unloaded other (List.mem_append_left _ member)
      rw [unloaded machine (List.mem_append_right _ List.mem_cons_self), Option.map_none,
        Option.getD_none, before, Machine.tick_max, List.length_append, List.length_singleton]
      omega

end Timer.CountedDown

namespace Interpreter

def cycleTraced? (interpreter : Interpreter) : Request → Option Bool
  | .cycle tracing => some tracing
  | .step => some interpreter.tracing
  | .act => if interpreter.worker = some .step then some interpreter.tracing else none
  | _ => none

def executes (interpreter : Interpreter) (request : Request) : List Machine :=
  match interpreter.cycleTraced? request with
  | some tracing =>
    if (interpreter.machine.cycle tracing).result = .ok true then [interpreter.machine] else []
  | none => []

def executed (interpreter : Interpreter) : List Request → List Machine
  | [] => []
  | request :: rest => interpreter.executes request ++ (interpreter.perform request).executed rest

theorem executed_append (interpreter : Interpreter) (first second : List Request) :
    interpreter.executed (first ++ second) =
      interpreter.executed first ++ (interpreter.performAll first).executed second := by
  induction first generalizing interpreter with
  | nil => rfl
  | cons request rest ih =>
    rw [List.cons_append, executed, ih, executed, List.append_assoc, performAll_cons]

variable {interpreter : Interpreter} {request : Request}

theorem perform_cycle {tracing : Bool}
    (traced : interpreter.cycleTraced? request = some tracing) :
    (interpreter.perform request).machine = (interpreter.machine.cycle tracing).machine := by
  cases request with
  | cycle => cases traced; rfl
  | step => cases traced; exact interpreter.step_machine
  | act =>
    simp only [cycleTraced?, Option.ite_none_right_eq_some, Option.some.injEq] at traced
    obtain ⟨stepping, rfl⟩ := traced
    simp only [perform, act, stepping, ← step_machine]
    split <;> rfl
  | _ => cases traced

theorem perform_idle (idle : interpreter.cycleTraced? request = none) (other : request ≠ .reset) :
    ∃ memory keypad state fault, (interpreter.perform request).machine =
      { interpreter.machine with memory := memory, keypad := keypad, state := state, fault := fault } ∧
      (memory = interpreter.machine.memory ∨
        ∃ program length, interpreter.machine.memory.loadProgram program = .ok (length, memory)) := by
  cases request with
  | reset => exact absurd rfl other
  | cycle => cases idle
  | step => cases idle
  | load program =>
    simp only [perform]
    split
    next loaded =>
      obtain ⟨memory, copied, rfl⟩ := Machine.loadProgram_frame loaded
      exact ⟨memory, _, _, _, rfl, .inr ⟨program, _, copied⟩⟩
    next => exact ⟨_, _, _, _, rfl, .inl rfl⟩
  | key index down =>
    simp only [perform]
    split <;> exact ⟨_, _, _, _, rfl, .inl rfl⟩
  | start =>
    simp only [perform, start?]
    split
    next => split <;> exact ⟨_, _, _, _, rfl, .inl rfl⟩
    next => exact ⟨_, _, _, _, rfl, .inl rfl⟩
  | join =>
    simp only [perform, join?]
    split <;> exact ⟨_, _, _, _, rfl, .inl rfl⟩
  | act =>
    cases worker : interpreter.worker with
    | none =>
      simp only [perform, act, worker]
      exact ⟨_, _, _, _, rfl, .inl rfl⟩
    | some phase =>
      simp only [perform, act, worker]
      cases phase with
      | step => simp only [cycleTraced?, worker, if_true, reduceCtorEq] at idle
      | _ => exact ⟨_, _, _, _, rfl, .inl rfl⟩
  | watch | watchHalt | stop => exact ⟨_, _, _, _, rfl, .inl rfl⟩

theorem perform_timer (timer : Timer) (idle : interpreter.cycleTraced? request = none)
    (other : request ≠ .reset) :
    timer.value (interpreter.perform request).machine = timer.value interpreter.machine := by
  obtain ⟨memory, keypad, state, fault, same, -⟩ := perform_idle idle other
  rw [same]
  cases timer <;> rfl

theorem timer_perform {timer : Timer} {initial : Int} {before : List Machine}
    (invariant : interpreter.machine.Invariant) (other : request ≠ .reset)
    (counted : timer.CountedDown initial before (timer.value interpreter.machine)) :
    timer.CountedDown initial (before ++ interpreter.executes request)
      (timer.value (interpreter.perform request).machine) := by
  rw [executes]
  cases traced : interpreter.cycleTraced? request with
  | none =>
    rw [perform_timer timer traced other, List.append_nil]
    exact counted
  | some tracing =>
    obtain ⟨ok, result⟩ := (invariant.cycle tracing).2
    simp only [perform_cycle traced, result]
    cases ok with
    | true =>
      rw [Machine.timer_of_success timer result]
      exact counted.step interpreter.machine
    | false =>
      rw [Machine.timer_of_halt timer result, if_neg nofun, List.append_nil]
      exact counted

theorem timer_performAll (timer : Timer) (invariant : interpreter.machine.Invariant)
    {requests : List Request} (unreset : .reset ∉ requests) :
    timer.CountedDown (timer.value interpreter.machine) (interpreter.executed requests)
      (timer.value (interpreter.performAll requests).machine) := by
  induction requests using List.reverseRecOn with
  | nil =>
    apply Timer.CountedDown.nothing
    cases timer
    · exact invariant.delay.1
    · exact invariant.sound.1
  | append_singleton requests request ih =>
    simp only [List.mem_append, List.mem_singleton, not_or] at unreset
    rw [executed_append, performAll_append, executed, executed, List.append_nil]
    exact timer_perform (performAll_invariant invariant requests) (Ne.symm unreset.2)
      (ih unreset.1)

theorem register_executes {x : Fin 16} (executes : interpreter.executes request ≠ [])
    (next : interpreter.machine.next? = some (.readDelay x)) :
    (((interpreter.perform request).machine.register x).toNat : Int) =
      interpreter.machine.delay := by
  simp only [Interpreter.executes] at executes
  cases traced : interpreter.cycleTraced? request with
  | none => simp only [traced, ne_eq, not_true_eq_false] at executes
  | some tracing =>
    simp only [traced] at executes
    split at executes
    next success => rw [perform_cycle traced, Machine.register_of_readDelay success next]
    next => exact absurd rfl executes

/-- Between two resets, the timers of a machine count the instructions it executes. -/
theorem timers_count_down (legacy : Bool) (random : RandomSource) (scale : Int) (tracing : Bool)
    (history requests : List Request) (unreset : .reset ∉ requests) :
    let start := (new (Machine.new legacy random) scale tracing).performAll history
    (∀ timer : Timer, timer.CountedDown (timer.value start.machine) (start.executed requests)
      (timer.value (start.performAll requests).machine)) ∧
    (∀ before request later x, requests = before ++ request :: later →
      (start.performAll before).executes request ≠ [] →
      (start.performAll before).machine.next? = some (.readDelay x) →
        Timer.delay.CountedDown start.machine.delay (start.executed before)
          ((start.performAll (before ++ [request])).machine.register x).toNat) ∧
    ∀ (timer : Timer) (machine : Machine) (tracing : Bool),
      (machine.cycle tracing).result = .ok false →
        timer.value (machine.cycle tracing).machine = timer.value machine := by
  intro start
  have invariant : start.machine.Invariant :=
    performAll_invariant (new_invariant legacy random scale tracing) history
  refine ⟨fun timer => timer_performAll timer invariant unreset, ?_,
    fun timer _ _ gaveUp => Machine.timer_of_halt timer gaveUp⟩
  rintro before request later x rfl executes next
  rw [performAll_append, performAll_cons]
  have read := register_executes executes next
  have counted := timer_performAll .delay invariant
    (fun member => unreset (List.mem_append_left _ member))
  exact read ▸ counted

theorem performAll_cycles (interpreter : Interpreter) (tracing : Bool) (count : Nat) :
    (interpreter.performAll (List.replicate count (.cycle tracing))).machine =
      interpreter.machine.afterCycles tracing count := by
  induction count with
  | zero => rfl
  | succ count ih =>
    rw [List.replicate_succ', performAll_append, Machine.afterCycles, ← ih]
    rfl

theorem executed_cycles (interpreter : Interpreter) (tracing : Bool) (count : Nat) :
    interpreter.executed (List.replicate count (.cycle tracing)) =
      ((List.range count).map (interpreter.machine.afterCycles tracing)).filter
        fun machine => (machine.cycle tracing).result = .ok true := by
  induction count with
  | zero => rfl
  | succ count ih =>
    rw [List.replicate_succ', executed_append, ih, List.range_succ, List.map_append,
      List.filter_append, executed, executed, List.append_nil, executes, cycleTraced?,
      performAll_cycles, List.map_singleton, List.filter_cons, List.filter_nil]
    simp only [decide_eq_true_eq]

-- Sets the delay timer to three, reads it, and then fails for ever.
def countdown : List UInt8 :=
  [0x60, 0x03, 0xF0, 0x15, 0xF1, 0x07]

theorem countdown_fits : countdown.length ≤ 0xE00 := by
  decide

def counting : Nat → Machine :=
  (Machine.ofProgram false (RandomSource.cycling #[]) countdown countdown_fits).afterCycles false

theorem counting_timers :
    Request.reset ∉ List.replicate 5 (.cycle false) ∧
    (counting 5).delay = 1 ∧ ((counting 3).register 1).toNat = 2 := by
  have unreset : Request.reset ∉ List.replicate 5 (.cycle false) := by simp
  have results : ∀ number < 5, ((counting number).cycle false).result =
      .ok (decide (number < 3)) := by
    decide +kernel
  obtain ⟨timers, readings, -⟩ := timers_count_down false (RandomSource.cycling #[]) 10 false
    [.load countdown.toArray] (List.replicate 5 (.cycle false)) unreset
  have loaded := perform_load_new false (RandomSource.cycling #[]) 10 false countdown_fits
  simp only [performAll_cons, loaded] at timers readings
  let start := new (counting 0) 10 false
  have five : start.executed (List.replicate 5 (.cycle false)) =
      [counting 0, counting 1, counting 2] := by
    refine (executed_cycles start false 5).trans ?_
    change ([0, 1, 2, 3, 4].map counting).filter _ = _
    simp [results]
  have two : start.executed (List.replicate 2 (.cycle false)) = [counting 0, counting 1] := by
    refine (executed_cycles start false 2).trans ?_
    change ([0, 1].map counting).filter _ = _
    simp [results]
  refine ⟨unreset, ?_, ?_⟩
  · have delay := (timers .delay).loaded [counting 0] (counting 1) [counting 2] 3 five
      (by decide +kernel) (by decide +kernel)
    rw [performAll_cycles] at delay
    exact delay
  · have third : (start.performAll (List.replicate 2 (.cycle false))).executes (.cycle false) ≠
        [] := by
      rw [executes, cycleTraced?, performAll_cycles]
      exact ne_of_eq_of_ne (if_pos (results 2 (by decide))) (List.cons_ne_nil _ _)
    have counted := readings (List.replicate 2 (.cycle false)) (.cycle false)
      (List.replicate 2 (.cycle false)) 1 rfl third (by decide +kernel)
    have read := counted.loaded [counting 0] (counting 1) [] 3 two (by decide +kernel)
      (by decide +kernel)
    rw [← List.replicate_succ', performAll_cycles] at read
    exact Int.ofNat.inj read

end Interpreter

end ChipEight
