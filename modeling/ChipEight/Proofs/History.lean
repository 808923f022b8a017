import ChipEight.Proofs.Cycle

set_option autoImplicit false

namespace ChipEight

section Latest

variable {Change Value : Type} (touches : Change → Prop) [DecidablePred touches]
  (written : Change → Value)

def latest (before : Value) (changes : List Change) : Value :=
  changes.foldl (fun value change => if touches change then written change else value) before

theorem latest_append (before : Value) (changes more : List Change) :
    latest touches written before (changes ++ more) =
      latest touches written (latest touches written before changes) more :=
  List.foldl_append

variable {touches written}

theorem foldl_latest {Object : Type} {act : Object → Change → Object} (value : Object → Value)
    (each : ∀ object change, value (act object change) =
      if touches change then written change else value object)
    (object : Object) (changes : List Change) :
    value (changes.foldl act object) = latest touches written (value object) changes := by
  induction changes generalizing object with
  | nil => rfl
  | cons change rest ih => rw [List.foldl_cons, ih, each, latest, latest, List.foldl_cons]

theorem latest_of_untouched {before : Value} {changes : List Change}
    (untouched : ∀ change ∈ changes, ¬ touches change) :
    latest touches written before changes = before := by
  induction changes with
  | nil => rfl
  | cons change rest ih =>
    rw [List.forall_mem_cons] at untouched
    rw [latest, List.foldl_cons, if_neg untouched.1]
    exact ih untouched.2

theorem latest_of_last {before : Value} {change : Change} {earlier later : List Change}
    (touched : touches change) (untouched : ∀ other ∈ later, ¬ touches other) :
    latest touches written before (earlier ++ change :: later) = written change := by
  rw [latest_append, latest, List.foldl_cons, if_pos touched]
  exact latest_of_untouched untouched

variable (touches) in
theorem untouched_or_last (changes : List Change) :
    (∀ change ∈ changes, ¬ touches change) ∨
      ∃ earlier change later, changes = earlier ++ change :: later ∧ touches change ∧
        ∀ other ∈ later, ¬ touches other := by
  induction changes with
  | nil => exact .inl nofun
  | cons change rest ih =>
    rcases ih with untouched | ⟨earlier, last, later, rfl, touched, untouched⟩
    · -- If none of the others touches the place, the first change may still be the last one.
      by_cases first : touches change
      · exact .inr ⟨[], change, rest, rfl, first, untouched⟩
      · exact .inl (List.forall_mem_cons.mpr ⟨first, untouched⟩)
    · exact .inr ⟨change :: earlier, last, later, rfl, touched, untouched⟩

theorem latest_eq_or_iff {before value : Value} {changes : List Change} :
    latest touches written before changes = value ↔
      (∃ earlier change later, changes = earlier ++ change :: later ∧ touches change ∧
        written change = value ∧ ∀ next ∈ later, ¬ touches next) ∨
      (∀ change ∈ changes, ¬ touches change) ∧ before = value := by
  constructor
  · intro found
    rcases untouched_or_last touches changes with
      untouched | ⟨earlier, change, later, same, touched, untouched⟩
    · rw [latest_of_untouched untouched] at found
      exact .inr ⟨untouched, found⟩
    · rw [same, latest_of_last touched untouched] at found
      exact .inl ⟨earlier, change, later, same, touched, found, untouched⟩
  · rintro (⟨earlier, change, later, rfl, touched, same, untouched⟩ | ⟨untouched, same⟩)
    · rw [latest_of_last touched untouched, same]
    · rw [latest_of_untouched untouched, same]

theorem latest_eq_iff {before value : Value} {changes : List Change} (other : before ≠ value) :
    latest touches written before changes = value ↔
      ∃ earlier change later, changes = earlier ++ change :: later ∧ touches change ∧
        written change = value ∧ ∀ next ∈ later, ¬ touches next :=
  latest_eq_or_iff.trans (or_iff_left fun kept => other kept.2)

end Latest

namespace Machine

def next? (machine : Machine) : Option Instruction :=
  match machine.memory.readWord machine.pc with
  | .error _ => none
  | .ok word => (Instruction.decode word).toOption

def attempted (machine : Machine) : Machine :=
  match machine.next? with
  | none => machine.ready
  | some instruction => (machine.ready.execute instruction).machine

def hold (machine : Machine) (keypad : Keypad) : Machine :=
  { machine with keypad := keypad }

def run (tracing : Bool) (machine : Machine) : List Keypad → Machine
  | [] => machine
  | keypad :: rest => run tracing ((machine.hold keypad).cycle tracing).machine rest

def visited (tracing : Bool) (machine : Machine) : List Keypad → List Machine
  | [] => []
  | keypad :: rest =>
    machine.hold keypad :: visited tracing ((machine.hold keypad).cycle tracing).machine rest

variable {machine : Machine}

theorem next?_matches {instruction : Instruction} (next : machine.next? = some instruction) :
    ∃ word, machine.memory.readWord machine.pc = .ok word ∧
      instruction.operation.pattern.Matches word ∧
      instruction = instruction.operation.instruction word := by
  simp only [next?] at next
  split at next
  next => cases next
  next word fetched =>
    have small := (Memory.readWord_ok _ fetched).2
    rcases Instruction.decode_cases small with ⟨operation, written, decoded⟩ | ⟨_, unknown⟩
    · rw [decoded] at next
      cases next
      rw [Operation.operation_instruction]
      exact ⟨word, fetched, written, rfl⟩
    · rw [unknown] at next
      cases next

theorem next?_of_matches {word : Nat} {operation : Operation}
    (fetched : machine.memory.readWord machine.pc = .ok word)
    (written : operation.pattern.Matches word) :
    machine.next? = some (operation.instruction word) := by
  simp only [next?, fetched,
    Instruction.decode_of_matches (Memory.readWord_ok _ fetched).2 written]
  rfl

theorem cycle_success_iff {tracing : Bool} {instruction : Instruction}
    (next : machine.next? = some instruction) :
    (machine.cycle tracing).result = .ok true ↔ machine.ready.Permits instruction := by
  have same {word : Nat} {operation : Operation} {obeyed : Instruction}
      (fetched : machine.memory.readWord machine.pc = .ok word)
      (written : operation.pattern.Matches word)
      (decoded : operation.instruction word = obeyed) : obeyed = instruction := by
    rw [← decoded]
    exact Option.some.inj ((next?_of_matches fetched written).symm.trans next)
  have course := machine.cycle_course tracing
  generalize machine.cycle tracing = cycled at course
  cases course with
  | completed _ fetched written decoded permitted =>
    exact iff_of_true rfl (same fetched written decoded ▸ permitted)
  | broken fetched written decoded refused =>
    exact iff_of_false nofun (same fetched written decoded ▸ refused)
  | escaped fetched written decoded outside =>
    exact iff_of_false nofun (same fetched written decoded ▸ outside)
  | outside failed =>
    obtain ⟨_, fetched, _⟩ := next?_matches next
    cases failed.symm.trans fetched
  | unknown fetched unwritten =>
    obtain ⟨_, found, matching, _⟩ := next?_matches next
    cases fetched.symm.trans found
    exact absurd matching (unwritten _)

theorem fetchAndObey_machine (tracing : Bool) (machine : Machine) :
    (machine.ready.fetchAndObey tracing).outcome.machine = machine.attempted := by
  have same : machine.ready.memory.readWord machine.ready.pc =
      machine.memory.readWord machine.pc := rfl
  simp only [attempted, next?, fetchAndObey, same]
  cases machine.memory.readWord machine.pc with
  | error fault => rfl
  | ok word =>
    simp only [obey]
    cases Instruction.decode word with
    | error fault => rfl
    | ok instruction =>
      simp only [Except.toOption]
      split <;> rfl

theorem cycle_machine (tracing : Bool) (machine : Machine) :
    ∃ delay sound state fault, (machine.cycle tracing).machine =
      { machine.attempted with delay := delay, sound := sound, state := state, fault := fault } := by
  rw [← fetchAndObey_machine tracing]
  simp only [cycle, ready]
  -- It completes, halts the machine, or lets its fault escape.
  split
  next => exact ⟨_, _, _, _, rfl⟩
  next =>
    split
    next => exact ⟨_, _, _, _, rfl⟩
    next => exact ⟨_, _, _, _, rfl⟩

section Recorded

variable {Change Value : Type} {touches : Change → Prop} [DecidablePred touches]
  {written : Change → Value} {value : Machine → Value} {changes : Machine → List Change}
  {tracing : Bool}

/-- A place of the machine that no key and no cycle changes but in the way that is written down. -/
structure Recorded (tracing : Bool) (touches : Change → Prop) [DecidablePred touches]
    (written : Change → Value) (value : Machine → Value) (changes : Machine → List Change) :
    Prop where
  held : ∀ machine keypad, value (hold machine keypad) = value machine
  step : ∀ machine, value (cycle tracing machine).machine =
    latest touches written (value machine) (changes machine)

namespace Recorded

theorem run_latest (recorded : Recorded tracing touches written value changes)
    (machine : Machine) (keypads : List Keypad) :
    value (machine.run tracing keypads) =
      latest touches written (value machine) ((machine.visited tracing keypads).flatMap changes) := by
  induction keypads generalizing machine with
  | nil => rfl
  | cons keypad rest ih =>
    rw [run, ih, recorded.step, recorded.held, visited, List.flatMap_cons, latest_append]

variable {machine : Machine} {keypads : List Keypad}

theorem run_untouched (recorded : Recorded tracing touches written value changes)
    (untouched : ∀ change ∈ (machine.visited tracing keypads).flatMap changes, ¬ touches change) :
    value (machine.run tracing keypads) = value machine := by
  rw [recorded.run_latest]
  exact latest_of_untouched untouched

theorem run_last (recorded : Recorded tracing touches written value changes) {change : Change}
    {earlier later : List Change}
    (history : (machine.visited tracing keypads).flatMap changes = earlier ++ change :: later)
    (touched : touches change) (untouched : ∀ other ∈ later, ¬ touches other) :
    value (machine.run tracing keypads) = written change := by
  rw [recorded.run_latest, history]
  exact latest_of_last touched untouched

end Recorded

end Recorded

end Machine

end ChipEight
