import ChipEight.Machine.Cycle
import ChipEight.Proofs.Decode
import ChipEight.Proofs.Execute

set_option autoImplicit false

namespace ChipEight.Machine

def ready (machine : Machine) : Machine :=
  { machine with draw := false }

def halted (machine : Machine) (fault : Fault) : CycleResult :=
  ⟨machine.halt (.fault fault), .ok false, [haltReport (.fault fault)]⟩

/-- All that one cycle can come to. -/
inductive Course (machine : Machine) : CycleResult → Prop where
  | completed {word : Nat} {operation : Operation} {instruction : Instruction} {after : Machine}
    (printed : List Printed) (fetched : machine.memory.readWord machine.pc = .ok word)
    (written : operation.pattern.Matches word)
    (decoded : operation.instruction word = instruction)
    (permitted : machine.ready.Permits instruction)
    (completes : Completes machine.ready instruction after) :
    Course machine ⟨after.tickTimers, .ok true, printed⟩
  | outside {missing : Int} (failed : machine.memory.readWord machine.pc =
      .error (.addressOutside missing)) :
    Course machine (machine.ready.halted (.addressOutside missing))
  | unknown {word : Nat} (fetched : machine.memory.readWord machine.pc = .ok word)
    (unwritten : ∀ operation : Operation, ¬ operation.pattern.Matches word) :
    Course machine (machine.ready.halted (.unimplemented word))
  | broken {word : Nat} {operation : Operation} {instruction : Instruction} {fault : Fault}
    {after : Machine} (fetched : machine.memory.readWord machine.pc = .ok word)
    (written : operation.pattern.Matches word)
    (decoded : operation.instruction word = instruction)
    (refused : ¬ machine.ready.Permits instruction) (kind : fault.kind = .bounds)
    (breaks : Breaks machine.ready instruction fault after) :
    Course machine (after.halted fault)
  | escaped {word : Nat} {operation : Operation} {x : Fin 16}
    (fetched : machine.memory.readWord machine.pc = .ok word)
    (written : operation.pattern.Matches word)
    (decoded : operation.instruction word = .readDelay x)
    (outside : ¬ (0 ≤ machine.delay ∧ machine.delay < 256)) :
    Course machine ⟨machine.ready, .error .notAByte, []⟩

def afterCycles (tracing : Bool) (machine : Machine) : Nat → Machine
  | 0 => machine
  | count + 1 => ((machine.afterCycles tracing count).cycle tracing).machine

section Obeying

variable {machine after : Machine} {word : Nat} {instruction : Instruction} {fault : Fault}
  {printed : List Printed} (tracing : Bool)

theorem fetchAndObey_fetched (fetched : machine.memory.readWord machine.pc = .ok word) :
    machine.fetchAndObey tracing = machine.obey tracing word := by
  simp only [fetchAndObey, fetched]

theorem fetchAndObey_failed (failed : machine.memory.readWord machine.pc = .error fault) :
    machine.fetchAndObey tracing = ⟨⟨machine, some fault⟩, []⟩ := by
  simp only [fetchAndObey, failed]
  rfl

theorem obey_complete (decoded : Instruction.decode word = .ok instruction)
    (executed : machine.execute instruction = ⟨after, none⟩) :
    ∃ printed, machine.obey tracing word = ⟨⟨after, none⟩, printed⟩ := by
  simp only [obey, decoded, executed]
  split
  next => exact ⟨_, rfl⟩
  next => exact ⟨_, rfl⟩

theorem obey_broken (decoded : Instruction.decode word = .ok instruction)
    (executed : machine.execute instruction = ⟨after, some fault⟩) :
    machine.obey tracing word = ⟨⟨after, some fault⟩, []⟩ := by
  simp only [obey, decoded, executed, Option.isNone_some, Bool.and_false]
  rfl

theorem obey_unknown (failed : Instruction.decode word = .error fault) :
    machine.obey tracing word = ⟨⟨machine, some fault⟩, []⟩ := by
  simp only [obey, failed]
  rfl

theorem cycle_complete
    (obeyed : machine.ready.fetchAndObey tracing = ⟨⟨after, none⟩, printed⟩) :
    machine.cycle tracing = ⟨after.tickTimers, .ok true, printed⟩ := by
  rw [ready] at obeyed
  simp only [cycle, obeyed]

theorem cycle_halted (obeyed : machine.ready.fetchAndObey tracing = ⟨⟨after, some fault⟩, []⟩)
    (halts : fault.halts = true) : machine.cycle tracing = after.halted fault := by
  rw [ready] at obeyed
  simp only [cycle, obeyed, halts]
  rfl

theorem cycle_escaped (obeyed : machine.ready.fetchAndObey tracing = ⟨⟨after, some fault⟩, []⟩)
    (escapes : fault.halts = false) : machine.cycle tracing = ⟨after, .error fault, []⟩ := by
  rw [ready] at obeyed
  simp only [cycle, obeyed, escapes]
  rfl

end Obeying

theorem halts_of_bounds {fault : Fault} (kind : fault.kind = .bounds) : fault.halts = true := by
  rw [Fault.halts, kind]
  rfl

theorem cycle_course (tracing : Bool) (machine : Machine) :
    machine.Course (machine.cycle tracing) := by
  by_cases inside : 0 ≤ machine.pc ∧ machine.pc ≤ 0xFFE
  · obtain ⟨word, small, fetched⟩ := machine.memory.readWord_inside inside
    have obeyed : machine.ready.fetchAndObey tracing = machine.ready.obey tracing word :=
      fetchAndObey_fetched tracing fetched
    rcases Instruction.decode_cases small with ⟨operation, written, decoded⟩ | ⟨unwritten, unknown⟩
    · generalize same : operation.instruction word = instruction at decoded
      rcases machine.ready.execute_cases instruction with
        ⟨permitted, after, executed, completes⟩ | ⟨refused, fault, after, executed, breaks⟩
      · obtain ⟨printed, complete⟩ := obey_complete tracing decoded executed
        rw [cycle_complete tracing (obeyed.trans complete)]
        exact .completed printed fetched written same permitted completes
      · -- The machine expects all faults of an instruction but one.
        have broken := obeyed.trans (obey_broken tracing decoded executed)
        have halts (kind : fault.kind = .bounds) : machine.Course (machine.cycle tracing) := by
          rw [cycle_halted tracing broken (halts_of_bounds kind)]
          exact .broken fetched written same refused kind breaks
        cases breaks with
        | bounds kind => exact halts kind
        | draw x y height kind painted => exact halts kind
        | delay x outside =>
          rw [cycle_escaped tracing broken rfl]
          exact .escaped fetched written same outside
    · rw [cycle_halted tracing (obeyed.trans (obey_unknown tracing unknown)) rfl]
      exact .unknown fetched unwritten
  · obtain ⟨missing, failed⟩ := machine.memory.readWord_outside inside
    rw [cycle_halted tracing (fetchAndObey_failed tracing failed) rfl]
    exact .outside failed

theorem executed_of_success {tracing : Bool} {machine : Machine}
    (success : (machine.cycle tracing).result = .ok true) :
    ∃ (word : Nat) (operation : Operation) (after : Machine),
      machine.memory.readWord machine.pc = .ok word ∧ operation.pattern.Matches word ∧
      machine.ready.execute (operation.instruction word) = ⟨after, none⟩ ∧
      (machine.cycle tracing).machine = after.tickTimers := by
  have permits : ∃ (word : Nat) (operation : Operation),
      machine.memory.readWord machine.pc = .ok word ∧ operation.pattern.Matches word ∧
      machine.ready.Permits (operation.instruction word) := by
    have course := machine.cycle_course tracing
    generalize machine.cycle tracing = cycled at success course
    cases course with
    | completed _ fetched written decoded permitted =>
      subst decoded
      exact ⟨_, _, fetched, written, permitted⟩
    | outside => cases success
    | unknown => cases success
    | broken => cases success
    | escaped => cases success
  obtain ⟨word, operation, fetched, written, permitted⟩ := permits
  have obeyed : machine.ready.fetchAndObey tracing = machine.ready.obey tracing word :=
    fetchAndObey_fetched tracing fetched
  have decoded := Instruction.decode_of_matches (Memory.readWord_ok _ fetched).2 written
  rcases machine.ready.execute_cases (operation.instruction word) with
    ⟨_, after, executed, _⟩ | ⟨refused, _⟩
  · obtain ⟨printed, complete⟩ := obey_complete tracing decoded executed
    refine ⟨word, operation, after, fetched, written, executed, ?_⟩
    rw [cycle_complete tracing (obeyed.trans complete)]
  · exact absurd permitted refused

end ChipEight.Machine
