import ChipEight.Proofs.Footprint
import ChipEight.Proofs.Halt
import ChipEight.Proofs.Lockstep
import ChipEight.Proofs.Packing
import Mathlib.Data.List.Induction

set_option autoImplicit false

namespace ChipEight

def Operation.branching : List Operation :=
  [.ret, .jump, .call, .skipEqual, .skipNotEqual, .skipPressed, .skipReleased]

def Straight (legacy : Bool) (opcode : UInt16) : Prop :=
  (∀ operation ∈ Operation.branching, ¬ operation.pattern.Matches opcode.toNat) ∧
    (legacy = false → ¬ Operation.storeDigits.pattern.Matches opcode.toNat)

def TouchesDisplay (opcode : UInt16) : Prop :=
  ∃ operation ∈ [Operation.clearScreen, .draw], operation.pattern.Matches opcode.toNat

namespace Machine

def flagged (machine : Machine) (draw : Bool) : Machine :=
  { machine with draw := draw }

end Machine

def Outcome.flagged (outcome : Outcome) (draw : Bool) : Outcome :=
  ⟨outcome.machine.flagged draw, outcome.fault⟩

namespace Machine

section Flagged

variable (machine : Machine) (draw : Bool)

@[simp]
theorem flagged_legacy : (machine.flagged draw).legacy = machine.legacy :=
  rfl

@[simp]
theorem flagged_memory : (machine.flagged draw).memory = machine.memory :=
  rfl

@[simp]
theorem flagged_index : (machine.flagged draw).index = machine.index :=
  rfl

@[simp]
theorem flagged_register (x : Fin 16) : (machine.flagged draw).register x = machine.register x :=
  rfl

theorem flagged_plotCell (originX originY : UInt8) (row column : Nat) :
    (machine.flagged draw).plotCell originX originY row column =
      (machine.plotCell originX originY row column).flagged draw := by
  simp only [plotCell, flagged]
  split
  next => rfl
  next =>
    split
    next => rfl
    next erased _ _ => cases erased <;> rfl

theorem flagged_plot (originX originY : UInt8) (cells : List (Nat × Nat)) :
    (machine.flagged draw).plot originX originY cells =
      (machine.plot originX originY cells).flagged draw := by
  induction cells generalizing machine with
  | nil => rfl
  | cons cell rest ih =>
    simp only [plot, flagged_plotCell, Outcome.flagged]
    split
    next => rfl
    next => exact ih _

theorem flagged_storeBytes (address : Int) (bytes : List UInt8) :
    (machine.flagged draw).storeBytes address bytes =
      (machine.storeBytes address bytes).flagged draw := by
  induction bytes generalizing machine address with
  | nil => rfl
  | cons byte rest ih =>
    simp only [storeBytes, flagged_memory]
    split
    next => rfl
    next memory _ => exact ih { machine with memory := memory } _

theorem flagged_loadBytes (targets : List (Fin 16)) :
    (machine.flagged draw).loadBytes targets = (machine.loadBytes targets).flagged draw := by
  induction targets generalizing machine with
  | nil => rfl
  | cons target rest ih =>
    simp only [loadBytes, flagged_memory, flagged_index]
    split
    next => rfl
    next byte _ => exact ih { machine.setRegister target byte with index := machine.index + 1 }

theorem flagged_execute (instruction : Instruction) :
    ∃ later, (machine.flagged draw).execute instruction =
      (machine.execute instruction).flagged later := by
  have kept (outcome : Outcome) :
      (outcome.flagged draw).thenAdvance = outcome.thenAdvance.flagged draw := by
    obtain ⟨after, fault⟩ := outcome
    cases fault <;> rfl
  -- What touches the display leaves the flag raised, and everything else carries it along.
  cases instruction with
  | clearScreen => exact ⟨true, rfl⟩
  | draw x y height =>
    simp only [execute, drawSprite, flagged_register, flagged_plot]
    generalize machine.plot _ _ _ = outcome
    obtain ⟨after, fault⟩ := outcome
    cases fault with
    | none => exact ⟨true, rfl⟩
    | some fault => exact ⟨draw, rfl⟩
  | ret => simp only [execute, returnToCaller, flagged]; split <;> exact ⟨draw, rfl⟩
  | call target => simp only [execute, callTo, flagged]; split <;> exact ⟨draw, rfl⟩
  | readDelay x => simp only [execute, readDelay, flagged]; split <;> exact ⟨draw, rfl⟩
  | skipPressed x | skipReleased x =>
    simp only [execute, skipOnKey, flagged_register]
    simp only [flagged]
    split <;> exact ⟨draw, rfl⟩
  | storeDigits x =>
    refine ⟨draw, ?_⟩
    simp only [execute, storeDigits, flagged_legacy, flagged_register, flagged_index,
      flagged_storeBytes, kept]
    split
    next => rfl
    next => split <;> rfl
  | loadRegisters x =>
    refine ⟨draw, ?_⟩
    simp only [execute, loadRegisters, flagged_legacy, flagged_index, flagged_loadBytes, kept]
    split <;> rfl
  | _ => exact ⟨draw, rfl⟩

end Flagged

-- The opcodes one after the other, each with the keys that are down when it is obeyed and followed
-- by a tick of the timers, until one of them fails.
def obeyAll (machine : Machine) : List (Keypad × UInt16) → Outcome
  | [] => ⟨machine, none⟩
  | (keypad, opcode) :: rest =>
    let outcome := ((machine.hold keypad).obey false opcode.toNat).outcome
    match outcome.fault with
    | some _ => outcome
    | none => outcome.machine.tickTimers.obeyAll rest

theorem obeyAll_append (machine : Machine) (done rest : List (Keypad × UInt16)) :
    machine.obeyAll (done ++ rest) =
      match (machine.obeyAll done).fault with
      | some _ => machine.obeyAll done
      | none => (machine.obeyAll done).machine.obeyAll rest := by
  induction done generalizing machine with
  | nil => rfl
  | cons entry done ih =>
    simp only [List.cons_append, obeyAll]
    split
    next fault failed => simp only [failed]
    next => exact ih _

theorem obeyAll_before {machine : Machine} {done rest : List (Keypad × UInt16)}
    (complete : (machine.obeyAll (done ++ rest)).fault = none) :
    (machine.obeyAll done).fault = none := by
  cases failed : (machine.obeyAll done).fault with
  | none => rfl
  | some fault => simp only [obeyAll_append, failed, reduceCtorEq] at complete

theorem obeyAll_concat {machine : Machine} {done : List (Keypad × UInt16)} {keypad : Keypad}
    {opcode : UInt16} (reached : (machine.obeyAll done).fault = none) :
    let outcome := (((machine.obeyAll done).machine.hold keypad).obey false opcode.toNat).outcome
    (machine.obeyAll (done ++ [(keypad, opcode)])).fault = outcome.fault ∧
      (outcome.fault = none → (machine.obeyAll (done ++ [(keypad, opcode)])).machine =
        outcome.machine.tickTimers) := by
  simp only [obeyAll_append, reached, obeyAll]
  split
  next fault failed => simp [failed]
  next failed => simp [failed]

theorem run_concat (machine : Machine) (tracing : Bool) (keypads : List Keypad) (keypad : Keypad) :
    machine.run tracing (keypads ++ [keypad]) =
      (((machine.run tracing keypads).hold keypad).cycle tracing).machine := by
  induction keypads generalizing machine with
  | nil => rfl
  | cons first rest ih => exact ih _

theorem cycles_concat (machine : Machine) (tracing : Bool) (keypads : List Keypad)
    (keypad : Keypad) :
    machine.cycles tracing (keypads ++ [keypad]) =
      machine.cycles tracing keypads ++
        [((machine.run tracing keypads).hold keypad).cycle tracing] := by
  induction keypads generalizing machine with
  | nil => rfl
  | cons first rest ih =>
    have later := ih ((machine.hold first).cycle tracing).machine
    simp only [cycles, List.cons_append, visited, List.map_cons, run] at later ⊢
    rw [later]

variable {machine : Machine} {opcode : UInt16} {tracing : Bool}

theorem obey_flagged (machine : Machine) (opcode : UInt16) (draw tracing : Bool) :
    ∃ later, ((machine.flagged draw).obey tracing opcode.toNat).outcome =
      (machine.obey false opcode.toNat).outcome.flagged later := by
  cases decoded : Instruction.decode opcode.toNat with
  | error fault => exact ⟨draw, by simp only [obey, decoded]; rfl⟩
  | ok instruction =>
    obtain ⟨later, same⟩ := machine.flagged_execute draw instruction
    refine ⟨later, ?_⟩
    simp only [obey, decoded, same]
    split <;> rfl

theorem cycle_flagged (fetched : machine.memory.readWord machine.pc = .ok opcode.toNat)
    (draw tracing : Bool) :
    ∃ later printed, (machine.flagged draw).cycle tracing =
      Obeyed.concluded ⟨(machine.obey false opcode.toNat).outcome.flagged later, printed⟩ := by
  obtain ⟨later, same⟩ := machine.obey_flagged opcode false tracing
  have obeyed : (machine.flagged false).fetchAndObey tracing =
      (machine.flagged false).obey tracing opcode.toNat := fetchAndObey_fetched tracing fetched
  have concluded : (machine.flagged draw).cycle tracing =
      ((machine.flagged false).fetchAndObey tracing).concluded := rfl
  exact ⟨later, _, by rw [concluded, obeyed, ← same]⟩

theorem cycle_complete_obeyed (fetched : machine.memory.readWord machine.pc = .ok opcode.toNat)
    (draw tracing : Bool) (complete : (machine.obey false opcode.toNat).outcome.fault = none) :
    ((machine.flagged draw).cycle tracing).result = .ok true ∧
      ∃ later, ((machine.flagged draw).cycle tracing).machine =
        (machine.obey false opcode.toNat).outcome.machine.tickTimers.flagged later := by
  obtain ⟨later, printed, same⟩ := cycle_flagged fetched draw tracing
  rw [same]
  simp only [Obeyed.concluded, Outcome.flagged, complete]
  exact ⟨trivial, later, rfl⟩

theorem cycle_broken_obeyed {fault : Fault}
    (fetched : machine.memory.readWord machine.pc = .ok opcode.toNat) (draw tracing : Bool)
    (broken : (machine.obey false opcode.toNat).outcome.fault = some fault)
    (settled : ∃ ok, ((machine.flagged draw).cycle tracing).result = .ok ok) :
    ((machine.flagged draw).cycle tracing).result = .ok false ∧
      ((machine.flagged draw).cycle tracing).machine.fault = some (.fault fault) := by
  obtain ⟨later, printed, same⟩ := cycle_flagged fetched draw tracing
  rw [same] at settled ⊢
  simp only [Obeyed.concluded, Outcome.flagged, broken] at settled ⊢
  -- A fault that the machine does not halt on would escape from the cycle.
  cases halts : fault.halts with
  | true => exact ⟨rfl, rfl⟩
  | false => simp [halts] at settled

theorem cycle_straight (success : (machine.cycle tracing).result = .ok true)
    (fetched : machine.memory.readWord machine.pc = .ok opcode.toNat)
    (straight : Straight machine.legacy opcode) :
    (machine.cycle tracing).machine.pc = machine.pc + 2 ∧
      (machine.cycle tracing).machine.memory = machine.memory ∧
      ((machine.cycle tracing).machine.draw = true ↔ TouchesDisplay opcode) := by
  obtain ⟨word, operation, after, found, written, executed, same⟩ := executed_of_success success
  cases fetched.symm.trans found
  have footprint := footprint_of_executed executed
  rw [same]
  refine ⟨?_, Memory.ext_get fun place => footprint.memory place ?_, ?_⟩
  next =>
    have onward : operation ∉ Operation.branching := fun member => straight.1 _ member written
    have flow := footprint.pc
    cases operation <;> first | exact flow | simp [Operation.branching] at onward
  next =>
    cases operation <;> simp only [Operation.instruction, Overwrites, not_false_eq_true]
    rintro ⟨unquirked, _⟩
    exact straight.2 unquirked written
  next =>
    have touched := footprint.draw
    rw [Operation.operation_instruction] at touched
    refine touched.trans ⟨fun member => ⟨operation, member, written⟩, ?_⟩
    rintro ⟨other, member, matching⟩
    rwa [Instruction.operation_unique opcode.toNat_lt written matching]

structure Follows (machine : Machine) (tracing : Bool) (done : List (Keypad × UInt16)) : Prop where
  results : ∀ cycled ∈ machine.cycles tracing (done.map Prod.fst), cycled.result = .ok true
  same : ∃ draw, (draw = true ↔ ∃ last ∈ done.getLast?, TouchesDisplay last.2) ∧
    machine.run tracing (done.map Prod.fst) = (machine.obeyAll done).machine.flagged draw
  pc : (machine.run tracing (done.map Prod.fst)).pc = machine.pc + 2 * done.length
  memory : (machine.run tracing (done.map Prod.fst)).memory = machine.memory

theorem Follows.nothing (unset : machine.draw = false) : machine.Follows tracing [] where
  results := by simp [cycles, visited]
  same := ⟨false, by simp, by rw [← unset]; rfl⟩
  pc := by simp [run]
  memory := rfl

theorem Follows.meets {done : List (Keypad × UInt16)} (follows : machine.Follows tracing done)
    (keypad : Keypad) :
    ∃ draw,
      (machine.run tracing (done.map Prod.fst)).hold keypad =
        ((machine.obeyAll done).machine.hold keypad).flagged draw ∧
      ((machine.obeyAll done).machine.hold keypad).legacy = machine.legacy ∧
      ((machine.obeyAll done).machine.hold keypad).memory = machine.memory ∧
      ((machine.obeyAll done).machine.hold keypad).pc = machine.pc + 2 * done.length := by
  obtain ⟨draw, _, same⟩ := follows.same
  have legacy := machine.run_legacy tracing (done.map Prod.fst)
  have memory := follows.memory
  have pc := follows.pc
  rw [same] at legacy memory pc ⊢
  exact ⟨draw, rfl, legacy, memory, pc⟩

theorem Follows.concat {done : List (Keypad × UInt16)} {keypad : Keypad}
    (follows : machine.Follows tracing done)
    (fetched : machine.memory.readWord (machine.pc + 2 * done.length) = .ok opcode.toNat)
    (straight : Straight machine.legacy opcode)
    (complete : (machine.obeyAll (done ++ [(keypad, opcode)])).fault = none) :
    machine.Follows tracing (done ++ [(keypad, opcode)]) := by
  -- The next cycle meets the machine that the opcodes have come to, apart from the flag, which it
  -- lowers before anything else.
  obtain ⟨draw, met, legacy, memory, pc⟩ := follows.meets keypad
  obtain ⟨sameFault, folded⟩ := obeyAll_concat (obeyAll_before complete)
  rw [sameFault] at complete
  rw [← memory, ← pc] at fetched
  rw [← legacy] at straight
  obtain ⟨success, later, after⟩ := cycle_complete_obeyed fetched draw tracing complete
  obtain ⟨onward, kept, touched⟩ := cycle_straight success fetched straight
  have last := machine.run_concat tracing (done.map Prod.fst) keypad
  have all := machine.cycles_concat tracing (done.map Prod.fst) keypad
  rw [met] at last all
  constructor
  next =>
    intro cycled member
    rw [List.map_append, List.map_singleton, all] at member
    rcases List.mem_append.mp member with early | final
    next => exact follows.results cycled early
    next => exact List.mem_singleton.mp final ▸ success
  next =>
    rw [after] at touched
    refine ⟨later, by simpa [flagged] using touched, ?_⟩
    rw [List.map_append, List.map_singleton, last, after, folded complete]
  next =>
    rw [List.map_append, List.map_singleton, last, onward]
    simp only [flagged, List.length_append, List.length_singleton]
    omega
  next =>
    rw [List.map_append, List.map_singleton, last, kept]
    exact memory

theorem Invariant.run (invariant : machine.Invariant) (tracing : Bool) (keypads : List Keypad) :
    (machine.run tracing keypads).Invariant := by
  induction keypads generalizing machine with
  | nil => exact invariant
  | cons keypad rest ih =>
    have held : (machine.hold keypad).Invariant := { invariant with }
    exact ih (held.cycle tracing).1

theorem Follows.breaks {done : List (Keypad × UInt16)} {keypad : Keypad} {fault : Fault}
    (follows : machine.Follows tracing done) (invariant : machine.Invariant)
    (fetched : machine.memory.readWord (machine.pc + 2 * done.length) = .ok opcode.toNat)
    (reached : (machine.obeyAll done).fault = none)
    (broken : (machine.obeyAll (done ++ [(keypad, opcode)])).fault = some fault) :
    let met := (machine.run tracing (done.map Prod.fst)).hold keypad
    (met.cycle tracing).result = .ok false ∧
      (met.cycle tracing).machine.fault = some (.fault fault) ∧
      (met.cycle tracing).machine.pc = met.pc := by
  intro met
  obtain ⟨draw, same, _, memory, pc⟩ := follows.meets keypad
  rw [← memory, ← pc] at fetched
  rw [(obeyAll_concat reached).1] at broken
  have held : met.Invariant := { invariant.run tracing (done.map Prod.fst) with }
  have settled := (held.cycle tracing).2
  rw [show met = _ from same] at settled ⊢
  obtain ⟨gaveUp, reported⟩ := cycle_broken_obeyed fetched draw tracing broken settled
  obtain ⟨_, registers, display, _, left⟩ := halt_residue gaveUp
  exact ⟨gaveUp, reported, by rw [left]; rfl⟩

theorem readWord_ofProgram {legacy : Bool} {random : RandomSource} {opcodes : List UInt16}
    (fits : opcodes.length ≤ 1792) (inside : (packed opcodes).length ≤ 0xE00) {place : Nat}
    (found : opcodes[place]? = some opcode) :
    (ofProgram legacy random (packed opcodes) inside).memory.readWord (0x200 + 2 * place) =
      .ok opcode.toNat := by
  rw [← Memory.fresh.readWord_packed fits found, Memory.overlay_fresh (packed opcodes) inside]
  rfl

theorem follows_program {script : List (Keypad × UInt16)}
    (laid : ∀ (place : Nat) entry, script[place]? = some entry →
      machine.memory.readWord (machine.pc + 2 * place) = .ok entry.2.toNat)
    (straight : ∀ entry ∈ script, Straight machine.legacy entry.2) (unset : machine.draw = false)
    {done : List (Keypad × UInt16)} (first : done <+: script)
    (complete : (machine.obeyAll done).fault = none) : machine.Follows tracing done := by
  induction done using List.reverseRecOn with
  | nil => exact Follows.nothing unset
  | append_singleton done last ih =>
    have follows := ih ((List.prefix_append done [last]).trans first) (obeyAll_before complete)
    have found : script[done.length]? = some last := by
      obtain ⟨rest, rfl⟩ := first
      simp
    exact follows.concat (laid _ _ found) (straight last (List.mem_of_getElem? found)) complete

/-- A program without branches runs as written, up to the first opcode that raises a fault. -/
theorem straight_line_runs {legacy : Bool} {script : List (Keypad × UInt16)}
    (fits : script.length ≤ 1792) (straight : ∀ entry ∈ script, Straight legacy entry.2)
    (random : RandomSource) (tracing : Bool) :
    ∃ loaded,
      (new legacy random).loadProgram (packed (script.map Prod.snd)).toArray =
        .ok (2 * script.length, loaded) ∧
      (∀ done, done <+: script → (loaded.obeyAll done).fault = none →
        (∀ cycled ∈ loaded.cycles tracing (done.map Prod.fst), cycled.result = .ok true) ∧
        ∃ draw, (draw = true ↔ ∃ last ∈ done.getLast?, TouchesDisplay last.2) ∧
          loaded.run tracing (done.map Prod.fst) =
            { (loaded.obeyAll done).machine with draw := draw }) ∧
      (∀ done keypad opcode, done ++ [(keypad, opcode)] <+: script →
        (loaded.obeyAll done).fault = none →
        let met := (loaded.run tracing (done.map Prod.fst)).hold keypad
        met.pc = 0x200 + 2 * done.length ∧ met.memory.readWord met.pc = .ok opcode.toNat ∧
        ∀ fault, (loaded.obeyAll (done ++ [(keypad, opcode)])).fault = some fault →
          (met.cycle tracing).result = .ok false ∧
          (met.cycle tracing).machine.fault = some (.fault fault) ∧
          (met.cycle tracing).machine.pc = 0x200 + 2 * done.length) := by
  have short : (script.map Prod.snd).length ≤ 1792 := by simpa using fits
  have size : (packed (script.map Prod.snd)).length = 2 * script.length := by simp [length_packed]
  have inside : (packed (script.map Prod.snd)).length ≤ 0xE00 := by omega
  have loading := loadProgram_new legacy random inside
  have invariant : (ofProgram legacy random _ inside).Invariant := powerOn_invariant ..
  have laid (place : Nat) (entry : Keypad × UInt16) (found : script[place]? = some entry) :
      (ofProgram legacy random _ inside).memory.readWord (0x200 + 2 * place) =
        .ok entry.2.toNat := readWord_ofProgram short inside (by simp [found])
  have following {done : List (Keypad × UInt16)} (first : done <+: script)
      (complete : ((ofProgram legacy random _ inside).obeyAll done).fault = none) :
      (ofProgram legacy random _ inside).Follows tracing done :=
    follows_program laid straight rfl first complete
  rw [size] at loading
  refine ⟨_, loading, fun done first complete => ?_, fun done keypad opcode first reached => ?_⟩
  next =>
    have follows := following first complete
    exact ⟨follows.results, follows.same⟩
  next =>
    have follows := following ((List.prefix_append done _).trans first) reached
    have pc : ((ofProgram legacy random _ inside).run tracing (done.map Prod.fst)).pc =
        0x200 + 2 * done.length := follows.pc
    have fetched := laid done.length (keypad, opcode) (by obtain ⟨rest, rfl⟩ := first; simp)
    refine ⟨pc, ?_, fun fault broken => ?_⟩
    next =>
      simp only [hold, pc, follows.memory]
      exact fetched
    next =>
      obtain ⟨gaveUp, reported, stays⟩ := follows.breaks invariant fetched reached broken
      exact ⟨gaveUp, reported, stays.trans pc⟩

-- Reads the first two bytes of itself, and then two bytes from the last address on.
def peeking : List (Keypad × UInt16) :=
  [0xA200, 0xF165, 0xAFFF, 0xF165].map fun opcode => (Keypad.released, opcode)

def peeker : Machine :=
  ofProgram false (RandomSource.cycling #[]) (packed (peeking.map Prod.snd)) (by decide)

theorem peeking_halts :
    (∀ cycled ∈ peeker.cycles false (List.replicate 3 .released), cycled.result = .ok true) ∧
      (peeker.run false (List.replicate 3 .released)).register 0 = 0xA2 ∧
      let last := ((peeker.run false (List.replicate 3 .released)).hold .released).cycle false
      last.result = .ok false ∧ last.machine.fault = some (.fault (.rangeOutside 0xFFF 2)) ∧
        last.machine.pc = 0x206 := by
  have straight : ∀ entry ∈ peeking, Straight false entry.2 := by
    simp [peeking, Straight, Operation.branching, Operation.pattern, Pattern.Matches,
      Pattern.admits_some, Pattern.admits_none]
  obtain ⟨loaded, loading, same, faults⟩ :=
    straight_line_runs (by simp [peeking]) straight (RandomSource.cycling #[]) false
  have known : (new false (RandomSource.cycling #[])).loadProgram
      (packed (peeking.map Prod.snd)).toArray = .ok (8, peeker) := loadProgram_new ..
  obtain rfl : loaded = peeker := congrArg Prod.snd (Except.ok.inj (loading.symm.trans known))
  have complete : (peeker.obeyAll (peeking.take 3)).fault = none := by decide +kernel
  have loads : (peeker.obeyAll (peeking.take 3)).machine.register 0 = 0xA2 := by decide +kernel
  have broken : (peeker.obeyAll (peeking.take 3 ++ [(.released, 0xF165)])).fault =
      some (.rangeOutside 0xFFF 2) := by decide +kernel
  have keys : (peeking.take 3).map Prod.fst = List.replicate 3 .released := rfl
  obtain ⟨results, draw, _, run⟩ := same (peeking.take 3) (List.take_prefix ..) complete
  obtain ⟨_, _, halts⟩ := faults (peeking.take 3) .released 0xF165 (List.prefix_refl _) complete
  have stopped := halts _ broken
  rw [keys] at results run stopped
  refine ⟨results, ?_, stopped⟩
  rw [run, ← loads]
  rfl

end Machine

end ChipEight
