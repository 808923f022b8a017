import ChipEight.Proofs.History

set_option autoImplicit false

namespace ChipEight

structure Setting where
  legacy : Bool
  keypad : Keypad
  random : RandomSource
  state : RunState
  fault : Option HaltReason

def RandomSource.after (source : RandomSource) : Option Instruction → RandomSource
  | some (.random _ _) => source.next.2
  | _ => source

theorem RandomSource.after_other (source : RandomSource) {instruction : Instruction}
    (other : instruction.operation ≠ .random) : source.after (some instruction) = source := by
  cases instruction with
  | random x mask => exact absurd rfl other
  | _ => rfl

def Setting.after (setting : Setting) (next : Option Instruction) : Setting :=
  { setting with random := setting.random.after next }

namespace Machine

def setting (machine : Machine) : Setting where
  legacy := machine.legacy
  keypad := machine.keypad
  random := machine.random
  state := machine.state
  fault := machine.fault

def under (machine : Machine) (setting : Setting) : Machine :=
  { machine with
    legacy := setting.legacy, keypad := setting.keypad, random := setting.random,
    state := setting.state, fault := setting.fault }

def ReadsAlike (machine other : Machine) : Instruction → Prop
  | .storeDigits _ => other.legacy = machine.legacy
  | .loadRegisters x => x.val = 0 ∨ other.legacy = machine.legacy
  | .skipPressed x | .skipReleased x => ∀ inside : (machine.register x).toNat < 16,
    other.keypad.pressed.get ⟨_, inside⟩ = machine.keypad.pressed.get ⟨_, inside⟩
  | .random _ mask => other.random.next.1 &&& mask = machine.random.next.1 &&& mask
  | _ => True

theorem readsAlike_of_same {machine other : Machine} (legacy : other.legacy = machine.legacy)
    (keypad : other.keypad = machine.keypad) (random : other.random = machine.random)
    (instruction : Instruction) : machine.ReadsAlike other instruction := by
  cases instruction with
  | storeDigits x => exact legacy
  | loadRegisters x => exact .inr legacy
  | skipPressed x | skipReleased x =>
    intro inside
    rw [keypad]
  | random x mask => rw [ReadsAlike, random]
  | _ => trivial

end Machine

namespace Outcome

def under (outcome : Outcome) (setting : Setting) : Outcome :=
  ⟨outcome.machine.under setting, outcome.fault⟩

variable (outcome : Outcome) (setting : Setting)

theorem under_thenAdvance :
    (outcome.under setting).thenAdvance = outcome.thenAdvance.under setting := by
  obtain ⟨machine, failure⟩ := outcome
  cases failure <;> rfl

theorem under_thenDraw : (outcome.under setting).thenDraw = outcome.thenDraw.under setting := by
  obtain ⟨machine, failure⟩ := outcome
  cases failure <;> rfl

end Outcome

def Obeyed.concluded (obeyed : Obeyed) : CycleResult :=
  match obeyed.outcome.fault with
  | none => ⟨obeyed.outcome.machine.tickTimers, .ok true, obeyed.printed⟩
  | some fault =>
    if fault.halts then
      ⟨obeyed.outcome.machine.halt (.fault fault), .ok false,
        obeyed.printed ++ [Machine.haltReport (.fault fault)]⟩
    else
      ⟨obeyed.outcome.machine, .error fault, obeyed.printed⟩

theorem Keypad.read_congr {keypad other : Keypad} {key : Nat} (byte : key < 256)
    (same : ∀ inside : key < 16, other.pressed.get ⟨key, inside⟩ = keypad.pressed.get ⟨key, inside⟩) :
    other.read key = keypad.read key := by
  by_cases inside : key < 16
  · rw [read_inside _ inside, read_inside _ inside, same inside]
  · rw [read_beyond _ byte (Nat.not_lt.mp inside), read_beyond _ byte (Nat.not_lt.mp inside)]

namespace Machine

variable (machine : Machine) (setting : Setting)

@[simp]
theorem under_memory : (machine.under setting).memory = machine.memory :=
  rfl

@[simp]
theorem under_pc : (machine.under setting).pc = machine.pc :=
  rfl

@[simp]
theorem under_index : (machine.under setting).index = machine.index :=
  rfl

@[simp]
theorem under_register (x : Fin 16) : (machine.under setting).register x = machine.register x :=
  rfl

theorem under_plotCell (originX originY : UInt8) (row column : Nat) :
    (machine.under setting).plotCell originX originY row column =
      (machine.plotCell originX originY row column).under setting := by
  simp only [plotCell, under]
  split
  next => rfl
  next =>
    split
    next => rfl
    next erased _ _ => cases erased <;> rfl

theorem under_plot (originX originY : UInt8) (cells : List (Nat × Nat)) :
    (machine.under setting).plot originX originY cells =
      (machine.plot originX originY cells).under setting := by
  induction cells generalizing machine with
  | nil => rfl
  | cons cell rest ih =>
    simp only [plot, under_plotCell, Outcome.under]
    split
    next => rfl
    next => exact ih _

theorem under_storeBytes (address : Int) (bytes : List UInt8) :
    (machine.under setting).storeBytes address bytes =
      (machine.storeBytes address bytes).under setting := by
  induction bytes generalizing machine address with
  | nil => rfl
  | cons byte rest ih =>
    simp only [storeBytes, under_memory]
    split
    next => rfl
    next memory _ => exact ih { machine with memory := memory } _

theorem under_loadBytes (targets : List (Fin 16)) :
    (machine.under setting).loadBytes targets = (machine.loadBytes targets).under setting := by
  induction targets generalizing machine with
  | nil => rfl
  | cons target rest ih =>
    simp only [loadBytes, under_memory, under_index]
    split
    next => rfl
    next byte _ => exact ih { machine.setRegister target byte with index := machine.index + 1 }

theorem under_drawSprite (x y : Fin 16) (height : Nat) :
    (machine.under setting).drawSprite x y height =
      (machine.drawSprite x y height).under setting := by
  simp only [drawSprite, under_register, under_plot, Outcome.under_thenDraw,
    Outcome.under_thenAdvance]

variable {machine setting}

theorem under_skipOnKey {x : Fin 16} (down : Bool)
    (same : ∀ inside : (machine.register x).toNat < 16,
      setting.keypad.pressed.get ⟨_, inside⟩ = machine.keypad.pressed.get ⟨_, inside⟩) :
    (machine.under setting).skipOnKey x down = (machine.skipOnKey x down).under setting := by
  have read : (machine.under setting).keypad.read (machine.register x).toNat =
      machine.keypad.read (machine.register x).toNat :=
    Keypad.read_congr (machine.register x).toNat_lt same
  simp only [skipOnKey, under_register, read]
  split <;> rfl

theorem under_storeDigits (x : Fin 16) (mode : setting.legacy = machine.legacy) :
    (machine.under setting).storeDigits x = (machine.storeDigits x).under setting := by
  have same : (machine.under setting).legacy = machine.legacy := mode
  simp only [storeDigits, same, under_index, under_register, under_storeBytes,
    Outcome.under_thenAdvance]
  split
  next => rfl
  next => split <;> rfl

theorem under_loadRegisters {x : Fin 16} (mode : x.val = 0 ∨ setting.legacy = machine.legacy) :
    (machine.under setting).loadRegisters x = (machine.loadRegisters x).under setting := by
  -- In either mode a single byte goes to `V0`.
  have targets : loadTargets setting.legacy x = loadTargets machine.legacy x := by
    rcases mode with first | same
    · obtain rfl : x = 0 := Fin.ext first
      cases setting.legacy <;> cases machine.legacy <;> rfl
    · rw [same]
  have same : loadTargets (machine.under setting).legacy x = loadTargets machine.legacy x := targets
  simp only [loadRegisters, same, under_index, under_loadBytes, Outcome.under_thenAdvance]
  split <;> rfl

theorem under_execute {instruction : Instruction}
    (alike : machine.ReadsAlike (machine.under setting) instruction) :
    (machine.under setting).execute instruction =
      (machine.execute instruction).under (setting.after (some instruction)) := by
  cases instruction with
  | ret => simp only [execute, returnToCaller, under]; split <;> rfl
  | call target => simp only [execute, callTo, under]; split <;> rfl
  | readDelay x => simp only [execute, readDelay, under]; split <;> rfl
  | skipPressed x => exact under_skipOnKey true alike
  | skipReleased x => exact under_skipOnKey false alike
  | draw x y height => exact machine.under_drawSprite setting x y height.val
  | storeDigits x => exact under_storeDigits x alike
  | loadRegisters x => exact under_loadRegisters alike
  | random x mask =>
    have byte : setting.random.next.1 &&& mask = machine.random.next.1 &&& mask := alike
    simp only [execute, under, byte]
    rfl
  | _ => rfl

theorem execute_setting (machine : Machine) (instruction : Instruction) :
    (machine.execute instruction).machine.setting = machine.setting.after (some instruction) := by
  have same : machine.under machine.setting = machine := rfl
  have alike : machine.ReadsAlike (machine.under machine.setting) instruction :=
    readsAlike_of_same rfl rfl rfl instruction
  have own := under_execute alike
  rw [same] at own
  rw [own]
  rfl

theorem under_traceLine (before after : Machine) (setting later : Setting)
    (instruction : Instruction) :
    traceLine (before.under setting) (after.under later) instruction =
      traceLine before after instruction := by
  cases instruction <;> rfl

theorem under_fetchAndObey (tracing : Bool)
    (alike : ∀ instruction ∈ machine.next?, machine.ReadsAlike (machine.under setting) instruction) :
    (machine.under setting).fetchAndObey tracing =
      ⟨(machine.fetchAndObey tracing).outcome.under (setting.after machine.next?),
        (machine.fetchAndObey tracing).printed⟩ := by
  simp only [next?] at alike
  simp only [fetchAndObey, next?, under_memory, under_pc]
  cases fetched : machine.memory.readWord machine.pc with
  | error fault => rfl
  | ok word =>
    simp only [obey, fetched] at alike ⊢
    cases decoded : Instruction.decode word with
    | error fault => rfl
    | ok instruction =>
      rw [decoded] at alike
      simp only [under_execute (alike instruction rfl), Outcome.under, under_traceLine]
      split <;> rfl

theorem fetchAndObey_setting (tracing : Bool) (machine : Machine) :
    (machine.fetchAndObey tracing).outcome.machine.setting = machine.setting.after machine.next? := by
  have same : machine.under machine.setting = machine := rfl
  have alike : ∀ instruction ∈ machine.next?,
      machine.ReadsAlike (machine.under machine.setting) instruction :=
    fun instruction _ => readsAlike_of_same rfl rfl rfl instruction
  have own := under_fetchAndObey tracing alike
  rw [same] at own
  rw [own]
  rfl

def fitted (machine : Machine) (legacy : Bool) (keypad : Keypad) (random : RandomSource) :
    Machine :=
  { machine with legacy := legacy, keypad := keypad, random := random }

section Fitted

variable (legacy : Bool) (keypad : Keypad) (random : RandomSource) (tracing : Bool)

theorem fetchAndObey_fitted
    (alike : ∀ instruction ∈ machine.next?,
      machine.ReadsAlike (machine.fitted legacy keypad random) instruction) :
    (machine.fitted legacy keypad random).fetchAndObey tracing =
      ⟨⟨(machine.fetchAndObey tracing).outcome.machine.fitted legacy keypad
          (random.after machine.next?), (machine.fetchAndObey tracing).outcome.fault⟩,
        (machine.fetchAndObey tracing).printed⟩ := by
  have obeyed : (machine.under
      ⟨legacy, keypad, random, machine.state, machine.fault⟩).fetchAndObey tracing = _ :=
    under_fetchAndObey tracing alike
  have own := fetchAndObey_setting tracing machine
  have state : (machine.fetchAndObey tracing).outcome.machine.state = machine.state :=
    congrArg Setting.state own
  have fault : (machine.fetchAndObey tracing).outcome.machine.fault = machine.fault :=
    congrArg Setting.fault own
  refine obeyed.trans ?_
  simp only [Outcome.under, under, Setting.after, fitted, state, fault]

theorem concluded_fitted (obeyed : Obeyed) :
    Obeyed.concluded ⟨⟨obeyed.outcome.machine.fitted legacy keypad random, obeyed.outcome.fault⟩,
        obeyed.printed⟩ =
      { obeyed.concluded with
        machine := obeyed.concluded.machine.fitted legacy keypad random } := by
  simp only [Obeyed.concluded]
  split
  next => rfl
  next => split <;> rfl

theorem cycle_fitted
    (alike : ∀ instruction ∈ machine.next?,
      machine.ReadsAlike (machine.fitted legacy keypad random) instruction) :
    (machine.fitted legacy keypad random).cycle tracing =
      { machine.cycle tracing with
        machine := (machine.cycle tracing).machine.fitted legacy keypad
          (random.after machine.next?) } := by
  have concluded (machine : Machine) :
      machine.cycle tracing = (machine.ready.fetchAndObey tracing).concluded := rfl
  have obeyed : (machine.ready.fitted legacy keypad random).fetchAndObey tracing = _ :=
    fetchAndObey_fitted legacy keypad random tracing alike
  rw [concluded, concluded, ← concluded_fitted]
  exact congrArg Obeyed.concluded obeyed

end Fitted

theorem cycle_fittings (tracing : Bool) (machine : Machine) :
    (machine.cycle tracing).machine.legacy = machine.legacy ∧
      (machine.cycle tracing).machine.keypad = machine.keypad ∧
      (machine.cycle tracing).machine.random = machine.random.after machine.next? := by
  have same : machine.fitted machine.legacy machine.keypad machine.random = machine := rfl
  have own := cycle_fitted machine.legacy machine.keypad machine.random tracing
    fun instruction _ => readsAlike_of_same rfl rfl rfl instruction
  rw [same] at own
  rw [own]
  exact ⟨rfl, rfl, rfl⟩

theorem run_legacy (tracing : Bool) (machine : Machine) (keypads : List Keypad) :
    (machine.run tracing keypads).legacy = machine.legacy := by
  induction keypads generalizing machine with
  | nil => rfl
  | cons keypad rest ih => exact (ih _).trans (cycle_fittings tracing (machine.hold keypad)).1

end Machine

def Machine.marked (machine : Machine) (state : RunState) (fault : Option HaltReason) : Machine :=
  { machine with state := state, fault := fault }

def Outcome.marked (outcome : Outcome) (state : RunState) (fault : Option HaltReason) : Outcome :=
  ⟨outcome.machine.marked state fault, outcome.fault⟩

namespace Machine

theorem marked_fetchAndObey (machine : Machine) (state : RunState) (fault : Option HaltReason)
    (tracing : Bool) :
    (machine.marked state fault).fetchAndObey tracing =
      ⟨(machine.fetchAndObey tracing).outcome.marked state fault,
        (machine.fetchAndObey tracing).printed⟩ := by
  have obeyed : (machine.under
      ⟨machine.legacy, machine.keypad, machine.random, state, fault⟩).fetchAndObey tracing = _ :=
    under_fetchAndObey tracing fun instruction _ => readsAlike_of_same rfl rfl rfl instruction
  have own := fetchAndObey_setting tracing machine
  have legacy : (machine.fetchAndObey tracing).outcome.machine.legacy = machine.legacy :=
    congrArg Setting.legacy own
  have keypad : (machine.fetchAndObey tracing).outcome.machine.keypad = machine.keypad :=
    congrArg Setting.keypad own
  have random : (machine.fetchAndObey tracing).outcome.machine.random =
      machine.random.after machine.next? := congrArg Setting.random own
  refine obeyed.trans ?_
  simp only [Outcome.under, under, Setting.after, Outcome.marked, marked, legacy, keypad, random]

end Machine

end ChipEight
