import ChipEight.Proofs.Drawing
import ChipEight.Proofs.Footprint
import ChipEight.Proofs.Lockstep

set_option autoImplicit false

namespace ChipEight

theorem DigitStore.toNat_reread {store : DigitStore} {memory : Memory}
    {registers : Vector UInt8 16}
    (stored : ∀ place, store.Covers place → memory.read place = .ok (store.digit place))
    (read : ∀ y ≤ 2, memory.read (store.address + y.val) = .ok (registers.get y)) :
    (registers.get 0).toNat = store.value.toNat / 100 ∧
      (registers.get 1).toNat = store.value.toNat / 10 % 10 ∧
      (registers.get 2).toNat = store.value.toNat % 10 := by
  have digit (y : Fin 16) (small : y ≤ 2) : (registers.get y).toNat =
      if y.val = 0 then store.value.toNat / 100
      else if y.val = 1 then store.value.toNat / 10 % 10
      else store.value.toNat % 10 := by
    have covered : store.Covers (store.address + y.val) := by
      simp only [DigitStore.Covers]
      omega
    have first : store.address + y.val = store.address ↔ y.val = 0 := by omega
    have second : store.address + y.val = store.address + 1 ↔ y.val = 1 := by omega
    have same := Except.ok.inj ((read y small).symm.trans (stored _ covered))
    rw [same, DigitStore.toNat_digit covered]
    simp only [first, second]
  exact ⟨digit 0 (by decide), digit 1 (by decide), digit 2 (by decide)⟩

namespace Machine

-- The registers as they are when all up to `Vx` have been loaded, each with the byte at its own
-- distance from `I`. In legacy mode only the last byte is left, since all go to `Vx`.
structure Loads (machine : Machine) (x : Fin 16) (registers : Vector UInt8 16) : Prop where
  last : machine.memory.read (machine.index + x.val) = .ok (registers.get x)
  each : machine.legacy = false → ∀ y ≤ x,
    machine.memory.read (machine.index + y.val) = .ok (registers.get y)
  above : machine.legacy = false → ∀ y, x < y → registers.get y = machine.register y
  others : machine.legacy = true → ∀ y, y ≠ x → registers.get y = machine.register y

theorem loadBytes_last (machine : Machine) {targets : List (Fin 16)} {target : Fin 16}
    {place : Nat} (inside : 0 ≤ machine.index ∧ machine.index + targets.length ≤ 4096)
    (chosen : targets[place]? = some target)
    (last : ∀ later, place < later → targets[later]? ≠ some target) :
    machine.memory.read (machine.index + place) =
      .ok ((machine.loadBytes targets).machine.register target) := by
  -- `I` moves along with every byte, so the distance that is left shrinks with the list.
  induction targets generalizing machine place with
  | nil => simp at chosen
  | cons first rest ih =>
    simp only [List.length_cons] at inside
    have here := machine.memory.read_inside (show 0 ≤ machine.index ∧ machine.index < 4096 by omega)
    generalize machine.memory.bytes.get _ = byte at here
    simp only [loadBytes, here]
    cases place with
    | zero =>
      obtain rfl : first = target := by simpa using chosen
      have untouched : first ∉ rest := by
        intro member
        obtain ⟨later, found⟩ := List.mem_iff_getElem?.mp member
        exact last (later + 1) (Nat.succ_pos later) (by simpa using found)
      have loaded := (machine.register_setRegister first first byte).trans (if_pos rfl)
      rw [register_loadBytes untouched, Int.natCast_zero, Int.add_zero, here]
      exact congrArg Except.ok loaded.symm
    | succ place =>
      have later := ih { machine.setRegister first byte with index := machine.index + 1 }
        (by dsimp only; omega) (by simpa using chosen) fun later beyond =>
          by simpa using last (later + 1) (Nat.succ_lt_succ beyond)
      rw [← later]
      simp only [setRegister]
      congr 1
      omega

theorem getElem?_loadTargets {legacy : Bool} {x y : Fin 16} {place : Nat} :
    (loadTargets legacy x)[place]? = some y ↔
      place ≤ x.val ∧ if legacy then y = x else y.val = place := by
  have numbered : (List.finRange 16)[place]? = some y ↔ y.val = place := by
    rw [List.getElem?_eq_some_iff]
    constructor
    next =>
      rintro ⟨small, rfl⟩
      simp
    next =>
      rintro rfl
      simp
  cases legacy
  next =>
    simp only [loadTargets, Bool.false_eq_true, if_false, List.getElem?_take, Nat.lt_succ_iff]
    split
    next small => simp [small, numbered]
    next large => simp [large]
  next =>
    simp only [loadTargets, if_true, List.getElem?_replicate, Nat.lt_succ_iff]
    split
    next small => simp [small, eq_comm]
    next large => simp [large]

theorem read_loadRegisters (machine : Machine) {x y : Fin 16} {place : Nat}
    (inside : 0 ≤ machine.index ∧ machine.index + (x.val + 1) ≤ 4096)
    (chosen : (loadTargets machine.legacy x)[place]? = some y)
    (last : ∀ later, place < later → (loadTargets machine.legacy x)[later]? ≠ some y) :
    machine.memory.read (machine.index + place) =
      .ok ((machine.loadRegisters x).machine.register y) := by
  have length := length_loadTargets machine.legacy x
  simp only [loadRegisters, Memory.checkRange_inside inside, register_thenAdvance]
  exact machine.loadBytes_last (by omega) chosen last

theorem loadRegisters_loads (machine : Machine) {x : Fin 16}
    (inside : 0 ≤ machine.index ∧ machine.index + (x.val + 1) ≤ 4096) :
    machine.Loads x (machine.loadRegisters x).machine.registers where
  last := by
    apply machine.read_loadRegisters inside
    next => simp [getElem?_loadTargets]
    next =>
      intro later beyond found
      have early := (getElem?_loadTargets.mp found).1
      omega
  each := by
    intro unquirked y below
    apply machine.read_loadRegisters inside
    next => exact getElem?_loadTargets.mpr ⟨below, by simp [unquirked]⟩
    next =>
      intro later beyond found
      have here := (getElem?_loadTargets.mp found).2
      simp only [unquirked, Bool.false_eq_true, if_false] at here
      omega
  above := by
    intro unquirked y beyond
    apply register_loadRegisters
    simpa [Instruction.Writes, unquirked] using beyond
  others := by
    intro legacy y other
    apply register_loadRegisters
    simpa [Instruction.Writes, legacy] using other

theorem loadRegisters_inside (machine : Machine) {x : Fin 16}
    (inside : 0 ≤ machine.index ∧ machine.index + (x.val + 1) ≤ 4096) :
    ∃ registers, machine.Loads x registers ∧ machine.loadRegisters x =
      ⟨{ machine with
          registers := registers, index := machine.index + (x.val + 1), pc := machine.pc + 2 },
        none⟩ := by
  have loads := machine.loadRegisters_loads inside
  rcases machine.loadRegisters_cases x with ⟨_, registers, same⟩ | ⟨outside, _⟩
  next =>
    rw [same] at loads
    exact ⟨registers, loads, same⟩
  next => exact absurd inside outside

theorem loadRegisters_outside (machine : Machine) {x : Fin 16}
    (outside : ¬ (0 ≤ machine.index ∧ machine.index + (x.val + 1) ≤ 4096)) :
    machine.loadRegisters x = ⟨machine, some (.rangeOutside machine.index (x.val + 1))⟩ := by
  rcases machine.loadRegisters_cases x with ⟨inside, _⟩ | ⟨_, same⟩
  next => exact absurd inside outside
  next => exact same

theorem obey_loadRegisters (machine : Machine) (tracing : Bool) (x : Fin 16) :
    (machine.obey tracing (0xF065 + 0x100 * x.val)).outcome = machine.loadRegisters x := by
  have decoded : Instruction.decode (0xF065 + 0x100 * x.val) = .ok (.loadRegisters x) := by
    decide +revert
  exact obey_outcome decoded

theorem Loads.beyond {machine : Machine} {x y : Fin 16} {registers : Vector UInt8 16}
    (loads : machine.Loads x registers) (beyond : x < y) :
    registers.get y = machine.register y := by
  cases mode : machine.legacy with
  | false => exact loads.above mode y beyond
  | true => exact loads.others mode y (Fin.ne_of_gt beyond)

theorem Loads.agree {machine : Machine} {legacy : Bool} {x y : Fin 16}
    {registers others : Vector UInt8 16} (loads : machine.Loads x registers)
    (otherwise : { machine with legacy := legacy }.Loads x others) (upper : x ≤ y) :
    others.get y = registers.get y := by
  rcases Fin.lt_or_eq_of_le upper with beyond | rfl
  next => exact (otherwise.beyond beyond).trans (loads.beyond beyond).symm
  next => exact Except.ok.inj (otherwise.last.symm.trans loads.last)

/-- A load takes all the bytes or fails before the first, in both modes alike. -/
theorem registers_loaded (machine : Machine) (tracing : Bool) (x : Fin 16) :
    let outcome := (machine.obey tracing (0xF065 + 0x100 * x.val)).outcome
    (¬ (0 ≤ machine.index ∧ machine.index + (x.val + 1) ≤ 4096) →
      outcome = ⟨machine, some (.rangeOutside machine.index (x.val + 1))⟩) ∧
    (0 ≤ machine.index ∧ machine.index + (x.val + 1) ≤ 4096 →
      ∃ registers, machine.Loads x registers ∧
        outcome = ⟨{ machine with
          registers := registers, index := machine.index + (x.val + 1), pc := machine.pc + 2 },
          none⟩) ∧
    ∀ legacy, ∃ registers, (∀ y, x ≤ y → registers.get y = outcome.machine.register y) ∧
      ({ machine with legacy := legacy }.obey tracing (0xF065 + 0x100 * x.val)).outcome =
        ⟨{ outcome.machine with legacy := legacy, registers := registers }, outcome.fault⟩ := by
  simp only [obey_loadRegisters]
  refine ⟨machine.loadRegisters_outside, machine.loadRegisters_inside, fun legacy => ?_⟩
  by_cases inside : 0 ≤ machine.index ∧ machine.index + (x.val + 1) ≤ 4096
  next =>
    obtain ⟨registers, loads, same⟩ := machine.loadRegisters_inside inside
    obtain ⟨others, otherwise, sameOther⟩ :=
      { machine with legacy := legacy }.loadRegisters_inside inside
    rw [same, sameOther]
    exact ⟨others, fun y upper => loads.agree otherwise upper, rfl⟩
  next =>
    have failed := machine.loadRegisters_outside inside
    have failedOther := { machine with legacy := legacy }.loadRegisters_outside inside
    rw [failed, failedOther]
    exact ⟨machine.registers, fun _ _ => rfl, rfl⟩

theorem obey_storeDigits (machine : Machine) (tracing : Bool) (x : Fin 16) :
    (machine.obey tracing (0xF033 + 0x100 * x.val)).outcome = machine.storeDigits x := by
  have decoded : Instruction.decode (0xF033 + 0x100 * x.val) = .ok (.storeDigits x) := by
    decide +revert
  exact obey_outcome decoded

theorem storeDigits_inside (machine : Machine) (x : Fin 16) (unquirked : machine.legacy = false)
    (inside : 0 ≤ machine.index ∧ machine.index + 3 ≤ 4096) :
    let store : DigitStore := ⟨machine.index, machine.register x⟩
    ∃ memory : Memory,
      machine.storeDigits x = ⟨{ machine with memory := memory, pc := machine.pc + 2 }, none⟩ ∧
      ∀ place, memory.read place =
        if store.Covers place then .ok (store.digit place) else machine.memory.read place := by
  intro store
  have bytes := machine.get_storeDigits x
  rcases machine.storeDigits_cases x with ⟨_, memory, same⟩ | ⟨outside, _⟩
  next =>
    simp only [same, unquirked, inside, and_self, true_and] at bytes
    refine ⟨memory, same, fun place => ?_⟩
    -- Where there is no byte, neither memory has one to be read.
    by_cases small : 0 ≤ place ∧ place < 4096
    next =>
      have byte := bytes ⟨place.toNat, Memory.address_lt small⟩
      simp only [Int.toNat_of_nonneg small.1] at byte
      simp only [Memory.read_inside _ small]
      refine (congrArg Except.ok byte).trans ?_
      split <;> rfl
    next =>
      have uncovered : ¬ store.Covers place := by
        simp only [DigitStore.Covers, store]
        omega
      rw [if_neg uncovered, memory.read_outside small, machine.memory.read_outside small]
  next => exact absurd (.inr inside) outside

theorem storeDigits_outside (machine : Machine) (x : Fin 16) (unquirked : machine.legacy = false)
    (outside : ¬ (0 ≤ machine.index ∧ machine.index + 3 ≤ 4096)) :
    machine.storeDigits x = ⟨machine, some (.rangeOutside machine.index 3)⟩ := by
  rcases machine.storeDigits_cases x with ⟨stores, _⟩ | ⟨_, same⟩
  next => simp [unquirked, outside] at stores
  next => exact same

/-- The digits of a byte that are stored and then loaded make up that byte. -/
theorem digits_reload {machine : Machine} (tracing : Bool) (x : Fin 16)
    (unquirked : machine.legacy = false) :
    let stored := (machine.obey tracing (0xF033 + 0x100 * x.val)).outcome
    let loaded := (stored.machine.obey tracing 0xF265).outcome
    (stored.fault = none ∧ loaded.fault = none ↔ 0 ≤ machine.index ∧ machine.index ≤ 4093) ∧
    (¬ (0 ≤ machine.index ∧ machine.index ≤ 4093) →
      stored = ⟨machine, some (.rangeOutside machine.index 3)⟩) ∧
    (0 ≤ machine.index ∧ machine.index ≤ 4093 → ∃ registers memory,
      loaded.machine = { machine with
        registers := registers, memory := memory, index := machine.index + 3, pc := machine.pc + 4 } ∧
      ((registers.get 0).toNat ≤ 9 ∧ (registers.get 1).toNat ≤ 9 ∧ (registers.get 2).toNat ≤ 9) ∧
      100 * (registers.get 0).toNat + 10 * (registers.get 1).toNat + (registers.get 2).toNat =
        (machine.register x).toNat ∧
      (∀ y, 2 < y → registers.get y = machine.register y) ∧
      (∀ y ≤ 2, memory.read (machine.index + y.val) = .ok (registers.get y)) ∧
      ∀ place, place < machine.index ∨ machine.index + 2 < place →
        memory.read place = machine.memory.read place) := by
  intro stored loaded
  have storing : stored = machine.storeDigits x := machine.obey_storeDigits tracing x
  have loading : loaded = stored.machine.loadRegisters 2 :=
    stored.machine.obey_loadRegisters tracing 2
  by_cases inside : 0 ≤ machine.index ∧ machine.index ≤ 4093
  next =>
    have room : 0 ≤ machine.index ∧ machine.index + 3 ≤ 4096 := by omega
    obtain ⟨memory, same, bytes⟩ := machine.storeDigits_inside x unquirked room
    have within : 0 ≤ machine.index ∧ machine.index + ((2 : Fin 16).val + 1) ≤ 4096 := room
    obtain ⟨registers, loads, reloaded⟩ :=
      { machine with memory := memory, pc := machine.pc + 2 }.loadRegisters_inside within
    rw [storing, same, reloaded] at loading
    rw [storing, same, loading]
    obtain ⟨hundreds, tens, ones⟩ := DigitStore.toNat_reread
      (fun place covered => (bytes place).trans (if_pos covered)) (loads.each unquirked)
    have byte := (machine.register x).toNat_lt
    dsimp only at hundreds tens ones
    refine ⟨by simp [inside], fun outside => absurd inside outside, fun _ => ?_⟩
    refine ⟨registers, memory, ?_, ?_, ?_, loads.above unquirked, loads.each unquirked, ?_⟩
    next => simp [Int.add_assoc]
    next => omega
    next => omega
    next =>
      intro place outside
      refine (bytes place).trans (if_neg ?_)
      simp only [DigitStore.Covers]
      omega
  next =>
    have refused := storing.trans (machine.storeDigits_outside x unquirked (by omega))
    simp [refused, inside]

-- A machine that keeps a byte in `V1` and points at the last three bytes of its memory.
def keeper : Machine :=
  { new false (RandomSource.cycling #[]) with
    registers := (Vector.replicate 16 0).set 1 234
    index := 4093 }

theorem keeper_reload :
    let stored := (keeper.obey false 0xF133).outcome
    let loaded := (stored.machine.obey false 0xF265).outcome
    stored.fault = none ∧ loaded.fault = none ∧ loaded.machine.index = 4096 ∧
      100 * (loaded.machine.register 0).toNat + 10 * (loaded.machine.register 1).toNat +
        (loaded.machine.register 2).toNat = 234 := by
  intro stored loaded
  have inside : 0 ≤ keeper.index ∧ keeper.index ≤ 4093 := by decide
  have unquirked : keeper.legacy = false := rfl
  obtain ⟨succeeds, _, reloads⟩ := digits_reload false 1 unquirked
  obtain ⟨storing, loading⟩ := succeeds.mpr inside
  obtain ⟨registers, memory, same, _, sum, _⟩ := reloads inside
  have after : loaded.machine = _ := same
  rw [after]
  exact ⟨storing, loading, rfl, sum⟩

end Machine

end ChipEight
