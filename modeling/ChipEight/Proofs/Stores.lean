import ChipEight.Proofs.Setting

set_option autoImplicit false

namespace ChipEight

theorem Memory.ext_get {memory other : Memory}
    (same : ∀ place : Fin 4096, memory.bytes.get place = other.bytes.get place) :
    memory = other := by
  obtain ⟨bytes⟩ := memory
  obtain ⟨others⟩ := other
  exact congrArg Memory.mk (Vector.ext fun place inside => same ⟨place, inside⟩)

structure DigitStore where
  address : Int
  value : UInt8

namespace DigitStore

def Covers (place : Int) (store : DigitStore) : Prop :=
  store.address ≤ place ∧ place ≤ store.address + 2

instance (place : Int) : DecidablePred (Covers place) :=
  fun _ => inferInstanceAs (Decidable (_ ∧ _))

def digit (place : Int) (store : DigitStore) : UInt8 :=
  (Machine.decimalDigits store.value)[(place - store.address).toNat]?.getD 0

theorem toNat_digit {store : DigitStore} {place : Int} (covered : store.Covers place) :
    (store.digit place).toNat =
      if place = store.address then store.value.toNat / 100
      else if place = store.address + 1 then store.value.toNat / 10 % 10
      else store.value.toNat % 10 := by
  obtain ⟨first, last⟩ := covered
  have places : place = store.address ∨ place = store.address + 1 ∨ place = store.address + 2 := by
    omega
  rcases places with here | here | here
  · have distance : (place - store.address).toNat = 0 := by omega
    rw [digit, distance, if_pos here]
    exact UInt8.toNat_div _ _
  · have distance : (place - store.address).toNat = 1 := by omega
    rw [digit, distance, if_neg (by omega), if_pos here]
    exact (UInt8.toNat_mod _ _).trans (congrArg (· % 10) (UInt8.toNat_div _ _))
  · have distance : (place - store.address).toNat = 2 := by omega
    rw [digit, distance, if_neg (by omega), if_neg (by omega)]
    exact UInt8.toNat_mod _ _

end DigitStore

namespace Machine

variable {machine : Machine} {place : Fin 4096}

def digitStores (tracing : Bool) (machine : Machine) : List DigitStore :=
  match machine.next? with
  | some (.storeDigits x) =>
    if machine.legacy = false ∧ (machine.cycle tracing).result = .ok true then
      [⟨machine.index, machine.register x⟩]
    else []
  | _ => []

theorem get_storeBytes (machine : Machine) (address : Int) (bytes : List UInt8)
    (inside : 0 ≤ address ∧ address + bytes.length ≤ 4096) (place : Fin 4096) :
    (machine.storeBytes address bytes).machine.memory.bytes.get place =
      if address ≤ place.val then
        bytes[(place.val - address).toNat]?.getD (machine.memory.bytes.get place)
      else machine.memory.bytes.get place := by
  induction bytes generalizing machine address with
  | nil => simp [storeBytes]
  | cons byte rest ih =>
    simp only [List.length_cons] at inside
    have first : 0 ≤ address ∧ address < 4096 := by omega
    simp only [storeBytes, Memory.write_inside _ first]
    rw [ih _ _ (by omega)]
    simp only [Row.get_replace, Fin.ext_iff]
    -- The first byte goes to the address itself, and all the others lie behind it.
    rcases Int.lt_trichotomy address place.val with before | here | beyond
    · have later : (place.val - address).toNat = (place.val - (address + 1)).toNat + 1 := by omega
      rw [if_pos (show address + 1 ≤ place.val by omega), if_pos (Int.le_of_lt before),
        if_neg (show place.val ≠ address.toNat by omega), later, List.getElem?_cons_succ]
    · rw [if_neg (show ¬ address + 1 ≤ place.val by omega), if_pos (Int.le_of_eq here),
        if_pos (show place.val = address.toNat by omega), ← here, Int.sub_self]
      rfl
    · rw [if_neg (show ¬ address + 1 ≤ place.val by omega), if_neg (Int.not_le.mpr beyond),
        if_neg (show place.val ≠ address.toNat by omega)]

theorem get_storeBytes_digits (machine : Machine) {address : Int} (value : UInt8)
    (inside : 0 ≤ address ∧ address + 3 ≤ 4096) (place : Fin 4096) :
    (machine.storeBytes address (decimalDigits value)).machine.memory.bytes.get place =
      if DigitStore.Covers place.val ⟨address, value⟩ then
        DigitStore.digit place.val ⟨address, value⟩
      else machine.memory.bytes.get place := by
  have length : (decimalDigits value).length = 3 := rfl
  rw [machine.get_storeBytes address (decimalDigits value) inside place]
  by_cases first : address ≤ place.val
  · by_cases last : place.val ≤ address + 2
    · rw [if_pos first, if_pos ⟨first, last⟩, DigitStore.digit,
        List.getElem?_eq_getElem (by omega)]
      rfl
    · rw [if_pos first, if_neg fun covered => last covered.2, List.getElem?_eq_none (by omega)]
      rfl
  · rw [if_neg first, if_neg fun covered => first covered.1]

theorem get_storeDigits (machine : Machine) (x : Fin 16) (place : Fin 4096) :
    (machine.storeDigits x).machine.memory.bytes.get place =
      if (machine.legacy = false ∧ 0 ≤ machine.index ∧ machine.index + 3 ≤ 4096) ∧
          DigitStore.Covers place.val ⟨machine.index, machine.register x⟩ then
        DigitStore.digit place.val ⟨machine.index, machine.register x⟩
      else machine.memory.bytes.get place := by
  by_cases stores : machine.legacy = false ∧ 0 ≤ machine.index ∧ machine.index + 3 ≤ 4096
  · have digits := machine.get_storeBytes_digits (machine.register x) stores.2 place
    obtain ⟨memory, stored⟩ := machine.storeBytes_inside machine.index
      (decimalDigits (machine.register x)) stores.2
    rw [stored] at digits
    simp only [storeDigits, stores.1, Bool.false_eq_true, if_false,
      Memory.checkRange_inside stores.2, stored, Outcome.thenAdvance, advance]
    rw [digits]
    simp only [stores, and_self, true_and]
  · -- In legacy mode nothing is stored, and outside of the memory the instruction fails.
    rw [if_neg fun both => stores both.1]
    cases legacy : machine.legacy with
    | true => simp only [storeDigits, if_pos legacy, advance]
    | false =>
      have outside : ¬ (0 ≤ machine.index ∧ machine.index + 3 ≤ 4096) :=
        fun inside => stores ⟨legacy, inside⟩
      simp only [storeDigits, legacy, Bool.false_eq_true, if_false,
        Memory.checkRange_outside outside, failed]

theorem execute_memory {instruction : Instruction}
    (unstored : ∀ x, instruction ≠ .storeDigits x) :
    (machine.execute instruction).machine.memory = machine.memory := by
  rcases machine.execute_cases instruction with
    ⟨_, after, executed, completes⟩ | ⟨_, fault, after, executed, breaks⟩ <;> rw [executed]
  · cases completes with
    | storeDigits x => exact absurd rfl (unstored x)
    | draw _ _ _ _ painted =>
      obtain ⟨_, _, rfl⟩ := painted.frame
      rfl
    | _ => rfl
  · obtain ⟨_, _, rfl⟩ := breaks.frame
    rfl

theorem stores_iff {tracing : Bool} {x : Fin 16} (next : machine.next? = some (.storeDigits x)) :
    (machine.legacy = false ∧ (machine.cycle tracing).result = .ok true) ↔
      machine.legacy = false ∧ 0 ≤ machine.index ∧ machine.index + 3 ≤ 4096 := by
  rw [cycle_success_iff next]
  refine and_congr_right fun unquirked => or_iff_right fun legacy : machine.legacy = true => ?_
  rw [unquirked] at legacy
  cases legacy

theorem get_attempted (tracing : Bool) (machine : Machine) (place : Fin 4096) :
    machine.attempted.memory.bytes.get place =
      latest (DigitStore.Covers place.val) (DigitStore.digit place.val)
        (machine.memory.bytes.get place) (machine.digitStores tracing) := by
  cases next : machine.next? with
  | none =>
    simp only [attempted, digitStores, next]
    rfl
  | some instruction =>
    simp only [attempted, digitStores, next]
    cases instruction with
    | storeDigits x =>
      refine (machine.ready.get_storeDigits x place).trans ?_
      simp only [stores_iff next]
      by_cases stores : machine.legacy = false ∧ 0 ≤ machine.index ∧ machine.index + 3 ≤ 4096
      · rw [if_pos stores]
        simp only [ready, register, stores, and_self, true_and, latest, List.foldl_cons,
          List.foldl_nil]
      · rw [if_neg stores, if_neg fun both => stores both.1]
        rfl
    | _ =>
      apply congrArg (fun memory : Memory => memory.bytes.get place) (execute_memory ?_)
      all_goals simp

theorem byte_recorded (tracing : Bool) (place : Fin 4096) :
    Recorded tracing (DigitStore.Covers place.val) (DigitStore.digit place.val)
      (fun machine => machine.memory.bytes.get place) (digitStores tracing) where
  held := fun _ _ => rfl
  step := by
    intro machine
    obtain ⟨_, _, _, _, same⟩ := machine.cycle_machine tracing
    rw [same]
    exact get_attempted tracing machine place

theorem memory_cycle_legacy (tracing : Bool) (legacy : machine.legacy = true) :
    (machine.cycle tracing).machine.memory = machine.memory := by
  -- In this mode no cycle has anything to store.
  apply Memory.ext_get
  intro place
  have nothing : machine.digitStores tracing = [] := by
    unfold digitStores
    split
    next => exact if_neg fun stores => by simp [legacy] at stores
    next => rfl
  rw [(byte_recorded tracing place).step, nothing]
  rfl

theorem memory_run_legacy {tracing : Bool} (legacy : machine.legacy = true)
    (keypads : List Keypad) : (machine.run tracing keypads).memory = machine.memory := by
  induction keypads generalizing machine with
  | nil => rfl
  | cons keypad rest ih =>
    have held : (machine.hold keypad).legacy = true := legacy
    have still := (cycle_fittings tracing (machine.hold keypad)).1
    exact (ih (still.trans legacy)).trans (memory_cycle_legacy tracing held)

theorem mem_digitStores {tracing : Bool} {store : DigitStore}
    (member : store ∈ machine.digitStores tracing) :
    ∃ x, machine.next? = some (.storeDigits x) ∧ machine.legacy = false ∧
      (machine.cycle tracing).result = .ok true ∧
      store = ⟨machine.index, machine.register x⟩ := by
  unfold digitStores at member
  split at member
  next x next =>
    rw [List.mem_ite_nil_right, List.mem_singleton] at member
    obtain ⟨⟨unquirked, success⟩, same⟩ := member
    exact ⟨x, next, unquirked, success, same⟩
  next => cases member

theorem digitStores_inside {tracing : Bool} {store : DigitStore}
    (member : store ∈ machine.digitStores tracing) :
    0 ≤ store.address ∧ store.address + 2 < 4096 := by
  obtain ⟨x, next, unquirked, success, rfl⟩ := mem_digitStores member
  have inside := ((stores_iff next).mp ⟨unquirked, success⟩).2
  dsimp only
  omega

/-- A byte that is covered by digits stored in a run is a digit of the last of them. -/
theorem byte_of_last_store (machine : Machine) (tracing : Bool) (keypads : List Keypad) :
    let history := (machine.visited tracing keypads).flatMap (digitStores tracing)
    let after := machine.run tracing keypads
    (machine.legacy = true → after.memory = machine.memory) ∧
    (∀ store ∈ history, 0 ≤ store.address ∧ store.address + 2 < 4096) ∧
    ∀ place : Fin 4096,
      ((∀ store ∈ history, ¬ store.Covers place.val) ∧
        after.memory.bytes.get place = machine.memory.bytes.get place) ∨
      ∃ earlier store later, history = earlier ++ store :: later ∧ store.Covers place.val ∧
        (∀ other ∈ later, ¬ other.Covers place.val) ∧
        (after.memory.bytes.get place).toNat =
          if (place.val : Int) = store.address then store.value.toNat / 100
          else if (place.val : Int) = store.address + 1 then store.value.toNat / 10 % 10
          else store.value.toNat % 10 := by
  intro history after
  refine ⟨fun legacy => memory_run_legacy legacy keypads, fun store member => ?_, fun place => ?_⟩
  · obtain ⟨visited, _, stores⟩ := List.mem_flatMap.mp member
    exact digitStores_inside stores
  have recorded := byte_recorded tracing place
  rcases untouched_or_last (DigitStore.Covers place.val) history with
    untouched | ⟨earlier, store, later, same, covered, untouched⟩
  · exact .inl ⟨untouched, recorded.run_untouched untouched⟩
  · refine .inr ⟨earlier, store, later, same, covered, untouched, ?_⟩
    rw [← DigitStore.toNat_digit covered]
    exact congrArg UInt8.toNat (recorded.run_last same covered untouched)

end Machine

end ChipEight
