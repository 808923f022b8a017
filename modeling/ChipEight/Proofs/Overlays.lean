import ChipEight.Proofs.Packing
import ChipEight.Proofs.Service

set_option autoImplicit false

namespace ChipEight.Memory

variable {memory : Memory} {program : Array UInt8} {place : Nat}

def load (memory : Memory) (program : Array UInt8) : Except Fault Nat × Memory :=
  match memory.loadProgram program with
  | .ok (length, after) => (.ok length, after)
  | .error fault => (.error fault, memory)

def loadEach (memory : Memory) (programs : List (Array UInt8)) : Memory :=
  programs.foldl (fun current program => (current.load program).2) memory

theorem loadEach_eq_serveAll (memory : Memory) (programs : List (Array UInt8)) :
    memory.loadEach programs = (serveAll load memory programs).2 :=
  (serveAll_state load memory programs).symm

def Reaches (place : Nat) (program : Array UInt8) : Prop :=
  place < program.size ∧ program.size ≤ 3584

instance (place : Nat) : DecidablePred (Reaches place) :=
  fun _ => inferInstanceAs (Decidable (_ ∧ _))

theorem load_fitting (memory : Memory) (fits : program.size ≤ 3584) :
    memory.load program = (.ok program.size, memory.overlay programStart program) := by
  have available : program.size ≤ size - programStart := fits
  simp only [load, loadProgram, available, if_true]

theorem load_long (memory : Memory) (long : 3584 < program.size) :
    memory.load program = (.error (.programTooLong program.size), memory) := by
  have beyond : ¬ program.size ≤ size - programStart := Nat.not_le.mpr long
  simp only [load, loadProgram, beyond, if_false]

theorem read_load (memory : Memory) (program : Array UInt8) (small : place < 3584) :
    (memory.load program).2.read (0x200 + place) =
      if Reaches place program then .ok (program.getD place 0)
      else memory.read (0x200 + place) := by
  have inside : 0 ≤ (0x200 + place : Int) ∧ (0x200 + place : Int) < 4096 := by omega
  by_cases fits : program.size ≤ 3584
  · rw [load_fitting memory fits, read_inside _ inside, read_inside _ inside, get_overlay]
    have above : programStart ≤ (0x200 + place : Int).toNat := by
      simp only [programStart]
      omega
    have distance : (0x200 + place : Int).toNat - programStart = place := by
      simp only [programStart]
      omega
    by_cases reaches : place < program.size <;>
      simp [Reaches, above, distance, fits, reaches]
  · have long : 3584 < program.size := Nat.not_le.mp fits
    simp only [load_long memory long, Reaches, fits, and_false, if_false]

theorem read_load_below (memory : Memory) (program : Array UInt8) {address : Int}
    (below : address < 0x200) : (memory.load program).2.read address = memory.read address := by
  by_cases fits : program.size ≤ 3584
  · rw [load_fitting memory fits]
    by_cases inside : 0 ≤ address ∧ address < 4096
    · have before : ¬ programStart ≤ address.toNat := by
        simp only [programStart]
        omega
      rw [read_inside _ inside, read_inside _ inside, get_overlay, if_neg before]
    · rw [read_outside _ inside, read_outside _ inside]
  · rw [load_long memory (Nat.not_le.mp fits)]

theorem read_loadEach (memory : Memory) (programs : List (Array UInt8)) (small : place < 3584) :
    (memory.loadEach programs).read (0x200 + place) =
      latest (Reaches place) (fun program => .ok (program.getD place 0))
        (memory.read (0x200 + place)) programs := by
  rw [loadEach_eq_serveAll]
  exact serveAll_latest (fun memory : Memory => memory.read (0x200 + place))
    (fun memory program => read_load memory program small) memory programs

theorem read_loadEach_below (memory : Memory) (programs : List (Array UInt8)) {address : Int}
    (below : address < 0x200) : (memory.loadEach programs).read address = memory.read address := by
  rw [loadEach_eq_serveAll]
  exact serveAll_keeps (fun after : Memory => after.read address = memory.read address)
    (fun after program same => (read_load_below after program below).trans same) rfl programs

theorem load_packed (memory : Memory) {opcodes : List UInt16} (fits : opcodes.length ≤ 1792) :
    memory.load (packed opcodes).toArray =
      (.ok (2 * opcodes.length), memory.overlay programStart (packed opcodes).toArray) := by
  have length : (packed opcodes).toArray.size = 2 * opcodes.length := by
    simpa using length_packed opcodes
  rw [load_fitting memory (by omega), length]

structure AllOrNothing (before : Memory) (program : Array UInt8) (answer : Except Fault Nat)
    (after : Memory) : Prop where
  refused : 3584 < program.size → after = before ∧
    ∃ fault, answer = .error fault ∧ fault = .programTooLong program.size ∧ fault.kind = .value
  accepted : program.size ≤ 3584 → answer = .ok program.size ∧
    after.bytes.toList = before.bytes.toList.take 0x200 ++
      (program.toList ++ before.bytes.toList.drop (0x200 + program.size))

theorem load_allOrNothing (memory : Memory) (program : Array UInt8) :
    memory.AllOrNothing program (memory.load program).1 (memory.load program).2 where
  refused := by
    intro long
    rw [load_long memory long]
    exact ⟨rfl, _, rfl, rfl, rfl⟩
  accepted := by
    intro fits
    have inside : programStart + program.size ≤ 4096 := by
      simp only [programStart]
      omega
    rw [load_fitting memory fits]
    exact ⟨rfl, toList_overlay memory inside⟩

structure Overlaid (before : Memory) (programs : List (Array UInt8)) (after : Memory) : Prop where
  reached : ∀ (place : Nat) earlier program later, programs = earlier ++ program :: later →
    Reaches place program → (∀ other ∈ later, ¬ Reaches place other) →
      ∃ byte, program[place]? = some byte ∧ after.read (0x200 + place) = .ok byte
  unreached : ∀ place : Nat, place < 3584 → (∀ program ∈ programs, ¬ Reaches place program) →
    after.read (0x200 + place) = before.read (0x200 + place)
  below : ∀ address < 0x200, after.read address = before.read address
  length : after.bytes.toList.length = 4096

theorem loadEach_overlaid (memory : Memory) (programs : List (Array UInt8)) :
    memory.Overlaid programs (memory.loadEach programs) where
  reached := by
    rintro place earlier program later rfl reaches unreached
    have small : place < 3584 := Nat.lt_of_lt_of_le reaches.1 reaches.2
    refine ⟨program.getD place 0, by simp [reaches.1], ?_⟩
    rw [read_loadEach memory _ small, latest_of_last reaches unreached]
  unreached := by
    intro place small unreached
    rw [read_loadEach memory programs small, latest_of_untouched unreached]
  below := fun _ => read_loadEach_below memory programs
  length := Vector.length_toList

/-- After any loads each byte is that of the last accepted program that reaches it. -/
theorem loads_overlaid (memory : Memory) :
    (∀ program, memory.AllOrNothing program (memory.load program).1 (memory.load program).2) ∧
    (∀ programs, memory.Overlaid programs (memory.loadEach programs)) ∧
    ∀ opcodes : List UInt16, opcodes.length ≤ 1792 →
      (memory.load (packed opcodes).toArray).1 = .ok (2 * opcodes.length) ∧
      ∀ (place : Nat) (opcode : UInt16), opcodes[place]? = some opcode →
        (memory.load (packed opcodes).toArray).2.readWord (0x200 + 2 * place) =
          .ok opcode.toNat := by
  refine ⟨memory.load_allOrNothing, memory.loadEach_overlaid, ?_⟩
  intro opcodes fits
  rw [load_packed memory fits]
  exact ⟨rfl, fun _ _ found => readWord_packed memory fits found⟩

end ChipEight.Memory
