import ChipEight.Proofs.Loading
import ChipEight.Proofs.Storage

set_option autoImplicit false

namespace ChipEight

def packed (opcodes : List UInt16) : List UInt8 :=
  opcodes.flatMap fun opcode =>
    [UInt8.ofNat (opcode.toNat / 0x100), UInt8.ofNat (opcode.toNat % 0x100)]

theorem length_packed (opcodes : List UInt16) : (packed opcodes).length = 2 * opcodes.length := by
  induction opcodes with
  | nil => rfl
  | cons opcode rest ih =>
    simp only [packed, List.flatMap_cons, List.length_append] at ih ⊢
    simp only [ih, List.length_cons, List.length_nil]
    omega

theorem getElem?_packed {opcodes : List UInt16} {place : Nat} {opcode : UInt16}
    (found : opcodes[place]? = some opcode) :
    (packed opcodes)[2 * place]? = some (UInt8.ofNat (opcode.toNat / 0x100)) ∧
      (packed opcodes)[2 * place + 1]? = some (UInt8.ofNat (opcode.toNat % 0x100)) := by
  induction opcodes generalizing place with
  | nil => simp at found
  | cons first rest ih =>
    cases place with
    | zero =>
      obtain rfl : first = opcode := by simpa using found
      exact ⟨rfl, rfl⟩
    | succ place => exact ih (by simpa using found)

namespace Memory

theorem read_overlay (memory : Memory) (start : Nat) (block : Array UInt8) {place : Nat}
    {byte : UInt8} (found : block[place]? = some byte) (inside : start + place < 4096) :
    (memory.overlay start block).read (start + place : Nat) = .ok byte := by
  rw [read_inside _ (by omega)]
  refine congrArg Except.ok ((getElem_overlay memory start block inside).trans ?_)
  simp [found]

theorem readWord_packed (memory : Memory) {opcodes : List UInt16} {place : Nat} {opcode : UInt16}
    (fits : opcodes.length ≤ 1792) (found : opcodes[place]? = some opcode) :
    (memory.overlay programStart (packed opcodes).toArray).readWord (0x200 + 2 * place) =
      .ok opcode.toNat := by
  have bound : place < opcodes.length := (List.getElem?_eq_some_iff.mp found).1
  obtain ⟨high, low⟩ := getElem?_packed found
  have readHigh := memory.read_overlay programStart (packed opcodes).toArray
    (by simpa using high) (by simp only [programStart]; omega)
  have readLow := memory.read_overlay programStart (packed opcodes).toArray
    (by simpa using low) (by simp only [programStart]; omega)
  have address : ((programStart + 2 * place : Nat) : Int) = 0x200 + 2 * place := by
    simp [programStart]
  have next : ((programStart + (2 * place + 1) : Nat) : Int) = 0x200 + 2 * place + 1 := by
    simp [programStart, Int.add_assoc]
  rw [address] at readHigh
  rw [next] at readLow
  have small := opcode.toNat_lt
  have whole : opcode.toNat / 0x100 % 0x100 * 0x100 + opcode.toNat % 0x100 = opcode.toNat := by
    omega
  simp only [readWord, readHigh, readLow]
  simpa [pure, bind, Except.pure, Except.bind] using whole

end Memory

end ChipEight
