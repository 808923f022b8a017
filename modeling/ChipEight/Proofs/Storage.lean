import ChipEight.Keypad
import ChipEight.Memory.Basic

set_option autoImplicit false

namespace ChipEight

namespace Row

theorem checkWidth_small (index : Int)
    (small : -0x8000000000000000 ≤ index ∧ index < 0x8000000000000000) :
    checkWidth index = .ok () := by
  have fits : Width.fits index = true := by
    simp only [Width.fits, decide_eq_true_eq]
    omega
  exact if_pos fits

theorem checkSize_inside {size room : Int}
    (small : -0x8000000000000000 ≤ size ∧ size < 0x8000000000000000) (roomy : size ≤ room) :
    checkSize size room = .ok () := by
  have fits : Width.fits size = true := by
    simp only [Width.fits, decide_eq_true_eq]
    omega
  rw [checkSize, fits, if_neg (by decide), if_neg (Int.not_lt.mpr roomy)]

theorem checkSize_ok {size room : Int} (checked : checkSize size room = .ok ()) :
    size < 0x8000000000000000 ∧ size ≤ room := by
  unfold checkSize at checked
  split at checked
  next => cases checked
  next fits =>
    split at checked
    next => cases checked
    next roomy =>
      simp only [Bool.not_eq_true', Bool.not_eq_false, Width.fits, decide_eq_true_eq] at fits
      exact ⟨by omega, Int.not_lt.mp roomy⟩

theorem position_inside {size : Nat} (small : size ≤ 0x8000000000000000) (outside : Fault)
    {index : Int} (inside : 0 ≤ index ∧ index < size) :
    position size outside index = .ok ⟨index.toNat, index_lt inside⟩ := by
  simp only [position, checkWidth_small index (by omega), inside]
  rfl

theorem position_beyond {size : Nat} (outside : Fault) {index : Int}
    (small : index < 0x8000000000000000) (beyond : (size : Int) ≤ index) :
    position size outside index = .error outside := by
  have front : ¬ (0 ≤ index ∧ index < size) := by omega
  have back : ¬ (index < 0 ∧ 0 ≤ index + size) := by omega
  simp only [position, checkWidth_small index (by omega), front, back]
  rfl

theorem position_back {size : Nat} (small : size ≤ 0x8000000000000000) (outside : Fault)
    {index : Int} (back : index < 0 ∧ 0 ≤ index + size) :
    position size outside index = .ok ⟨(index + size).toNat, by omega⟩ := by
  have front : ¬ (0 ≤ index ∧ index < size) := by omega
  simp only [position, checkWidth_small index (by omega), front, back]
  rfl

theorem position_missing {size : Nat} (outside : Fault) {index : Int}
    (missing : ¬ (-(size : Int) ≤ index ∧ index < size)) :
    position size outside index =
      .error (if Width.fits index then outside else .indexTooWide) := by
  have front : ¬ (0 ≤ index ∧ index < size) := by omega
  have back : ¬ (index < 0 ∧ 0 ≤ index + size) := by omega
  simp only [position, checkWidth, front, back]
  split <;> rfl

theorem byte_toNat (value : UInt8) : byte value.toNat = .ok value := by
  have small := value.toNat_lt
  simp only [byte, Int.toNat_natCast, UInt8.ofNat_toNat]
  exact if_pos (by omega)

theorem byte_inside {value : Int} (inside : 0 ≤ value ∧ value < 256) :
    byte value = .ok (UInt8.ofNat value.toNat) :=
  if_pos inside

theorem byte_outside {value : Int} (outside : ¬ (0 ≤ value ∧ value < 256)) :
    byte value = .error .notAByte :=
  if_neg outside

theorem store_inside {size : Nat} (small : size ≤ 0x8000000000000000) (cells : Vector UInt8 size)
    {index : Int} (inside : 0 ≤ index ∧ index < size) (value : UInt8) :
    store cells index value.toNat = .ok (replace cells ⟨index.toNat, index_lt inside⟩ value) := by
  simp only [store, checkWidth_small index (by omega), byte_toNat,
    position_inside small _ inside]
  rfl

theorem get_replace {α : Type} {size : Nat} (cells : Vector α size) (place other : Fin size)
    (value : α) :
    (replace cells place value).get other = if other = place then value else cells.get other := by
  change (cells.set place.val value place.isLt)[other.val] = _
  rw [Vector.getElem_set]
  simp only [Fin.ext_iff, eq_comm (a := place.val)]
  rfl

end Row

namespace Memory

variable (memory : Memory)

theorem read_inside {address : Int} (inside : 0 ≤ address ∧ address < 4096) :
    memory.read address = .ok (memory.bytes.get ⟨address.toNat, address_lt inside⟩) :=
  dif_pos inside

theorem read_outside {address : Int} (outside : ¬ (0 ≤ address ∧ address < 4096)) :
    memory.read address = .error (.addressOutside address) :=
  dif_neg outside

theorem write_inside {address : Int} (inside : 0 ≤ address ∧ address < 4096) (value : UInt8) :
    memory.write address value.toNat =
      .ok ⟨Row.replace memory.bytes ⟨address.toNat, address_lt inside⟩ value⟩ := by
  simp only [write, Row.store_inside (by decide) memory.bytes inside value]
  rfl

theorem readWord_inside {address : Int} (inside : 0 ≤ address ∧ address ≤ 0xFFE) :
    ∃ word, word < 0x10000 ∧ memory.readWord address = .ok word := by
  have readHigh := memory.read_inside (show 0 ≤ address ∧ address < 4096 by omega)
  have readLow := memory.read_inside (show 0 ≤ address + 1 ∧ address + 1 < 4096 by omega)
  generalize memory.bytes.get _ = high at readHigh
  generalize memory.bytes.get _ = low at readLow
  refine ⟨high.toNat * 256 + low.toNat, ?_, ?_⟩
  · have := high.toNat_lt
    have := low.toNat_lt
    omega
  · simp only [readWord, readHigh, readLow]
    rfl

theorem readWord_outside {address : Int} (outside : ¬ (0 ≤ address ∧ address ≤ 0xFFE)) :
    ∃ missing, memory.readWord address = .error (.addressOutside missing) := by
  -- The fault names the first byte that is missing, and that may be the second byte of the word.
  by_cases first : 0 ≤ address ∧ address < 4096
  · have second := memory.read_outside (show ¬ (0 ≤ address + 1 ∧ address + 1 < 4096) by omega)
    refine ⟨address + 1, ?_⟩
    simp only [readWord, memory.read_inside first, second]
    rfl
  · refine ⟨address, ?_⟩
    simp only [readWord, memory.read_outside first]
    rfl

theorem readWord_ok {address : Int} {word : Nat} (found : memory.readWord address = .ok word) :
    (0 ≤ address ∧ address ≤ 0xFFE) ∧ word < 0x10000 := by
  by_cases inside : 0 ≤ address ∧ address ≤ 0xFFE
  · obtain ⟨read, small, same⟩ := memory.readWord_inside inside
    cases found.symm.trans same
    exact ⟨inside, small⟩
  · obtain ⟨missing, failed⟩ := memory.readWord_outside inside
    cases found.symm.trans failed

theorem checkRange_inside {address length : Int}
    (inside : 0 ≤ address ∧ address + length ≤ 4096) : checkRange address length = .ok () :=
  if_pos inside

theorem checkRange_outside {address length : Int}
    (outside : ¬ (0 ≤ address ∧ address + length ≤ 4096)) :
    checkRange address length = .error (.rangeOutside address length) :=
  if_neg outside

end Memory

namespace Keypad

variable (keypad : Keypad)

theorem read_inside {key : Nat} (inside : key < 16) :
    keypad.read key = .ok (keypad.pressed.get ⟨key, inside⟩) := by
  have bounds : 0 ≤ (key : Int) ∧ (key : Int) < (16 : Nat) := by omega
  simp only [read, Row.position_inside (by decide) _ bounds]
  rfl

theorem read_beyond {key : Nat} (byte : key < 256) (beyond : 16 ≤ key) :
    keypad.read key = .error .indexOutside := by
  have bounds : ((16 : Nat) : Int) ≤ key := by omega
  simp only [read, Row.position_beyond _ (show (key : Int) < 0x8000000000000000 by omega) bounds]
  rfl

end Keypad

end ChipEight
