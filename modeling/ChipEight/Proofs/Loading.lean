import ChipEight.Proofs.Invariant

set_option autoImplicit false

namespace ChipEight

namespace Memory

theorem getElem_overlay (memory : Memory) (start : Nat) (block : Array UInt8) {address : Nat}
    (small : address < 4096) :
    (memory.overlay start block).bytes[address] =
      if start ≤ address then (block[address - start]?).getD memory.bytes[address]
      else memory.bytes[address] := by
  simp only [overlay, Vector.getElem_ofFn]
  rfl

theorem get_overlay (memory : Memory) (start : Nat) (block : Array UInt8) (place : Fin 4096) :
    (memory.overlay start block).bytes.get place =
      if start ≤ place.val then (block[place.val - start]?).getD (memory.bytes.get place)
      else memory.bytes.get place :=
  getElem_overlay memory start block place.isLt

theorem toList_overlay (memory : Memory) {start : Nat} {block : Array UInt8}
    (inside : start + block.size ≤ 4096) :
    (memory.overlay start block).bytes.toList =
      memory.bytes.toList.take start ++
        (block.toList ++ memory.bytes.toList.drop (start + block.size)) := by
  have cut : min start 4096 = start := by omega
  apply List.ext_getElem
  · simp only [Vector.length_toList, List.length_append, List.length_take, List.length_drop,
      Array.length_toList]
    omega
  · intro address small _
    rw [Vector.length_toList] at small
    simp only [Vector.getElem_toList, getElem_overlay _ _ _ small, List.getElem_append,
      List.length_take, Vector.length_toList, Array.length_toList, List.getElem_take,
      List.getElem_drop, Array.getElem_toList, cut]
    -- An address lies before the block, in it, or after it.
    by_cases before : address < start
    · have below : ¬ start ≤ address := by omega
      simp only [below, before, if_false, dite_true]
    · have above : start ≤ address := by omega
      by_cases within : address - start < block.size
      · simp only [above, before, within, if_true, dite_true, dite_false,
          Array.getElem?_eq_getElem within, Option.getD_some]
      · simp only [above, before, within, if_true, dite_false,
          Array.getElem?_eq_none (Nat.not_lt.mp within), Option.getD_none]
        congr 1
        omega

def lowest : List UInt8 :=
  List.replicate 0x50 0 ++ Font.glyphs.toList

theorem length_lowest : lowest.length = 0xA0 := by
  rw [lowest, List.length_append, List.length_replicate]
  rfl

theorem toList_fresh : fresh.bytes.toList = lowest ++ List.replicate 0xF60 0 := by
  have glyphs : Font.glyphs.size = 80 := rfl
  have below : min Font.start 4096 = 0x50 := rfl
  have above : 4096 - (Font.start + 80) = 0xF60 := rfl
  rw [fresh, loadFont, toList_overlay _ (by rw [glyphs]; decide), Vector.toList_replicate,
    List.take_replicate, List.drop_replicate, glyphs, below, above, lowest, List.append_assoc]

def layout (program : List UInt8) : List UInt8 :=
  lowest ++ List.replicate 0x160 0 ++ (program ++ List.replicate (0xE00 - program.length) 0)

theorem length_layout {program : List UInt8} (fits : program.length ≤ 0xE00) :
    (layout program).toArray.size = 4096 := by
  simp only [layout, List.size_toArray, List.length_append, List.length_replicate, length_lowest]
  omega

def ofProgram (program : List UInt8) (fits : program.length ≤ 0xE00) : Memory :=
  ⟨⟨(layout program).toArray, length_layout fits⟩⟩

theorem toList_overlay_fresh {program : List UInt8} (fits : program.length ≤ 0xE00) :
    (fresh.overlay programStart program.toArray).bytes.toList = layout program := by
  have inside : programStart + program.toArray.size ≤ 4096 := by
    simp only [programStart, List.size_toArray]
    omega
  have start : programStart - lowest.length = 0x160 := by
    rw [length_lowest]
    rfl
  have finish : programStart + program.length - lowest.length = 0x160 + program.length := by
    simp only [programStart, length_lowest]
    omega
  have gap : min 0x160 0xF60 = 0x160 := rfl
  have rest : 0xF60 - (0x160 + program.length) = 0xE00 - program.length := by omega
  have low : lowest.length ≤ programStart := by
    rw [length_lowest]
    decide
  rw [toList_overlay fresh inside, toList_fresh, List.take_append, List.drop_append,
    List.size_toArray, start, finish, List.take_of_length_le low,
    List.drop_of_length_le (Nat.le_add_right_of_le low), List.take_replicate,
    List.drop_replicate, gap, rest, layout, List.nil_append, List.append_assoc]

theorem overlay_fresh (program : List UInt8) (fits : program.length ≤ 0xE00) :
    fresh.overlay programStart program.toArray = ofProgram program fits :=
  congrArg Memory.mk (Vector.toList_inj.mp (toList_overlay_fresh fits))

end Memory

def Machine.ofProgram (legacy : Bool) (random : RandomSource) (program : List UInt8)
    (fits : program.length ≤ 0xE00) : Machine :=
  powerOn legacy (Memory.ofProgram program fits) Keypad.released random

theorem Machine.loadProgram_new (legacy : Bool) (random : RandomSource) {program : List UInt8}
    (fits : program.length ≤ 0xE00) :
    (new legacy random).loadProgram program.toArray =
      .ok (program.length, ofProgram legacy random program fits) := by
  have copied : (new legacy random).memory.loadProgram program.toArray =
      .ok (program.length, Memory.ofProgram program fits) := by
    rw [← Memory.overlay_fresh program fits]
    exact if_pos fits
  simp only [loadProgram, copied]
  rfl

theorem Interpreter.perform_load_new (legacy : Bool) (random : RandomSource) (scale : Int)
    (tracing : Bool) {program : List UInt8} (fits : program.length ≤ 0xE00) :
    (new (Machine.new legacy random) scale tracing).perform (.load program.toArray) =
      new (Machine.ofProgram legacy random program fits) scale tracing := by
  have loaded := Machine.loadProgram_new legacy random fits
  simp only [perform, new, loaded]

end ChipEight
