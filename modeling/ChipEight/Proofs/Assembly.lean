import ChipEight.Machine.Trace
import ChipEight.Proofs.Decode

set_option autoImplicit false

namespace ChipEight

namespace Text

def nibbleValue (digit : Char) : Nat :=
  if digit.isDigit then digit.toNat - 48 else digit.toLower.toNat - 87

def hexValue (digits : List Char) : Nat :=
  digits.foldl (fun value digit => 16 * value + nibbleValue digit) 0

theorem nibbleValue_digitChar : ∀ digit < 16, nibbleValue digit.digitChar = digit := by
  decide

theorem hexValue_toDigits (number : Nat) : hexValue (Nat.toDigits 16 number) = number := by
  induction number using Nat.strongRecOn with
  | ind number ih =>
    rw [Nat.toDigits_eq_if (by decide)]
    split
    next small => simpa [hexValue] using nibbleValue_digitChar number small
    next large =>
      have front := ih (number / 16) (by omega)
      have last := nibbleValue_digitChar (number % 16) (Nat.mod_lt _ (by decide))
      simp only [hexValue, List.foldl_append] at front ⊢
      simp only [front, List.foldl_cons, List.foldl_nil, last]
      omega

theorem hexValue_zeros (count : Nat) (digits : List Char) :
    hexValue (List.replicate count '0' ++ digits) = hexValue digits := by
  induction count with
  | zero => rfl
  | succ count ih => simpa [hexValue, List.replicate_succ, nibbleValue] using ih

theorem mem_toDigits {base number : Nat} {digit : Char} (large : 1 < base)
    (member : digit ∈ Nat.toDigits base number) :
    ∃ value < base, digit = value.digitChar := by
  induction number using Nat.strongRecOn with
  | ind number ih =>
    rw [Nat.toDigits_eq_if large] at member
    split at member
    next small => exact ⟨number, small, by simpa using member⟩
    next =>
      rcases List.mem_append.mp member with front | last
      next => exact ih (number / base) (Nat.div_lt_self (by omega) large) front
      next => exact ⟨number % base, Nat.mod_lt _ (by omega), by simpa using last⟩

theorem isAlphanum_digitChar : ∀ value < 16, value.digitChar.isAlphanum = true := by
  decide

theorem isAlphanum_of_mem_toDigits {base number : Nat} {digit : Char}
    (bounds : 1 < base ∧ base ≤ 16) (member : digit ∈ Nat.toDigits base number) :
    digit.isAlphanum = true := by
  obtain ⟨value, small, rfl⟩ := mem_toDigits bounds.1 member
  exact isAlphanum_digitChar value (by omega)

theorem toList_paddedHex (width number : Nat) :
    (paddedHex "" width number).toList =
      List.replicate (width - (Nat.toDigits 16 number).length) '0' ++ Nat.toDigits 16 number := by
  have unsigned : ¬ (number : Int) < 0 := by omega
  simp [paddedHex, hexDigits, unsigned]

theorem hexValue_paddedHex (width number : Nat) :
    hexValue (paddedHex "" width number).toList = number := by
  rw [toList_paddedHex, hexValue_zeros, hexValue_toDigits]

theorem isAlphanum_of_mem_paddedHex {width number : Nat} {digit : Char}
    (member : digit ∈ (paddedHex "" width number).toList) : digit.isAlphanum = true := by
  rw [toList_paddedHex, List.mem_append] at member
  rcases member with zero | digits
  next => simp [List.eq_of_mem_replicate zero]
  next => exact isAlphanum_of_mem_toDigits (by decide) digits

end Text

theorem Instruction.lastDigit_val (digit : Fin 16) : lastDigit digit.val = digit :=
  Fin.ext (Nat.mod_eq_of_lt digit.isLt)

theorem Instruction.lastAddress_val (address : Fin 4096) : lastAddress address.val = address :=
  Fin.ext (Nat.mod_eq_of_lt address.isLt)

inductive Operand where
  | register (x : Fin 16)
  | number (value : Nat)
  | address (target : Fin 4096)
  | mask (bits : UInt8)
  | index | cell | delay | sound | glyph | digits
  deriving DecidableEq

namespace Operand

open Text

def text : Operand → List Char
  | register x => ['V', x.val.digitChar.toUpper]
  | number value => Nat.toDigits 10 value
  | address target => '0' :: 'x' :: (paddedHex "" 4 target.val).toList
  | mask bits => '0' :: 'x' :: (paddedHex "" 2 bits.toNat).toList
  | index => ['I']
  | cell => ['[', 'I', ']']
  | delay => ['D', 'T']
  | sound => ['S', 'T']
  | glyph => ['F']
  | digits => ['B']

def ofText? (text : List Char) : Option Operand :=
  if text.all Char.isDigit then some (number (Nat.ofDigitChars 10 text 0))
  else
    match text with
    | ['V', digit] => some (register (Instruction.lastDigit (nibbleValue digit)))
    | '0' :: 'x' :: code =>
      if code.length = 2 then some (mask (UInt8.ofNat (hexValue code)))
      else some (address (Instruction.lastAddress (hexValue code)))
    | _ => [index, cell, delay, sound, glyph, digits].find? fun named => named.text == text

theorem length_mask (bits : UInt8) : (paddedHex "" 2 bits.toNat).toList.length = 2 := by
  have small : (Nat.toDigits 16 bits.toNat).length ≤ 2 :=
    (Nat.length_toDigits_le_iff (by decide) (by decide)).mpr bits.toNat_lt
  rw [toList_paddedHex, List.length_append, List.length_replicate]
  omega

theorem length_address (target : Nat) : 4 ≤ (paddedHex "" 4 target).toList.length := by
  rw [toList_paddedHex, List.length_append, List.length_replicate]
  omega

theorem nibbleValue_toUpper : ∀ x : Fin 16, nibbleValue x.val.digitChar.toUpper = x.val := by
  decide

theorem ofText?_register (digit : Char) :
    ofText? ['V', digit] = some (register (Instruction.lastDigit (nibbleValue digit))) :=
  rfl

theorem ofText?_prefixed (code : List Char) :
    ofText? ('0' :: 'x' :: code) =
      if code.length = 2 then some (mask (UInt8.ofNat (hexValue code)))
      else some (address (Instruction.lastAddress (hexValue code))) :=
  rfl

theorem ofText?_text (operand : Operand) : ofText? operand.text = some operand := by
  cases operand with
  | register x =>
    rw [text, ofText?_register, nibbleValue_toUpper, Instruction.lastDigit_val]
  | number value =>
    have digits : (Nat.toDigits 10 value).all Char.isDigit = true :=
      List.all_eq_true.mpr fun digit member =>
        Nat.isDigit_of_mem_toDigits (by decide) (by decide) member
    unfold ofText?
    rw [text, if_pos digits]
    simp
  | address target =>
    have long := length_address target.val
    rw [text, ofText?_prefixed, if_neg (by omega), hexValue_paddedHex, Instruction.lastAddress_val]
  | mask bits =>
    rw [text, ofText?_prefixed, if_pos (length_mask bits), hexValue_paddedHex]
    simp
  | _ => rfl

def isPlain (character : Char) : Bool :=
  character.isAlphanum || character == '[' || character == ']'

theorem isPlain_register : ∀ x : Fin 16, isPlain x.val.digitChar.toUpper = true := by
  decide

theorem text_plain (operand : Operand) : ∀ character ∈ operand.text, isPlain character = true := by
  have prefixed {code : List Char} (plain : ∀ character ∈ code, character.isAlphanum = true) :
      ∀ character ∈ '0' :: 'x' :: code, isPlain character = true := by
    simp only [List.forall_mem_cons]
    exact ⟨by decide, by decide, fun character member => by simp [isPlain, plain character member]⟩
  cases operand with
  | register x => simpa [text] using ⟨by decide, isPlain_register x⟩
  | number value =>
    intro digit member
    simp [isPlain, isAlphanum_of_mem_toDigits (by decide) member]
  | address target => exact prefixed fun _ => isAlphanum_of_mem_paddedHex
  | mask bits => exact prefixed fun _ => isAlphanum_of_mem_paddedHex
  | _ => exact List.all_eq_true.mp rfl

theorem not_mem_text {character : Char} (operand : Operand) (foreign : isPlain character = false) :
    character ∉ operand.text := by
  intro member
  simp [operand.text_plain character member] at foreign

def words : List Operand → List (List Char)
  | [] => []
  | [last] => [last.text]
  | operand :: next :: rest => (operand.text ++ [',']) :: words (next :: rest)

theorem mem_words {operands : List Operand} {word : List Char} (member : word ∈ words operands) :
    ∃ operand : Operand, word = operand.text ∨ word = operand.text ++ [','] := by
  fun_induction words operands with
  | case1 => simp at member
  | case2 last => exact ⟨last, .inl (by simpa using member)⟩
  | case3 operand next rest ih =>
    rcases List.mem_cons.mp member with rfl | later
    next => exact ⟨operand, .inr rfl⟩
    next => exact ih later

def bare (word : List Char) : List Char :=
  word.filter (· != ',')

theorem bare_text (operand : Operand) : bare operand.text = operand.text := by
  rw [bare, List.filter_eq_self]
  intro character member
  rw [bne_iff_ne]
  rintro rfl
  exact operand.not_mem_text (by decide) member

theorem bare_comma (operand : Operand) : bare (operand.text ++ [',']) = operand.text := by
  have kept := operand.bare_text
  rw [bare] at kept
  simp [bare, List.filter_append, kept]

theorem mapM_ofText? (operands : List Operand) :
    (words operands).mapM (fun word => ofText? (bare word)) = some operands := by
  fun_induction words operands with
  | case1 => rfl
  | case2 last => simp [bare_text, ofText?_text]
  | case3 operand next rest ih => simp [bare_comma, ofText?_text, ih]

end Operand

def Operation.mnemonic : Operation → String
  | clearScreen => "CLS"
  | ret => "RET"
  | jump => "JP"
  | call => "CALL"
  | skipEqual => "SE"
  | skipNotEqual => "SNE"
  | addConstant | add | addIndex => "ADD"
  | and => "AND"
  | subtract => "SUB"
  | random => "RND"
  | draw => "DRW"
  | skipPressed => "SKP"
  | skipReleased => "SKNP"
  | _ => "LD"

namespace Instruction

def operands : Instruction → List Operand
  | clearScreen | ret => []
  | jump target | call target => [.address target]
  | skipEqual x value | skipNotEqual x value | set x value | addConstant x value =>
    [.register x, .number value.toNat]
  | copy x y | and x y | add x y | subtract x y => [.register x, .register y]
  | setIndex target => [.index, .address target]
  | random x bits => [.register x, .mask bits]
  | draw x y height => [.register x, .register y, .number height.val]
  | skipPressed x | skipReleased x => [.register x]
  | readDelay x => [.register x, .delay]
  | setDelay x => [.delay, .register x]
  | setSound x => [.sound, .register x]
  | addIndex x => [.index, .register x]
  | selectGlyph x => [.glyph, .register x]
  | storeDigits x => [.digits, .register x]
  | loadRegisters x => [.register x, .cell]

def ofParts? (mnemonic : String) : List Operand → Option Instruction
  | [] => [("CLS", clearScreen), ("RET", ret)].lookup mnemonic
  | [.address target] => [("JP", jump target), ("CALL", call target)].lookup mnemonic
  | [.register x] => [("SKP", skipPressed x), ("SKNP", skipReleased x)].lookup mnemonic
  | [.register x, .number value] =>
    let byte := UInt8.ofNat value
    [("SE", skipEqual x byte), ("SNE", skipNotEqual x byte), ("LD", set x byte),
      ("ADD", addConstant x byte)].lookup mnemonic
  | [.register x, .register y] =>
    [("LD", copy x y), ("AND", and x y), ("ADD", add x y), ("SUB", subtract x y)].lookup mnemonic
  | [.index, .address target] => [("LD", setIndex target)].lookup mnemonic
  | [.register x, .mask bits] => [("RND", random x bits)].lookup mnemonic
  | [.register x, .register y, .number height] =>
    [("DRW", draw x y (lastDigit height))].lookup mnemonic
  | [.register x, .delay] => [("LD", readDelay x)].lookup mnemonic
  | [.delay, .register x] => [("LD", setDelay x)].lookup mnemonic
  | [.sound, .register x] => [("LD", setSound x)].lookup mnemonic
  | [.index, .register x] => [("ADD", addIndex x)].lookup mnemonic
  | [.glyph, .register x] => [("LD", selectGlyph x)].lookup mnemonic
  | [.digits, .register x] => [("LD", storeDigits x)].lookup mnemonic
  | [.register x, .cell] => [("LD", loadRegisters x)].lookup mnemonic
  | _ => none

theorem ofParts?_parts (instruction : Instruction) :
    ofParts? instruction.operation.mnemonic instruction.operands = some instruction := by
  cases instruction with
  | skipEqual x value | skipNotEqual x value | set x value | addConstant x value =>
    simp only [operands, ofParts?, UInt8.ofNat_toNat]
    rfl
  | draw x y height =>
    simp only [operands, ofParts?, lastDigit_val]
    rfl
  | _ => rfl

end Instruction

namespace Machine

open Text

def findings (before after : Machine) : Instruction → List (List Char)
  | .ret => [['-', '>'], '0' :: 'x' :: (addressText after.pc).toList]
  | .storeDigits x => ['-', '>'] ::
    (decimalDigits (before.register x)).map fun digit => Nat.toDigits 10 digit.toNat
  | _ => []

def assemblyWords (before after : Machine) (instruction : Instruction) : List (List Char) :=
  instruction.operation.mnemonic.toList :: (Operand.words instruction.operands ++
    findings before after instruction)

def traceWords (before after : Machine) (instruction : Instruction) : List (List Char) :=
  "mem_addr:".toList :: ('0' :: 'x' :: (addressText before.pc).toList) :: [] :: [] :: [] ::
    "instruction:".toList :: assemblyWords before after instruction

variable (before after : Machine) (instruction : Instruction)

theorem toList_assembly :
    (assembly before after instruction).toList =
      [' '].intercalate (assemblyWords before after instruction) := by
  cases instruction <;>
    simp [assembly, assemblyWords, Instruction.operation, Operation.mnemonic, Instruction.operands,
      Operand.words, Operand.text, findings, registerText, nibbleText, addressText, decimalDigits, toString]

theorem toList_traceLine :
    (traceLine before after instruction).toList =
      [' '].intercalate (traceWords before after instruction) := by
  simp [traceLine, traceWords, toList_assembly, assemblyWords, toString]

theorem mem_addressText {address : Int} {character : Char}
    (member : character ∈ (addressText address).toList) :
    character = '-' ∨ character.isAlphanum = true := by
  simp only [addressText, paddedHex, hexDigits, String.toList_append, List.mem_append,
    String.toList_ofList] at member
  rcases member with (sign | zero) | digit
  next =>
    split at sign <;> simp at sign
    exact .inl sign
  next => simp [List.eq_of_mem_replicate zero]
  next => exact .inr (isAlphanum_of_mem_toDigits (by decide) digit)

def Solid (word : List Char) : Prop :=
  ∀ character ∈ word, Operand.isPlain character || character ∈ ['-', '>', ',', '_', ':']

instance : DecidablePred Solid :=
  fun word => List.decidableBAll _ word

theorem solid_of_isAlphanum {word : List Char}
    (plain : ∀ character ∈ word, character.isAlphanum = true) : Solid word := by
  intro character member
  simp [Operand.isPlain, plain character member]

theorem addressText_solid (address : Int) : Solid ('0' :: 'x' :: (addressText address).toList) := by
  simp only [Solid, List.forall_mem_cons]
  refine ⟨by decide, by decide, fun character member => ?_⟩
  rcases mem_addressText member with rfl | plain
  next => decide
  next => simp [Operand.isPlain, plain]

theorem words_solid (operands : List Operand) : ∀ word ∈ Operand.words operands, Solid word := by
  intro word member character inside
  obtain ⟨operand, rfl | rfl⟩ := Operand.mem_words member
  next => simp [operand.text_plain character inside]
  next =>
    rcases List.mem_append.mp inside with text | comma
    next => simp [operand.text_plain character text]
    next => simp [List.mem_singleton.mp comma]

theorem findings_solid : ∀ word ∈ findings before after instruction, Solid word := by
  cases instruction with
  | ret => simpa [findings] using ⟨by decide, addressText_solid after.pc⟩
  | storeDigits x =>
    simp only [findings, List.forall_mem_cons, List.forall_mem_map]
    refine ⟨by decide, fun digit _ => solid_of_isAlphanum fun character member => ?_⟩
    exact isAlphanum_of_mem_toDigits (by decide) member
  | _ => simp [findings]

theorem mnemonic_solid (operation : Operation) : Solid operation.mnemonic.toList := by
  cases operation <;> decide

theorem traceWords_solid : ∀ word ∈ traceWords before after instruction, Solid word := by
  simp only [traceWords, assemblyWords, List.forall_mem_cons, List.forall_mem_append]
  exact ⟨by decide, addressText_solid before.pc, by decide, by decide, by decide, by decide,
    mnemonic_solid instruction.operation, words_solid instruction.operands,
    findings_solid before after instruction⟩

theorem mem_intercalate {separator character : Char} {words : List (List Char)}
    (member : character ∈ [separator].intercalate words) :
    character = separator ∨ ∃ word ∈ words, character ∈ word := by
  induction words with
  | nil => simp at member
  | cons word rest ih =>
    cases rest with
    | nil => exact .inr ⟨word, by simp, by simpa using member⟩
    | cons next rest =>
      simp only [List.intercalate_cons_cons, List.mem_append, List.mem_singleton] at member
      rcases member with (first | blank) | later
      next => exact .inr ⟨word, by simp, first⟩
      next => exact .inl blank
      next =>
        rcases ih later with blank | ⟨other, listed, inside⟩
        next => exact .inl blank
        next => exact .inr ⟨other, List.mem_cons_of_mem _ listed, inside⟩

theorem newline_not_mem_traceLine : '\n' ∉ (traceLine before after instruction).toList := by
  rw [toList_traceLine]
  intro member
  rcases mem_intercalate member with blank | ⟨word, listed, inside⟩
  next => exact absurd blank (by decide)
  next =>
    have solid := traceWords_solid before after instruction word listed '\n' inside
    exact absurd solid (by decide)

def ofTraceLine? (line : String) : Option (Nat × Instruction) :=
  match line.toList.splitOn ' ' with
  | _ :: address :: _ :: _ :: _ :: _ :: mnemonic :: rest => do
    let operands ← (rest.takeWhile (· ≠ ['-', '>'])).mapM fun word =>
      Operand.ofText? (Operand.bare word)
    let instruction ← Instruction.ofParts? (String.ofList mnemonic) operands
    return (hexValue (address.drop 2), instruction)
  | _ => none

theorem takeWhile_operands :
    (Operand.words instruction.operands ++ findings before after instruction).takeWhile
      (· ≠ ['-', '>']) = Operand.words instruction.operands := by
  have apart : ∀ word ∈ Operand.words instruction.operands, word ≠ ['-', '>'] := by
    rintro _ member rfl
    obtain ⟨operand, same⟩ := Operand.mem_words member
    have foreign : '>' ∉ operand.text := operand.not_mem_text (by decide)
    have arrow : '>' ∈ operand.text ∨ '>' ∈ operand.text ++ [','] := by
      rcases same with same | same <;> simp [← same]
    simp [foreign] at arrow
  rw [List.takeWhile_append_of_pos (by simpa using apart)]
  cases instruction <;> simp [findings]

theorem ofTraceLine?_traceLine (inside : 0 ≤ before.pc) :
    ofTraceLine? (traceLine before after instruction) = some (before.pc.toNat, instruction) := by
  have split : (traceLine before after instruction).toList.splitOn ' ' =
      traceWords before after instruction := by
    rw [toList_traceLine]
    refine List.splitOn_intercalate ' ' (fun word member blank => ?_) (by simp [traceWords])
    have solid := traceWords_solid before after instruction word member ' ' blank
    exact absurd solid (by decide)
  obtain ⟨address, same⟩ := Int.eq_ofNat_of_zero_le inside
  simp only [ofTraceLine?, split, traceWords, assemblyWords, takeWhile_operands,
    Operand.mapM_ofText?]
  simp [Instruction.ofParts?_parts, same, addressText, hexValue_paddedHex]

example : ofTraceLine? "mem_addr: 0x0206    instruction: RET -> 0x0204" = some (0x206, .ret) := by
  decide +kernel

end Machine

end ChipEight
