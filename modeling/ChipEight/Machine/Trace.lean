import ChipEight.Machine.Execute

set_option autoImplicit false

namespace ChipEight.Machine

open Text

def registerText (register : Fin 16) : String :=
  "V" ++ nibbleText register

def assembly (before after : Machine) : Instruction → String
  | .clearScreen => "CLS"
  | .ret => s!"RET -> 0x{addressText after.pc}"
  | .jump target => s!"JP 0x{addressText target.val}"
  | .call target => s!"CALL 0x{addressText target.val}"
  | .skipEqual x value => s!"SE {registerText x}, {value}"
  | .skipNotEqual x value => s!"SNE {registerText x}, {value}"
  | .set x value => s!"LD {registerText x}, {value}"
  | .addConstant x value => s!"ADD {registerText x}, {value}"
  | .copy x y => s!"LD {registerText x}, {registerText y}"
  | .and x y => s!"AND {registerText x}, {registerText y}"
  | .add x y => s!"ADD {registerText x}, {registerText y}"
  | .subtract x y => s!"SUB {registerText x}, {registerText y}"
  | .setIndex address => s!"LD I, 0x{addressText address.val}"
  | .random x mask =>
    let digits := paddedHex "" 2 mask.toNat
    s!"RND {registerText x}, 0x{digits}"
  | .draw x y height => s!"DRW {registerText x}, {registerText y}, {height.val}"
  | .skipPressed x => s!"SKP {registerText x}"
  | .skipReleased x => s!"SKNP {registerText x}"
  | .readDelay x => s!"LD {registerText x}, DT"
  | .setDelay x => s!"LD DT, {registerText x}"
  | .setSound x => s!"LD ST, {registerText x}"
  | .addIndex x => s!"ADD I, {registerText x}"
  | .selectGlyph x => s!"LD F, {registerText x}"
  | .storeDigits x =>
    let digits := String.intercalate " "
      ((decimalDigits (before.register x)).map fun digit => toString digit)
    s!"LD B, {registerText x} -> {digits}"
  | .loadRegisters x => s!"LD {registerText x}, [I]"

def traceLine (before after : Machine) (instruction : Instruction) : String :=
  s!"mem_addr: 0x{addressText before.pc}    instruction: " ++ assembly before after instruction

end ChipEight.Machine
