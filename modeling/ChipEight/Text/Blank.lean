set_option autoImplicit false

namespace ChipEight.Text

def isPlainBlank (character : Char) : Bool :=
  let code := character.toNat
  code == 0x20 || (0x09 ≤ code && code ≤ 0x0D)

def isWideBlank (character : Char) : Bool :=
  let code := character.toNat
  [0x85, 0xA0, 0x1680, 0x2028, 0x2029, 0x202F, 0x205F, 0x3000].contains code ||
    (0x2000 ≤ code && code ≤ 0x200A)

end ChipEight.Text
