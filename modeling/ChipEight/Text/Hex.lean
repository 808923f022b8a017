set_option autoImplicit false

namespace ChipEight.Text

def hexDigits (number : Nat) : String :=
  String.ofList (Nat.toDigits 16 number)

-- Zeros fill the text up to the width, between the sign with the mark and the digits.
def paddedHex (mark : String) (width : Nat) (number : Int) : String :=
  let lead := (if number < 0 then "-" else "") ++ mark
  let digits := hexDigits number.natAbs
  lead ++ String.ofList (List.replicate (width - lead.length - digits.length) '0') ++ digits

def addressText (address : Int) : String :=
  paddedHex "" 4 address

def opcodeText (opcode : Int) : String :=
  paddedHex "0x" 6 opcode

def nibbleText (nibble : Fin 16) : String :=
  String.singleton (Nat.digitChar nibble.val).toUpper

end ChipEight.Text
