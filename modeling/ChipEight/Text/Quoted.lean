import ChipEight.Text.Hex
import ChipEight.Text.Printable

set_option autoImplicit false

namespace ChipEight.Text

def quoteFor (text : List Char) : Char :=
  if text.contains '\'' && !text.contains '"' then '"' else '\''

def escapedCode (code : Nat) : String :=
  if code < 0x100 then "\\x" ++ paddedHex "" 2 code
  else if code < 0x10000 then "\\u" ++ paddedHex "" 4 code
  else "\\U" ++ paddedHex "" 8 code

def escaped (quote character : Char) : String :=
  if character = quote || character = '\\' then "\\" ++ String.singleton character
  else if character = '\t' then "\\t"
  else if character = '\n' then "\\n"
  else if character = '\r' then "\\r"
  else if isPrintable character then String.singleton character
  else escapedCode character.toNat

def quoted (text : String) : String :=
  let quote := quoteFor text.toList
  String.singleton quote ++ String.join (text.toList.map (escaped quote)) ++ String.singleton quote

end ChipEight.Text
