import ChipEight.Text.Blank
import ChipEight.Text.DecimalDigit
import ChipEight.Text.Quoted

set_option autoImplicit false

namespace ChipEight.Text.Integer

inductive Problem where
  | malformed (text : String)
  | tooLong (digits : Nat)
  deriving DecidableEq, Repr

def digitLimit : Nat := 4300

def Problem.message : Problem → String
  | malformed text =>
    "invalid literal for int() with base 10: " ++ String.ofList ((quoted text).toList.take 200)
  | tooLong digits =>
    s!"Exceeds the limit ({digitLimit} digits) for integer string conversion: " ++
      s!"value has {digits} digits; use sys.set_int_max_str_digits() to increase the limit"

def plain (character : Char) : Char :=
  if character.toNat < 127 then character
  else if isWideBlank character then ' '
  else ((digitValue? character).map Nat.digitChar).getD '?'

def sign : List Char → Int × List Char
  | '-' :: rest => (-1, rest)
  | '+' :: rest => (1, rest)
  | rest => (1, rest)

-- The leading digits and what follows them. Every underscore stands between two digits; `due` is
-- whether a digit has to come next.
def leadingDigits (due : Bool) : List Char → Option (List Nat × List Char)
  | [] => if due then none else some ([], [])
  | character :: rest =>
    if character.isDigit then
      (leadingDigits false rest).map fun (digits, after) =>
        ((character.toNat - 48) :: digits, after)
    else if due then none
    else if character = '_' then leadingDigits true rest
    else some ([], character :: rest)

def valueOf (digits : List Nat) : Nat :=
  digits.foldl (fun value digit => 10 * value + digit) 0

def read (text : String) : Except Problem Int :=
  let (factor, body) := sign ((text.toList.map plain).dropWhile isPlainBlank)
  match leadingDigits true body with
  | none => .error (.malformed text)
  | some (digits, rest) =>
    if digitLimit < digits.length then .error (.tooLong digits.length)
    else if rest.all isPlainBlank then .ok (factor * valueOf digits)
    else .error (.malformed text)

end ChipEight.Text.Integer
