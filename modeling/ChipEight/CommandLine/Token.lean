import ChipEight.CommandLine.Complaint
import ChipEight.Text.DecimalDigit

set_option autoImplicit false

namespace ChipEight.CommandLine

open Text

inductive Token where
  | argument (text : String)
  | separator
  | switch (switch : Switch) (short : Bool) (attached : Option (List Char))
  | unknown (text : String)
  deriving DecidableEq, Repr

namespace Token

def splitAtEquals (word : List Char) : List Char × Option (List Char) :=
  let before := word.takeWhile (· != '=')
  match word.dropWhile (· != '=') with
  | [] => (before, none)
  | _ :: value => (before, some value)

def isDecimal (character : Char) : Bool :=
  (digitValue? character).isSome

-- Whether what follows a minus sign makes a negative number of it: digits, with or without a point
-- before the last of them. A line feed at the end does not count.
def isMagnitude (word : List Char) : Bool :=
  let body := if word.getLast? = some '\n' then word.dropLast else word
  match body.dropWhile isDecimal with
  | [] => !body.isEmpty
  | '.' :: decimals => !decimals.isEmpty && decimals.all isDecimal
  | _ => false

def unspelled (word : List Char) : Token :=
  if isMagnitude word.tail || word.contains ' ' then .argument (String.ofList word)
  else .unknown (String.ofList word)

def ofLong (word : List Char) : Except Complaint Token :=
  let (before, attached) := splitAtEquals word
  match Switch.abbreviatedBy before with
  | [] => .ok (unspelled word)
  | [(found, _)] => .ok (.switch found false attached)
  | candidates => .error (.ambiguous (String.ofList word) (candidates.map fun (_, spelling) => spelling))

def ofShort (word : List Char) : Token :=
  match Switch.ofSpelling? (String.ofList (word.take 2)) with
  | some found => .switch found true (some (word.drop 2))
  | none => unspelled word

def isShort (spelling : List Char) : Bool :=
  spelling[1]? != some '-'

def ofExact? (word : List Char) : Option Token :=
  match Switch.ofSpelling? (String.ofList word) with
  | some found => some (.switch found (isShort word) none)
  | none =>
    let (before, attached) := splitAtEquals word
    if attached.isSome then
      (Switch.ofSpelling? (String.ofList before)).map fun found =>
        .switch found (isShort before) attached
    else
      none

def ofWord (text : String) : Except Complaint Token :=
  let word := text.toList
  if word.head? != some '-' || word == ['-'] then
    .ok (.argument text)
  else
    match ofExact? word with
    | some token => .ok token
    | none => if isShort word then .ok (ofShort word) else ofLong word

def ofWords : List String → Except Complaint (List Token)
  | [] => .ok []
  | text :: rest => do
    if text = "--" then
      return .separator :: rest.map .argument
    else
      let token ← ofWord text
      return token :: (← ofWords rest)

end Token

end ChipEight.CommandLine
