set_option autoImplicit false

namespace ChipEight.Width

-- Whether a number fits in 64 signed bits: neither it nor its negative is too large.
def fits (number : Int) : Bool :=
  decide (number.toNat < 0x8000000000000000 ∧ (-number).toNat ≤ 0x8000000000000000)

-- The low 32 bits of a number, read with a sign, provided that the number fits in 64.
def narrow? (number : Int) : Option Int :=
  if fits number then some (number.bmod 0x100000000) else none

end ChipEight.Width
