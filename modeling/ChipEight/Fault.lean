import ChipEight.Text.Hex

set_option autoImplicit false

namespace ChipEight

open Text

instance exceptDecidableEq {ε α : Type} [DecidableEq ε] [DecidableEq α] :
    DecidableEq (Except ε α)
  | .ok left, .ok right => decidable_of_iff (left = right) (by simp)
  | .error left, .error right => decidable_of_iff (left = right) (by simp)
  | .ok _, .error _ => isFalse nofun
  | .error _, .ok _ => isFalse nofun

inductive Fault where
  | addressOutside (address : Int)
  | rangeOutside (address length : Int)
  | pixelOutside (x y width height : Int)
  | indexOutside
  | viewIndexOutside
  | frameTooShort
  | indexTooWide
  | countTooWide
  | noRoom
  | stackFull (depth : Int)
  | stackEmpty
  | notAByte
  | zeroStep
  | negativeSize
  | programTooLong (length : Nat)
  | readOnlyView
  | noFileName
  | nullInTitle
  | unusableWindowSize
  | negativeWindow
  | windowTooLarge
  | unusableSquare
  | unimplemented (opcode : Int)
  deriving DecidableEq, Repr

namespace Fault

-- The families of faults. A running machine halts on `bounds` and `opcode` only.
inductive Kind where
  | bounds
  | count
  | room
  | value
  | misuse
  | window
  | opcode
  deriving DecidableEq, Repr

def kind : Fault → Kind
  | addressOutside _ | rangeOutside _ _ | pixelOutside _ _ _ _ => .bounds
  | indexOutside | viewIndexOutside | frameTooShort | indexTooWide => .bounds
  | stackFull _ | stackEmpty => .bounds
  | countTooWide => .count
  | noRoom => .room
  | notAByte | zeroStep | negativeSize | programTooLong _ | nullInTitle => .value
  | readOnlyView | noFileName | unusableWindowSize | unusableSquare => .misuse
  | negativeWindow | windowTooLarge => .window
  | unimplemented _ => .opcode

def message : Fault → String
  | addressOutside address =>
    s!"Memory address 0x{addressText address} is outside of the 4KB address space"
  | rangeOutside address length =>
    s!"Memory range 0x{addressText address}+{length} is outside of the 4KB address space"
  | pixelOutside x y width height =>
    s!"Pixel ({x}, {y}) is outside of the {width}x{height} display"
  | indexOutside => "bytearray index out of range"
  | viewIndexOutside => "index out of bounds on dimension 1"
  | frameTooShort => "index out of range"
  | indexTooWide | countTooWide => "cannot fit 'int' into an index-sized integer"
  | noRoom => ""
  | stackFull depth =>
    s!"The CHIP-8 stack can contain at most {depth} addresses. Limit exceeded"
  | stackEmpty => "Tried to return from a subroutine with an empty stack"
  | notAByte => "byte must be in range(0, 256)"
  | zeroStep => "slice step cannot be zero"
  | negativeSize => "negative count"
  | programTooLong length =>
    s!"The ROM is {length} bytes long but only 3584 bytes are available"
  | readOnlyView => "cannot modify read-only memory"
  | noFileName => "expected str, bytes or os.PathLike object, not list"
  | nullInTitle => "embedded null character"
  | unusableWindowSize => "size must be two numbers"
  | negativeWindow => "Cannot set negative sized display mode"
  | windowTooLarge => "Window is too large."
  | unusableSquare => "rect argument is invalid"
  | unimplemented opcode => s!"The opcode ({opcodeText opcode}) is not implemented"

def halts (fault : Fault) : Bool :=
  fault.kind == .bounds || fault.kind == .opcode

end Fault

end ChipEight
