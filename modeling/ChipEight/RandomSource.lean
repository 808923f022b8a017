set_option autoImplicit false

namespace ChipEight

structure RandomSource where
  bytes : Nat → UInt8
  drawn : Nat

namespace RandomSource

def next (source : RandomSource) : UInt8 × RandomSource :=
  (source.bytes source.drawn, { source with drawn := source.drawn + 1 })

def cycling (values : Array Nat) : RandomSource where
  bytes := fun place => UInt8.ofNat (values.getD (place % values.size) 0)
  drawn := 0

def scramble (word : UInt64) : UInt64 :=
  let once := (word ^^^ (word >>> 30)) * 0xBF58476D1CE4E5B9
  let twice := (once ^^^ (once >>> 27)) * 0x94D049BB133111EB
  twice ^^^ (twice >>> 31)

def seeded (seed : UInt64) : RandomSource where
  bytes := fun place =>
    (scramble (seed + 0x9E3779B97F4A7C15 * (UInt64.ofNat place + 1)) >>> 56).toUInt8
  drawn := 0

end RandomSource

end ChipEight
