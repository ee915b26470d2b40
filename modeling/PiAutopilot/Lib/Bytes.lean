import Mathlib.Algebra.Group.Nat.Defs
import Mathlib.Data.List.TakeDrop

set_option autoImplicit false

namespace PiAutopilot.Lib

abbrev Bytes := List UInt8

def bigEndian32 (value : Nat) : Bytes :=
  [UInt8.ofNat (value / 2 ^ 24), UInt8.ofNat (value / 2 ^ 16), UInt8.ofNat (value / 2 ^ 8), UInt8.ofNat value]

def readBigEndian : Bytes → Nat := List.foldl (fun value byte => value * 256 + byte.toNat) 0

end PiAutopilot.Lib
