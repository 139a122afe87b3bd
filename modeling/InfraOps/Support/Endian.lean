import Mathlib.Algebra.Ring.Nat

/-!
# Numbers as bytes

A number in a fixed number of bytes, in either order, and the numbers that bytes stand for.
-/

namespace InfraOps

abbrev Bytes := List UInt8

def littleValue : Bytes → Nat
  | [] => 0
  | b :: bs => b.toNat + 256 * littleValue bs

def bigValue (bs : Bytes) : Nat := littleValue bs.reverse

end InfraOps
