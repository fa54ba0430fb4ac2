import ProxyRouting.Random.MersenneTwister

/-!
# Uniform numbers below a bound

A number below a bound is the high half of the product of an output with the bound. To be
exactly uniform, outputs whose product has a low half under a threshold are rejected,
and then another one is drawn: of those kept, every number has the same count.
-/

namespace ProxyRouting.Random

/-- The high half of the product of two words. -/
def highProduct (x y : UInt64) : UInt64 := UInt64.ofNat (x.toNat * y.toNat / UInt64.size)

/-- The least low half that is kept: the remainder of the number of outputs by the bound. -/
def threshold (bound : UInt64) : UInt64 := (0 - bound) % bound

/-- The number below the bound that an output gives, unless the output is rejected. -/
def below? (bound output : UInt64) : Option UInt64 :=
  if output * bound < threshold bound then none else some (highProduct output bound)

/-- The number given by the first output that is kept, among so many and one more, which is
kept in any case. -/
def firstBelow (bound : UInt64) : Nat → MersenneTwister → UInt64 × MersenneTwister
  | 0, g =>
    let (output, g) := g.next
    (highProduct output bound, g)
  | attempts + 1, g =>
    let (output, g) := g.next
    match below? bound output with
    | some number => (number, g)
    | none => firstBelow bound attempts g

/-- How many outputs may be rejected in a row. At least every second possible output is
kept, so this many rejections do not happen. -/
def maxAttempts : Nat := 4294967296

/-- A uniform number below the bound; below no bound, any output, if the bound is zero. -/
def uniform (bound : UInt64) (g : MersenneTwister) : UInt64 × MersenneTwister :=
  if bound = 0 then g.next else firstBelow bound maxAttempts g

end ProxyRouting.Random
