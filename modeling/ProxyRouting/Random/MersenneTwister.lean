/-!
# The 64-bit Mersenne twister

The generator is a linear recurrence on 64-bit words: each word is made of the one 312
places before it, the one after that, and the one 156 places before. The last 312 words
are kept in a ring, in which the oldest word gives its place to the new one. An output
is a new word with its bits tempered.
-/

namespace ProxyRouting.Random

/-- How many words the recurrence reaches back. -/
abbrev degree : Nat := 312

/-- A generator: its last words, and the place of the oldest one. -/
structure MersenneTwister where
  /-- The ring of words. -/
  words : Vector UInt64 degree
  /-- The place of the oldest word. -/
  oldest : Fin degree
  deriving DecidableEq

namespace MersenneTwister

/-! ### Seeding -/

/-- The multiplier of the seeding recurrence. -/
def multiplier : UInt64 := 6364136223846793005

/-- The words that follow from a word, which is the one at place `i`. -/
def seedWords : Nat → UInt64 → UInt64 → List UInt64
  | 0, _, _ => []
  | count + 1, i, x =>
    x :: seedWords count (i + 1) (multiplier * (x ^^^ (x >>> 62)) + (i + 1))

theorem length_seedWords (count : Nat) (i x : UInt64) :
    (seedWords count i x).length = count := by
  induction count generalizing i x with
  | zero => rfl
  | succ count ih => simp [seedWords, ih]

/-- The generator of a seed. -/
def ofSeed (seed : UInt64) : MersenneTwister where
  words := ⟨(seedWords degree 0 seed).toArray, by simp [length_seedWords]⟩
  oldest := 0

/-! ### Running -/

/-- The word made of the high bits of one word and the low bits of the next. -/
def twist (high low : UInt64) : UInt64 :=
  let y := (high &&& 0xFFFFFFFF80000000) ||| (low &&& 0x7FFFFFFF)
  (y >>> 1) ^^^ (if y &&& 1 = 1 then 0xB5026F5AA96619E9 else 0)

/-- Spreads the bits of a word. -/
def temper (x : UInt64) : UInt64 :=
  let x := x ^^^ ((x >>> 29) &&& 0x5555555555555555)
  let x := x ^^^ ((x <<< 17) &&& 0x71D67FFFEDA60000)
  let x := x ^^^ ((x <<< 37) &&& 0xFFF7EEE000000000)
  x ^^^ (x >>> 43)

/-- The next output, and the generator after it. -/
def next (g : MersenneTwister) : UInt64 × MersenneTwister :=
  let word := g.words[g.oldest + 156] ^^^ twist g.words[g.oldest] g.words[g.oldest + 1]
  (temper word, { words := g.words.set g.oldest word, oldest := g.oldest + 1 })

end MersenneTwister

end ProxyRouting.Random
