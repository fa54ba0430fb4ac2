import ProxyRouting.Random.Uniform

/-!
# Weighted choice

Items are laid out one after another, each as long as its weight. A roll below the total
weight falls into one of them, and the walk from item to item finds which. The total is a
64-bit word, so it wraps around for absurd weights; a walk that passes all items
then ends with the last one.
-/

namespace ProxyRouting.Random

variable {α : Type}

/-- The sum of the weights. -/
def totalWeight (weight : α → UInt64) : List α → UInt64
  | [] => 0
  | item :: rest => weight item + totalWeight weight rest

/-- The item that a roll falls into. -/
def itemAt? (weight : α → UInt64) : UInt64 → List α → Option α
  | _, [] => none
  | roll, item :: rest =>
    if roll < weight item then some item else itemAt? weight (roll - weight item) rest

/-- An item by its weight among the items of a list that is not empty. -/
def choose (weight : α → UInt64) (items : List α) (h : items ≠ []) (g : MersenneTwister) :
    α × MersenneTwister :=
  let (roll, g) := uniform (totalWeight weight items) g
  ((itemAt? weight roll items).getD (items.getLast h), g)

end ProxyRouting.Random
