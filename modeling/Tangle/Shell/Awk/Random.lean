/-!
# Random numbers

A sequence of numbers below 2³¹ that look random and depend on nothing but a
seed. Each word is the sum, below 2³², of the one 31 places and the one three
places before it, and the number is the word without its last bit
(`Random.next`). The first words come from multiplying with 16807 below the
prime 2³¹ − 1, and 310 words are passed over.
-/

namespace Tangle

namespace Shell

namespace Awk

/-- The last words of a sequence, the latest first. -/
structure Random where
  /-- The words. -/
  words : List Nat

namespace Random

/-- The greatest number. -/
def greatest : Nat := Nat.pow 2 31 - 1

/-- How many words count. -/
def memory : Nat := 31

/-- The number at a place of the sequence and the sequence after it. -/
def next (r : Random) : Nat × Random :=
  let word := (r.words.getD (memory - 1) 0 + r.words.getD 2 0) % Nat.pow 2 32
  (word / 2, ⟨word :: r.words.take (memory - 1)⟩)

/-- The sequence after so many numbers. -/
def drop : Nat → Random → Random
  | 0, r => r
  | n + 1, r => drop n r.next.2

/-- The words that follow one by multiplying, the last one first. -/
def multiples : Nat → Int → List Int → List Int
  | 0, _, done => done
  | n + 1, word, done =>
    let new := (16807 * word) % (greatest : Int)
    multiples n new (new :: done)

/-- The sequence of a seed. -/
def ofSeed (seed : Int) : Random :=
  let word := Int.bmod seed (Nat.pow 2 32)
  let word := if word = 0 then 1 else word
  let words := (multiples (memory - 1) word [word]).map fun w => (w.emod (Int.pow 2 32)).toNat
  -- The first three words are taken once more.
  let words := (words.reverse.take 3).reverse ++ words
  drop 310 ⟨words.take memory⟩

/-- The next number as a part of one. -/
def fraction (r : Random) : Float × Random :=
  let (n, r) := r.next
  (Float.ofNat n / Float.ofNat greatest, r)

end Random

end Awk

end Shell

end Tangle
