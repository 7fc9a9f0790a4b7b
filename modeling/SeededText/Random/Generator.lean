import SeededText.Random.WordStream

/-!
Contract: draws from a word stream.

A draw of one of `count` values multiplies a random word by `count` and takes the high half of the
product; words whose low half exceeds the acceptance zone are drawn again, which makes the values
equally likely. As the stream repeats after `streamPeriod` words, a draw that is refused that often
would never be accepted, so `acceptedDraw` stops there.

Owns: generators, draws below a bound in the three widths in use, random order of a list, the
interface `IndexSource` of everything that can choose an index.
Does not own: the word stream.
-/

namespace SeededText.Random

/-- A position in the stream of a key. -/
structure Generator where
  key : StreamKey
  position : Nat
deriving DecidableEq, Repr

def Generator.ofSeed (seed : UInt64) : Generator :=
  ⟨StreamKey.ofSeed seed, 0⟩

/-- The next word. -/
def Generator.nextWord (generator : Generator) : Nat × Generator :=
  ((word generator.key generator.position).toNat,
    { generator with position := generator.position + 1 })

/-- The next two words as one number, the first word low. -/
def Generator.nextDoubleWord (generator : Generator) : Nat × Generator :=
  let (low, generator) := generator.nextWord
  let (high, generator) := generator.nextWord
  (low + UInt32.size * high, generator)

/-- The high half of the first product with `count` whose low half lies in the zone. -/
def acceptedDraw (next : Generator → Nat × Generator) (span zone count : Nat) :
    Nat → Generator → Nat × Generator
  | 0, generator => (0, generator)
  | attempts + 1, generator =>
      let (value, generator) := next generator
      let product := value * count
      if product % span ≤ zone then (product / span, generator)
      else acceptedDraw next span zone count attempts generator

/-- The largest zone of the form `count · 2ᵏ - 1` below `2 ^ bits`. -/
def shiftedZone (bits count : Nat) : Nat :=
  count <<< (bits - 1 - count.log2) - 1

/-- The largest zone that holds every value equally often. -/
def exactZone (bits count : Nat) : Nat :=
  1 <<< bits - 1 - (1 <<< bits - count) % count

/-- One of `count` values from double words; for indices and 64-bit integers. -/
def Generator.below (generator : Generator) (count : Nat) : Nat × Generator :=
  acceptedDraw Generator.nextDoubleWord UInt64.size (shiftedZone 64 count) count streamPeriod
    generator

/-- One of `count` values from single words; for percentages and shuffling. -/
def Generator.belowWord (generator : Generator) (count : Nat) : Nat × Generator :=
  acceptedDraw Generator.nextWord UInt32.size (shiftedZone 32 count) count streamPeriod generator

/-- One of `count` values from single words with the exact zone; for single characters. -/
def Generator.belowByte (generator : Generator) (count : Nat) : Nat × Generator :=
  acceptedDraw Generator.nextWord UInt32.size (exactZone 32 count) count streamPeriod generator

/-- An integer between two bounds, both included. The full range takes a double word as it is. -/
def Generator.between (generator : Generator) (low high : Int) : Int × Generator :=
  let count := (high - low + 1).toNat
  if count < UInt64.size then
    let (offset, generator) := generator.below count
    (low + offset, generator)
  else
    let (offset, generator) := generator.nextDoubleWord
    (if offset < UInt64.size / 2 then (offset : Int) else (offset : Int) - UInt64.size, generator)

/-- Exchanges each place from `place` down to the second with a random place up to it. -/
def shuffleFrom {α : Type} : Nat → Array α → Generator → Array α × Generator
  | 0, items, generator => (items, generator)
  | place + 1, items, generator =>
      let (other, generator) := generator.belowWord (place + 2)
      shuffleFrom place (items.swapIfInBounds (place + 1) other) generator

/-- The items in random order. -/
def shuffle {α : Type} (items : Array α) (generator : Generator) : Array α × Generator :=
  shuffleFrom (items.size - 1) items generator

theorem acceptedDraw_lt (next : Generator → Nat × Generator) (span zone count attempts : Nat)
    (generator : Generator) (positive : 0 < count)
    (bounded : ∀ generator, (next generator).1 < span) :
    (acceptedDraw next span zone count attempts generator).1 < count := by
  induction attempts generalizing generator with
  | zero => simpa [acceptedDraw] using positive
  | succ attempts inductionHypothesis =>
      simp only [acceptedDraw]
      split
      · exact Nat.div_lt_of_lt_mul (Nat.mul_lt_mul_of_pos_right (bounded generator) positive)
      · exact inductionHypothesis _

theorem Generator.nextWord_lt (generator : Generator) : generator.nextWord.1 < UInt32.size :=
  UInt32.toNat_lt _

theorem Generator.nextDoubleWord_lt (generator : Generator) :
    generator.nextDoubleWord.1 < UInt64.size := by
  have lowBound := generator.nextWord_lt
  have highBound := generator.nextWord.2.nextWord_lt
  simp only [Generator.nextDoubleWord, UInt32.size, UInt64.size] at *
  omega

theorem Generator.below_lt (generator : Generator) (count : Nat) (positive : 0 < count) :
    (generator.below count).1 < count :=
  acceptedDraw_lt _ _ _ _ _ generator positive Generator.nextDoubleWord_lt

theorem Generator.belowByte_lt (generator : Generator) (count : Nat) (positive : 0 < count) :
    (generator.belowByte count).1 < count :=
  acceptedDraw_lt _ _ _ _ _ generator positive Generator.nextWord_lt

/-- Anything that can choose an index below a bound and carry on. -/
class IndexSource (σ : Type) where
  chooseBelow : σ → Nat → Nat × σ
  chooseBelow_lt : ∀ (source : σ) (count : Nat), 0 < count → (chooseBelow source count).1 < count

instance : IndexSource Generator where
  chooseBelow := Generator.below
  chooseBelow_lt := Generator.below_lt

end SeededText.Random
