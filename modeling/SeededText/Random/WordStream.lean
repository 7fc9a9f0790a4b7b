/-!
Contract: the endless stream of 32-bit words that a 64-bit seed determines.

The words are the blocks of the ChaCha cipher with twelve rounds, in counter order, under a key that
the seed expands to. `word` gives the word at any index, so a position in the stream is a number.

Owns: seed expansion, the block function, the indexed stream.
Does not own: how draws use words (`SeededText.Random.Generator`).
-/

namespace SeededText.Random

/-- Multiplier and increment of the congruential sequence that expands a seed. -/
def seedMultiplier : UInt64 := 6364136223846793005

def seedIncrement : UInt64 := 11634580027462260723

def rotateRight32 (value amount : UInt32) : UInt32 :=
  (value >>> amount) ||| (value <<< (32 - amount))

def rotateLeft32 (value amount : UInt32) : UInt32 :=
  (value <<< amount) ||| (value >>> (32 - amount))

/-- One 32-bit word of key material from a state of the congruential sequence. -/
def permutedWord (state : UInt64) : UInt32 :=
  let mixed := (((state >>> 18) ^^^ state) >>> 27).toUInt32
  rotateRight32 mixed (state >>> 59).toUInt32

/-- The next `count` words of key material after `state`. -/
def keyWords : Nat → UInt64 → List UInt32
  | 0, _ => []
  | count + 1, state =>
      let next := state * seedMultiplier + seedIncrement
      permutedWord next :: keyWords count next

/-- The eight key words of a stream. -/
structure StreamKey where
  words : Array UInt32
deriving DecidableEq, Repr

def StreamKey.ofSeed (seed : UInt64) : StreamKey :=
  ⟨(keyWords 8 seed).toArray⟩

/-- One quarter round on the words at the four given places. -/
def quarterRound (state : Array UInt32) (a b c d : Nat) : Array UInt32 :=
  let wordA := state.getD a 0 + state.getD b 0
  let wordD := rotateLeft32 (state.getD d 0 ^^^ wordA) 16
  let wordC := state.getD c 0 + wordD
  let wordB := rotateLeft32 (state.getD b 0 ^^^ wordC) 12
  let wordA := wordA + wordB
  let wordD := rotateLeft32 (wordD ^^^ wordA) 8
  let wordC := wordC + wordD
  let wordB := rotateLeft32 (wordB ^^^ wordC) 7
  (((state.setIfInBounds a wordA).setIfInBounds b wordB).setIfInBounds c wordC).setIfInBounds d
    wordD

/-- A column round followed by a diagonal round. -/
def doubleRound (state : Array UInt32) : Array UInt32 :=
  let state := quarterRound state 0 4 8 12
  let state := quarterRound state 1 5 9 13
  let state := quarterRound state 2 6 10 14
  let state := quarterRound state 3 7 11 15
  let state := quarterRound state 0 5 10 15
  let state := quarterRound state 1 6 11 12
  let state := quarterRound state 2 7 8 13
  quarterRound state 3 4 9 14

def doubleRounds : Nat → Array UInt32 → Array UInt32
  | 0, state => state
  | count + 1, state => doubleRounds count (doubleRound state)

/-- The input of a block: constants, key, block counter, two zero words. -/
def blockInput (key : StreamKey) (counter : UInt64) : Array UInt32 :=
  (#[0x61707865, 0x3320646e, 0x79622d32, 0x6b206574] : Array UInt32) ++ key.words ++
    #[counter.toUInt32, (counter >>> 32).toUInt32, 0, 0]

/-- The sixteen words of one block. -/
def block (key : StreamKey) (counter : UInt64) : Array UInt32 :=
  let input := blockInput key counter
  Array.zipWith (· + ·) (doubleRounds 6 input) input

/-- The word of the stream at `index`. -/
def word (key : StreamKey) (index : Nat) : UInt32 :=
  (block key (index / 16).toUInt64).getD (index % 16) 0

/-- Number of words after which every stream repeats. A block has sixteen. -/
def streamPeriod : Nat := 16 * UInt64.size

end SeededText.Random
