/-!
Contract: seeds of named streams.

`deriveSeed` mixes a seed with a name, so that one run gives each name a stream of its own and the
same name always has the same stream.

Owns: the mixing of bytes and seeds.
Does not own: the stream of a seed (`SeededText.Random.Generator`).
-/

namespace SeededText.Random

/-- Number written by bytes, least significant first. -/
def littleEndian (bytes : List UInt8) : Nat :=
  bytes.foldr (fun byte value => byte.toNat + 256 * value) 0

/-- Low half of the 128-bit product, exclusive-or its high half. -/
def foldedProduct (left right : Nat) : Nat :=
  let product := left * right
  (product % UInt64.size) ^^^ (product / UInt64.size)

def nameSeedFirst : Nat := 0x243f6a8885a308d3

def nameSeedSecond : Nat := 0x13198a2e03707344

def nameSeedThird : Nat := 0xa4093822299f31d0

def nameSeedMultiplier : Nat := 0xf1357aea2e62a9c5

/-- Number in the `count` bytes from `start` on. -/
def bytesAt (bytes : List UInt8) (start count : Nat) : Nat :=
  littleEndian ((bytes.drop start).take count)

/-- The two mixing states after a name of at most sixteen bytes. -/
def mixShort (bytes : List UInt8) : Nat × Nat :=
  let size := bytes.length
  if 8 ≤ size then
    (nameSeedFirst ^^^ bytesAt bytes 0 8, nameSeedSecond ^^^ bytesAt bytes (size - 8) 8)
  else if 4 ≤ size then
    (nameSeedFirst ^^^ bytesAt bytes 0 4, nameSeedSecond ^^^ bytesAt bytes (size - 4) 4)
  else if 0 < size then
    (nameSeedFirst ^^^ bytesAt bytes 0 1,
      nameSeedSecond ^^^ (256 * bytesAt bytes (size - 1) 1 ||| bytesAt bytes (size / 2) 1))
  else (nameSeedFirst, nameSeedSecond)

/-- Mixes `count` blocks of sixteen bytes into the two states. -/
def mixBlocks : Nat → List UInt8 → Nat × Nat → Nat × Nat
  | 0, _, states => states
  | count + 1, bytes, (first, second) =>
      let mixed := foldedProduct (first ^^^ bytesAt bytes 0 8)
        (nameSeedThird ^^^ bytesAt bytes 8 8)
      mixBlocks count (bytes.drop 16) (second, mixed)

/-- The two mixing states after a name of more than sixteen bytes: every full block before the last
byte, then the last sixteen bytes. -/
def mixLong (bytes : List UInt8) : Nat × Nat :=
  let size := bytes.length
  let (first, second) := mixBlocks ((size - 1) / 16) bytes (nameSeedFirst, nameSeedSecond)
  (first ^^^ bytesAt bytes (size - 16) 8, second ^^^ bytesAt bytes (size - 8) 8)

/-- Digest of a byte string. -/
def digestBytes (bytes : List UInt8) : Nat :=
  let (first, second) := if bytes.length ≤ 16 then mixShort bytes else mixLong bytes
  foldedProduct first second ^^^ bytes.length

def rotateLeft64 (value : UInt64) (amount : UInt64) : UInt64 :=
  (value <<< amount) ||| (value >>> (64 - amount))

/-- Seed of the stream called `name` in a run with the given seed. -/
def deriveSeed (seed : UInt64) (name : String) : UInt64 :=
  let parts := [seed.toNat, digestBytes name.toUTF8.toList, 0xff]
  let mixed := parts.foldl
    (fun state part => (state + part) * nameSeedMultiplier % UInt64.size) 0
  rotateLeft64 mixed.toUInt64 26

end SeededText.Random
