/-!
Contract: sets and maps of code points, kept as sorted ranges and arithmetic runs.

A table is written as hexadecimal text, which `RangeTable.read` and `CaseRun.readAll` decode once.
`RangeTable.contains` decides membership by bisection.

Owns:
- the written form of a range table, of a case run and of an expansion list;
- membership and image lookup.

Does not own:
- any particular property of characters.
-/

namespace SeededText.Text.Unicode

/-- Value of a hexadecimal digit, `none` for any other character. -/
def hexDigit? (character : Char) : Option Nat :=
  if '0' ≤ character ∧ character ≤ '9' then some (character.toNat - '0'.toNat)
  else if 'a' ≤ character ∧ character ≤ 'f' then some (character.toNat - 'a'.toNat + 10)
  else if 'A' ≤ character ∧ character ≤ 'F' then some (character.toNat - 'A'.toNat + 10)
  else none

/-- Number written by hexadecimal digits, most significant first. -/
def hexValue (digits : List Char) : Nat :=
  digits.foldl (fun value digit => 16 * value + (hexDigit? digit).getD 0) 0

/-- Number written by decimal digits, most significant first. -/
def decimalValue (digits : List Char) : Nat :=
  digits.foldl (fun value digit => 10 * value + (digit.toNat - '0'.toNat)) 0

/-- Nonempty runs of characters between blanks and line feeds. -/
def tableWords (text : String) : List (List Char) :=
  (text.toList.splitOnP fun character => character == ' ' || character == '\n').filter
    fun word => !word.isEmpty

/-- A set of code points as ascending, disjoint, closed ranges. -/
structure RangeTable where
  ranges : Array (Nat × Nat)
deriving Inhabited

/-- One range in its written form: `first-last`, or one number for a single code point. -/
def readRange (word : List Char) : Nat × Nat :=
  match word.splitOnP (· == '-') with
  | [first, last] => (hexValue first, hexValue last)
  | _ => (hexValue word, hexValue word)

def RangeTable.read (text : String) : RangeTable :=
  ⟨((tableWords text).map readRange).toArray⟩

/-- Bisection between two indices: `low` up to, but not including, `high`. -/
def RangeTable.bisect (ranges : Array (Nat × Nat)) (point low high : Nat) : Bool :=
  if low < high then
    let middle := low + (high - low) / 2
    match ranges[middle]? with
    | none => false
    | some (first, last) =>
        if point < first then RangeTable.bisect ranges point low middle
        else if last < point then RangeTable.bisect ranges point (middle + 1) high
        else true
  else false
termination_by high - low

def RangeTable.contains (table : RangeTable) (point : Nat) : Bool :=
  RangeTable.bisect table.ranges point 0 table.ranges.size

/-- Code points `first, first + step, …, last` with the images `target, target + step, …`. -/
structure CaseRun where
  first : Nat
  last : Nat
  step : Nat
  target : Nat

/-- One run in its written form `first,last,step,target`. -/
def CaseRun.read? (word : List Char) : Option CaseRun :=
  match word.splitOnP (· == ',') with
  | [first, last, step, target] =>
      some ⟨hexValue first, hexValue last, decimalValue step, hexValue target⟩
  | _ => none

def CaseRun.readAll (text : String) : List CaseRun :=
  (tableWords text).filterMap CaseRun.read?

/-- Image of a code point under one run. -/
def CaseRun.image? (run : CaseRun) (point : Nat) : Option Nat :=
  if run.first ≤ point ∧ point ≤ run.last ∧ (point - run.first) % run.step = 0 then
    some (run.target + (point - run.first))
  else none

/-- The code point that a run sends to `image`. -/
def CaseRun.preimage? (run : CaseRun) (image : Nat) : Option Nat :=
  if run.target ≤ image ∧ run.first + (image - run.target) ≤ run.last ∧
      (image - run.target) % run.step = 0 then
    some (run.first + (image - run.target))
  else none

/-- Image under the first run that moves the code point, else the code point itself. -/
def imageUnder (runs : List CaseRun) (point : Nat) : Nat :=
  (runs.findSome? fun run => run.image? point).getD point

/-- Code points with several images, written `point=image+image+…`. -/
def readExpansions (text : String) : List (Nat × List Nat) :=
  (tableWords text).filterMap fun word =>
    match word.splitOnP (· == '=') with
    | [point, images] => some (hexValue point, (images.splitOnP (· == '+')).map hexValue)
    | _ => none

/-- Ranges of one value of an enumerated property, under all its names in lower case. -/
structure NamedRanges where
  names : List String
  ranges : String

end SeededText.Text.Unicode
