import SeededText.Regex.Program

/-!
Contract: leftmost matches with the captures of the preferred way.

From each start in turn the machine explores the program depth first, preferred branches before
others, and never twice from the same instruction and place: what failed once fails again. So a
search takes at most two steps per instruction and place.

Owns: running a program, one match, all matches that do not overlap.
Does not own: the written form of regexes.
-/

namespace SeededText.Regex

/-- Whether a condition holds at a place of a text. -/
def Assertion.holds (assertion : Assertion) (isWord : Char → Bool) (text : Array Char)
    (place : Nat) : Bool :=
  let before? := if place = 0 then none else text[place - 1]?
  let after? := text[place]?
  let wordBefore := (before?.map isWord).getD false
  let wordAfter := (after?.map isWord).getD false
  match assertion with
  | .textStart => before?.isNone
  | .textEnd => after?.isNone
  | .lineStart => before?.isNone || before? == some '\n'
  | .lineEnd => after?.isNone || after? == some '\n'
  | .anyLineStart =>
      before?.isNone || before? == some '\n' || (before? == some '\r' && after? != some '\n')
  | .anyLineEnd =>
      after?.isNone || after? == some '\r' || (after? == some '\n' && before? != some '\r')
  | .wordBoundary => wordBefore != wordAfter
  | .notWordBoundary => wordBefore == wordAfter
  | .wordStart => !wordBefore && wordAfter
  | .wordEnd => wordBefore && !wordAfter
  | .wordStartHalf => !wordBefore
  | .wordEndHalf => !wordAfter

/-- Places stored so far, two slots per group. -/
abbrev Slots := Array (Option Nat)

/-- A way that is still to be tried. -/
structure Thread where
  address : Nat
  place : Nat
  slots : Slots

/-- What trying one way gives: the end of the match, or further ways. -/
inductive Attempt where
  | matched (stop : Nat) (slots : Slots)
  | further (threads : List Thread)

def attempt (program : Program) (text : Array Char) (thread : Thread) : Attempt :=
  match program[thread.address]? with
  | none => .further []
  | some (.consume charClass next) =>
      match text[thread.place]? with
      | none => .further []
      | some character =>
          .further (if charClass.contains character then [⟨next, thread.place + 1, thread.slots⟩]
            else [])
  | some (.check assertion isWord next) =>
      .further (if assertion.holds isWord text thread.place then [{ thread with address := next }]
        else [])
  | some (.save slot next) =>
      .further [⟨next, thread.place, thread.slots.setIfInBounds slot (some thread.place)⟩]
  | some (.split preferred other) =>
      .further [{ thread with address := preferred }, { thread with address := other }]
  | some .accept => .matched thread.place thread.slots

/-- Instructions and places that were tried. -/
abbrev Visited := Array Bool

/-- Tries the threads in order until one matches. -/
def explore (program : Program) (text : Array Char) :
    Nat → List Thread → Visited → Option (Nat × Slots) × Visited
  | 0, _, visited => (none, visited)
  | _ + 1, [], visited => (none, visited)
  | steps + 1, thread :: others, visited =>
      let mark := thread.address * (text.size + 1) + thread.place
      if visited.getD mark true then explore program text steps others visited
      else
        let visited := visited.setIfInBounds mark true
        match attempt program text thread with
        | .matched stop slots => (some (stop, slots), visited)
        | .further threads => explore program text steps (threads ++ others) visited

end Regex

/-- A regex: its written form, its program, and the names of its groups. -/
structure Regex where
  source : String
  entry : Nat
  program : Regex.Program
  groupCount : Nat
  names : List (String × Nat)

namespace Regex

/-- A match: where it starts and stops, and the same for every group that took part. -/
structure Match where
  start : Nat
  stop : Nat
  groups : List (Option (Nat × Nat))
deriving DecidableEq, Repr

/-- Places of a group, if both its slots are filled. -/
def groupAt (slots : Slots) (index : Nat) : Option (Nat × Nat) :=
  match slots.getD (2 * index) none, slots.getD (2 * index + 1) none with
  | some start, some stop => some (start, stop)
  | _, _ => none

/-- The first match that starts at one of the next `starts` places. -/
def firstMatch (regex : Regex) (text : Array Char) : Nat → Nat → Visited → Option Match
  | 0, _, _ => none
  | starts + 1, start, visited =>
      let steps := 2 * visited.size + 2
      let slots := Array.replicate (2 * regex.groupCount + 2) none
      match explore regex.program text steps [⟨regex.entry, start, slots⟩] visited with
      | (some (stop, slots), _) =>
          some ⟨start, stop, some (start, stop) ::
            (List.range regex.groupCount).map fun index => groupAt slots (index + 1)⟩
      | (none, visited) => firstMatch regex text starts (start + 1) visited

/-- The leftmost match that starts at `from` or behind it. -/
def matchFrom (regex : Regex) (text : Array Char) (start : Nat) : Option Match :=
  firstMatch regex text (text.size + 1 - start) start
    (Array.replicate (regex.program.size * (text.size + 1)) false)

/-- The matches from `start` on. A match that is empty and stands right behind the match before it
is passed over in favour of the next that starts further on. -/
def matchesFrom (regex : Regex) (text : Array Char) :
    Nat → Nat → Option Nat → List Match
  | 0, _, _ => []
  | rounds + 1, start, previousStop? =>
      let found? :=
        match regex.matchFrom text start with
        | some found =>
            if found.stop = found.start ∧ previousStop? = some found.stop then
              regex.matchFrom text (start + 1)
            else some found
        | none => none
      match found? with
      | none => []
      | some found => found :: matchesFrom regex text rounds found.stop (some found.stop)

/-- All matches that do not overlap, from left to right. -/
def allMatches (regex : Regex) (text : List Char) : List Match :=
  regex.matchesFrom text.toArray (2 * text.length + 2) 0 none

def isMatch (regex : Regex) (text : List Char) : Bool :=
  (regex.matchFrom text.toArray 0).isSome

end Regex

end SeededText
