import SeededText.Regex.CharClass

/-!
Contract: settings that change how a regex is read.

Owns: the flags, their letters, layout that the extended form passes over, faults of written
regexes.
Does not own: the items of a regex (`SeededText.Regex.Escape`, `SeededText.Regex.Bracketed`,
`SeededText.Regex.Parser`).
-/

namespace SeededText.Regex

open Text

/-- What is wrong with the written form of a regex. -/
inductive Fault where
  | unfinishedEscape
  | unknownEscape (code : Char)
  | backReference
  | invalidCodePoint
  | unknownProperty (name : String)
  | unknownWordBoundary (name : String)
  | unclosedClass
  | invalidClassMember
  | invalidRange (first last : Char)
  | nothingToRepeat
  | invalidCount
  | unclosedGroup
  | unopenedGroup
  | lookAround
  | invalidGroupName
  | repeatedGroupName (name : String)
  | invalidFlag
  | textOutsideAscii
  | nestedTooDeeply
  | tooLarge
deriving DecidableEq, Repr

def Fault.message : Fault → String
  | .unfinishedEscape => "incomplete escape sequence"
  | .unknownEscape code => s!"unknown escape sequence '\\{code}'"
  | .backReference => "backreferences are not supported"
  | .invalidCodePoint => "invalid hexadecimal code point"
  | .unknownProperty name => s!"unknown character property '{name}'"
  | .unknownWordBoundary name => s!"unknown word boundary '{name}'"
  | .unclosedClass => "unclosed character class"
  | .invalidClassMember => "invalid member of a character class"
  | .invalidRange first last => s!"invalid character range '{first}-{last}'"
  | .nothingToRepeat => "repetition operator without an expression"
  | .invalidCount => "invalid repetition count"
  | .unclosedGroup => "unclosed group"
  | .unopenedGroup => "unopened group"
  | .lookAround => "look-around is not supported"
  | .invalidGroupName => "invalid group name"
  | .repeatedGroupName name => s!"repeated group name '{name}'"
  | .invalidFlag => "invalid flags"
  | .textOutsideAscii => "pattern can match text outside ASCII"
  | .nestedTooDeeply => "expression is nested too deeply"
  | .tooLarge => "expression is too large"

structure Flags where
  caseless : Bool
  /-- `^` and `$` hold at line breaks. -/
  multiline : Bool
  /-- `.` accepts line feeds. -/
  dotAll : Bool
  /-- Repetitions are lazy unless marked. -/
  swapGreed : Bool
  /-- Classes, case and word boundaries look at all characters and not at ASCII alone. -/
  unicode : Bool
  /-- Carriage returns break lines too. -/
  anyLineBreak : Bool
  /-- Blanks and comments are layout. -/
  extended : Bool
deriving DecidableEq, Repr

namespace Flags

/-- The flags with one of them, given by its letter, on or off. -/
def set? (flags : Flags) (letter : Char) (value : Bool) : Option Flags :=
  match letter with
  | 'i' => some { flags with caseless := value }
  | 'm' => some { flags with multiline := value }
  | 's' => some { flags with dotAll := value }
  | 'U' => some { flags with swapGreed := value }
  | 'u' => some { flags with unicode := value }
  | 'R' => some { flags with anyLineBreak := value }
  | 'x' => some { flags with extended := value }
  | _ => none

/-- Without blanks and comments at the start; a comment goes from `#` through the line feed. -/
def dropLayout : Bool → List Char → List Char
  | _, [] => []
  | true, character :: rest => dropLayout (character != '\n') rest
  | false, character :: rest =>
      if isBlank character then dropLayout false rest
      else if character = '#' then dropLayout true rest
      else character :: rest

theorem length_dropLayout (inComment : Bool) (characters : List Char) :
    (dropLayout inComment characters).length ≤ characters.length := by
  fun_induction dropLayout inComment characters <;> simp_all <;> omega

/-- Without layout at the start, if the flags allow layout. -/
def skip (flags : Flags) (characters : List Char) : List Char :=
  if flags.extended then dropLayout false characters else characters

theorem length_skip (flags : Flags) (characters : List Char) :
    (flags.skip characters).length ≤ characters.length := by
  unfold skip
  split
  · exact length_dropLayout false characters
  · exact Nat.le_refl _

/-- The next character behind layout, where only blanks count as layout behind a `#`. -/
def peekPast (flags : Flags) (characters : List Char) : Option Char :=
  if flags.extended then
    match characters.dropWhile isBlank with
    | '#' :: rest => (rest.dropWhile isBlank).head?
    | rest => rest.head?
  else characters.head?

/-- A class without regard to case, if the flags say so; without the flag `u` only the case of ASCII
letters is disregarded. -/
def fold (flags : Flags) (charClass : CharClass) : CharClass :=
  if flags.caseless then
    if flags.unicode then .caseless charClass
    else .intersection (.range 0 0x7F) (.caseless charClass)
  else charClass

/-- A class negated or not. Without the flag `u` a negated class could match parts of characters. -/
def negate (flags : Flags) (negated : Bool) (charClass : CharClass) : Except Fault CharClass :=
  if negated then
    if flags.unicode then .ok (.complement charClass) else .error .textOutsideAscii
  else .ok charClass

/-- Characters of words under the flags. -/
def isWord (flags : Flags) (character : Char) : Bool :=
  isWordCharacter character && (flags.unicode || isAscii character)

end Flags

end SeededText.Regex
