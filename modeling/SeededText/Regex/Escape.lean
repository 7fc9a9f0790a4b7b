import SeededText.Regex.Expr
import SeededText.Regex.Flags

/-!
Contract: what a backslash introduces in a regex.

Owns: escapes of characters, of classes and of assertions.
Does not own: where an escape may stand (`SeededText.Regex.Bracketed`, `SeededText.Regex.Parser`).
-/

namespace SeededText.Regex

open Text

inductive Primitive where
  | literal (character : Char)
  | charClass (charClass : CharClass)
  | assertion (assertion : Assertion)

/-- Characters up to a closing brace, without layout, and what follows the brace. -/
def untilBrace? (flags : Flags) : List Char → Option (List Char × List Char)
  | [] => none
  | character :: rest =>
      if character = '}' then some ([], rest)
      else (untilBrace? flags (flags.skip rest)).map fun (inside, behind) =>
        (character :: inside, behind)
termination_by characters => characters.length
decreasing_by exact Nat.lt_succ_of_le (flags.length_skip rest)

/-- The next `count` hexadecimal digits, with layout passed over behind each. -/
def takeHexDigits? (flags : Flags) : Nat → List Char → Option (List Char × List Char)
  | 0, characters => some ([], characters)
  | count + 1, characters =>
      match characters with
      | [] => none
      | digit :: rest =>
          if isAsciiHexDigit digit then
            (takeHexDigits? flags count (flags.skip rest)).map fun (digits, behind) =>
              (digit :: digits, behind)
          else none

/-- The character with a code point, if there is one. -/
def codePoint? (point : Nat) : Option Char :=
  if point.isValidChar then some (Char.ofNat point) else none

/-- A literal given by `count` hexadecimal digits or by digits in braces. A byte above ASCII, which
two digits give, needs the flag `u`. -/
def readHexadecimal (flags : Flags) (count : Nat) (characters : List Char) :
    Except Fault (Primitive × List Char) :=
  match flags.skip characters with
  | [] => .error .unfinishedEscape
  | '{' :: rest =>
      match untilBrace? flags (flags.skip rest) with
      | none => .error .unfinishedEscape
      | some (digits, behind) =>
          if digits.isEmpty || !digits.all isAsciiHexDigit then .error .invalidCodePoint
          else
            match codePoint? (Unicode.hexValue digits) with
            | some character => .ok (.literal character, flags.skip behind)
            | none => .error .invalidCodePoint
  | digits =>
      match takeHexDigits? flags count digits with
      | none => .error .invalidCodePoint
      | some (digits, behind) =>
          match codePoint? (Unicode.hexValue digits) with
          | some character =>
              if count = 2 ∧ ¬ flags.unicode ∧ ¬ isAscii character then .error .textOutsideAscii
              else .ok (.literal character, behind)
          | none => .error .invalidCodePoint

/-- Splits at the first `!=`, `:` or `=` if one occurs, tried in this order. -/
def splitProperty (name : List Char) : List Char × Option (List Char) :=
  let withinPair := name.takeWhile (· != '!')
  match name.drop withinPair.length with
  | '!' :: '=' :: value => (withinPair, some value)
  | _ =>
      let mark := if name.contains ':' then ':' else '='
      let property := name.takeWhile (· != mark)
      match name.drop property.length with
      | _ :: value => (property, some value)
      | [] => (name, none)

/-- The class that a property with or without a value names. -/
def propertyClass (written : List Char) : Except Fault CharClass :=
  let found? :=
    match splitProperty written with
    | (name, none) => CharClass.unnamedProperty? (CharClass.looseProperty name)
    | (property, some value) =>
        CharClass.valuedProperty? (CharClass.looseProperty property) (CharClass.looseProperty value)
  match found? with
  | some charClass => .ok charClass
  | none => .error (.unknownProperty (String.ofList written))

/-- The class behind `\p` or `\P`: one letter, or a property in braces. -/
def readProperty (flags : Flags) (negated : Bool) (characters : List Char) :
    Except Fault (Primitive × List Char) := do
  let (name, behind) ←
    match flags.skip characters with
    | [] => .error .unfinishedEscape
    | '{' :: rest =>
        match untilBrace? flags (flags.skip rest) with
        | none => .error .unfinishedEscape
        | some found => .ok found
    | letter :: rest =>
        if letter = '\\' then .error (.unknownProperty "\\") else .ok ([letter], flags.skip rest)
  if flags.unicode then
    let charClass ← flags.negate negated (flags.fold (← propertyClass name))
    return (.charClass charClass, behind)
  else .error .textOutsideAscii

/-- The classes of digits, blanks and word characters, all characters or ASCII alone. -/
def letterClass (flags : Flags) (holds : Char → Bool) : CharClass :=
  .predicate fun character => holds character && (flags.unicode || isAscii character)

def wordBoundary? (name : String) : Option Assertion :=
  match name with
  | "start" => some .wordStart
  | "end" => some .wordEnd
  | "start-half" => some .wordStartHalf
  | "end-half" => some .wordEndHalf
  | _ => none

/-- A word boundary, which may have its sort in braces; braces that do not begin with a letter or a
hyphen are left for a repetition. -/
def readWordBoundary (flags : Flags) (characters : List Char) :
    Except Fault (Primitive × List Char) :=
  match characters with
  | '{' :: rest =>
      let inside := flags.skip rest
      match inside with
      | [] => .error .unfinishedEscape
      | first :: _ =>
          if isAsciiLetter first || first == '-' then
            match untilBrace? flags inside with
            | none => .error .unfinishedEscape
            | some (name, behind) =>
                match wordBoundary? (String.ofList name) with
                | some assertion => .ok (.assertion assertion, behind)
                | none => .error (.unknownWordBoundary (String.ofList name))
          else .ok (.assertion .wordBoundary, characters)
  | _ => .ok (.assertion .wordBoundary, characters)

/-- Characters that stand for another one behind a backslash. -/
def controlEscape? : Char → Option Char
  | 'a' => some '\x07'
  | 'f' => some '\x0c'
  | 't' => some '\t'
  | 'n' => some '\n'
  | 'r' => some '\r'
  | 'v' => some '\x0b'
  | _ => none

/-- ASCII characters that a backslash keeps: all but letters, digits and angle brackets. -/
def isPlainEscape (code : Char) : Bool :=
  isAscii code && !isAsciiLetter code && !isAsciiDigit code && code != '<' && code != '>'

/-- What follows a backslash. -/
def readEscapeSequence (flags : Flags) : List Char → Except Fault (Primitive × List Char)
  | [] => .error .unfinishedEscape
  | code :: rest => do
      let classOf (negated : Bool) (holds : Char → Bool) :
          Except Fault (Primitive × List Char) := do
        let charClass ← flags.negate negated (letterClass flags holds)
        return (.charClass charClass, rest)
      if isAsciiDigit code then .error .backReference
      else
        match code with
        | 'x' => readHexadecimal flags 2 rest
        | 'u' => readHexadecimal flags 4 rest
        | 'U' => readHexadecimal flags 8 rest
        | 'p' => readProperty flags false rest
        | 'P' => readProperty flags true rest
        | 'd' => classOf false isDecimalDigit
        | 'D' => classOf true isDecimalDigit
        | 's' => classOf false isBlank
        | 'S' => classOf true isBlank
        | 'w' => classOf false isWordCharacter
        | 'W' => classOf true isWordCharacter
        | 'A' => .ok (.assertion .textStart, rest)
        | 'z' => .ok (.assertion .textEnd, rest)
        | 'b' => readWordBoundary flags rest
        | 'B' => .ok (.assertion .notWordBoundary, rest)
        | '<' => .ok (.assertion .wordStart, rest)
        | '>' => .ok (.assertion .wordEnd, rest)
        | _ =>
            match controlEscape? code with
            | some character => .ok (.literal character, rest)
            | none =>
                if isPlainEscape code then .ok (.literal code, rest)
                else .error (.unknownEscape code)

end SeededText.Regex
