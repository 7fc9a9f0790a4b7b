import SeededText.Text.Unicode.Classes

/-!
Contract: the tokens of a pattern and the places where they stand.

Owns: positions and how characters move them, token kinds, names.
Does not own: cutting a source into tokens (`SeededText.Pattern.Lexer`).
-/

namespace SeededText.Pattern

open Text

/-- A place in a source: line and column count from one, the column in characters; the offset
counts bytes from zero. -/
structure Position where
  line : Nat
  column : Nat
  offset : Nat
deriving DecidableEq, Repr, Inhabited

/-- The place of the first character of a source. -/
def Position.start : Position := ⟨1, 1, 0⟩

/-- The place behind one character. -/
def Position.next (position : Position) (character : Char) : Position :=
  if character = '\n' then
    ⟨position.line + 1, 1, position.offset + character.utf8Size⟩
  else
    ⟨position.line, position.column + 1, position.offset + character.utf8Size⟩

/-- The place behind several characters. -/
def Position.after (position : Position) (characters : List Char) : Position :=
  characters.foldl Position.next position

def Position.text (position : Position) : String :=
  s!"Ln {position.line}, Col {position.column}"

/-- A problem together with its place. -/
structure Located (α : Type) where
  position : Position
  problem : α
deriving DecidableEq, Repr

inductive Bracket where
  | brace
  | square
  | round
  | angle
deriving DecidableEq, Repr

inductive TokenKind where
  | text
  | blank
  /-- The value is everything behind the backslash. -/
  | escape
  /-- The value is what stands between the quotes, with doubled quotes single. -/
  | constant
  /-- The value is the body and the flags, with `//` between them. -/
  | regex
  | opens (bracket : Bracket)
  | closes (bracket : Bracket)
  | bar
  | semicolon
  | colon
  | doubleColon
  | atSign
  | question
  | exclamation
  | hyphen
  | equals
  | ampersand
  | dollar
  | plus
deriving DecidableEq, Repr

/-- The bracket that a token of this kind opens. -/
def TokenKind.opened? : TokenKind → Option Bracket
  | .opens bracket => some bracket
  | _ => none

def TokenKind.isCloser : TokenKind → Bool
  | .closes _ => true
  | _ => false

/-- Tokens of these kinds print their value when they run. -/
def TokenKind.isVerbatim : TokenKind → Bool
  | .escape | .regex | .opens _ | .closes _ => false
  | _ => true

structure Token where
  kind : TokenKind
  value : String
  position : Position
deriving DecidableEq, Repr

def isNameStart (character : Char) : Bool :=
  isAsciiLetter character || character == '_'

def isNameCharacter (character : Char) : Bool :=
  isAsciiLetter character || isAsciiDigit character || character == '_' || character == '-'

/-- Names of tags, flags, subroutines, channels and query macros: ASCII letters, digits, underscores
and hyphens, beginning with a letter or an underscore. -/
def isName (name : String) : Bool :=
  match name.toList with
  | [] => false
  | first :: rest => isNameStart first && rest.all isNameCharacter

end SeededText.Pattern
