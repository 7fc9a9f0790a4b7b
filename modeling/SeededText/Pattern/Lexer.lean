import SeededText.Pattern.Token

/-!
Contract: cutting the source of a pattern into tokens.

A source is a sequence of lexemes. `readLexeme` reads the lexeme that starts at a character, with
its whole spelling; some lexemes are gaps, which are layout and give no token: white space with a
line feed in it, and comments, which begin with `#` at the start of a line.

Owns: the spelling of every lexeme, and the values that tokens take from it.
Does not own: brackets and their nesting (`SeededText.Pattern.Scope`).
-/

namespace SeededText.Pattern

open Text

inductive LexProblem where
  | unfinishedEscape
  | shortCodePoint
  | unterminatedConstant
  | unterminatedRegex
deriving DecidableEq, Repr

def LexProblem.message : LexProblem → String
  | .unfinishedEscape => "unexpected end of pattern in escape sequence"
  | .shortCodePoint => "unicode escape requires four hexadecimal digits"
  | .unterminatedConstant => "unterminated constant literal"
  | .unterminatedRegex => "unterminated regex literal"

/-- Kind of the token that a punctuation character makes on its own. -/
def punctuation? : Char → Option TokenKind
  | '{' => some (.opens .brace)
  | '}' => some (.closes .brace)
  | '[' => some (.opens .square)
  | ']' => some (.closes .square)
  | '(' => some (.opens .round)
  | ')' => some (.closes .round)
  | '<' => some (.opens .angle)
  | '>' => some (.closes .angle)
  | '|' => some .bar
  | ';' => some .semicolon
  | ':' => some .colon
  | '@' => some .atSign
  | '?' => some .question
  | '!' => some .exclamation
  | '-' => some .hyphen
  | '=' => some .equals
  | '&' => some .ampersand
  | '$' => some .dollar
  | '+' => some .plus
  | _ => none

/-- White space of a source. -/
def isLayout (character : Char) : Bool :=
  character == ' ' || character == '\t' || character == '\r' || character == '\n'

def isRegexFlag (character : Char) : Bool :=
  character == 'i' || character == 'm' || character == 's' || character == 'x'

/-- Whether only white space stands between the last line feed and the place behind `character`,
given the same of the place before it. -/
def lineBlankAfter (lineBlank : Bool) (character : Char) : Bool :=
  if character = '\n' then true else lineBlank && isLayout character

/-- Whether a character goes on with a text lexeme; `rest` follows it. -/
def isTextCharacter (character : Char) (rest : List Char) : Bool :=
  !isLayout character && (punctuation? character).isNone && character != '\\' &&
    character != '"' && !(character == '/' && rest.head? == some '/')

/-- A lexeme: its spelling, and the kind and value of its token unless it is a gap. -/
structure Lexeme where
  spelling : List Char
  token? : Option (TokenKind × List Char)
deriving DecidableEq, Repr

/-- Longest beginning that goes on with a text lexeme. -/
def textRun : List Char → List Char
  | [] => []
  | character :: rest =>
      if isTextCharacter character rest then character :: textRun rest else []

/-- Repeat count of an escape: digits with a comma behind them, else nothing. -/
def escapeCount (characters : List Char) : List Char :=
  let digits := characters.takeWhile isAsciiDigit
  if !digits.isEmpty && (characters.drop digits.length).head? == some ',' then digits ++ [',']
  else []

/-- What an escape has behind its backslash: an optional repeat count and a code, which is one
character or `u` with four hexadecimal digits. -/
def readEscape (characters : List Char) : Except LexProblem (List Char) :=
  let count := escapeCount characters
  match characters.drop count.length with
  | [] => .error .unfinishedEscape
  | code :: rest =>
      if code = 'u' then
        let digits := (rest.take 4).takeWhile isAsciiHexDigit
        if digits.length = 4 then .ok (count ++ code :: digits) else .error .shortCodePoint
      else .ok (count ++ [code])

/-- The value of a constant whose opening quote has been read. -/
def readConstant : List Char → Except LexProblem (List Char)
  | [] => .error .unterminatedConstant
  | ['"'] => .ok []
  | '"' :: next :: rest =>
      if next = '"' then (readConstant rest).map ('"' :: ·) else .ok []
  | character :: rest => (readConstant rest).map (character :: ·)

/-- Every quote written twice. -/
def doubleQuotes : List Char → List Char
  | [] => []
  | character :: rest =>
      if character = '"' then '"' :: '"' :: doubleQuotes rest else character :: doubleQuotes rest

/-- Spelling of the constant with a given value. -/
def quote (value : List Char) : List Char :=
  '"' :: (doubleQuotes value ++ ['"'])

/-- The body of a regex whose opening slashes have been read, and what follows its closing ones. A
backslash keeps the next character from closing. -/
def readRegexBody : List Char → Except LexProblem (List Char × List Char)
  | [] => .error .unterminatedRegex
  | ['\\'] => .error .unterminatedRegex
  | '\\' :: escaped :: rest =>
      (readRegexBody rest).map fun (body, behind) => ('\\' :: escaped :: body, behind)
  | '/' :: '/' :: rest => .ok ([], rest)
  | character :: rest =>
      (readRegexBody rest).map fun (body, behind) => (character :: body, behind)

/-- Body and flags of a regex whose opening slashes have been read. -/
def readRegex (characters : List Char) : Except LexProblem (List Char) :=
  (readRegexBody characters).map fun (body, behind) =>
    body ++ '/' :: '/' :: behind.takeWhile isRegexFlag

/-- What stands before the last `//` of a regex value, reversed, and what stands behind it. -/
def splitReversed : List Char → List Char → Option (List Char × List Char)
  | '/' :: '/' :: before, behind => some (before, behind)
  | character :: before, behind => splitReversed before (character :: behind)
  | [], _ => none

/-- Body and flags in the value of a regex token. -/
def splitRegex (value : List Char) : List Char × List Char :=
  match splitReversed value.reverse [] with
  | some (before, flags) => (before.reverse, flags)
  | none => (value, [])

/-- The lexeme that starts with `first`, at a place where the line is blank so far or not. -/
def readLexeme (lineBlank : Bool) (first : Char) (rest : List Char) : Except LexProblem Lexeme :=
  if first = '#' ∧ lineBlank then
    .ok ⟨first :: rest.takeWhile (· != '\n'), none⟩
  else if isTextCharacter first rest then
    let text := first :: textRun rest
    .ok ⟨text, some (.text, text)⟩
  else if isLayout first then
    let run := first :: rest.takeWhile isLayout
    .ok ⟨run, if run.contains '\n' then none else some (.blank, run)⟩
  else if first = '\\' then
    (readEscape rest).map fun value => ⟨first :: value, some (.escape, value)⟩
  else if first = '"' then
    (readConstant rest).map fun value => ⟨quote value, some (.constant, value)⟩
  else if first = '/' then
    (readRegex (rest.drop 1)).map fun value => ⟨'/' :: '/' :: value, some (.regex, value)⟩
  else if first = ':' ∧ rest.head? = some ':' then
    .ok ⟨[':', ':'], some (.doubleColon, [':', ':'])⟩
  else
    .ok ⟨[first], (punctuation? first).map fun kind => (kind, [first])⟩

/-- The tokens of a source from a place on. -/
def tokensFrom (position : Position) (lineBlank : Bool) :
    List Char → Except (Located LexProblem) (List Token)
  | [] => .ok []
  | first :: rest =>
      match readLexeme lineBlank first rest with
      | .error problem => .error ⟨position, problem⟩
      | .ok lexeme => do
          let behind ← tokensFrom (position.after lexeme.spelling)
            (lexeme.spelling.foldl lineBlankAfter lineBlank)
            (rest.drop (lexeme.spelling.length - 1))
          match lexeme.token? with
          | none => return behind
          | some (kind, value) => return ⟨kind, String.ofList value, position⟩ :: behind
termination_by source => source.length
decreasing_by simp only [List.length_drop, List.length_cons]; omega

/-- The tokens of a source. -/
def tokenize (source : String) : Except (Located LexProblem) (List Token) :=
  tokensFrom .start true source.toList

end SeededText.Pattern
