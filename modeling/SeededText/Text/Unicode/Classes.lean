import SeededText.Text.Unicode.Letters

/-!
Contract: classes of characters.

Each class answers ASCII characters from their definition and all others from a table, so facts
about ASCII characters need no table.

Owns: letters, digits, blanks, upper case and word characters; trimming.
Does not own: the tables; case mapping.
-/

namespace SeededText.Text

open Unicode

def isAscii (character : Char) : Bool :=
  character.toNat < 128

def isAsciiDigit (character : Char) : Bool :=
  '0' ≤ character && character ≤ '9'

def isAsciiUpper (character : Char) : Bool :=
  'A' ≤ character && character ≤ 'Z'

def isAsciiLower (character : Char) : Bool :=
  'a' ≤ character && character ≤ 'z'

def isAsciiLetter (character : Char) : Bool :=
  isAsciiLower character || isAsciiUpper character

def isAsciiHexDigit (character : Char) : Bool :=
  (hexDigit? character).isSome

/-- Letters of any script, with the marks and letter numbers that count as letters. -/
def isAlphabetic (character : Char) : Bool :=
  if isAscii character then isAsciiLetter character
  else alphabeticTable.contains character.toNat

/-- Digits and other number signs of any script. -/
def isNumeric (character : Char) : Bool :=
  if isAscii character then isAsciiDigit character
  else numericTable.contains character.toNat

def isAlphanumeric (character : Char) : Bool :=
  isAlphabetic character || isNumeric character

def isUppercase (character : Char) : Bool :=
  if isAscii character then isAsciiUpper character
  else uppercaseTable.contains character.toNat

/-- White space of any script, line breaks included. -/
def isBlank (character : Char) : Bool :=
  let point := character.toNat
  (9 ≤ point && point ≤ 13) || point == 0x20 || point == 0x85 || point == 0xA0 ||
    point == 0x1680 || (0x2000 ≤ point && point ≤ 0x200A) || point == 0x2028 ||
    point == 0x2029 || point == 0x202F || point == 0x205F || point == 0x3000

/-- Decimal digits of any script. -/
def isDecimalDigit (character : Char) : Bool :=
  if isAscii character then isAsciiDigit character
  else decimalDigitTable.contains character.toNat

/-- Characters of words: letters, marks, decimal digits, connectors and joiners. -/
def isWordCharacter (character : Char) : Bool :=
  if isAscii character then isAsciiLetter character || isAsciiDigit character || character == '_'
  else
    let point := character.toNat
    alphabeticTable.contains point || markTable.contains point ||
      decimalDigitTable.contains point || connectorTable.contains point ||
      point == 0x200C || point == 0x200D

/-- Letters that have, or are, a case variant. -/
def isCased (character : Char) : Bool :=
  if isAscii character then isAsciiLetter character
  else casedTable.contains character.toNat

/-- Characters that do not interrupt a word when casing looks at its neighbours. -/
def isCaseIgnorable (character : Char) : Bool :=
  caseIgnorableTable.contains character.toNat

def dropTrailing (drops : Char → Bool) (characters : List Char) : List Char :=
  (characters.reverse.dropWhile drops).reverse

/-- The characters without blanks at either end. -/
def trimmed (characters : List Char) : List Char :=
  dropTrailing isBlank (characters.dropWhile isBlank)

/-- The text without blanks at either end. -/
def trim (text : String) : String :=
  String.ofList (trimmed text.toList)

def isBlankText (text : String) : Bool :=
  text.toList.all isBlank

end SeededText.Text
