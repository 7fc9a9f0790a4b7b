import SeededText.Data.Value
import SeededText.Number.Reading

/-!
Contract: the written form of structured data.

Lists stand in brackets, maps in braces, records and tuples in parentheses, each with an optional
name; commas separate items and may follow the last. Comments run to the end of the line behind
`//` or between `/*` and `*/`, which nest. Attributes before the value enable extensions.

Owns: layout, identifiers, strings, numbers, containers.
Does not own: what a value means (`SeededText.Data.Value` takes values apart).
-/

namespace SeededText.Data

open Text

def isDataBlank (character : Char) : Bool :=
  character == ' ' || character == '\t' || character == '\n' || character == '\r'

/-- Where layout stands: between comments, in a line comment, or in a block comment within `outer`
others. -/
inductive Layout where
  | blank
  | line
  | block (outer : Nat)

/-- The text without layout at its start. -/
def skipFrom : Layout → List Char → Except Fault (List Char)
  | .blank, [] => .ok []
  | .blank, '/' :: '/' :: rest => skipFrom .line rest
  | .blank, '/' :: '*' :: rest => skipFrom (.block 0) rest
  | .blank, '/' :: _ => .error (.expected "a comment")
  | .blank, character :: rest =>
      if isDataBlank character then skipFrom .blank rest else .ok (character :: rest)
  | .line, [] => .ok []
  | .line, character :: rest => skipFrom (if character = '\n' then .blank else .line) rest
  | .block _, [] => .error .unclosedComment
  | .block outer, '/' :: '*' :: rest => skipFrom (.block (outer + 1)) rest
  | .block 0, '*' :: '/' :: rest => skipFrom .blank rest
  | .block (outer + 1), '*' :: '/' :: rest => skipFrom (.block outer) rest
  | .block outer, _ :: rest => skipFrom (.block outer) rest

def skipLayout (characters : List Char) : Except Fault (List Char) :=
  skipFrom .blank characters

/-- The text behind `expected`, which must stand at its start, and behind layout. -/
def expectText (expected : String) (characters : List Char) : Except Fault (List Char) :=
  if expected.toList.isPrefixOf characters then skipLayout (characters.drop expected.length)
  else .error (.expected s!"'{expected}'")

def isIdentifierStart (character : Char) : Bool :=
  isAsciiLetter character || character == '_'

def isIdentifierCharacter (character : Char) : Bool :=
  isIdentifierStart character || isAsciiDigit character

/-- Characters of identifiers behind `r#`. -/
def isRawCharacter (character : Char) : Bool :=
  isIdentifierCharacter character || character == '.' || character == '+' || character == '-'

/-- Whether a raw string or a raw identifier starts here: `r` and a quote or a hash. -/
def startsRaw : List Char → Bool
  | 'r' :: '"' :: _ => true
  | 'r' :: '#' :: _ => true
  | _ => false

/-- An identifier. A plain one must not be followed by a character that only raw ones may have. -/
def readIdentifier? (characters : List Char) : Option (String × List Char) :=
  match characters with
  | 'r' :: '#' :: rest =>
      let name := rest.takeWhile isRawCharacter
      if name.isEmpty then none else some (String.ofList name, rest.drop name.length)
  | first :: _ =>
      if isIdentifierStart first && !startsRaw characters then
        let name := characters.takeWhile isIdentifierCharacter
        let rest := characters.drop name.length
        if (rest.head?.map isRawCharacter).getD false then none
        else some (String.ofList name, rest)
      else none
  | [] => none

def readIdentifier (characters : List Char) : Except Fault (String × List Char) :=
  match readIdentifier? characters with
  | some found => .ok found
  | none => .error (.expected "an identifier")

/-- The character with a code point. -/
def characterOf (point : Nat) : Except Fault Char :=
  if point.isValidChar then .ok (Char.ofNat point) else .error .invalidEscape

def simpleEscape? : Char → Option Char
  | '\'' => some '\''
  | '"' => some '"'
  | '\\' => some '\\'
  | 'n' => some '\n'
  | 'r' => some '\r'
  | 't' => some '\t'
  | '0' => some '\x00'
  | _ => none

/-- The character behind a backslash and the number of characters that write it. -/
def readEscapeCode (characters : List Char) : Except Fault (Char × Nat) :=
  match characters with
  | 'x' :: first :: second :: _ =>
      if isAsciiHexDigit first && isAsciiHexDigit second then do
        return (← characterOf (Unicode.hexValue [first, second]), 3)
      else .error .invalidEscape
  | 'u' :: '{' :: rest =>
      let digits := (rest.take 6).takeWhile isAsciiHexDigit
      if digits.isEmpty then .error .invalidEscape
      else if (rest.drop digits.length).head? = some '}' then do
        return (← characterOf (Unicode.hexValue digits), digits.length + 3)
      else .error .invalidEscape
  | code :: _ =>
      match simpleEscape? code with
      | some character => .ok (character, 1)
      | none => .error .invalidEscape
  | [] => .error .unfinished

/-- The content of a string whose opening quote has been read, and what follows its closing one. -/
def readQuoted : List Char → Except Fault (List Char × List Char)
  | [] => .error .unfinished
  | first :: rest =>
      if first = '"' then .ok ([], rest)
      else if first = '\\' then do
        let (character, length) ← readEscapeCode rest
        let (content, behind) ← readQuoted (rest.drop length)
        return (character :: content, behind)
      else do
        let (content, behind) ← readQuoted rest
        return (first :: content, behind)
termination_by characters => characters.length
decreasing_by all_goals simp only [List.length_drop, List.length_cons]; omega

/-- The content of a raw string up to a quote with `hashes` hashes behind it. -/
def readRaw (hashes : Nat) : List Char → Except Fault (List Char × List Char)
  | [] => .error .unfinished
  | first :: rest =>
      if first = '"' ∧ rest.take hashes = List.replicate hashes '#' then .ok ([], rest.drop hashes)
      else do
        let (content, behind) ← readRaw hashes rest
        return (first :: content, behind)

/-- A raw string behind its `r`. -/
def readRawString (characters : List Char) : Except Fault (List Char × List Char) :=
  let hashes := (characters.takeWhile (· == '#')).length
  match characters.drop hashes with
  | '"' :: rest => readRaw hashes rest
  | _ => .error (.expected "a string")

/-- A character literal behind its opening quote. -/
def readCharacter (characters : List Char) : Except Fault (Char × List Char) := do
  let (character, rest) ←
    match characters with
    | [] => .error .unfinished
    | '\\' :: rest => do
        let (character, length) ← readEscapeCode rest
        pure (character, rest.drop length)
    | character :: rest => .ok (character, rest)
  match rest with
  | '\'' :: rest => return (character, rest)
  | _ => .error (.expected "a character")

def isNumberStart (character : Char) : Bool :=
  isAsciiDigit character || character == '+' || character == '-' || character == '.'

/-- Whether a run of characters is a number, with underscores as separators. -/
def isWrittenNumber (written : List Char) : Bool :=
  let unsigned :=
    match written with
    | '+' :: digits | '-' :: digits => digits
    | digits => digits
  let (base, digits) := Value.splitBase unsigned
  (Value.readDigitsIn base digits).isOk ||
    (Number.readFloat? (written.filter (· != '_'))).isSome

def readNumber (characters : List Char) : Except Fault (Value × List Char) :=
  let written := characters.takeWhile isRawCharacter
  if isWrittenNumber written then .ok (.number written, characters.drop written.length)
  else .error .invalidNumber

/-- Items up to the closing character. Every round reads a character, so `rounds` need not exceed
their number. -/
def readItems {α : Type} (readItem : List Char → Except Fault (α × List Char)) (closer : Char) :
    Nat → List Char → Except Fault (List α × List Char)
  | 0, _ => .error .unfinished
  | rounds + 1, characters => do
      match ← skipLayout characters with
      | [] => .error .unfinished
      | first :: rest =>
          if first = closer then return ([], rest)
          else
            let (item, behind) ← readItem (first :: rest)
            match ← skipLayout behind with
            | ',' :: behind => do
                let (items, behind) ← readItems readItem closer rounds behind
                return (item :: items, behind)
            | last :: behind =>
                if last = closer then return ([item], behind) else .error (.expected "','")
            | [] => .error .unfinished

def readItemsUpTo {α : Type} (readItem : List Char → Except Fault (α × List Char)) (closer : Char)
    (characters : List Char) : Except Fault (List α × List Char) :=
  readItems readItem closer (characters.length + 1) characters

/-- A key, a colon and a value. -/
def readPair {α β : Type} (readKey : List Char → Except Fault (α × List Char))
    (readMember : List Char → Except Fault (β × List Char)) (characters : List Char) :
    Except Fault ((α × β) × List Char) := do
  let (key, rest) ← readKey characters
  let (member, rest) ← readMember (← expectText ":" (← skipLayout rest))
  return ((key, member), rest)

/-- Whether the inside of parentheses begins with a field. -/
def startsWithField (characters : List Char) : Except Fault Bool := do
  match readIdentifier? (← skipLayout characters) with
  | none => return false
  | some (_, rest) => return (← skipLayout rest).head? = some ':'

/-- What stands behind an opening parenthesis: the fields of a record or the items of a tuple. -/
def readParenthesized (readMember : List Char → Except Fault (Value × List Char))
    (name? : Option String) (characters : List Char) : Except Fault (Value × List Char) := do
  if ← startsWithField characters then
    let (fields, rest) ← readItemsUpTo (readPair readIdentifier readMember) ')' characters
    return (.record name? fields, rest)
  else
    let (items, rest) ← readItemsUpTo readMember ')' characters
    return (.tuple name? items, rest)

/-- What stands behind `Some`: a value in parentheses, which a comma may follow. -/
def readPresent (readInner : List Char → Except Fault (Value × List Char))
    (characters : List Char) : Except Fault (Value × List Char) := do
  let (inner, rest) ← readInner (← expectText "(" (← skipLayout characters))
  match ← skipLayout rest with
  | ',' :: rest =>
      match ← skipLayout rest with
      | ')' :: rest => return (.present inner, rest)
      | _ => .error (.expected "')'")
  | ')' :: rest => return (.present inner, rest)
  | _ => .error (.expected "')'")

/-- A value whose members are read by the given readers: inside `Some(…)`, inside a container. -/
def readValueWith (readInner readMember : List Char → Except Fault (Value × List Char))
    (characters : List Char) : Except Fault (Value × List Char) :=
  match readIdentifier? characters with
  | some ("Some", rest) => readPresent readInner rest
  | some (name, rest) => do
      match ← skipLayout rest with
      | '(' :: rest => readParenthesized readMember (some name) rest
      | rest => return (.word name, rest)
  | none =>
      match characters with
      | [] => .error .unfinished
      | '(' :: rest => readParenthesized readMember none rest
      | '[' :: rest => do
          let (items, rest) ← readItemsUpTo readMember ']' rest
          return (.list items, rest)
      | '\x7b' :: rest => do
          let (entries, rest) ← readItemsUpTo (readPair readMember readMember) '\x7d' rest
          return (.map entries, rest)
      | '"' :: rest => do
          let (content, rest) ← readQuoted rest
          return (.text (String.ofList content), rest)
      | 'r' :: rest => do
          let (content, rest) ← readRawString rest
          return (.text (String.ofList content), rest)
      | '\'' :: rest => do
          let (content, rest) ← readCharacter rest
          return (.character content, rest)
      | first :: _ =>
          if isNumberStart first then readNumber characters else .error (.expected "a value")

def refuseDeeper (_ : List Char) : Except Fault (Value × List Char) :=
  .error .nestedTooDeeply

/-- A value within which values may nest as far as `depth` allows; a container takes two levels, one
for itself and one for its members. -/
def readValue : Nat → List Char → Except Fault (Value × List Char)
  | 0, characters => readValueWith refuseDeeper refuseDeeper characters
  | 1, characters => readValueWith (readValue 0) refuseDeeper characters
  | depth + 2, characters => readValueWith (readValue (depth + 1)) (readValue depth) characters

def depthLimit : Nat := 128

/-- The extensions that an attribute may enable. -/
def extensionNames : List String :=
  ["unwrap_newtypes", "implicit_some", "unwrap_variant_newtypes"]

/-- One extension of an attribute. -/
def readExtension (characters : List Char) : Except Fault (String × List Char) := do
  let (name, rest) ← readIdentifier characters
  if extensionNames.contains name then return (name, rest) else .error (.unknownExtension name)

/-- The extensions of the attributes at the start of a text, and what follows them. -/
def readAttributes : Nat → List Char → Except Fault (List String × List Char)
  | 0, characters => .ok ([], characters)
  | rounds + 1, characters =>
      match characters with
      | '#' :: _ => do
          let opened ← ["#", "!", "[", "enable", "("].foldlM
            (fun rest expected => expectText expected rest) characters
          let (names, rest) ← readItemsUpTo readExtension ')' opened
          if names.isEmpty then .error (.expected "an extension")
          else
            let rest ← expectText "]" (← skipLayout rest)
            let (others, rest) ← readAttributes rounds rest
            return (names ++ others, rest)
      | _ => .ok ([], characters)

/-- The one value that a text writes. -/
def read (text : String) : Except Fault Document := do
  let characters ← skipLayout text.toList
  let (extensions, characters) ← readAttributes characters.length characters
  let (value, rest) ← readValue depthLimit characters
  if (← skipLayout rest).isEmpty then
    return ⟨value, extensions.contains "implicit_some"⟩
  else .error .trailingText

end SeededText.Data
