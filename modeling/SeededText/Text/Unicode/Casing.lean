import SeededText.Text.Unicode.CaseImages
import SeededText.Text.Unicode.Classes

/-!
Contract: upper case and lower case of characters and words.

A character may have several images, as `ß` has in upper case. A capital sigma at the end of a word
has the final form of the small sigma as its image; `lowerWord` alone looks at neighbours.

Owns: case mapping of a character, of a word, and of ASCII text.
Does not own: capitalization modes of output.
-/

namespace SeededText.Text

open Unicode

/-- Image of a character outside ASCII: an expansion if it has one, else its run's image. -/
def mappedImage (expansions : List (Nat × List Nat)) (runs : List CaseRun) (character : Char) :
    List Char :=
  match expansions.find? fun entry => entry.1 == character.toNat with
  | some (_, images) => images.map Char.ofNat
  | none =>
      let image := imageUnder runs character.toNat
      if image = character.toNat then [character] else [Char.ofNat image]

def asciiUpper (character : Char) : Char :=
  if isAsciiLower character then Char.ofNat (character.toNat - 32) else character

def asciiLower (character : Char) : Char :=
  if isAsciiUpper character then Char.ofNat (character.toNat + 32) else character

def upperImage (character : Char) : List Char :=
  if isAscii character then [asciiUpper character]
  else mappedImage upperExpansions upperRuns character

def lowerImage (character : Char) : List Char :=
  if isAscii character then [asciiLower character]
  else mappedImage lowerExpansions lowerRuns character

def capitalSigma : Char := 'Σ'

def finalSigma : Char := 'ς'

/-- Whether the next character that casing regards is a cased letter. -/
def meetsCased (characters : List Char) : Bool :=
  match characters.dropWhile isCaseIgnorable with
  | [] => false
  | character :: _ => isCased character

/-- Lower case of `rest`, which stands after the reversed characters `before`. -/
def lowerAfter (before : List Char) : List Char → List Char
  | [] => []
  | character :: rest =>
      let image :=
        if character = capitalSigma ∧ meetsCased before ∧ ¬ meetsCased rest then [finalSigma]
        else lowerImage character
      image ++ lowerAfter (character :: before) rest

/-- Lower case of a text, with final sigmas. -/
def lowerWord (characters : List Char) : List Char :=
  lowerAfter [] characters

/-- The text with its ASCII capitals in lower case. -/
def lowerAscii (text : String) : String :=
  String.ofList (text.toList.map asciiLower)

/-- Characters in lower case, without hyphens and underscores. -/
def looseCharacters (characters : List Char) : List Char :=
  (characters.filter fun character => character != '-' && character != '_').flatMap lowerImage

/-- Key under which loosely written names agree: no outer blanks, no hyphens or underscores, all
characters in lower case. -/
def looseName (name : String) : String :=
  String.ofList (looseCharacters (trimmed name.toList))

end SeededText.Text
