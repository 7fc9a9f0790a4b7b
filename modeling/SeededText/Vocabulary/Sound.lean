import SeededText.Text.Unicode.Casing

/-!
Contract: how words sound, as far as their spelling tells.

Owns: vowels, estimated syllables, rhyme tails.
Does not own: pronunciations that a dictionary gives (`SeededText.Vocabulary.Dictionary`).
-/

namespace SeededText.Vocabulary

open Text

def isVowel (character : Char) : Bool :=
  character == 'a' || character == 'e' || character == 'i' || character == 'o' ||
    character == 'u' || character == 'y'

/-- Number of runs of vowels, given whether a vowel came before. -/
def countVowelRuns (afterVowel : Bool) : List Char → Nat
  | [] => 0
  | letter :: rest =>
      (if isVowel letter && !afterVowel then 1 else 0) + countVowelRuns (isVowel letter) rest

/-- Whether a word ends in an `e` that is not spoken: one behind a letter other than `l` and `e`. -/
def endsInMuteE (letters : List Char) : Bool :=
  match letters.reverse with
  | 'e' :: 'l' :: _ => false
  | 'e' :: 'e' :: _ => false
  | 'e' :: _ => true
  | _ => false

/-- Number of syllables by the vowels of a word, at least one. -/
def estimateSyllables (word : String) : Nat :=
  let letters := lowerWord word.toList
  let runs := countVowelRuns false letters
  max 1 (if 1 < runs && endsInMuteE letters then runs - 1 else runs)

/-- Letters without an `e` at the end that follows a consonant. -/
def dropSilentE (letters : List Char) : List Char :=
  match letters.reverse with
  | 'e' :: before :: rest => if isVowel before then letters else (before :: rest).reverse
  | _ => letters

/-- Letters from the last run of vowels on, without a silent `e`; all letters if none is a vowel. -/
def rhymeLetters (letters : List Char) : List Char :=
  let reversed := (dropSilentE letters).reverse
  let coda := reversed.takeWhile fun letter => !isVowel letter
  let nucleus := (reversed.drop coda.length).takeWhile isVowel
  if nucleus.isEmpty then letters else (coda ++ nucleus).reverse

/-- The part of a word that rhyming words share. -/
def rhymeTail (word : String) : String :=
  String.ofList (rhymeLetters ((lowerWord word.toList).filter isAlphabetic))

end SeededText.Vocabulary
