import SeededText.Text.Unicode.Casing

/-!
Contract: capitalization of written text.

A capitalizer goes over text character by character and carries what it has to know of the text
before: whether the next letter starts a word, and whether it starts a sentence.

Owns: the modes, their names, guessing a mode from an example, and the capitalizer.
Does not own: which channel a text goes to (`SeededText.Output.Sink`).
-/

namespace SeededText.Output

open Text

inductive Capitalization where
  | asWritten
  | lower
  | upper
  /-- Capitalizes the next letter and then goes back to `asWritten`. -/
  | first
  | word
  | sentence
deriving DecidableEq, Repr, Inhabited

/-- The mode with a loosely written name. -/
def Capitalization.ofName? (name : String) : Option Capitalization :=
  match looseName name with
  | "none" => some .asWritten
  | "lower" => some .lower
  | "upper" => some .upper
  | "first" => some .first
  | "word" => some .word
  | "sentence" => some .sentence
  | _ => none

/-- Longest runs of letters and digits. -/
def alphanumericRuns (characters : List Char) : List (List Char) :=
  (characters.splitOnP fun character => !isAlphanumeric character).filter fun run => !run.isEmpty

def startsUpper (run : List Char) : Bool :=
  (run.head?.map isUppercase).getD false

/-- The mode that an example shows: all letters upper, every word upper, or the first word upper. -/
def Capitalization.infer? (sample : String) : Option Capitalization :=
  let runs := alphanumericRuns sample.toList
  let allUpper := runs.all fun run => (run.filter isAlphabetic).all isUppercase
  let someLetter := runs.any fun run => run.any isAlphabetic
  if allUpper && someLetter then some .upper
  else if 1 < runs.length && runs.all startsUpper then some .word
  else if (runs.head?.map startsUpper).getD false then some .first
  else none

/-- A mode with what it needs to know of the text so far. -/
structure Capitalizer where
  mode : Capitalization
  atWordStart : Bool
  atSentenceStart : Bool
deriving DecidableEq, Repr

/-- The capitalizer of a channel without text. -/
def Capitalizer.fresh : Capitalizer := ⟨.asWritten, true, true⟩

instance : Inhabited Capitalizer := ⟨.fresh⟩

/-- Whether the next character is written in upper case. -/
def Capitalizer.raises (capitalizer : Capitalizer) (character : Char) : Bool :=
  match capitalizer.mode with
  | .asWritten | .lower => false
  | .upper => true
  | .first => isAlphabetic character
  | .word => capitalizer.atWordStart && isAlphabetic character
  | .sentence => capitalizer.atSentenceStart && isAlphabetic character

def endsSentence (character : Char) : Bool :=
  character == '.' || character == '!' || character == '?'

/-- Characters that may stand between the end of a sentence and the start of the next. -/
def keepsSentenceStart (character : Char) : Bool :=
  isBlank character || character == '"' || character == '\'' || character == ')'

/-- Image of one character. -/
def Capitalizer.image (capitalizer : Capitalizer) (character : Char) : List Char :=
  if capitalizer.raises character then upperImage character
  else if capitalizer.mode = .lower then lowerImage character
  else [character]

/-- The capitalizer behind one character. -/
def Capitalizer.after (capitalizer : Capitalizer) (character : Char) : Capitalizer :=
  { mode :=
      if capitalizer.mode = .first ∧ capitalizer.raises character then .asWritten
      else capitalizer.mode
    atWordStart := !isAlphanumeric character && character != '\''
    atSentenceStart :=
      endsSentence character || (capitalizer.atSentenceStart && keepsSentenceStart character) }

/-- The written form of a text, and the capitalizer behind it. -/
def Capitalizer.apply (capitalizer : Capitalizer) : List Char → List Char × Capitalizer
  | [] => ([], capitalizer)
  | character :: rest =>
      let (written, behind) := (capitalizer.after character).apply rest
      (capitalizer.image character ++ written, behind)

/-- A capitalizer goes on with a text where it stopped. -/
theorem Capitalizer.apply_append (capitalizer : Capitalizer) (first second : List Char) :
    capitalizer.apply (first ++ second) =
      ((capitalizer.apply first).1 ++ ((capitalizer.apply first).2.apply second).1,
        ((capitalizer.apply first).2.apply second).2) := by
  induction first generalizing capitalizer with
  | nil => rfl
  | cons character rest inductionHypothesis =>
      simp only [List.cons_append, Capitalizer.apply, inductionHypothesis, List.append_assoc]

/-- What is written as it is stays as it is. -/
theorem Capitalizer.apply_asWritten {capitalizer : Capitalizer}
    (mode : capitalizer.mode = .asWritten) (characters : List Char) :
    (capitalizer.apply characters).1 = characters ∧
      (capitalizer.apply characters).2.mode = .asWritten := by
  induction characters generalizing capitalizer with
  | nil => exact ⟨rfl, mode⟩
  | cons character rest inductionHypothesis =>
      have after : (capitalizer.after character).mode = .asWritten := by
        simp [Capitalizer.after, mode]
      have image : capitalizer.image character = [character] := by
        simp [Capitalizer.image, Capitalizer.raises, mode]
      obtain ⟨written, behind⟩ := inductionHypothesis after
      refine ⟨?_, behind⟩
      show capitalizer.image character ++ ((capitalizer.after character).apply rest).1 = _
      rw [image, written]
      rfl

end SeededText.Output
