import SeededText.Proofs.CapitalizationHistory

/-!
Contract: which letters the mode `sentence` writes in upper case.

In a channel that has this mode from its creation a letter is raised if nothing but blanks, quotes
and closing parentheses stand between it and the sentence before. That is the first letter of its
sentence, but not every sentence has a letter that is raised: behind a bracket that opens, a dash or
a digit none is.

Owns: what is written in the mode `sentence`, and for which texts these are the first letters.
Does not own: what is written in any mode (`SeededText.Proofs.CapitalizationHistory`).
-/

namespace SeededText.Output

open Text

/-! ### Sentences -/

/-- What stands behind the last sentence, of what has been given, the latest first. -/
def behindSentence (before : List Char) : List Char :=
  before.takeWhile fun character => !endsSentence character

/-- What is written if a letter is raised exactly when `opens` holds of what stands between it and
the sentence before. What has been given is listed the latest first. -/
def raisingBehind (opens : List Char → Bool) (before : List Char) : List Char → List Char
  | [] => []
  | next :: later =>
      (if isAlphabetic next && opens (behindSentence before) then upperImage next else [next]) ++
        raisingBehind opens (next :: before) later

/-- There are only blanks, quotes and closing parentheses. -/
def isGap (between : List Char) : Bool :=
  between.all keepsSentenceStart

/-- There is no letter. -/
def isLetterless (between : List Char) : Bool :=
  between.all fun character => !isAlphabetic character

/-- A new channel in the mode `sentence` with texts that have been written to it. -/
def Channel.inSentences (name : String) (visibility : Visibility) (texts : List String) : Channel :=
  (fresh name visibility).useAll (.setMode .sentence :: texts.map .write)

section Sentences

variable {opens : List Char → Bool} {before given : List Char}

/-- The history of a channel in the mode `sentence`. -/
def History.inSentences (before : List Char) : History :=
  before.map .character ++ [.setting .sentence]

namespace History

@[simp] theorem setting_inSentences (before : List Char) :
    (inSentences before).setting = .sentence := by
  induction before with
  | nil => rfl
  | cons _ _ inductionHypothesis => exact inductionHypothesis

@[simp] theorem characters_inSentences (before : List Char) :
    (inSentences before).characters = before := by
  simp [inSentences, characters, List.filterMap_map, Function.comp_def, Event.character?]

theorem image_inSentences (before : List Char) (next : Char) :
    (inSentences before).image next =
      if isAlphabetic next && isGap (behindSentence before) then upperImage next else [next] := by
  simp [image, raises, startsSentence, sinceSentence, isGap, behindSentence]

theorem written_inSentences (before given : List Char) :
    (inSentences before).written (given.map .character) = raisingBehind isGap before given := by
  induction given generalizing before with
  | nil => rfl
  | cons next later inductionHypothesis =>
      rw [List.map_cons, written, image_inSentences, raisingBehind, ← inductionHypothesis]
      rfl

end History

/-- A channel in the mode `sentence` raises the letters behind gaps. -/
theorem Channel.content_inSentences (name : String) (visibility : Visibility)
    (texts : List String) :
    (inSentences name visibility texts).content =
      (raisingBehind isGap [] (texts.flatMap String.toList)).map .character := by
  have events : (texts.map Channel.Use.write).flatMap Channel.Use.events =
      (texts.flatMap String.toList).map .character := by
    rw [List.flatMap_map, List.map_flatMap]
    rfl
  rw [inSentences, (useAll_fresh name visibility _).2, historyOf, History.text,
    List.reverse_reverse, List.flatMap_cons, events, ← History.written_inSentences]
  rfl

theorem mem_behindSentence {character : Char} (there : character ∈ behindSentence before) :
    character ∈ before ∧ endsSentence character = false := by
  have unended : (behindSentence before).all (fun other => !endsSentence other) = true :=
    List.all_takeWhile
  exact ⟨List.takeWhile_subset _ there, by simpa using List.all_eq_true.mp unended _ there⟩

/-- Two ways to raise letters agree on a text if they agree on whatever stands inside sentences. -/
theorem raisingBehind_congr {others : List Char → Bool}
    (same : ∀ between,
      (∀ character ∈ between, (character ∈ before ∨ character ∈ given) ∧
        endsSentence character = false) → opens between = others between) :
    raisingBehind opens before given = raisingBehind others before given := by
  induction given generalizing before with
  | nil => rfl
  | cons next later inductionHypothesis =>
      have here : opens (behindSentence before) = others (behindSentence before) :=
        same _ fun character there => (mem_behindSentence there).imp .inl id
      have further : raisingBehind opens (next :: before) later =
          raisingBehind others (next :: before) later := by
        refine inductionHypothesis fun between inside => same between fun character there => ?_
        obtain ⟨known, unended⟩ := inside character there
        rw [List.mem_cons, or_assoc, or_left_comm, ← List.mem_cons] at known
        exact ⟨known, unended⟩
      rw [raisingBehind, raisingBehind, here, further]

/-- Whatever ends no sentence is a letter or may stand in a gap, but not both. -/
def isPlainProse (given : List Char) : Bool :=
  given.all fun character =>
    endsSentence character || keepsSentenceStart character == !isAlphabetic character

/-- In plain prose the letters behind gaps are the first letters of sentences. -/
theorem raisingBehind_of_plainProse (plain : isPlainProse given = true) :
    raisingBehind isGap [] given = raisingBehind isLetterless [] given := by
  refine raisingBehind_congr fun between inside => ?_
  have gapIff : ∀ character ∈ between, keepsSentenceStart character = !isAlphabetic character := by
    intro character there
    obtain ⟨known, unended⟩ := inside character there
    have either := List.all_eq_true.mp plain character (known.resolve_left List.not_mem_nil)
    simpa [unended] using either
  rw [isGap, isLetterless, Bool.eq_iff_iff, List.all_eq_true, List.all_eq_true]
  exact forall₂_congr fun character there => by rw [gapIff character there]

end Sentences

/-- In the mode `sentence` exactly those letters are raised that have nothing but blanks, quotes and
closing parentheses between them and the sentence before. If a text has nothing else besides its
letters, these are the first letters of its sentences. -/
theorem Channel.raises_behind_gaps (name : String) (visibility : Visibility)
    (texts : List String) :
    (inSentences name visibility texts).content =
        (raisingBehind isGap [] (texts.flatMap String.toList)).map .character ∧
      (isPlainProse (texts.flatMap String.toList) = true →
        (inSentences name visibility texts).content =
          (raisingBehind isLetterless [] (texts.flatMap String.toList)).map .character) := by
  have written := content_inSentences name visibility texts
  refine ⟨written, fun plain => ?_⟩
  rw [written, raisingBehind_of_plainProse plain]

/-! ### Brackets -/

namespace Bracketed

/-- Behind a bracket that opens the first letter of the sentence stays as it is. -/
theorem first_letter_is_missed :
    ¬ ∀ texts : List String, (Channel.inSentences "main" .shared texts).content =
      (raisingBehind isLetterless [] (texts.flatMap String.toList)).map .character := by
  intro raised
  have missed : (Channel.inSentences "main" .shared ["(hello"]).content =
      "(hello".toList.map .character := by decide +kernel
  have claimed : raisingBehind isLetterless [] "(hello".toList = "(Hello".toList := by
    decide +kernel
  have same := (raised ["(hello"]).symm.trans missed
  rw [List.flatMap_singleton, claimed] at same
  exact absurd same (by decide +kernel)

/-- Prose of two texts, the second of which starts with a quote. -/
def prose : List String := ["it rained. ", "'then' it stopped! ok"]

theorem isPlainProse_prose : isPlainProse (prose.flatMap String.toList) = true := by
  decide +kernel

theorem content_prose :
    isPlainProse (prose.flatMap String.toList) = true ∧
      (Channel.inSentences "main" .shared prose).content =
        (raisingBehind isLetterless [] (prose.flatMap String.toList)).map .character ∧
      raisingBehind isLetterless [] (prose.flatMap String.toList) =
        "It rained. 'Then' it stopped! Ok".toList :=
  ⟨isPlainProse_prose,
    (Channel.raises_behind_gaps "main" .shared prose).2 isPlainProse_prose,
    by decide +kernel⟩

end Bracketed

end SeededText.Output
