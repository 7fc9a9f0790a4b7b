import SeededText.Proofs.Rereading
import SeededText.Vocabulary.Carrier
import Mathlib.Data.List.Basic

/-!
Contract: the rhyme tail of a word starts at its last group of vowels.

An `e` at the end behind a consonant is silent and starts no tail. So words that differ only in the
consonants before their first vowel rhyme, with one exception: in a word whose only vowel is an `e`
at its end, as in `the`, this `e` is taken to be silent too, and the tail is the whole word.

Owns: the cut of a word at its tail, what consonants in front do to the tail, the exception.
Does not own: how the tail is found (`SeededText.Vocabulary.Sound`).
-/

namespace SeededText.Vocabulary

open Text
open Pattern (takeWhile_run)

/-! ### Tails of lists of letters -/

section Letters

variable {letters front other onset nucleus coda ending : List Char}

/-- A word cut at its last vowels: what comes before them, the whole group of vowels, the consonants
behind it, and a silent `e` at the end. The only vowel of a word is not silent. -/
structure IsCut (onset nucleus coda ending : List Char) : Prop where
  sounds : nucleus ≠ []
  vowels : ∀ letter ∈ nucleus, isVowel letter = true
  consonants : ∀ letter ∈ coda, isVowel letter = false
  apart : ∀ letter ∈ onset.getLast?, isVowel letter = false
  silent : ending = [] ∨ ending = ['e'] ∧ coda ≠ []
  spoken : ending = [] → nucleus ++ coda = ['e'] → ∀ letter ∈ onset, isVowel letter = false

/-- The tail goes from the last vowels of the word to its end, or to a silent `e` there. -/
def StartsAtLastVowels (letters tail : List Char) : Prop :=
  ∃ onset nucleus coda ending, IsCut onset nucleus coda ending ∧
    letters = onset ++ nucleus ++ coda ++ ending ∧ tail = nucleus ++ coda

/-- The only vowel of the word is an `e` at its end. -/
def IsOnlyE (letters : List Char) : Prop :=
  ∃ consonants, (∀ letter ∈ consonants, isVowel letter = false) ∧ letters = consonants ++ ['e']

theorem dropSilentE_of_consonant {consonant : Char} (isConsonant : isVowel consonant = false) :
    dropSilentE (front ++ [consonant] ++ ['e']) = front ++ [consonant] := by
  simp [dropSilentE, isConsonant]

theorem dropSilentE_of_ne (sounded : ∀ front consonant, isVowel consonant = false →
    letters ≠ front ++ [consonant] ++ ['e']) : dropSilentE letters = letters := by
  unfold dropSilentE
  split
  · next before rest reversed =>
      have ends : letters = rest.reverse ++ [before] ++ ['e'] := by
        rw [← List.reverse_reverse letters, reversed]
        simp
      by_cases vowel : isVowel before = true
      · rw [if_pos vowel]
      · exact absurd ends (sounded _ _ (by simpa using vowel))
  · rfl

/-- The tail of a word without its silent `e`. -/
theorem rhymeLetters_of_dropSilentE (cut : IsCut onset nucleus coda ending)
    (dropped : dropSilentE letters = onset ++ nucleus ++ coda) :
    rhymeLetters letters = nucleus ++ coda := by
  have reversed : (dropSilentE letters).reverse =
      coda.reverse ++ (nucleus.reverse ++ onset.reverse) := by
    rw [dropped]
    simp
  have group : (nucleus.reverse ++ onset.reverse).takeWhile isVowel = nucleus.reverse := by
    apply takeWhile_run
    · simpa using cut.vowels
    · simpa using cut.apart
  have behind : (coda.reverse ++ (nucleus.reverse ++ onset.reverse)).takeWhile
      (fun letter => !isVowel letter) = coda.reverse := by
    apply takeWhile_run
    · simpa using cut.consonants
    · have vowel := cut.vowels _ (List.getLast_mem cut.sounds)
      simp [List.head?_reverse, List.getLast?_eq_some_getLast cut.sounds, vowel]
  rw [rhymeLetters]
  simp only [reversed, behind, List.drop_left, group]
  rw [if_neg (by simpa using cut.sounds)]
  simp

/-- Vowels at the end of a word that has no consonant before a last `e`, or no vowel before it. -/
theorem IsCut.onlyE_of_ends {consonant : Char} (cut : IsCut onset nucleus coda [])
    (isConsonant : isVowel consonant = false)
    (ends : onset ++ nucleus ++ coda = front ++ [consonant] ++ ['e']) :
    onset = front ++ [consonant] ∧ ∀ letter ∈ onset, isVowel letter = false := by
  rcases List.eq_nil_or_concat' coda with rfl | ⟨codaFront, last, rfl⟩
  · rcases List.eq_nil_or_concat' nucleus with rfl | ⟨nucleusFront, last, rfl⟩
    · exact absurd rfl cut.sounds
    · rw [List.append_nil, ← List.append_assoc, List.append_singleton_inj] at ends
      obtain ⟨before, rfl⟩ := ends
      rcases List.eq_nil_or_concat' nucleusFront with rfl | ⟨further, vowel, rfl⟩
      · rw [List.append_nil] at before
        exact ⟨before, cut.spoken rfl rfl⟩
      · rw [← List.append_assoc, List.append_singleton_inj] at before
        have isVowel := cut.vowels vowel (by simp)
        rw [before.2, isConsonant] at isVowel
        cases isVowel
  · rw [← List.append_assoc, List.append_singleton_inj] at ends
    have noVowel := cut.consonants last (by simp)
    rw [ends.2] at noVowel
    cases noVowel

/-- Up to the tail and with it nothing is dropped, unless the only vowel of the word is an `e` at
its end. -/
theorem IsCut.dropSilentE (cut : IsCut onset nucleus coda ending)
    (sounded : IsOnlyE (onset ++ nucleus ++ coda ++ ending) → onset = []) :
    dropSilentE (onset ++ nucleus ++ coda ++ ending) = onset ++ nucleus ++ coda := by
  rcases cut.silent with rfl | ⟨rfl, codaFull⟩
  · rw [List.append_nil] at sounded ⊢
    refine dropSilentE_of_ne fun front consonant isConsonant ends => ?_
    obtain ⟨before, consonants⟩ := cut.onlyE_of_ends isConsonant ends
    rw [ends] at sounded
    have none := sounded ⟨front ++ [consonant], before ▸ consonants, rfl⟩
    simp [none] at before
  · rcases List.eq_nil_or_concat' coda with rfl | ⟨codaFront, last, rfl⟩
    · exact absurd rfl codaFull
    · rw [← List.append_assoc (onset ++ nucleus)]
      exact dropSilentE_of_consonant (cut.consonants last (by simp))

theorem IsCut.rhymeLetters (cut : IsCut onset nucleus coda ending)
    (sounded : IsOnlyE (onset ++ nucleus ++ coda ++ ending) → onset = []) :
    rhymeLetters (onset ++ nucleus ++ coda ++ ending) = nucleus ++ coda :=
  rhymeLetters_of_dropSilentE cut (cut.dropSilentE sounded)

/-- The last vowels of a list of letters. -/
theorem exists_lastVowels (voiced : ∃ letter ∈ letters, isVowel letter = true) :
    ∃ onset nucleus coda, letters = onset ++ nucleus ++ coda ∧ nucleus ≠ [] ∧
      (∀ letter ∈ nucleus, isVowel letter = true) ∧
      (∀ letter ∈ coda, isVowel letter = false) ∧
      ∀ letter ∈ onset.getLast?, isVowel letter = false := by
  induction letters with
  | nil => simp at voiced
  | cons first rest inductionHypothesis =>
      by_cases later : ∃ letter ∈ rest, isVowel letter = true
      · obtain ⟨onset, nucleus, coda, rfl, sounds, vowels, consonants, apart⟩ :=
          inductionHypothesis later
        cases onset with
        | nil =>
            by_cases vowel : isVowel first = true
            · exact ⟨[], first :: nucleus, coda, rfl, List.cons_ne_nil _ _,
                List.forall_mem_cons.mpr ⟨vowel, vowels⟩, consonants, nofun⟩
            · exact ⟨[first], nucleus, coda, rfl, sounds, vowels, consonants, by simpa using vowel⟩
        | cons second onset =>
            exact ⟨first :: second :: onset, nucleus, coda, rfl, sounds, vowels, consonants,
              by simpa using apart⟩
      · have vowel : isVowel first = true := by
          obtain ⟨letter, member, vowel⟩ := voiced
          obtain rfl | behind := List.mem_cons.mp member
          · exact vowel
          · exact absurd ⟨letter, behind, vowel⟩ later
        exact ⟨[], [first], rest, rfl, List.cons_ne_nil _ _, by simpa using vowel,
          by simpa using later, nofun⟩

/-- Every word with a vowel can be cut at its tail. -/
theorem exists_isCut (voiced : ∃ letter ∈ letters, isVowel letter = true)
    (sounded : IsOnlyE letters → letters = ['e']) :
    ∃ onset nucleus coda ending, IsCut onset nucleus coda ending ∧
      letters = onset ++ nucleus ++ coda ++ ending := by
  by_cases ends : ∃ front consonant, isVowel consonant = false ∧
      letters = front ++ [consonant] ++ ['e']
  · obtain ⟨front, consonant, isConsonant, rfl⟩ := ends
    have voicedBefore : ∃ letter ∈ front ++ [consonant], isVowel letter = true := by
      by_contra unvoiced
      have consonants : ∀ letter ∈ front ++ [consonant], isVowel letter = false :=
        fun letter member => Bool.eq_false_iff.mpr fun vowel => unvoiced ⟨letter, member, vowel⟩
      have short := congrArg List.length (sounded ⟨front ++ [consonant], consonants, rfl⟩)
      simp at short
    obtain ⟨onset, nucleus, coda, cut, sounds, vowels, consonants, apart⟩ :=
      exists_lastVowels voicedBefore
    refine ⟨onset, nucleus, coda, ['e'], ⟨sounds, vowels, consonants, apart, .inr ⟨rfl, ?_⟩,
      nofun⟩, by rw [cut]⟩
    rintro rfl
    obtain ⟨further, last, rfl⟩ := (List.eq_nil_or_concat' nucleus).resolve_left sounds
    rw [List.append_nil, ← List.append_assoc, List.append_singleton_inj] at cut
    have vowel := vowels last (by simp)
    rw [← cut.2, isConsonant] at vowel
    cases vowel
  · obtain ⟨onset, nucleus, coda, cut, sounds, vowels, consonants, apart⟩ :=
      exists_lastVowels voiced
    refine ⟨onset, nucleus, coda, [], ⟨sounds, vowels, consonants, apart, .inl rfl, ?_⟩,
      by rw [cut, List.append_nil]⟩
    intro _ alone
    rcases List.eq_nil_or_concat' onset with rfl | ⟨front, last, rfl⟩
    · exact nofun
    · rw [List.append_assoc, alone] at cut
      exact absurd ⟨front, last, apart last (by simp), cut⟩ ends

/-! ### An only vowel at the end -/

theorem IsOnlyE.behind (onlyE : IsOnlyE letters)
    (consonants : ∀ letter ∈ front, isVowel letter = false) : IsOnlyE (front ++ letters) := by
  obtain ⟨others, othersConsonants, rfl⟩ := onlyE
  refine ⟨front ++ others, ?_, (List.append_assoc _ _ _).symm⟩
  exact List.forall_mem_append.mpr ⟨consonants, othersConsonants⟩

theorem IsOnlyE.of_behind (voiced : ∃ letter ∈ letters, isVowel letter = true)
    (onlyE : IsOnlyE (front ++ letters)) : IsOnlyE letters := by
  obtain ⟨others, consonants, same⟩ := onlyE
  rcases List.eq_nil_or_concat' letters with rfl | ⟨letters, last, rfl⟩
  · simp at voiced
  · rw [← List.append_assoc, List.append_singleton_inj] at same
    obtain ⟨rfl, rfl⟩ := same
    exact ⟨letters, fun letter member => consonants letter (List.mem_append_right _ member), rfl⟩

/-- A word whose only vowel is an `e` at its end is its own tail. -/
theorem IsOnlyE.rhymeLetters (onlyE : IsOnlyE letters) : rhymeLetters letters = letters := by
  obtain ⟨consonants, areConsonants, rfl⟩ := onlyE
  rcases List.eq_nil_or_concat' consonants with rfl | ⟨front, last, rfl⟩
  · rfl
  · have unvoiced : ∀ letter ∈ (front ++ [last]).reverse, (!isVowel letter) = true :=
      fun letter member => by simp [areConsonants letter (List.mem_reverse.mp member)]
    rw [Vocabulary.rhymeLetters, dropSilentE_of_consonant (areConsonants last (by simp))]
    simp only [List.takeWhile_eq_self_iff.mpr unvoiced, List.drop_length]
    rfl

/-- Consonants in front leave the tail as it is. -/
theorem rhymeLetters_append (voiced : ∃ letter ∈ letters, isVowel letter = true)
    (sounded : ¬ IsOnlyE letters) (consonants : ∀ letter ∈ front, isVowel letter = false) :
    rhymeLetters (front ++ letters) = rhymeLetters letters := by
  obtain ⟨onset, nucleus, coda, ending, cut, rfl⟩ :=
    exists_isCut voiced fun onlyE => absurd onlyE sounded
  have cutBehind : IsCut (front ++ onset) nucleus coda ending :=
    { cut with
      apart := fun letter last => by
        rw [List.getLast?_append] at last
        rcases Option.or_eq_some_iff.mp last with inOnset | ⟨-, inFront⟩
        · exact cut.apart letter inOnset
        · exact consonants letter (List.mem_of_getLast? inFront)
      spoken := fun none alone =>
        List.forall_mem_append.mpr ⟨consonants, cut.spoken none alone⟩ }
  have behind := cutBehind.rhymeLetters fun onlyE => by
    simp only [List.append_assoc] at onlyE sounded voiced
    exact absurd (onlyE.of_behind voiced) sounded
  rw [cut.rhymeLetters fun onlyE => absurd onlyE sounded, ← behind]
  simp only [List.append_assoc]

/-- The tail starts at the last vowels, unless the only vowel is an `e` at the end behind other
letters. -/
theorem startsAtLastVowels_iff (voiced : ∃ letter ∈ letters, isVowel letter = true) :
    StartsAtLastVowels letters (rhymeLetters letters) ↔ (IsOnlyE letters → letters = ['e']) := by
  constructor
  · rintro ⟨onset, nucleus, coda, ending, cut, -, tail⟩ onlyE
    rw [onlyE.rhymeLetters] at tail
    obtain ⟨consonants, areConsonants, rfl⟩ := onlyE
    obtain ⟨vowel, nucleus, rfl⟩ := List.exists_cons_of_ne_nil cut.sounds
    cases consonants with
    | nil => rfl
    | cons first consonants =>
        -- The first letter would be a consonant and a vowel.
        have first := areConsonants first List.mem_cons_self
        have isVowel := cut.vowels vowel List.mem_cons_self
        rw [← (List.cons.inj tail).1, first] at isVowel
        cases isVowel
  · intro sounded
    obtain ⟨onset, nucleus, coda, ending, cut, rfl⟩ := exists_isCut voiced sounded
    refine ⟨onset, nucleus, coda, ending, cut, rfl, cut.rhymeLetters fun onlyE => ?_⟩
    have short := congrArg List.length (sounded onlyE)
    have some := List.length_pos_iff.mpr cut.sounds
    simp only [List.length_append, List.length_singleton] at short
    exact List.eq_nil_of_length_eq_zero (by omega)

/-- Words that differ only in consonants in front have the same tail, unless their only vowel is an
`e` at the end. -/
theorem rhymeLetters_append_eq_iff (voiced : ∃ letter ∈ letters, isVowel letter = true)
    (consonants : ∀ letter ∈ front, isVowel letter = false)
    (otherConsonants : ∀ letter ∈ other, isVowel letter = false) :
    rhymeLetters (front ++ letters) = rhymeLetters (other ++ letters) ↔
      (IsOnlyE letters → front = other) := by
  by_cases onlyE : IsOnlyE letters
  · rw [(onlyE.behind consonants).rhymeLetters, (onlyE.behind otherConsonants).rhymeLetters,
      List.append_left_inj]
    simp [onlyE]
  · rw [rhymeLetters_append voiced onlyE consonants,
      rhymeLetters_append voiced onlyE otherConsonants]
    simp [onlyE]

end Letters

/-! ### Words -/

section Words

variable {letters : List Char} {word front other : String}

theorem lowerImage_of_isAsciiLower {character : Char} (lower : isAsciiLower character = true) :
    character ≠ capitalSigma ∧ lowerImage character = [character] ∧
      isAlphabetic character = true := by
  have bounds : 97 ≤ character.toNat ∧ character.toNat ≤ 122 := by
    simpa [isAsciiLower, Char.le_def, UInt32.le_iff_toNat_le] using lower
  have ascii : isAscii character = true := decide_eq_true (by omega)
  have notUpper : isAsciiUpper character = false := by
    have behind : ¬ character ≤ 'Z' := by
      simp [Char.le_def, UInt32.le_iff_toNat_le]
      omega
    simp [isAsciiUpper, behind]
  refine ⟨?_, ?_, ?_⟩
  · rintro rfl
    exact absurd lower (by decide)
  · rw [lowerImage, if_pos ascii, asciiLower, notUpper]
    rfl
  · rw [isAlphabetic, if_pos ascii, isAsciiLetter, lower, Bool.true_or]

/-- Small letters stay as they are. -/
theorem lowerAfter_of_isAsciiLower (before : List Char)
    (lower : ∀ letter ∈ letters, isAsciiLower letter = true) :
    lowerAfter before letters = letters := by
  induction letters generalizing before with
  | nil => rfl
  | cons letter rest inductionHypothesis =>
      obtain ⟨first, others⟩ := List.forall_mem_cons.mp lower
      obtain ⟨noSigma, image, -⟩ := lowerImage_of_isAsciiLower first
      rw [lowerAfter, if_neg fun final => noSigma final.1, image, inductionHypothesis _ others]
      rfl

theorem toList_rhymeTail (lower : ∀ letter ∈ word.toList, isAsciiLower letter = true) :
    (rhymeTail word).toList = rhymeLetters word.toList := by
  have alphabetic : word.toList.filter isAlphabetic = word.toList :=
    List.filter_eq_self.mpr fun letter member =>
      (lowerImage_of_isAsciiLower (lower letter member)).2.2
  rw [rhymeTail, String.toList_ofList, lowerWord, lowerAfter_of_isAsciiLower [] lower, alphabetic]

/-- There are only small consonants. -/
def AreConsonants (text : String) : Prop :=
  ∀ letter ∈ text.toList, isAsciiLower letter = true ∧ isVowel letter = false

theorem all_iff_areConsonants (text : String) :
    (text.toList.all fun letter => isAsciiLower letter && !isVowel letter) = true ↔
      AreConsonants text := by
  simp [AreConsonants]

instance (text : String) : Decidable (AreConsonants text) :=
  decidable_of_iff _ (all_iff_areConsonants text)

/-- How a candidate sounds: as it is pronounced, or else as it is written. -/
def Candidate.sound (candidate : Candidate) : String :=
  candidate.pronunciation?.getD candidate.text

theorem rhymes_standard (first second : Candidate) :
    CarrierRules.standard.rhymes first second =
      (rhymeTail first.sound == rhymeTail second.sound) :=
  rfl

end Words

/-- Of a word of small letters with a vowel the tail starts at the last vowels, and consonants in
front neither change it nor keep words from rhyming. The exception are the words whose only vowel is
an `e` at their end: such a word is its own tail. -/
theorem rhymeTail_starts_at_vowels {word : String}
    (lower : ∀ letter ∈ word.toList, isAsciiLower letter = true)
    (voiced : ∃ letter ∈ word.toList, isVowel letter = true) :
    (StartsAtLastVowels word.toList (rhymeTail word).toList ↔
        (IsOnlyE word.toList → word = "e")) ∧
      (∀ front, AreConsonants front →
        (rhymeTail (front ++ word) = rhymeTail word ↔ (IsOnlyE word.toList → front = ""))) ∧
      (∀ front other, AreConsonants front → AreConsonants other →
        ∀ first second : Candidate, first.sound = front ++ word → second.sound = other ++ word →
          (CarrierRules.standard.rhymes first second = true ↔
            (IsOnlyE word.toList → front = other))) ∧
      (IsOnlyE word.toList → rhymeTail word = word) := by
  have tail := toList_rhymeTail lower
  have tailsAgree (front other : String) (consonants : AreConsonants front)
      (otherConsonants : AreConsonants other) :
      rhymeTail (front ++ word) = rhymeTail (other ++ word) ↔
        (IsOnlyE word.toList → front = other) := by
    have tailBehind {front : String} (consonants : AreConsonants front) :
        (rhymeTail (front ++ word)).toList = rhymeLetters (front.toList ++ word.toList) := by
      rw [← String.toList_append]
      refine toList_rhymeTail ?_
      rw [String.toList_append]
      exact List.forall_mem_append.mpr ⟨fun letter member => (consonants letter member).1, lower⟩
    rw [← String.toList_inj, tailBehind consonants, tailBehind otherConsonants,
      rhymeLetters_append_eq_iff voiced (fun letter member => (consonants letter member).2)
        fun letter member => (otherConsonants letter member).2, String.toList_inj]
  refine ⟨?_, ?_, ?_, ?_⟩
  · rw [tail, startsAtLastVowels_iff voiced, ← String.toList_inj]
    rfl
  · intro front consonants
    have agree := tailsAgree front "" consonants nofun
    rwa [String.empty_append] at agree
  · intro front other consonants otherConsonants first second sounds otherSounds
    rw [rhymes_standard, sounds, otherSounds, beq_iff_eq]
    exact tailsAgree front other consonants otherConsonants
  · intro onlyE
    rw [← String.toList_inj, tail, onlyE.rhymeLetters]

namespace OnlyVowel

/-- The only vowel of a pronoun is the `e` at its end, and its tail is the whole word. -/
theorem tail_begins_with_consonant :
    ¬ ∀ word : String, (∀ letter ∈ word.toList, isAsciiLower letter = true) →
      (∃ letter ∈ word.toList, isVowel letter = true) →
        (∃ first ∈ (rhymeTail word).toList.head?, isVowel first = true) ∧
          ∀ front, AreConsonants front → rhymeTail (front ++ word) = rhymeTail word := by
  intro claimed
  obtain ⟨⟨first, starts, vowel⟩, -⟩ := claimed "he" (List.all_eq_true.mp (by decide))
    (List.any_eq_true.mp (by decide))
  have tail : (rhymeTail "he").toList.head? = some 'h' := by decide +kernel
  rw [tail] at starts
  cases starts
  exact absurd vowel (by decide)

/-- A word with another vowel before the silent `e`. -/
theorem ale_rhymes_whale :
    (∀ letter ∈ "ale".toList, isAsciiLower letter = true) ∧
      (∃ letter ∈ "ale".toList, isVowel letter = true) ∧
      StartsAtLastVowels "ale".toList (rhymeTail "ale").toList ∧
      rhymeTail ("wh" ++ "ale") = rhymeTail "ale" := by
  have lower : ∀ letter ∈ "ale".toList, isAsciiLower letter = true :=
    List.all_eq_true.mp (by decide)
  have voiced : ∃ letter ∈ "ale".toList, isVowel letter = true :=
    List.any_eq_true.mp (by decide)
  have sounded : ¬ IsOnlyE "ale".toList := by
    rintro ⟨consonants, areConsonants, same⟩
    obtain ⟨rfl, -⟩ : ['a', 'l'] = consonants ∧ 'e' = 'e' := List.append_singleton_inj.mp same
    exact absurd (areConsonants 'a' List.mem_cons_self) (by decide)
  obtain ⟨starts, tails, -⟩ := rhymeTail_starts_at_vowels lower voiced
  exact ⟨lower, voiced, starts.mpr fun onlyE => absurd onlyE sounded,
    (tails "wh" (by decide)).mpr fun onlyE => absurd onlyE sounded⟩

end OnlyVowel

end SeededText.Vocabulary
