import SeededText.Output.NumberFormat
import SeededText.Proofs.Separators
import Mathlib.Algebra.Group.Nat.Defs
import Mathlib.Data.List.Basic

/-!
Contract: numbers in English words can be read back.

A reader knows the English number words by itself: units, teens, tens with an optional unit behind a
hyphen, hundreds, and the scales, each of which multiplies the group of words before it. What is
written of an integer of 64 bits is read as that integer. The scales are a ladder of thousands, and
the proof goes up the ladder.

Owns: the reader, the words of a text, what is written read back.
Does not own: how numbers are written (`SeededText.Output.NumberFormat`), where separators stand
(`SeededText.Proofs.Separators`).
-/

namespace SeededText.Output

open Text

/-! ### Reading -/

/-- The parts of a text between the places of a character. -/
def cutAt (separator : Char) (text : String) : List String :=
  (text.toList.splitOn separator).map String.ofList

def unitValue? : String → Option Nat
  | "one" => some 1
  | "two" => some 2
  | "three" => some 3
  | "four" => some 4
  | "five" => some 5
  | "six" => some 6
  | "seven" => some 7
  | "eight" => some 8
  | "nine" => some 9
  | _ => none

def teenValue? : String → Option Nat
  | "ten" => some 10
  | "eleven" => some 11
  | "twelve" => some 12
  | "thirteen" => some 13
  | "fourteen" => some 14
  | "fifteen" => some 15
  | "sixteen" => some 16
  | "seventeen" => some 17
  | "eighteen" => some 18
  | "nineteen" => some 19
  | _ => none

def tensValue? : String → Option Nat
  | "twenty" => some 20
  | "thirty" => some 30
  | "forty" => some 40
  | "fifty" => some 50
  | "sixty" => some 60
  | "seventy" => some 70
  | "eighty" => some 80
  | "ninety" => some 90
  | _ => none

def scaleValue? : String → Option Nat
  | "thousand" => some 1000
  | "million" => some 1000000
  | "billion" => some 1000000000
  | "trillion" => some 1000000000000
  | "quadrillion" => some 1000000000000000
  | "quintillion" => some 1000000000000000000
  | _ => none

/-- A unit, a teen, tens, or tens and a unit with a hyphen between them. -/
def valueBelowHundred? (word : String) : Option Nat :=
  match cutAt '-' word with
  | [whole] => unitValue? whole <|> teenValue? whole <|> tensValue? whole
  | [tens, unit] => do return (← tensValue? tens) + (← unitValue? unit)
  | _ => none

/-- A group of words: hundreds, a number below one hundred, or the one before the other. -/
def groupValue? : List String → Option Nat
  | [word] => valueBelowHundred? word
  | [count, "hundred"] => do return (← unitValue? count) * 100
  | [count, "hundred", word] => do return (← unitValue? count) * 100 + (← valueBelowHundred? word)
  | _ => none

/-- The sum of all groups, each multiplied by the scale behind it; the last group may have none.
`group` are the words since the last scale. -/
def magnitude? (group : List String) : List String → Option Nat
  | [] => if group = [] then some 0 else groupValue? group
  | word :: words =>
      match scaleValue? word with
      | some scale => do return (← groupValue? group) * scale + (← magnitude? [] words)
      | none => magnitude? (group ++ [word]) words

/-- The integer that words stand for, with `negative` before them or not. -/
def integer? (words : List String) : Option Int :=
  if words = ["zero"] then some 0
  else if words.head? = some "negative" then
    if words.tail = [] then none
    else (magnitude? [] words.tail).map fun value : Nat => -(value : Int)
  else (magnitude? [] words).map Int.ofNat

/-- The standard reading of a number in English words, with single spaces between them. -/
def readNumber? (text : String) : Option Int :=
  integer? (cutAt ' ' text)

/-! ### Cutting texts -/

section Cutting

variable {separator : Char} {text word first second : String} {phrases : List String}

theorem cutAt_of_notMem (free : separator ∉ word.toList) : cutAt separator word = [word] := by
  rw [cutAt, List.splitOn_eq_singleton free, List.map_singleton, String.ofList_toList]

theorem cutAt_of_join (joined : text.toList = first.toList ++ separator :: second.toList) :
    cutAt separator text = cutAt separator first ++ cutAt separator second := by
  rw [cutAt, joined, List.splitOn_append_cons_of_beq _ _ (beq_self_eq_true separator),
    List.map_append]
  rfl

/-- A text is joined from its words. -/
theorem intercalate_cutAt :
    [separator].intercalate ((cutAt separator text).map String.toList) = text.toList := by
  rw [cutAt, List.map_map]
  have same : String.toList ∘ String.ofList = id := funext fun _ => String.toList_ofList
  rw [same, List.map_id]
  exact List.intercalate_splitOn separator

/-- The words of several phrases. -/
def spoken (phrases : List String) : List String :=
  phrases.flatMap (cutAt ' ')

theorem cutAt_intercalate (full : phrases ≠ []) :
    cutAt ' ' (" ".intercalate phrases) = spoken phrases := by
  induction phrases with
  | nil => exact absurd rfl full
  | cons first phrases inductionHypothesis =>
      cases phrases with
      | nil =>
          have alone : " ".intercalate [first] = first := by
            rw [← String.toList_inj, String.toList_intercalate]
            simp
          rw [alone, spoken, List.flatMap_singleton]
      | cons second phrases =>
          have joined : (" ".intercalate (first :: second :: phrases)).toList =
              first.toList ++ ' ' :: (" ".intercalate (second :: phrases)).toList := by
            rw [String.toList_intercalate, String.toList_intercalate, List.map_cons, List.map_cons,
              List.intercalate_cons_cons]
            simp
          rw [cutAt_of_join joined, inductionHypothesis (List.cons_ne_nil _ _)]
          rfl

end Cutting

/-! ### Words below one hundred -/

section Words

variable {number : Nat} {word tens unit : String}

/-- A word of small letters. -/
def isLettered (word : String) : Bool :=
  word.toList ≠ [] && word.toList.all isAsciiLower

theorem isLettered_smallNumberWord : ∀ number < 20, isLettered (smallNumberWord number) = true := by
  decide

theorem isLettered_tensWord : ∀ tens < 10, 2 ≤ tens → isLettered (tensWord tens) = true := by
  decide

theorem unitValue?_smallNumberWord :
    ∀ unit < 10, 0 < unit → unitValue? (smallNumberWord unit) = some unit := by
  decide

theorem teenValue?_smallNumberWord : ∀ teen < 20, 10 ≤ teen →
    unitValue? (smallNumberWord teen) = none ∧
      teenValue? (smallNumberWord teen) = some teen := by
  decide

theorem tensValue?_tensWord : ∀ tens < 10, 2 ≤ tens →
    unitValue? (tensWord tens) = none ∧ teenValue? (tensWord tens) = none ∧
      tensValue? (tensWord tens) = some (10 * tens) := by
  decide

theorem notMem_of_isLettered {separator : Char} (lettered : isLettered word = true)
    (other : isAsciiLower separator = false) : separator ∉ word.toList := by
  intro inside
  obtain ⟨-, letters⟩ := Bool.and_eq_true_iff.mp lettered
  have letter := List.all_eq_true.mp letters separator inside
  rw [other] at letter
  cases letter

theorem spoken_cons (lettered : isLettered word = true) (phrases : List String) :
    spoken (word :: phrases) = word :: spoken phrases := by
  rw [spoken, List.flatMap_cons, cutAt_of_notMem (notMem_of_isLettered lettered rfl)]
  rfl

theorem isSolid_of_isLettered (lettered : isLettered word = true) :
    isSolid isAsciiLower ' ' word.toList = true := by
  obtain ⟨full, letters⟩ := Bool.and_eq_true_iff.mp lettered
  refine isSolid_iff.mpr ⟨notMem_of_isLettered lettered rfl, ?_, ?_⟩
  · cases starts : word.toList.head? with
    | none => simp_all
    | some letter => exact List.all_eq_true.mp letters letter (List.mem_of_mem_head? starts)
  · cases ends : word.toList.getLast? with
    | none => simp_all
    | some letter => exact List.all_eq_true.mp letters letter (List.mem_of_getLast? ends)

theorem toList_hyphenated :
    (tens ++ "-" ++ unit).toList = tens.toList ++ '-' :: unit.toList := by
  simp

theorem isSolid_hyphenated (tensLettered : isLettered tens = true)
    (unitLettered : isLettered unit = true) :
    isSolid isAsciiLower ' ' (tens ++ "-" ++ unit).toList = true := by
  obtain ⟨tensFree, begins, -⟩ := isSolid_iff.mp (isSolid_of_isLettered tensLettered)
  obtain ⟨unitFree, -, ends⟩ := isSolid_iff.mp (isSolid_of_isLettered unitLettered)
  rw [toList_hyphenated]
  refine isSolid_iff.mpr ⟨by simp [tensFree, unitFree], ?_, ?_⟩
  · cases letters : tens.toList with
    | nil => simp [letters] at begins
    | cons => simpa [letters] using begins
  · have hyphened : (['-'] ++ unit.toList).getLast?.any isAsciiLower := any_getLast?_append ends
    exact any_getLast?_append hyphened

theorem valueBelowHundred?_of_isLettered (lettered : isLettered word = true) :
    valueBelowHundred? word = (unitValue? word <|> teenValue? word <|> tensValue? word) := by
  rw [valueBelowHundred?, cutAt_of_notMem (notMem_of_isLettered lettered rfl)]

theorem valueBelowHundred?_hyphenated (tensLettered : isLettered tens = true)
    (unitLettered : isLettered unit = true) :
    valueBelowHundred? (tens ++ "-" ++ unit) =
      do return (← tensValue? tens) + (← unitValue? unit) := by
  rw [valueBelowHundred?, cutAt_of_join toList_hyphenated,
    cutAt_of_notMem (notMem_of_isLettered tensLettered rfl),
    cutAt_of_notMem (notMem_of_isLettered unitLettered rfl)]
  rfl

/-- Below one hundred a number is one word, which is read as the number. -/
theorem exists_word_belowHundred (positive : 0 < number) (below : number < 100) :
    ∃ word, wordsBelowHundred number = [word] ∧ valueBelowHundred? word = some number ∧
      isSolid isAsciiLower ' ' word.toList = true := by
  unfold wordsBelowHundred
  by_cases large : 20 ≤ number
  · have tensLettered := isLettered_tensWord (number / 10) (by omega) (by omega)
    obtain ⟨noUnit, noTeen, isTens⟩ := tensValue?_tensWord (number / 10) (by omega) (by omega)
    rw [if_pos large]
    by_cases round : number % 10 = 0
    · rw [if_pos round]
      refine ⟨_, rfl, ?_, isSolid_of_isLettered tensLettered⟩
      rw [valueBelowHundred?_of_isLettered tensLettered, noUnit, noTeen, isTens]
      exact congrArg some (by omega)
    · have unitLettered := isLettered_smallNumberWord (number % 10) (by omega)
      have isUnit := unitValue?_smallNumberWord (number % 10) (by omega) (by omega)
      rw [if_neg round]
      refine ⟨_, rfl, ?_, isSolid_hyphenated tensLettered unitLettered⟩
      rw [valueBelowHundred?_hyphenated tensLettered unitLettered, isTens, isUnit]
      exact congrArg some (by omega)
  · have lettered := isLettered_smallNumberWord number (by omega)
    rw [if_neg large, if_pos positive]
    refine ⟨_, rfl, ?_, isSolid_of_isLettered lettered⟩
    rw [valueBelowHundred?_of_isLettered lettered]
    by_cases small : number < 10
    · rw [unitValue?_smallNumberWord number small positive]
      rfl
    · obtain ⟨noUnit, isTeen⟩ := teenValue?_smallNumberWord number (by omega) (by omega)
      rw [noUnit, isTeen]
      rfl

end Words

/-! ### Groups of words -/

section Groups

variable {number : Nat} {word : String} {group words : List String}

/-- The word may stand in a group: it has a value below one hundred, or it is `hundred`. -/
structure IsGroupWord (word : String) : Prop where
  counts : word = "hundred" ∨ (valueBelowHundred? word).isSome
  solid : isSolid isAsciiLower ' ' word.toList = true

/-- No scale stands in a group. -/
theorem IsGroupWord.scaleValue? (isGroupWord : IsGroupWord word) : scaleValue? word = none := by
  have counts := isGroupWord.counts
  unfold Output.scaleValue?
  split
  case h_7 => rfl
  all_goals exact absurd counts (by decide)

theorem filterMap_scaleValue?_of_group (inGroup : ∀ word ∈ words, IsGroupWord word) :
    words.filterMap scaleValue? = [] :=
  List.filterMap_eq_nil_iff.mpr fun word member => (inGroup word member).scaleValue?

/-- Up to the next scale the words are gathered in the group. -/
theorem magnitude?_append (inGroup : ∀ word ∈ words, IsGroupWord word) (others : List String) :
    magnitude? group (words ++ others) = magnitude? (group ++ words) others := by
  induction words generalizing group with
  | nil => rw [List.nil_append, List.append_nil]
  | cons word words inductionHypothesis =>
      obtain ⟨isGroupWord, inGroup⟩ := List.forall_mem_cons.mp inGroup
      rw [List.cons_append, magnitude?, isGroupWord.scaleValue?]
      show magnitude? (group ++ [word]) (words ++ others) = _
      rw [inductionHypothesis inGroup, List.append_assoc, List.singleton_append]

theorem spoken_hundreds (hundreds : Nat) (below : hundreds < 10) :
    spoken [smallNumberWord hundreds ++ " hundred"] = [smallNumberWord hundreds, "hundred"] := by
  have lettered := isLettered_smallNumberWord hundreds (by omega)
  have joined : (smallNumberWord hundreds ++ " hundred").toList =
      (smallNumberWord hundreds).toList ++ ' ' :: "hundred".toList := by
    rw [String.toList_append]
    rfl
  rw [spoken, List.flatMap_singleton, cutAt_of_join joined,
    cutAt_of_notMem (notMem_of_isLettered lettered rfl)]
  rfl

theorem isGroupWord_count (hundreds : Nat) (positive : 0 < hundreds) (below : hundreds < 10) :
    IsGroupWord (smallNumberWord hundreds) where
  counts := by
    rw [valueBelowHundred?_of_isLettered (isLettered_smallNumberWord hundreds (by omega)),
      unitValue?_smallNumberWord hundreds below positive]
    exact .inr rfl
  solid := isSolid_of_isLettered (isLettered_smallNumberWord hundreds (by omega))

theorem isGroupWord_hundred : IsGroupWord "hundred" :=
  ⟨.inl rfl, by decide⟩

/-- Below one hundred a number is spoken as one word of a group. -/
theorem exists_spoken_belowHundred (positive : 0 < number) (below : number < 100) :
    ∃ word, spoken (wordsBelowHundred number) = [word] ∧
      valueBelowHundred? word = some number ∧ IsGroupWord word := by
  obtain ⟨word, written, reads, solid⟩ := exists_word_belowHundred positive below
  refine ⟨word, ?_, reads, .inr ?_, solid⟩
  · rw [written, spoken, List.flatMap_singleton, cutAt_of_notMem (isSolid_iff.mp solid).1]
  · rw [reads]
    rfl

/-- Below one thousand a number is a group of words, which is read as the number. -/
theorem spoken_wordsBelowThousand (positive : 0 < number) (below : number < 1000) :
    groupValue? (spoken (wordsBelowThousand number)) = some number ∧
      ∀ word ∈ spoken (wordsBelowThousand number), IsGroupWord word := by
  have few : number / 100 < 10 := by omega
  have rest : number % 100 < 100 := Nat.mod_lt number (by decide)
  rw [wordsBelowThousand, spoken, List.flatMap_append, ← spoken, ← spoken]
  by_cases hundreds : 0 < number / 100
  · have isCount := unitValue?_smallNumberWord (number / 100) few hundreds
    have countIsGroupWord := isGroupWord_count (number / 100) hundreds few
    rw [if_pos hundreds, spoken_hundreds (number / 100) few]
    by_cases more : 0 < number % 100
    · obtain ⟨word, isSpoken, reads, isGroupWord⟩ := exists_spoken_belowHundred more rest
      rw [isSpoken]
      refine ⟨?_, by simp [countIsGroupWord, isGroupWord_hundred, isGroupWord]⟩
      show (do return (← unitValue? _) * 100 + (← valueBelowHundred? word)) = _
      rw [isCount, reads]
      exact congrArg some (by omega)
    · have none : wordsBelowHundred (number % 100) = [] := by
        rw [wordsBelowHundred, if_neg (by omega), if_neg more]
      rw [none]
      refine ⟨?_, by simp [spoken, countIsGroupWord, isGroupWord_hundred]⟩
      show (do return (← unitValue? _) * 100) = _
      rw [isCount]
      exact congrArg some (by omega)
  · have more : 0 < number % 100 := by omega
    obtain ⟨word, isSpoken, reads, isGroupWord⟩ := exists_spoken_belowHundred more rest
    rw [if_neg hundreds, isSpoken]
    refine ⟨?_, by simp [spoken, isGroupWord]⟩
    show valueBelowHundred? word = _
    rw [reads]
    exact congrArg some (by omega)

end Groups

/-! ### Groups and scales -/

section Scales

variable {scales smaller : List (Nat × String)} {bound scale number : Nat} {name : String}
  {words : List String}

/-- The words of a number, going through scales from the largest on: a group of words for each scale
that the number reaches, with the scale behind it, and at last a group for what is left, if anything
is. -/
inductive SpelledBy : List (Nat × String) → Nat → List String → Prop where
  | nothing : SpelledBy [] 0 []
  | group {number : Nat} {words : List String} (reads : groupValue? words = some number)
      (inGroup : ∀ word ∈ words, IsGroupWord word) : SpelledBy [] number words
  | reached {smaller : List (Nat × String)} {scale count rest : Nat} {name : String}
      {group words : List String} (reads : groupValue? group = some count)
      (inGroup : ∀ word ∈ group, IsGroupWord word) (names : scaleValue? name = some scale)
      (lettered : isLettered name = true) (behind : SpelledBy smaller rest words) :
      SpelledBy ((scale, name) :: smaller) (count * scale + rest) (group ++ name :: words)
  | missed {smaller : List (Nat × String)} {larger : Nat × String} {number : Nat}
      {words : List String} (behind : SpelledBy smaller number words) :
      SpelledBy (larger :: smaller) number words

/-- The word stands in a group, or for a scale. -/
def IsNumberWord (word : String) : Prop :=
  IsGroupWord word ∨ (scaleValue? word).isSome ∧ isLettered word = true

namespace SpelledBy

/-- The words are read as the number. -/
theorem magnitude? (spelled : SpelledBy scales number words) :
    magnitude? [] words = some number := by
  induction spelled with
  | nothing => rfl
  | @group number words reads inGroup =>
      have gathered : Output.magnitude? [] (words ++ []) = Output.magnitude? ([] ++ words) [] :=
        magnitude?_append inGroup []
      have full : words ≠ [] := fun none => by simp [none, groupValue?] at reads
      rw [List.append_nil, List.nil_append] at gathered
      rw [gathered, Output.magnitude?, if_neg full, reads]
  | @reached smaller scale count rest name group words reads inGroup names _ _
      inductionHypothesis =>
      rw [magnitude?_append inGroup, List.nil_append, Output.magnitude?, names]
      show (do return (← groupValue? group) * scale + (← Output.magnitude? [] words)) = _
      rw [reads, inductionHypothesis]
      rfl
  | missed _ inductionHypothesis => exact inductionHypothesis

theorem isNumberWord (spelled : SpelledBy scales number words) :
    ∀ word ∈ words, IsNumberWord word := by
  induction spelled with
  | nothing => exact nofun
  | group _ inGroup => exact fun word member => .inl (inGroup word member)
  | reached _ inGroup names lettered _ inductionHypothesis =>
      refine List.forall_mem_append.mpr ⟨fun word member => .inl (inGroup word member), ?_⟩
      refine List.forall_mem_cons.mpr ⟨.inr ⟨?_, lettered⟩, inductionHypothesis⟩
      rw [names]
      rfl
  | missed _ inductionHypothesis => exact inductionHypothesis

/-- The scales among the words stand in the order of the scales gone through. -/
theorem scales_sublist (spelled : SpelledBy scales number words) :
    (words.filterMap scaleValue?).Sublist (scales.map Prod.fst) := by
  induction spelled with
  | nothing => exact .slnil
  | group _ inGroup =>
      rw [filterMap_scaleValue?_of_group inGroup]
      exact .slnil
  | reached _ inGroup names _ _ inductionHypothesis =>
      rw [List.filterMap_append, filterMap_scaleValue?_of_group inGroup, List.nil_append,
        List.filterMap_cons_some names]
      exact inductionHypothesis.cons_cons _
  | missed _ inductionHypothesis => exact inductionHypothesis.cons _

end SpelledBy

/-! ### The ladder of scales -/

/-- Scales that go down by thousands to one thousand, each with the word that stands for it. Below
the bound a number has at most a group of words for each of them, and one more. -/
inductive IsLadder : List (Nat × String) → Nat → Prop where
  | ground : IsLadder [] 1000
  | rung {scale bound : Nat} {name : String} {smaller : List (Nat × String)}
      (names : scaleValue? name = some scale) (lettered : isLettered name = true)
      (thousandfold : bound = scale * 1000) (lower : IsLadder smaller scale) :
      IsLadder ((scale, name) :: smaller) bound

theorem isLadder_scaleWords : IsLadder scaleWords (10 ^ 21) := by
  unfold scaleWords
  repeat refine .rung rfl (by decide) rfl ?_
  exact .ground

namespace IsLadder

theorem positive (ladder : IsLadder scales bound) : 0 < bound := by
  induction ladder with
  | ground => decide
  | rung _ _ thousandfold _ inductionHypothesis => omega

theorem decreases (ladder : IsLadder scales bound) :
    (scales.map Prod.fst).Pairwise (· > ·) ∧ ∀ scale ∈ scales.map Prod.fst, scale < bound := by
  induction ladder with
  | ground => simp
  | rung _ _ thousandfold lower inductionHypothesis =>
      obtain ⟨ordered, below⟩ := inductionHypothesis
      have positive := lower.positive
      refine ⟨List.pairwise_cons.mpr ⟨below, ordered⟩, List.forall_mem_cons.mpr ⟨by omega, ?_⟩⟩
      intro other member
      have less := below other member
      omega

/-- What is written of a number below the bound are its words by the scales of the ladder. -/
theorem spelledBy (ladder : IsLadder scales bound) (below : number < bound) :
    SpelledBy scales number (spoken (wordsFrom scales number)) := by
  induction ladder generalizing number with
  | ground =>
      rw [wordsFrom]
      by_cases positive : 0 < number
      · obtain ⟨reads, inGroup⟩ := spoken_wordsBelowThousand positive below
        exact .group reads inGroup
      · obtain rfl : number = 0 := by omega
        exact .nothing
  | @rung scale bound name smaller names lettered thousandfold lower inductionHypothesis =>
      by_cases reached : scale ≤ number
      · have positive := lower.positive
        have few : number / scale < 1000 := Nat.div_lt_of_lt_mul (by omega)
        obtain ⟨reads, inGroup⟩ :=
          spoken_wordsBelowThousand (Nat.div_pos reached positive) few
        have rest := inductionHypothesis (Nat.mod_lt number positive)
        have whole := SpelledBy.reached reads inGroup names lettered rest
        rw [Nat.div_add_mod'] at whole
        rw [wordsFrom, if_pos reached, spoken, List.flatMap_append, ← spoken, ← spoken,
          spoken_cons lettered]
        exact whole
      · rw [wordsFrom, if_neg reached]
        exact .missed (inductionHypothesis (by omega))

end IsLadder

end Scales

/-! ### Written integers -/

section Integers

variable {scales : List (Nat × String)} {magnitude : Nat} {number : Int} {word : String}
  {words : List String}

/-- `zero` and `negative` stand neither in a group nor for a scale. -/
theorem not_isNumberWord (noHundred : word ≠ "hundred") (noValue : valueBelowHundred? word = none)
    (noScale : scaleValue? word = none) : ¬ IsNumberWord word := by
  rintro (⟨isHundred | isValue, -⟩ | ⟨isScale, -⟩)
  · exact noHundred isHundred
  · simp [noValue] at isValue
  · simp [noScale] at isScale

theorem IsNumberWord.solid (isNumberWord : IsNumberWord word) :
    isSolid isAsciiLower ' ' word.toList = true := by
  obtain isGroupWord | ⟨-, lettered⟩ := isNumberWord
  · exact isGroupWord.solid
  · exact isSolid_of_isLettered lettered

theorem SpelledBy.full (spelled : SpelledBy scales magnitude words) (positive : 0 < magnitude) :
    words ≠ [] := by
  rintro rfl
  cases spelled.magnitude?
  cases positive

/-- With the sign before its words a number is read as its negative. -/
theorem SpelledBy.integer? (spelled : SpelledBy scales magnitude words) (positive : 0 < magnitude) :
    integer? words = some (magnitude : Int) ∧
      integer? ("negative" :: words) = some (-(magnitude : Int)) := by
  have reads := spelled.magnitude?
  have counts := spelled.isNumberWord
  have notZero : words ≠ ["zero"] := by
    rintro rfl
    exact not_isNumberWord (by decide) (by decide) rfl (counts _ List.mem_cons_self)
  have unsigned : words.head? ≠ some "negative" := fun starts =>
    not_isNumberWord (by decide) (by decide) rfl (counts _ (List.mem_of_mem_head? starts))
  constructor
  · rw [Output.integer?, if_neg notZero, if_neg unsigned, reads]
    rfl
  · rw [Output.integer?, if_neg (by simp), if_pos List.head?_cons, List.tail_cons,
      if_neg (spelled.full positive), reads]
    rfl

/-- The words that are written of an integer other than zero. -/
theorem exists_words_verbal (nonzero : number ≠ 0) (below : number.natAbs < 10 ^ 21) :
    ∃ words, SpelledBy scaleWords number.natAbs words ∧
      cutAt ' ' (NumberFormat.verbal.writeInteger number) =
        if number < 0 then "negative" :: words else words := by
  have spelled := isLadder_scaleWords.spelledBy below
  have full := spelled.full (Int.natAbs_pos.mpr nonzero)
  refine ⟨_, spelled, ?_⟩
  rw [NumberFormat.writeInteger, numberWords, if_neg nonzero]
  by_cases negative : number < 0
  · rw [if_pos negative, if_pos negative, List.singleton_append,
      cutAt_intercalate (List.cons_ne_nil _ _)]
    rfl
  · have some : wordsFrom scaleWords number.natAbs ≠ [] := fun none => full (by rw [none]; rfl)
    rw [if_neg negative, if_neg negative, List.nil_append, cutAt_intercalate some]

/-- What is written of an integer is read as the integer. -/
theorem readNumber?_verbal (below : number.natAbs < 10 ^ 21) :
    readNumber? (NumberFormat.verbal.writeInteger number) = some number := by
  by_cases zero : number = 0
  · subst zero
    decide
  · obtain ⟨words, spelled, written⟩ := exists_words_verbal zero below
    obtain ⟨reads, readsNegative⟩ := spelled.integer? (Int.natAbs_pos.mpr zero)
    rw [readNumber?, written]
    by_cases negative : number < 0
    · rw [if_pos negative, readsNegative]
      exact congrArg some (by omega)
    · rw [if_neg negative, reads]
      exact congrArg some (by omega)

/-- The scales in a written integer decrease. -/
theorem scales_verbal (below : number.natAbs < 10 ^ 21) :
    ((cutAt ' ' (NumberFormat.verbal.writeInteger number)).filterMap scaleValue?).Pairwise
      (· > ·) := by
  by_cases zero : number = 0
  · subst zero
    decide
  · obtain ⟨words, spelled, written⟩ := exists_words_verbal zero below
    have ordered := isLadder_scaleWords.decreases.1.sublist spelled.scales_sublist
    rw [written]
    split
    · exact ordered
    · exact ordered

/-- The spaces in a written integer stand between letters. -/
theorem standsBetween_verbal (below : number.natAbs < 10 ^ 21) :
    StandsBetween isAsciiLower ' ' (NumberFormat.verbal.writeInteger number).toList := by
  have solid : ∀ word ∈ cutAt ' ' (NumberFormat.verbal.writeInteger number),
      isSolid isAsciiLower ' ' word.toList = true := by
    by_cases zero : number = 0
    · subst zero
      decide
    · obtain ⟨words, spelled, written⟩ := exists_words_verbal zero below
      have counts := fun word member => (spelled.isNumberWord word member).solid
      rw [written]
      split
      · exact List.forall_mem_cons.mpr ⟨by decide, counts⟩
      · exact counts
  rw [← intercalate_cutAt]
  exact standsBetween_intercalate (List.forall_mem_map.mpr solid)

end Integers

/-- An integer of 64 bits in English words is read as the integer, so that no other one is written
with the same words; its scales decrease, and each space in it stands between two letters. -/
theorem NumberFormat.verbal_reads_back (number : Int64) :
    let text := verbal.writeInteger number.toInt
    readNumber? text = some number.toInt ∧
      (∀ other : Int64, verbal.writeInteger other.toInt = text → other = number) ∧
      ((cutAt ' ' text).filterMap scaleValue?).Pairwise (· > ·) ∧
      StandsBetween isAsciiLower ' ' text.toList := by
  have below (number : Int64) : number.toInt.natAbs < 10 ^ 21 := by
    have least := number.le_toInt
    have most := number.toInt_lt
    omega
  have reads (number : Int64) := readNumber?_verbal (below number)
  refine ⟨reads number, fun other same => ?_, scales_verbal (below number),
    standsBetween_verbal (below number)⟩
  have same := (reads other).symm.trans ((congrArg readNumber? same).trans (reads number))
  exact Int64.toInt_inj.mp (Option.some.inj same)

example : readNumber? "negative two million forty-five thousand seventeen" = some (-2045017) := by
  decide

end SeededText.Output
