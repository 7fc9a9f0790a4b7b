import Mathlib.Data.List.TakeWhile
import SeededText.Proofs.QueryGrammar

/-!
Contract: reading the numbers and ranges of queries.

A text is read as a range if and only if the grammar derives the text for it. Texts hold one number
or two numbers apart by their first hyphen, and no number has a hyphen.

Owns: the agreement of numerals and ranges with the grammar, texts cut at a first separator.
Does not own: the tokens of queries (`SeededText.Proofs.QueryFilters`).
-/

namespace SeededText.Vocabulary.Grammar

open Pattern Text

/-! ### Numbers and ranges -/

theorem le_foldl_digits (digits : List Char) (value : Nat) :
    value ≤ digits.foldl (fun value digit => 10 * value + Number.digitValue digit) value := by
  induction digits generalizing value with
  | nil => exact Nat.le_refl _
  | cons digit digits inductionHypothesis =>
      have grows : value ≤ 10 * value + Number.digitValue digit := by omega
      exact Nat.le_trans grows (inductionHypothesis _)

theorem readDigits_eq_ok_iff {limit : Nat} {overflow : Number.NumeralFault} {digits : List Char}
    {value result : Nat} (within : value ≤ limit) :
    Number.readDigits limit overflow digits value = .ok result ↔
      (∀ digit ∈ digits, isAsciiDigit digit) ∧ result ≤ limit ∧
        digits.foldl (fun value digit => 10 * value + Number.digitValue digit) value = result := by
  induction digits generalizing value with
  | nil =>
      simp only [Number.readDigits, Except.ok.injEq, List.foldl_nil]
      constructor
      · rintro rfl
        exact ⟨by simp, within, rfl⟩
      · exact fun reads => reads.2.2
  | cons digit digits inductionHypothesis =>
      rw [Number.readDigits, List.foldl_cons]
      by_cases isDigit : isAsciiDigit digit = true
      · rw [if_neg (not_not_intro isDigit)]
        dsimp only
        by_cases tooLarge : limit < 10 * value + Number.digitValue digit
        · -- The value only grows with the digits that follow.
          rw [if_pos tooLarge]
          have grows := le_foldl_digits digits (10 * value + Number.digitValue digit)
          constructor
          · intro reads
            cases reads
          · rintro ⟨-, fits, rfl⟩
            omega
        · rw [if_neg tooLarge, inductionHypothesis (Nat.le_of_not_lt tooLarge)]
          simp [isDigit]
      · rw [if_pos isDigit]
        simp [isDigit]

theorem readDigits_eq_ok_iff_decimalValue {overflow : Number.NumeralFault} {digits : List Char}
    {value : Nat} :
    Number.readDigits (UInt32.size - 1) overflow digits 0 = .ok value ↔
      (∀ digit ∈ digits, isAsciiDigit digit) ∧ Unicode.decimalValue digits < UInt32.size ∧
        Unicode.decimalValue digits = value := by
  rw [readDigits_eq_ok_iff (Nat.zero_le _)]
  show _ ∧ _ ∧ Unicode.decimalValue digits = value ↔ _
  constructor
  · rintro ⟨all, fits, rfl⟩
    exact ⟨all, Nat.lt_of_le_of_lt fits (by decide), rfl⟩
  · rintro ⟨all, fits, rfl⟩
    exact ⟨all, Nat.le_of_lt_succ fits, rfl⟩

theorem readWord?_eq_some_iff {numeral : List Char} {value : Nat} :
    Number.readWord? numeral = some value ↔ Numeral numeral value := by
  have reads : ∀ read : Except Number.NumeralFault Nat,
      read.toOption = some value ↔ read = .ok value := by
    intro read
    cases read <;> simp [Except.toOption]
  rw [Number.readWord?, reads]
  constructor
  · intro read
    unfold Number.readBounded at read
    split at read
    · cases read
    · rename_i digits
      unfold Number.readMagnitude at read
      split at read
      · cases read
      · rename_i notEmpty
        obtain ⟨all, fits, rfl⟩ := readDigits_eq_ok_iff_decimalValue.mp read
        exact .signed notEmpty all fits
    · rename_i notEmpty _
      obtain ⟨all, fits, rfl⟩ := readDigits_eq_ok_iff_decimalValue.mp read
      exact .unsigned notEmpty all fits
  · intro numeral
    cases numeral with
    | unsigned notEmpty all fits =>
        have read : Number.readDigits (UInt32.size - 1) .tooLarge _ 0 = _ :=
          readDigits_eq_ok_iff_decimalValue.mpr ⟨all, fits, rfl⟩
        unfold Number.readBounded
        split
        · exact absurd rfl notEmpty
        · exact absurd (all '+' (List.mem_cons_self ..)) (by decide)
        · exact read
    | @signed digits notEmpty all fits =>
        have read : Number.readDigits (UInt32.size - 1) .tooLarge _ 0 = _ :=
          readDigits_eq_ok_iff_decimalValue.mpr ⟨all, fits, rfl⟩
        unfold Number.readBounded Number.readMagnitude
        cases digits with
        | nil => exact absurd rfl notEmpty
        | cons digit digits => exact read

theorem Numeral.ne_nil {numeral : List Char} {value : Nat} (reads : Numeral numeral value) :
    numeral ≠ [] := by
  cases reads with
  | unsigned notEmpty => exact notEmpty
  | signed => exact List.cons_ne_nil _ _

theorem Numeral.hyphen_notMem {numeral : List Char} {value : Nat} (reads : Numeral numeral value) :
    '-' ∉ numeral := by
  intro member
  cases reads with
  | unsigned _ all => exact absurd (all '-' member) (by decide)
  | signed _ all =>
      rcases List.mem_cons.mp member with same | member
      · exact absurd same (by decide)
      · exact absurd (all '-' member) (by decide)

/-- What stands before the first separator. -/
theorem takeWhile_bne_append {separator : Char} {before behind : List Char}
    (first : separator ∉ before) :
    (before ++ separator :: behind).takeWhile (· != separator) = before := by
  have passes : ∀ character ∈ before, (character != separator) = true := by
    intro character member
    exact bne_iff_ne.mpr fun same => first (same ▸ member)
  rw [List.takeWhile_append_of_pos passes]
  simp

theorem takeWhile_bne_of_notMem {separator : Char} {characters : List Char}
    (whole : separator ∉ characters) : characters.takeWhile (· != separator) = characters :=
  List.takeWhile_eq_self_iff.mpr fun _ member =>
    bne_iff_ne.mpr fun same => whole (same ▸ member)

theorem rangeOfText?_of_notMem {written : List Char} (whole : '-' ∉ written) :
    rangeOfText? written = (Number.readWord? written).map SyllableRange.exactly := by
  unfold rangeOfText?
  dsimp only
  rw [takeWhile_bne_of_notMem whole, List.drop_length]

/-- The range with the given bounds, unless both are open or they are out of order. -/
def rangeOfBounds? : Option Nat → Option Nat → Option SyllableRange
  | none, none => none
  | some least, some most => if least ≤ most then some ⟨some least, some most⟩ else none
  | least?, most? => some ⟨least?, most?⟩

theorem rangeOfText?_append {lower upper : List Char} (first : '-' ∉ lower) :
    rangeOfText? (lower ++ '-' :: upper) =
      (readBound? lower).bind fun least? => (readBound? upper).bind (rangeOfBounds? least?) := by
  unfold rangeOfText?
  dsimp only
  rw [takeWhile_bne_append first, List.drop_left]
  dsimp only
  rcases readBound? lower with _ | _ | least <;> rcases readBound? upper with _ | _ | most <;> rfl

theorem readBound?_eq_some_none {written : List Char} :
    readBound? written = some none ↔ written = [] := by
  unfold readBound?
  cases written <;> simp

theorem readBound?_eq_some_some {written : List Char} {bound : Nat} :
    readBound? written = some (some bound) ↔ Numeral written bound := by
  unfold readBound?
  cases written with
  | nil =>
      constructor
      · intro read
        cases read
      · intro reads
        exact absurd rfl reads.ne_nil
  | cons character written =>
      rw [← readWord?_eq_some_iff]
      simp

theorem rangeOfText?_eq_some_iff {written : List Char} {range : SyllableRange} :
    rangeOfText? written = some range ↔ Range written range := by
  constructor
  · intro read
    by_cases hyphenated : '-' ∈ written
    · -- An open bound is an empty one: the two bounds tell which of the three forms it is.
      obtain ⟨lower, upper, rfl, first⟩ := List.eq_append_cons_of_mem hyphenated
      rw [rangeOfText?_append first, Option.bind_eq_some_iff] at read
      obtain ⟨least?, lowerRead, read⟩ := read
      obtain ⟨most?, upperRead, read⟩ := Option.bind_eq_some_iff.mp read
      cases least? with
      | none =>
          obtain rfl := readBound?_eq_some_none.mp lowerRead
          cases most? with
          | none => cases read
          | some most =>
              cases read
              exact .atMost (readBound?_eq_some_some.mp upperRead)
      | some least =>
          have lowerReads := readBound?_eq_some_some.mp lowerRead
          cases most? with
          | none =>
              obtain rfl := readBound?_eq_some_none.mp upperRead
              cases read
              exact .atLeast lowerReads
          | some most =>
              simp only [rangeOfBounds?, Option.ite_none_right_eq_some] at read
              obtain ⟨ordered, same⟩ := read
              cases same
              exact .between lowerReads (readBound?_eq_some_some.mp upperRead) ordered
    · rw [rangeOfText?_of_notMem hyphenated, Option.map_eq_some_iff] at read
      obtain ⟨count, read, rfl⟩ := read
      exact .exactly (readWord?_eq_some_iff.mp read)
  · intro range
    cases range with
    | exactly reads =>
        rw [rangeOfText?_of_notMem reads.hyphen_notMem, readWord?_eq_some_iff.mpr reads]
        rfl
    | atLeast reads =>
        rw [rangeOfText?_append reads.hyphen_notMem, readBound?_eq_some_some.mpr reads]
        rfl
    | @atMost numeral most reads =>
        show rangeOfText? ([] ++ '-' :: numeral) = _
        rw [rangeOfText?_append List.not_mem_nil, readBound?_eq_some_some.mpr reads]
        rfl
    | between lowerReads upperReads ordered =>
        rw [rangeOfText?_append lowerReads.hyphen_notMem, readBound?_eq_some_some.mpr lowerReads,
          readBound?_eq_some_some.mpr upperReads]
        exact if_pos ordered

end SeededText.Vocabulary.Grammar
