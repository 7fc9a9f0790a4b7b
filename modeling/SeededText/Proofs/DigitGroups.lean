import SeededText.Output.NumberFormat
import SeededText.Proofs.Separators
import Mathlib.Data.List.Basic

/-!
Contract: integers in groups of three digits.

Without its separators a grouped integer is the plain decimal, and the separators cut the digits
behind the sign into groups of three from the right, the first of which has one to three digits.

Owns: groups of three digits, where a grouped integer is cut.
Does not own: how numbers are written (`SeededText.Output.NumberFormat`), where separators stand
(`SeededText.Proofs.Separators`).
-/

namespace SeededText.Output

open Text

/-- What a format puts between groups of three digits, if it makes groups. -/
def NumberFormat.separator? : NumberFormat → Option Char
  | .group | .groupCommas => some ','
  | .groupDots => some '.'
  | .normal | .roman | .romanUpper | .romanLower | .verbal => none

section Groups

variable {separator : Char} {digits first : List Char} {others : List (List Char)}

/-- Groups of three digits behind a first one of one to three digits. -/
structure AreThrees (first : List Char) (others : List (List Char)) : Prop where
  full : 1 ≤ first.length
  few : first.length ≤ 3
  threes : ∀ group ∈ others, group.length = 3
  digits : ∀ group ∈ first :: others, ∀ digit ∈ group, digit.isDigit = true

namespace AreThrees

theorem length_flatten (areThrees : AreThrees first others) :
    others.flatten.length % 3 = 0 := by
  rw [List.length_flatten, List.map_congr_left areThrees.threes, List.map_const',
    List.sum_replicate_nat]
  exact Nat.mul_mod_left _ _

/-- One more digit in a first group that has room. -/
theorem extend {digit : Char} (areThrees : AreThrees first others) (isDigit : digit.isDigit = true)
    (room : first.length < 3) : AreThrees (digit :: first) others where
  full := Nat.succ_pos _
  few := room
  threes := areThrees.threes
  digits := by
    obtain ⟨firstDigits, otherDigits⟩ := List.forall_mem_cons.mp areThrees.digits
    exact List.forall_mem_cons.mpr ⟨List.forall_mem_cons.mpr ⟨isDigit, firstDigits⟩, otherDigits⟩

/-- One more digit before a first group that is complete. -/
theorem precede {digit : Char} (areThrees : AreThrees first others)
    (isDigit : digit.isDigit = true) (complete : first.length = 3) :
    AreThrees [digit] (first :: others) where
  full := Nat.le_refl _
  few := Nat.le_add_left 1 2
  threes := List.forall_mem_cons.mpr ⟨complete, areThrees.threes⟩
  digits := List.forall_mem_cons.mpr ⟨by simpa using isDigit, areThrees.digits⟩

/-- Each separator between the groups stands between two digits. -/
theorem standsBetween (areThrees : AreThrees first others) (noDigit : separator.isDigit = false) :
    StandsBetween Char.isDigit separator ([separator].intercalate (first :: others)) := by
  refine standsBetween_intercalate fun group member => ?_
  have digits := areThrees.digits group member
  have full : group ≠ [] := by
    rintro rfl
    obtain rfl | behind := List.mem_cons.mp member
    · exact absurd areThrees.full (by decide)
    · exact absurd (areThrees.threes [] behind) (by decide)
  refine isSolid_iff.mpr ⟨fun inside => ?_, ?_, ?_⟩
  · have isDigit := digits separator inside
    rw [noDigit] at isDigit
    cases isDigit
  · rw [List.head?_eq_some_head full]
    exact digits _ (List.head_mem full)
  · rw [List.getLast?_eq_some_getLast full]
    exact digits _ (List.getLast_mem full)

end AreThrees

theorem intercalate_cons_head (digit : Char) :
    [separator].intercalate ((digit :: first) :: others) =
      digit :: [separator].intercalate (first :: others) := by
  cases others with
  | nil => rw [List.intercalate_singleton, List.intercalate_singleton]
  | cons => simp only [List.intercalate_cons_cons, List.cons_append]

/-- Digits are cut into groups of three from the right. -/
theorem exists_areThrees (full : digits ≠ [])
    (isDigit : ∀ digit ∈ digits, digit.isDigit = true) :
    ∃ first others, AreThrees first others ∧ first ++ others.flatten = digits ∧
      groupDigits separator digits = [separator].intercalate (first :: others) := by
  induction digits with
  | nil => exact absurd rfl full
  | cons digit rest inductionHypothesis =>
      obtain ⟨firstDigit, restDigits⟩ := List.forall_mem_cons.mp isDigit
      by_cases alone : rest = []
      · subst alone
        refine ⟨[digit], [], ⟨Nat.le_refl _, Nat.le_add_left 1 2, nofun, by simpa using firstDigit⟩,
          rfl, ?_⟩
        rw [groupDigits, if_neg (by simp), groupDigits, List.intercalate_singleton]
      · obtain ⟨first, others, areThrees, whole, cut⟩ := inductionHypothesis alone restDigits
        have few := areThrees.few
        have some := areThrees.full
        have threes := areThrees.length_flatten
        -- The rest is a multiple of three digits just if its first group is complete.
        have length : first.length + others.flatten.length = rest.length := by
          rw [← List.length_append, whole]
        rw [groupDigits, cut]
        by_cases complete : first.length = 3
        · refine ⟨[digit], first :: others, areThrees.precede firstDigit complete, ?_, ?_⟩
          · rw [List.flatten_cons, whole, List.singleton_append]
          · rw [if_pos ⟨by omega, alone⟩, List.intercalate_cons_cons, List.append_assoc,
              List.singleton_append, List.singleton_append]
        · refine ⟨digit :: first, others, areThrees.extend firstDigit (by omega), ?_, ?_⟩
          · rw [List.cons_append, whole]
          · rw [if_neg fun multiple => complete (by omega), intercalate_cons_head]

/-- Without the separators the digits are left. -/
theorem filter_groupDigits (free : separator ∉ digits) :
    (groupDigits separator digits).filter (· != separator) = digits := by
  induction digits with
  | nil => rfl
  | cons digit rest inductionHypothesis =>
      obtain ⟨other, free⟩ := not_or.mp (mt List.mem_cons.mpr free)
      rw [groupDigits]
      split
      · rw [List.filter_cons_of_pos (by simpa using Ne.symm other),
          List.filter_cons_of_neg (by simp), inductionHypothesis free]
      · rw [List.filter_cons_of_pos (by simpa using Ne.symm other), inductionHypothesis free]

end Groups

/-! ### Integers -/

section Integers

variable {separator : Char}

theorem isDigit_decimalDigits (number : Nat) :
    ∀ digit ∈ decimalDigits number, digit.isDigit = true :=
  fun _ => Nat.isDigit_of_mem_toDigits (by decide) (by decide)

theorem ofList_plain (number : Int) : String.ofList (plain number) = toString number := by
  rw [Int.toString_eq_repr, Int.repr_eq_if, plain, signed, decimalDigits]
  by_cases negative : number < 0
  · have magnitude : (-number).toNat = number.natAbs := by omega
    rw [if_pos (by simpa using negative), if_neg (by omega), magnitude, ← String.toList_inj]
    simp
  · have magnitude : number.toNat = number.natAbs := by omega
    rw [if_neg (by simpa using negative), if_pos (by omega), magnitude, ← String.toList_inj]
    simp

theorem filter_grouped (noSign : separator ≠ '-') (noDigit : separator.isDigit = false)
    (number : Int) : (grouped separator number).filter (· != separator) = plain number := by
  have free : separator ∉ decimalDigits number.natAbs := fun inside => by
    rw [isDigit_decimalDigits _ _ inside] at noDigit
    cases noDigit
  rw [grouped, plain, signed, signed]
  split
  · rw [List.filter_cons_of_pos (by simpa using noSign.symm), filter_groupDigits free]
  · exact filter_groupDigits free

theorem NumberFormat.separator?_eq_some {format : NumberFormat}
    (groups : format.separator? = some separator) :
    separator ≠ '-' ∧ separator.isDigit = false ∧
      ∀ number, format.writeInteger number = String.ofList (grouped separator number) := by
  cases format <;> cases groups <;> exact ⟨by decide, by decide, fun _ => rfl⟩

end Integers

/-- In a format that makes groups, an integer without its separators is the plain decimal. Behind
the sign, the digits are cut into groups of three from the right; so each separator stands between
two digits. -/
theorem NumberFormat.groups_exactly {format : NumberFormat} {separator : Char}
    (groups : format.separator? = some separator) (number : Int) :
    let text := (format.writeInteger number).toList
    String.ofList (text.filter (· != separator)) = toString number ∧
      (∃ first others, AreThrees first others ∧
        text = (if number < 0 then ['-'] else []) ++ [separator].intercalate (first :: others)) ∧
      StandsBetween Char.isDigit separator text := by
  obtain ⟨noSign, noDigit, written⟩ := separator?_eq_some groups
  have digits : decimalDigits number.natAbs ≠ [] := Nat.toDigits_ne_nil
  obtain ⟨first, others, areThrees, -, cut⟩ :=
    exists_areThrees digits (isDigit_decimalDigits number.natAbs)
  have text : (format.writeInteger number).toList =
      (if number < 0 then ['-'] else []) ++ [separator].intercalate (first :: others) := by
    rw [written, String.toList_ofList, grouped, signed, ← cut]
    by_cases negative : number < 0
    · simp [negative]
    · simp [negative]
  dsimp only
  refine ⟨?_, ⟨first, others, areThrees, text⟩, ?_⟩
  · rw [written, String.toList_ofList, filter_grouped noSign noDigit, ofList_plain]
  · rw [text]
    refine (areThrees.standsBetween noDigit).behind ?_
    split
    · simpa using noSign
    · exact List.not_mem_nil

/-- The least integer of 64 bits, whose digits begin with a group of one. -/
theorem NumberFormat.groups_least :
    groupDots.separator? = some '.' ∧
      (groupDots.writeInteger (-9223372036854775808)).toList =
        "-9.223.372.036.854.775.808".toList ∧
      String.ofList ((groupDots.writeInteger (-9223372036854775808)).toList.filter (· != '.')) =
        "-9223372036854775808" ∧
      StandsBetween Char.isDigit '.' (groupDots.writeInteger (-9223372036854775808)).toList :=
  have groups : groupDots.separator? = some '.' := rfl
  have exactly := groups_exactly groups (-9223372036854775808)
  ⟨groups, by decide, exactly.1, exactly.2.2⟩

end SeededText.Output
