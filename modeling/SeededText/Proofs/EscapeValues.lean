import Mathlib.Data.List.Basic
import Mathlib.Data.List.TakeDrop
import SeededText.Machine.Construct
import SeededText.Proofs.QueryRanges
import SeededText.Proofs.TokenOrigins

/-!
Contract: an escape is decoded as it was read.

The value of an escape token is a code, or a repeat count in decimal, a comma and a code. Digits
with a comma behind them are a count wherever they come behind a backslash, and a code is either one
character or has no comma. So the first comma of a value ends its count, unless the comma is the
code itself, and splitting the value there gives back what was read. The code is then expanded as
often as the count says, each time to one character.

Owns: the escapes of a source, the split of a value, how often a code is expanded and to what.
Does not own: how the characters are drawn (`SeededText.Random.Generator`).
-/

namespace SeededText

open Text

/-! ### Numerals -/

namespace Text.Unicode

theorem hexDigit_lt (character : Char) : (hexDigit? character).getD 0 < 16 := by
  have values : '0'.toNat = 48 ∧ '9'.toNat = 57 ∧ 'a'.toNat = 97 ∧ 'f'.toNat = 102 ∧
      'A'.toNat = 65 ∧ 'F'.toNat = 70 := by decide
  have order (first second : Char) : first ≤ second ↔ first.toNat ≤ second.toNat :=
    UInt32.le_iff_toNat_le
  unfold hexDigit?
  simp only [order]
  split
  · simp only [Option.getD_some]
    omega
  split
  · simp only [Option.getD_some]
    omega
  split
  · simp only [Option.getD_some]
    omega
  · simp

/-- Four hexadecimal digits write a number of sixteen bits. -/
theorem hexValue_lt_of_four {digits : List Char} (four : digits.length = 4) :
    hexValue digits < 0x10000 := by
  obtain ⟨first, second, third, fourth, rfl⟩ := List.length_eq_four.mp four
  have := hexDigit_lt first
  have := hexDigit_lt second
  have := hexDigit_lt third
  have := hexDigit_lt fourth
  simp only [hexValue, List.foldl_cons, List.foldl_nil]
  omega

end Text.Unicode

namespace Number

/-- Digits are read as the number that they write, if it is not too large. -/
theorem readCount?_of_digits {digits : List Char} (full : digits ≠ [])
    (decimal : ∀ digit ∈ digits, isAsciiDigit digit) :
    readCount? digits =
      if Unicode.decimalValue digits ≤ countLimit then some (Unicode.decimalValue digits)
      else none := by
  have unsigned : readBounded countLimit digits =
      readDigits countLimit .tooLarge digits 0 := by
    unfold readBounded
    split
    · exact absurd rfl full
    · exact absurd (decimal '+' (List.mem_cons_self ..)) (by decide)
    · rfl
  have reads (value : Nat) : readDigits countLimit .tooLarge digits 0 = .ok value ↔
      _ := Vocabulary.Grammar.readDigits_eq_ok_iff (Nat.zero_le _)
  rw [readCount?, unsigned]
  split
  · next fits =>
      rw [(reads (Unicode.decimalValue digits)).mpr ⟨decimal, fits, rfl⟩]
      rfl
  · next exceeds =>
      cases read : readDigits countLimit .tooLarge digits 0 with
      | error fault => rfl
      | ok value =>
          obtain ⟨-, fits, rfl⟩ := (reads value).mp read
          exact absurd fits exceeds

end Number

/-! ### Escapes of a source -/

namespace Pattern

section Escapes

variable {characters digits code : List Char}

/-- Digits with a comma behind them come next. -/
def StartsWithCount (characters : List Char) : Prop :=
  ∃ digits rest, digits ≠ [] ∧ (∀ digit ∈ digits, isAsciiDigit digit) ∧
    characters = digits ++ ',' :: rest

/-- The only code with a comma is the comma. -/
theorem IsEscapeCode.eq_comma (isCode : IsEscapeCode code) (comma : ',' ∈ code) :
    code = [','] := by
  cases isCode with
  | single other =>
      obtain rfl := List.mem_singleton.mp comma
      rfl
  | point four hexadecimal =>
      rcases List.mem_cons.mp comma with impossible | inDigits
      · exact absurd impossible (by decide)
      · exact absurd (hexadecimal ',' inDigits) (by decide)

theorem comma_notMem_digits (decimal : ∀ digit ∈ digits, isAsciiDigit digit) : ',' ∉ digits :=
  fun comma => absurd (decimal ',' comma) (by decide)

/-- Wherever digits with a comma behind them come next, they are read as a count. -/
theorem not_startsWithCount (none : escapeCount characters = []) :
    ¬StartsWithCount characters := by
  rintro ⟨digits, rest, full, decimal, rfl⟩
  have run : (digits ++ ',' :: rest).takeWhile isAsciiDigit = digits :=
    takeWhile_run decimal (ends_of_head (by decide))
  simp [escapeCount, run, full] at none

/-- The token was read as an escape with these digits of a count, or with no count, and this code:
where reading the source had come to, up to what stands behind the escape. -/
structure IsReadAsEscape (source : List Char) (token : Token)
    (front digits code behind : List Char) : Prop where
  parts : source = front ++ '\\' :: (writtenCount digits ++ (code ++ behind))
  reached : ReadsUpTo source front ('\\' :: (writtenCount digits ++ (code ++ behind)))
  place : token.position = placeBehind front
  decimal : ∀ digit ∈ digits, isAsciiDigit digit
  countRead : escapeCount (writtenCount digits ++ (code ++ behind)) = writtenCount digits
  uncounted : digits = [] → ¬StartsWithCount (code ++ behind)
  isCode : IsEscapeCode code
  value : token.value.toList = writtenCount digits ++ code

theorem exists_isReadAsEscape {source : String} {tokens : List Token} {token : Token}
    (lexes : tokenize source = .ok tokens) (member : token ∈ tokens)
    (isEscape : token.kind = .escape) :
    ∃ front digits code behind, IsReadAsEscape source.toList token front digits code behind := by
  obtain ⟨front, rest, reached, place, read⟩ := exists_readEscape_of_mem lexes member isEscape
  obtain ⟨digits, code, behind, rfl, value, decimal, count, isCode⟩ := exists_of_readEscape read
  refine ⟨front, digits, code, behind, reached.parts, reached, place, decimal, count, ?_, isCode,
    value⟩
  rintro rfl
  exact not_startsWithCount count

end Escapes

end Pattern

namespace Machine

open Pattern SeededText.Random

/-! ### The split of a value -/

section Splitting

variable {digits code : List Char}

/-- The first comma of a value, if it has one, ends what stands in front of it. -/
theorem span_comma {front behind : List Char} (free : ',' ∉ front)
    (ends : ∀ next ∈ behind.head?, next = ',') :
    (front ++ behind).span (fun character => character != ',') = (front, behind) := by
  have inFront : ∀ character ∈ front, (character != ',') = true := by
    intro character member
    rw [bne_iff_ne]
    rintro rfl
    exact free member
  have run : (front ++ behind).takeWhile (fun character => character != ',') = front :=
    takeWhile_run inFront fun next found => by simp [ends next found]
  have parts : (front ++ behind).takeWhile (fun character => character != ',') ++
      (front ++ behind).dropWhile (fun character => character != ',') = front ++ behind :=
    List.takeWhile_append_dropWhile
  rw [run, List.append_cancel_left_eq] at parts
  rw [List.span_eq_takeWhile_dropWhile, run, parts]

/-- A value is split into the digits of its count and its code, as they were read. -/
theorem splitEscape_written (decimal : ∀ digit ∈ digits, isAsciiDigit digit)
    (isCode : IsEscapeCode code) : splitEscape (writtenCount digits ++ code) = (digits, code) := by
  by_cases none : digits = []
  · subst none
    show splitEscape code = _
    by_cases comma : ',' ∈ code
    · rw [isCode.eq_comma comma]
      rfl
    · have ends : ∀ next ∈ ([] : List Char).head?, next = ',' := by simp
      have whole := span_comma comma ends
      rw [List.append_nil] at whole
      rw [splitEscape, whole]
  · have cut : (writtenCount digits ++ code).span (fun character => character != ',') =
        (digits, ',' :: code) := by
      rw [writtenCount, if_neg (by simpa using none), List.append_assoc]
      exact span_comma (comma_notMem_digits decimal) (by simp)
    have accepted : (!digits.isEmpty && digits.all isAsciiDigit && !code.isEmpty) = true := by
      simpa [none, isCode.ne_nil] using decimal
    rw [splitEscape, cut]
    exact if_pos accepted

end Splitting

/-! ### Counts -/

section Counts

variable {digits : List Char}

/-- How often an escape is expanded: as often as its digits say, once without digits. -/
def repetitions (digits : List Char) : Nat :=
  if digits.isEmpty then 1 else Unicode.decimalValue digits

/-- A count is as large as its digits say, unless that is more than a count can be. -/
theorem escapeCount_of_digits (decimal : ∀ digit ∈ digits, isAsciiDigit digit) :
    escapeCount digits =
      if repetitions digits ≤ Number.countLimit then .ok (repetitions digits)
      else .error (.escapeCount (String.ofList digits)) := by
  by_cases none : digits = []
  · subst none
    rfl
  · have full : ¬digits.isEmpty = true := by simpa using none
    rw [escapeCount, repetitions, if_neg full, if_neg full,
      Number.readCount?_of_digits none decimal]
    by_cases fits : Unicode.decimalValue digits ≤ Number.countLimit
    · rw [if_pos fits, if_pos fits]
    · rw [if_neg fits, if_neg fits]

end Counts

/-! ### Expansions -/

section Expansions

variable {code characters : List Char} {generator later : Generator} {character : Char}
  {count : Nat}

/-- The characters that a code of one character can stand for. Most stand for themselves. -/
def characterClass : Char → List Char
  | 'n' => ['\n']
  | 't' => ['\t']
  | 'r' => ['\r']
  | 's' => [' ']
  | 'd' => "0123456789".toList
  | 'D' => "123456789".toList
  | 'c' => "abcdefghijklmnopqrstuvwxyz".toList
  | 'C' => "ABCDEFGHIJKLMNOPQRSTUVWXYZ".toList
  | 'x' => "0123456789abcdef".toList
  | 'X' => "0123456789ABCDEF".toList
  | character => [character]

/-- The characters that a code can stand for. -/
def alphabet : List Char → List Char
  | [] => []
  | character :: digits =>
      if character = 'u' then [Char.ofNat (Unicode.hexValue digits)] else characterClass character

/-- The code of a code point that is no character. -/
def IsSurrogate (code : List Char) : Prop :=
  ∃ digits, code = 'u' :: digits ∧ 0xD800 ≤ Unicode.hexValue digits ∧
    Unicode.hexValue digits ≤ 0xDFFF

/-- A code is expanded again and again, each time to one character. -/
inductive Expands (code : List Char) : Nat → Generator → List Char → Generator → Prop where
  | none {generator : Generator} : Expands code 0 generator [] generator
  | next {count : Nat} {generator behind last : Generator} {character : Char}
      {characters : List Char} (drawn : drawEscape code generator = .ok (character, behind))
      (others : Expands code count behind characters last) :
      Expands code (count + 1) generator (character :: characters) last

theorem Expands.length (expands : Expands code count generator characters later) :
    characters.length = count := by
  induction expands with
  | none => rfl
  | next drawn others inductionHypothesis => rw [List.length_cons, inductionHypothesis]

/-- Expanding puts the characters behind what has been expanded before. -/
theorem Expands.expandEscape (expands : Expands code count generator characters later)
    (expanded : String) :
    expandEscape code count expanded generator =
      .ok (expanded ++ String.ofList characters, later) := by
  induction expands generalizing expanded with
  | none => simp [Machine.expandEscape]
  | next drawn others inductionHypothesis =>
      rw [Machine.expandEscape, drawn]
      dsimp only
      rw [inductionHypothesis]
      simp [← String.toList_inj]

/-- A code of one character stands for one of its class, whatever is drawn. -/
theorem exists_drawEscape_single (other : character ≠ 'u') (generator : Generator) :
    ∃ drawn ∈ characterClass character, ∃ later,
      drawEscape [character] generator = .ok (drawn, later) := by
  have digit : ∀ draw < 10, characterFrom '0' draw ∈ "0123456789".toList := by decide
  have positive : ∀ draw < 9, characterFrom '1' draw ∈ "123456789".toList := by decide
  have lower : ∀ draw < 26, characterFrom 'a' draw ∈ "abcdefghijklmnopqrstuvwxyz".toList := by
    decide
  have upper : ∀ draw < 26, characterFrom 'A' draw ∈ "ABCDEFGHIJKLMNOPQRSTUVWXYZ".toList := by
    decide
  have lowerHex : ∀ draw < 16, Nat.digitChar draw ∈ "0123456789abcdef".toList := by decide
  have upperHex : ∀ draw < 16, (Nat.digitChar draw).toUpper ∈ "0123456789ABCDEF".toList := by
    decide
  unfold characterClass
  split
  · exact ⟨_, List.mem_singleton_self _, generator, rfl⟩
  · exact ⟨_, List.mem_singleton_self _, generator, rfl⟩
  · exact ⟨_, List.mem_singleton_self _, generator, rfl⟩
  · exact ⟨_, List.mem_singleton_self _, generator, rfl⟩
  · exact ⟨_, digit _ (generator.belowByte_lt 10 (by decide)), _, rfl⟩
  · exact ⟨_, positive _ (generator.belowByte_lt 9 (by decide)), _, rfl⟩
  · exact ⟨_, lower _ (generator.belowByte_lt 26 (by decide)), _, rfl⟩
  · exact ⟨_, upper _ (generator.belowByte_lt 26 (by decide)), _, rfl⟩
  · exact ⟨_, lowerHex _ (generator.below_lt 16 (by decide)), _, rfl⟩
  · exact ⟨_, upperHex _ (generator.below_lt 16 (by decide)), _, rfl⟩
  · -- No other code has a case of its own.
    refine ⟨character, List.mem_singleton_self _, generator, ?_⟩
    rw [drawEscape] <;> assumption

/-- Four hexadecimal digits write a character, unless they write a surrogate. -/
theorem isValidChar_of_four {digits : List Char} (four : digits.length = 4) :
    (Unicode.hexValue digits).isValidChar ↔ ¬IsSurrogate ('u' :: digits) := by
  have small := Unicode.hexValue_lt_of_four four
  simp only [IsSurrogate, List.cons.injEq, true_and, exists_eq_left', Nat.isValidChar]
  omega

theorem codePoint_of_four {digits : List Char} (four : digits.length = 4)
    (hexadecimal : ∀ digit ∈ digits, isAsciiHexDigit digit) :
    codePoint digits =
      if (Unicode.hexValue digits).isValidChar then .ok (Char.ofNat (Unicode.hexValue digits))
      else .error (.codePoint (String.ofList digits)) := by
  have full : digits.isEmpty = false := by
    cases digits with
    | nil => cases four
    | cons digit digits => rfl
  have all : digits.all isAsciiHexDigit = true := List.all_eq_true.mpr hexadecimal
  simp only [codePoint, full, all, Bool.not_false, Bool.true_and, decide_eq_true_eq]

/-- A code stands for a character of its alphabet, unless it is that of a surrogate. -/
theorem exists_drawEscape (isCode : IsEscapeCode code) (named : ¬IsSurrogate code)
    (generator : Generator) :
    ∃ drawn ∈ alphabet code, ∃ later, drawEscape code generator = .ok (drawn, later) := by
  cases isCode with
  | single other =>
      rw [alphabet, if_neg other]
      exact exists_drawEscape_single other generator
  | @point digits four hexadecimal =>
      refine ⟨_, List.mem_singleton_self _, generator, ?_⟩
      rw [drawEscape, codePoint_of_four four hexadecimal,
        if_pos ((isValidChar_of_four four).mpr named)]
      rfl

theorem drawEscape_of_isSurrogate (isCode : IsEscapeCode code) (surrogate : IsSurrogate code)
    (generator : Generator) :
    drawEscape code generator = .error (.codePoint (String.ofList (code.drop 1))) := by
  cases isCode with
  | single other =>
      obtain ⟨digits, same, -⟩ := surrogate
      exact absurd (List.cons.inj same).1 other
  | @point digits four hexadecimal =>
      rw [drawEscape, codePoint_of_four four hexadecimal,
        if_neg (mt (isValidChar_of_four four).mp (not_not_intro surrogate))]
      rfl

/-- A code can be expanded as often as one likes, unless it is that of a surrogate. -/
theorem exists_expands (isCode : IsEscapeCode code) (named : IsSurrogate code → count = 0)
    (generator : Generator) :
    ∃ characters later, Expands code count generator characters later ∧
      ∀ character ∈ characters, character ∈ alphabet code := by
  induction count generalizing generator with
  | zero => exact ⟨[], generator, .none, by simp⟩
  | succ count inductionHypothesis =>
      have noSurrogate : ¬IsSurrogate code := fun surrogate => nomatch named surrogate
      obtain ⟨drawn, inside, behind, draws⟩ := exists_drawEscape isCode noSurrogate generator
      obtain ⟨characters, last, others, among⟩ :=
        inductionHypothesis (fun surrogate => absurd surrogate noSurrogate) behind
      exact ⟨drawn :: characters, last, .next draws others,
        List.forall_mem_cons.mpr ⟨inside, among⟩⟩

end Expansions

/-! ### What an escape prints -/

/-- What comes of an escape with these digits of a count and this code. A count that is larger than
a word can be, or than the settings allow, is a fault, and no other count is. Then the code is
expanded as often as the count says, which fails only at a code point that is no character. -/
structure PrintsExpansions (context : Context) (workspace : Workspace) (position : Position)
    (digits code : List Char) (outcome : Except Fault Reading) : Prop where
  overflow : Number.countLimit < repetitions digits →
    outcome = context.reject position (.escapeCount (String.ofList digits))
  excess : repetitions digits ≤ Number.countLimit →
    context.engine.settings.maxRepetitions < repetitions digits →
    outcome = context.refuse position (.escapeCountTooLarge (repetitions digits))
  surrogate : repetitions digits ≤ Number.countLimit →
    repetitions digits ≤ context.engine.settings.maxRepetitions →
    0 < repetitions digits → IsSurrogate code →
    outcome = context.reject position (.codePoint (String.ofList (code.drop 1)))
  printed : repetitions digits ≤ Number.countLimit →
    repetitions digits ≤ context.engine.settings.maxRepetitions →
    (IsSurrogate code → repetitions digits = 0) →
    ∃ characters later,
      Expands code (repetitions digits) workspace.generator characters later ∧
      characters.length = repetitions digits ∧
      (∀ character ∈ characters, character ∈ alphabet code) ∧
      outcome = .ok ({ workspace with generator := later }.write (String.ofList characters),
        .nothing)

section Printing

variable {token : Token} {digits code : List Char}

theorem Context.printsExpansions_readEscape (context : Context) (workspace : Workspace)
    (decimal : ∀ digit ∈ digits, isAsciiDigit digit) (isCode : IsEscapeCode code)
    (split : splitEscape token.value.toList = (digits, code)) :
    PrintsExpansions context workspace token.position digits code
      (context.readEscape workspace token) := by
  have counted := escapeCount_of_digits decimal
  constructor
  · intro exceeds
    rw [if_neg (Nat.not_le.mpr exceeds)] at counted
    simp only [readEscape, split, counted]
  · intro fits exceeds
    rw [if_pos fits] at counted
    simp only [readEscape, split, counted, if_pos exceeds]
  · intro fits within positive surrogate
    rw [if_pos fits] at counted
    obtain ⟨count, more⟩ := Nat.exists_eq_succ_of_ne_zero (Nat.pos_iff_ne_zero.mp positive)
    have fails : expandEscape code (repetitions digits) "" workspace.generator =
        .error (.codePoint (String.ofList (code.drop 1))) := by
      rw [more, expandEscape, drawEscape_of_isSurrogate isCode surrogate]
    simp only [readEscape, split, counted, if_neg (Nat.not_lt.mpr within), fails]
  · intro fits within named
    rw [if_pos fits] at counted
    obtain ⟨characters, later, expands, among⟩ :=
      exists_expands isCode named workspace.generator
    refine ⟨characters, later, expands, expands.length, among, ?_⟩
    simp only [readEscape, split, counted, if_neg (Nat.not_lt.mpr within),
      expands.expandEscape, String.empty_append]

end Printing

/-- An escape of a source is decoded as it was read: its value is split into the digits of the count
and the code that were read, and what it prints is the code, expanded as often as the count says. -/
theorem escape_decodes_as_read {source : String} {tokens : List Token} {token : Token}
    (lexes : tokenize source = .ok tokens) (member : token ∈ tokens)
    (isEscape : token.kind = .escape) :
    ∃ front digits code behind,
      IsReadAsEscape source.toList token front digits code behind ∧
      splitEscape token.value.toList = (digits, code) ∧
      ∀ (context : Context) (workspace : Workspace) (index stop : Nat),
        PrintsExpansions context workspace token.position digits code
          (context.readConstruct workspace index stop token) := by
  obtain ⟨front, digits, code, behind, reads⟩ := exists_isReadAsEscape lexes member isEscape
  have split : splitEscape token.value.toList = (digits, code) := by
    rw [reads.value, splitEscape_written reads.decimal reads.isCode]
  refine ⟨front, digits, code, behind, reads, split, fun context workspace index stop => ?_⟩
  have runs : context.readConstruct workspace index stop token =
      context.readEscape workspace token := by
    simp only [Context.readConstruct, isEscape]
  rw [runs]
  exact context.printsExpansions_readEscape workspace reads.decimal reads.isCode split

/-! ### A count of a comma

The code behind the first count is a comma, and the code of the second escape is a digit. -/

namespace CountedComma

def source : String :=
  "\\12,,3,\\4\\2,u00E9"

def commas : Token :=
  ⟨.escape, "12,,", .start⟩

def tokens : List Token :=
  [commas, ⟨.text, "3,", ⟨1, 6, 5⟩⟩, ⟨.escape, "4", ⟨1, 8, 7⟩⟩, ⟨.escape, "2,u00E9", ⟨1, 10, 9⟩⟩]

theorem tokenize_source : tokenize source = .ok tokens := by
  decide +kernel

theorem commas_decode :
    tokenize source = .ok tokens ∧ commas ∈ tokens ∧ commas.kind = .escape ∧
      ∃ front behind,
        IsReadAsEscape source.toList commas front ['1', '2'] [','] behind ∧
        ∀ (context : Context) (workspace : Workspace) (index stop : Nat),
          12 ≤ context.engine.settings.maxRepetitions →
          ∃ later, context.readConstruct workspace index stop commas =
            .ok ({ workspace with generator := later }.write ",,,,,,,,,,,,", .nothing) := by
  have member : commas ∈ tokens := by simp [tokens]
  have cut : splitEscape commas.value.toList = (['1', '2'], [',']) := by decide +kernel
  obtain ⟨front, digits, code, behind, reads, split, prints⟩ :=
    escape_decodes_as_read tokenize_source member rfl
  obtain ⟨rfl, rfl⟩ := Prod.mk.inj (split.symm.trans cut)
  refine ⟨tokenize_source, member, rfl, front, behind, reads,
    fun context workspace index stop within => ?_⟩
  have named : IsSurrogate [','] → repetitions ['1', '2'] = 0 := by
    rintro ⟨digits, same, -⟩
    exact absurd (List.cons.inj same).1 (by decide)
  obtain ⟨characters, later, -, twelve, among, outcome⟩ :=
    (prints context workspace index stop).printed (by decide) within named
  obtain rfl : characters = List.replicate 12 ',' :=
    List.eq_replicate_iff.mpr ⟨twelve, fun character inside =>
      List.mem_singleton.mp (among character inside)⟩
  exact ⟨later, outcome⟩

example : splitEscape "4".toList = ([], ['4']) ∧
    splitEscape "2,u00E9".toList = (['2'], ['u', '0', '0', 'E', '9']) := by
  decide +kernel

end CountedComma

end Machine

end SeededText
