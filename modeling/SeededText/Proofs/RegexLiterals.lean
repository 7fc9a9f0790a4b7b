import SeededText.Machine.Construct
import SeededText.Proofs.TokenOrigins

/-!
Contract: the body and the flags of a regex can be told apart in its value.

The value of a regex token is the body and the flags, with `//` between them. The body may hold `//`
itself, where a backslash stands before the first slash. But flags are letters, so the last `//` of
the value is the one that closed the body in the source, and splitting the value there gives back
what was read.

Owns: the split of a value, the regexes of a source, what compiling and printing a regex token see.
Does not own: how the body is read as a regex (`SeededText.Regex.Parser`).
-/

namespace SeededText

open Pattern
open Machine (map_eq_ok Context Workspace)

namespace Pattern

/-! ### The split of a value -/

section Splitting

variable {body flags : List Char}

/-- Read from its end, a value is split at the first two slashes in a row. -/
theorem splitReversed_append (noSlash : '/' ∉ flags) (behind : List Char) :
    splitReversed (flags ++ '/' :: '/' :: body) behind = some (body, flags.reverse ++ behind) := by
  induction flags generalizing behind with
  | nil => rfl
  | cons flag flags inductionHypothesis =>
      obtain ⟨other, noSlash⟩ := not_or.mp (mt List.mem_cons.mpr noSlash)
      rw [List.cons_append, splitReversed, inductionHypothesis noSlash, List.reverse_cons,
        List.append_assoc, List.singleton_append]
      exact fun _ isSlash => absurd isSlash.symm other

/-- Whatever stands in front of them, the last two slashes are those that have none behind them. -/
theorem splitRegex_append (body : List Char) (noSlash : '/' ∉ flags) :
    splitRegex (body ++ '/' :: '/' :: flags) = (body, flags) := by
  have reversed : (body ++ '/' :: '/' :: flags).reverse =
      flags.reverse ++ '/' :: '/' :: body.reverse := by simp
  have free : '/' ∉ flags.reverse := by rwa [List.mem_reverse]
  rw [splitRegex, reversed, splitReversed_append free]
  simp

theorem slash_notMem_takeWhile (characters : List Char) :
    '/' ∉ characters.takeWhile isRegexFlag := by
  intro member
  have isFlag : isRegexFlag '/' = true := List.mem_takeWhile_imp member
  exact absurd isFlag (by decide)

end Splitting

/-! ### Regexes of a source -/

/-- How a regex with a body and flags is written. -/
def regexSpelling (body flags : List Char) : List Char :=
  '/' :: '/' :: (body ++ '/' :: '/' :: flags)

/-- The token was read as a regex with this body and these flags: where reading the source had come
to, up to what stands behind the regex. The flags are the longest run of their letters there. -/
structure IsReadAsRegex (source : List Char) (token : Token) (front body flags behind : List Char) :
    Prop where
  parts : source = front ++ (regexSpelling body flags ++ behind)
  reached : ReadsUpTo source front (regexSpelling body flags ++ behind)
  place : token.position = placeBehind front
  isBody : IsRegexBody body
  bodyRead : readRegexBody (body ++ '/' :: '/' :: (flags ++ behind)) = .ok (body, flags ++ behind)
  flagsRead : (flags ++ behind).takeWhile isRegexFlag = flags
  value : token.value.toList = body ++ '/' :: '/' :: flags

theorem exists_isReadAsRegex {source : String} {tokens : List Token} {token : Token}
    (lexes : tokenize source = .ok tokens) (member : token ∈ tokens)
    (isRegex : token.kind = .regex) :
    ∃ front body flags behind, IsReadAsRegex source.toList token front body flags behind := by
  obtain ⟨front, rest, reached, place, read⟩ := exists_readRegex_of_mem lexes member isRegex
  obtain ⟨⟨body, left⟩, readBody, value⟩ := map_eq_ok.mp read
  obtain ⟨isBody, parts⟩ := readRegexBody_eq_ok_iff.mp readBody
  have flags : left.takeWhile isRegexFlag ++ left.dropWhile isRegexFlag = left :=
    List.takeWhile_append_dropWhile
  have spelling : '/' :: '/' :: rest =
      regexSpelling body (left.takeWhile isRegexFlag) ++ left.dropWhile isRegexFlag := by
    rw [parts, regexSpelling]
    simp [flags]
  refine ⟨front, body, left.takeWhile isRegexFlag, left.dropWhile isRegexFlag, ?_, ?_, place,
    isBody, ?_, ?_, value.symm⟩
  · rw [← spelling]
    exact reached.parts
  · rwa [← spelling]
  · rw [flags, ← parts]
    exact readBody
  · rw [flags]

theorem IsReadAsRegex.splitRegex {source front body flags behind : List Char} {token : Token}
    (reads : IsReadAsRegex source token front body flags behind) :
    splitRegex token.value.toList = (body, flags) := by
  have noSlash := slash_notMem_takeWhile (flags ++ behind)
  rw [reads.flagsRead] at noSlash
  rw [reads.value, splitRegex_append body noSlash]

end Pattern

/-! ### What regexes are split for -/

/-- The flags that letters behind a regex set. -/
def Regex.Flags.ofLetters (letters : List Char) : Regex.Flags where
  caseless := letters.contains 'i'
  multiline := letters.contains 'm'
  dotAll := letters.contains 's'
  swapGreed := false
  unicode := true
  anyLineBreak := false
  extended := letters.contains 'x'

section Uses

variable {token : Token} {body flags : List Char}

theorem Regex.compile_of_splitRegex (split : splitRegex token.value.toList = (body, flags)) :
    Regex.compile token.value =
      Regex.compileBody (String.ofList body) (.ofLetters flags) body := by
  rw [Regex.compile, split]
  rfl

theorem Machine.Context.regexText_of_splitRegex
    (split : splitRegex token.value.toList = (body, flags)) :
    Context.regexText token.value = String.ofList (regexSpelling body flags) := by
  rw [Context.regexText, split, regexSpelling]
  simp [← String.toList_inj]

/-- A regex token that runs prints how it is written. -/
theorem Machine.Context.readConstruct_regex (context : Context) (workspace : Workspace)
    (index stop : Nat) (isRegex : token.kind = .regex)
    (split : splitRegex token.value.toList = (body, flags)) :
    context.readConstruct workspace index stop token =
      .ok (workspace.write (String.ofList (regexSpelling body flags)), .nothing) := by
  rw [Context.readConstruct]
  simp only [isRegex, regexText_of_splitRegex split]

end Uses

/-- A regex of a source is split where it was closed: the value of its token gives back the body and
the flags that were read, the body is compiled under these flags, and what the token prints is its
text in the source. -/
theorem Pattern.regex_survives_encoding {source : String} {tokens : List Token} {token : Token}
    (lexes : tokenize source = .ok tokens) (member : token ∈ tokens)
    (isRegex : token.kind = .regex) :
    ∃ front body flags behind, IsReadAsRegex source.toList token front body flags behind ∧
      splitRegex token.value.toList = (body, flags) ∧
      token.spelling = regexSpelling body flags ∧
      Regex.compile token.value =
        Regex.compileBody (String.ofList body) (.ofLetters flags) body ∧
      ∀ (context : Context) (workspace : Workspace) (index stop : Nat),
        context.readConstruct workspace index stop token =
          .ok (workspace.write (String.ofList (regexSpelling body flags)), .nothing) := by
  obtain ⟨front, body, flags, behind, reads⟩ := exists_isReadAsRegex lexes member isRegex
  have split := reads.splitRegex
  have spelling : token.spelling = regexSpelling body flags := by
    rw [Token.spelling, isRegex]
    exact congrArg (fun value => '/' :: '/' :: value) reads.value
  exact ⟨front, body, flags, behind, reads, split, spelling, Regex.compile_of_splitRegex split,
    fun context workspace index stop =>
      context.readConstruct_regex workspace index stop isRegex split⟩

/-! ### Slashes in a row

The body of the first regex is two escaped slashes, and the body of the second is empty. -/

namespace Pattern.SlashesInRow

def source : String :=
  "x//\\/\\///im////s."

def escapedSlashes : Token :=
  ⟨.regex, "\\/\\///im", ⟨1, 2, 1⟩⟩

def tokens : List Token :=
  [⟨.text, "x", .start⟩, escapedSlashes, ⟨.regex, "//s", ⟨1, 12, 11⟩⟩, ⟨.text, ".", ⟨1, 17, 16⟩⟩]

theorem tokenize_source : tokenize source = .ok tokens := by
  decide +kernel

theorem escapedSlashes_survives :
    tokenize source = .ok tokens ∧ escapedSlashes ∈ tokens ∧ escapedSlashes.kind = .regex ∧
      ∃ front behind,
        IsReadAsRegex source.toList escapedSlashes front ['\\', '/', '\\', '/'] ['i', 'm'] behind ∧
        ∀ (context : Context) (workspace : Workspace) (index stop : Nat),
          context.readConstruct workspace index stop escapedSlashes =
            .ok (workspace.write "//\\/\\///im", .nothing) := by
  have member : escapedSlashes ∈ tokens := by simp [tokens]
  have cut : splitRegex escapedSlashes.value.toList = (['\\', '/', '\\', '/'], ['i', 'm']) := by
    decide +kernel
  obtain ⟨front, body, flags, behind, reads, split, -, -, prints⟩ :=
    regex_survives_encoding tokenize_source member rfl
  obtain ⟨rfl, rfl⟩ := Prod.mk.inj (split.symm.trans cut)
  exact ⟨tokenize_source, member, rfl, front, behind, reads, prints⟩

end Pattern.SlashesInRow

end SeededText
