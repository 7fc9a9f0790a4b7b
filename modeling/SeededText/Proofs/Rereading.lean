import SeededText.Proofs.Lexemes

/-!
Contract: reading a source does not look behind white space.

A lexeme that ends where white space begins, or before, is the same whatever white space it is and
whatever comes behind it. Only a run of white space and a comment go on with what follows.

Owns: lexemes read one behind the other, without their places; lexemes before white space.
Does not own: sources that are laid out anew (`SeededText.Proofs.Layout`).
-/

namespace SeededText.Pattern

open Machine (map_eq_ok bind_eq_ok)

/-! ### Runs of characters -/

section Runs

variable {goesOn : Char → Bool} {front behind run : List Char}

/-- A longest run does not go beyond a character that ends it. -/
theorem takeWhile_append_of_ends (front : List Char)
    (ends : ∀ next ∈ behind.head?, goesOn next = false) :
    (front ++ behind).takeWhile goesOn = front.takeWhile goesOn := by
  induction front with
  | nil =>
      cases behind with
      | nil => rfl
      | cons next behind => simp [ends next rfl]
  | cons character front inductionHypothesis =>
      simp only [List.cons_append, List.takeWhile_cons, inductionHypothesis]

theorem takeWhile_run (inRun : ∀ character ∈ run, goesOn character = true)
    (ends : ∀ next ∈ behind.head?, goesOn next = false) :
    (run ++ behind).takeWhile goesOn = run := by
  rw [takeWhile_append_of_ends run ends, List.takeWhile_eq_self_iff]
  exact inRun

theorem ends_of_head {next : Char} (stops : goesOn next = false) :
    ∀ character ∈ (next :: behind).head?, goesOn character = false := by
  intro character found
  obtain rfl := Option.some.inj found
  exact stops

/-- A line goes on to its line feed, or to the end. -/
theorem takeWhile_line (oneLine : '\n' ∉ run)
    (ends : behind = [] ∨ behind.head? = some '\n') :
    (run ++ behind).takeWhile (· != '\n') = run := by
  apply takeWhile_run
  · intro character member
    rw [bne_iff_ne]
    rintro rfl
    exact oneLine member
  · rcases ends with rfl | feed
    · intro next found
      cases found
    · obtain ⟨rest, rfl⟩ := List.head?_eq_some_iff.mp feed
      exact ends_of_head rfl

theorem ends_of_takeWhile (longest : (run ++ behind).takeWhile goesOn = run) :
    ∀ next ∈ behind.head?, goesOn next = false := by
  have parts : (run ++ behind).takeWhile goesOn ++ (run ++ behind).dropWhile goesOn =
      run ++ behind := List.takeWhile_append_dropWhile
  rw [longest, List.append_cancel_left_eq] at parts
  intro next found
  rw [← parts] at found
  exact run_stops found

end Runs

/-! ### Lexemes before white space -/

/-- White space comes next. -/
def StartsLayout (characters : List Char) : Prop :=
  ∃ next, characters.head? = some next ∧ isLayout next = true

section BeforeLayout

variable {front space other : List Char}

/-- White space is none of the characters that a lexeme can go on with. -/
theorem StartsLayout.ends {goesOn : Char → Bool} (spaces : StartsLayout space)
    (visible : ∀ character, isLayout character = true → goesOn character = false) :
    ∀ next ∈ space.head?, goesOn next = false := by
  obtain ⟨next, found, isSpace⟩ := spaces
  intro character member
  rw [found] at member
  obtain rfl := Option.some.inj member
  exact visible next isSpace

theorem StartsLayout.append {behind : List Char} (spaces : StartsLayout space) :
    StartsLayout (space ++ behind) := by
  obtain ⟨next, found, isSpace⟩ := spaces
  exact ⟨next, by rw [List.head?_append, found]; rfl, isSpace⟩

theorem StartsLayout.head?_append_eq_some_iff {character : Char} (spaces : StartsLayout space)
    (visible : isLayout character = false) :
    (front ++ space).head? = some character ↔ front.head? = some character := by
  cases front with
  | nil =>
      obtain ⟨next, found, isSpace⟩ := spaces
      rw [List.nil_append, found]
      constructor
      · intro same
        obtain rfl := Option.some.inj same
        rw [isSpace] at visible
        cases visible
      · intro impossible
        cases impossible
  | cons first front => rfl

theorem eq_of_isLayout {character : Char} (isSpace : isLayout character = true) :
    character = ' ' ∨ character = '\t' ∨ character = '\r' ∨ character = '\n' := by
  simpa [isLayout, or_assoc] using isSpace

theorem isAsciiDigit_of_isLayout {character : Char} (isSpace : isLayout character = true) :
    Text.isAsciiDigit character = false := by
  obtain rfl | rfl | rfl | rfl := eq_of_isLayout isSpace <;> rfl

theorem isAsciiHexDigit_of_isLayout {character : Char} (isSpace : isLayout character = true) :
    Text.isAsciiHexDigit character = false := by
  obtain rfl | rfl | rfl | rfl := eq_of_isLayout isSpace <;> rfl

theorem isRegexFlag_of_isLayout {character : Char} (isSpace : isLayout character = true) :
    isRegexFlag character = false := by
  obtain rfl | rfl | rfl | rfl := eq_of_isLayout isSpace <;> rfl

theorem isTextCharacter_append (spaces : StartsLayout space) (character : Char)
    (front : List Char) : isTextCharacter character (front ++ space) =
      isTextCharacter character front := by
  have slash : (front ++ space).head? = some '/' ↔ front.head? = some '/' :=
    spaces.head?_append_eq_some_iff rfl
  simp only [isTextCharacter, Bool.beq_eq_decide_eq, slash]

theorem textRun_append (spaces : StartsLayout space) (front : List Char) :
    textRun (front ++ space) = textRun front := by
  induction front with
  | nil =>
      obtain ⟨next, found, isSpace⟩ := spaces
      obtain ⟨behind, rfl⟩ := List.head?_eq_some_iff.mp found
      simp [textRun, isTextCharacter, isSpace]
  | cons character front inductionHypothesis =>
      rw [List.cons_append, textRun, textRun, isTextCharacter_append spaces, inductionHypothesis]

theorem escapeCount_append (spaces : StartsLayout space) (front : List Char) :
    escapeCount (front ++ space) = escapeCount front := by
  have digits : (front ++ space).takeWhile Text.isAsciiDigit =
      front.takeWhile Text.isAsciiDigit :=
    takeWhile_append_of_ends front (spaces.ends fun _ => isAsciiDigit_of_isLayout)
  have inside : (front.takeWhile Text.isAsciiDigit).length ≤ front.length :=
    (List.takeWhile_prefix _).length_le
  have comma (left : List Char) : (left ++ space).head? = some ',' ↔ left.head? = some ',' :=
    spaces.head?_append_eq_some_iff rfl
  simp only [escapeCount, digits, List.drop_append_of_le_length inside, Bool.beq_eq_decide_eq,
    comma]

/-- An escape whose code stands before the white space is the same without it. -/
theorem readEscape_append (spaces : StartsLayout space)
    (coded : (escapeCount front).length < front.length) :
    readEscape (front ++ space) = readEscape front := by
  have digits (rest : List Char) : ((rest ++ space).take 4).takeWhile Text.isAsciiHexDigit =
      (rest.take 4).takeWhile Text.isAsciiHexDigit := by
    rw [List.take_append]
    apply takeWhile_append_of_ends
    intro next found
    have visible := spaces.ends fun _ => isAsciiHexDigit_of_isLayout
    apply visible next
    cases left : 4 - rest.length with
    | zero => simp [left] at found
    | succ count => simpa [left, List.head?_take] using found
  unfold readEscape
  dsimp only
  rw [escapeCount_append spaces, List.drop_append_of_le_length (Nat.le_of_lt coded)]
  cases code : front.drop (escapeCount front).length with
  | nil =>
      have none := List.drop_eq_nil_iff.mp code
      omega
  | cons code rest => simp only [List.cons_append, digits]

end BeforeLayout

/-! ### What comes behind a lexeme -/

section Congruence

variable {lineBlank : Bool} {first : Char} {run others tail space other value : List Char}
  {lexeme : Lexeme}

theorem takeWhile_congr {goesOn : Char → Bool} {behind : List Char}
    (longest : (run ++ behind).takeWhile goesOn = run)
    (ends : ∀ next ∈ other.head?, goesOn next = false) :
    (run ++ other).takeWhile goesOn = run := by
  apply takeWhile_run _ ends
  intro character member
  rw [← longest] at member
  exact List.mem_takeWhile_imp member

/-- An escape has a code behind its count. -/
theorem escapeCount_lt_of_readEscape {characters : List Char}
    (read : readEscape characters = .ok value) :
    (escapeCount characters).length < value.length := by
  obtain ⟨digits, code, behind, -, rfl, -, count, isCode⟩ := exists_of_readEscape read
  have coded := List.length_pos_iff.mpr isCode.ne_nil
  rw [count, List.length_append]
  omega

theorem readEscape_congr (spaces : StartsLayout space) (otherSpaces : StartsLayout other)
    (read : readEscape (value ++ (tail ++ space)) = .ok value) :
    readEscape (value ++ (tail ++ other)) = .ok value := by
  rw [← List.append_assoc] at read ⊢
  have coded := escapeCount_lt_of_readEscape read
  rw [escapeCount_append spaces] at coded
  have inside : (escapeCount (value ++ tail)).length < (value ++ tail).length := by
    rw [List.length_append]
    omega
  rw [readEscape_append otherSpaces inside]
  rwa [readEscape_append spaces inside] at read

theorem readConstant_congr (spaces : StartsLayout space) (otherSpaces : StartsLayout other)
    (read : readConstant (doubleQuotes value ++ '"' :: (tail ++ space)) = .ok value) :
    readConstant (doubleQuotes value ++ '"' :: (tail ++ other)) = .ok value := by
  obtain ⟨behind, parts, ends⟩ := parts_of_readConstant read
  rw [List.append_cancel_left_eq, List.cons.injEq] at parts
  rw [← parts.2, ne_eq, spaces.head?_append_eq_some_iff rfl] at ends
  apply readConstant_doubleQuotes
  rwa [ne_eq, otherSpaces.head?_append_eq_some_iff rfl]

/-- What comes behind a regex has no part in its body. -/
theorem readRegexBody_append {characters body behind : List Char}
    (read : readRegexBody characters = .ok (body, behind)) (other : List Char) :
    readRegexBody (body ++ '/' :: '/' :: other) = .ok (body, other) :=
  (isRegexBody_of_readRegexBody read).readRegexBody other

/-- A run that white space does not go on with ends where it ended. -/
theorem StartsLayout.ends_congr {goesOn : Char → Bool} (otherSpaces : StartsLayout other)
    (visible : ∀ character, isLayout character = true → goesOn character = false)
    (ends : ∀ next ∈ (tail ++ space).head?, goesOn next = false) :
    ∀ next ∈ (tail ++ other).head?, goesOn next = false := by
  cases tail with
  | nil => exact otherSpaces.ends visible
  | cons next tail => exact ends

theorem readRegex_congr (otherSpaces : StartsLayout other)
    (read : readRegex (value ++ (tail ++ space)) = .ok value) :
    readRegex (value ++ (tail ++ other)) = .ok value := by
  obtain ⟨⟨body, behind⟩, readBody, same⟩ := map_eq_ok.mp read
  have parts := append_of_readRegexBody readBody
  dsimp only at same
  generalize flags : behind.takeWhile isRegexFlag = run at same
  subst same
  rw [List.append_assoc, List.append_cancel_left_eq, List.cons_append, List.cons_append,
    List.cons.injEq, List.cons.injEq] at parts
  obtain ⟨-, -, rfl⟩ := parts
  have longest := takeWhile_congr flags
    (otherSpaces.ends_congr (fun _ => isRegexFlag_of_isLayout) (ends_of_takeWhile flags))
  rw [readRegex, List.append_assoc, List.cons_append, List.cons_append,
    readRegexBody_append readBody]
  show Except.ok (body ++ '/' :: '/' :: (run ++ (tail ++ other)).takeWhile isRegexFlag) = _
  rw [longest]

/-- A lexeme does not depend on the white space that comes behind it, and on what comes behind that,
unless it is a comment that ends there. -/
theorem readLexeme_congr (spaces : StartsLayout space) (otherSpaces : StartsLayout other)
    (noComment : first = '#' ∧ lineBlank = true → tail ≠ [])
    (read : readLexeme lineBlank first (run ++ (tail ++ space)) = .ok lexeme)
    (spelling : lexeme.spelling = first :: run) :
    readLexeme lineBlank first (run ++ (tail ++ other)) = .ok lexeme := by
  have text : isTextCharacter first (run ++ (tail ++ other)) =
      isTextCharacter first (run ++ (tail ++ space)) := by
    rw [← List.append_assoc, ← List.append_assoc, isTextCharacter_append spaces,
      isTextCharacter_append otherSpaces]
  have colon : (run ++ (tail ++ other)).head? = some ':' ↔
      (run ++ (tail ++ space)).head? = some ':' := by
    rw [← List.append_assoc, ← List.append_assoc, spaces.head?_append_eq_some_iff rfl,
      otherSpaces.head?_append_eq_some_iff rfl]
  unfold readLexeme at read ⊢
  rw [text]
  simp only [colon]
  split at read
  · next comment =>
      obtain rfl := Except.ok.inj read
      have longest := (List.cons.inj spelling).2
      obtain ⟨next, tail, rfl⟩ := List.exists_cons_of_ne_nil (noComment comment)
      have ends : ∀ character ∈ (next :: tail ++ other).head?, (character != '\n') = false :=
        fun character found => ends_of_takeWhile longest character found
      rw [if_pos comment, takeWhile_congr longest ends, longest]
  next notComment =>
  rw [if_neg notComment]
  split at read
  · next isText =>
      have sameRun : textRun (run ++ (tail ++ other)) = textRun (run ++ (tail ++ space)) := by
        rw [← List.append_assoc, ← List.append_assoc, textRun_append spaces,
          textRun_append otherSpaces]
      rw [if_pos isText, sameRun]
      exact read
  next noText =>
  rw [if_neg noText]
  split at read
  · next isSpace =>
      obtain rfl := Except.ok.inj read
      have longest := (List.cons.inj spelling).2
      -- The run would have gone on with the white space.
      have more : tail ≠ [] := by
        rintro rfl
        obtain ⟨next, found, layout⟩ := spaces
        rw [ends_of_takeWhile longest next found] at layout
        cases layout
      obtain ⟨next, tail, rfl⟩ := List.exists_cons_of_ne_nil more
      have ends : ∀ character ∈ (next :: tail ++ other).head?, isLayout character = false :=
        fun character found => ends_of_takeWhile longest character found
      rw [if_pos isSpace, takeWhile_congr longest ends, longest]
  next noLayout =>
  rw [if_neg noLayout]
  split at read
  · next isEscape =>
      obtain ⟨value, readValue, rfl⟩ := map_eq_ok.mp read
      obtain rfl : value = run := (List.cons.inj spelling).2
      rw [if_pos isEscape, readEscape_congr spaces otherSpaces readValue]
      rfl
  next noEscape =>
  rw [if_neg noEscape]
  split at read
  · next isQuote =>
      obtain ⟨value, readValue, rfl⟩ := map_eq_ok.mp read
      obtain rfl : doubleQuotes value ++ ['"'] = run := (List.cons.inj spelling).2
      rw [List.append_assoc, List.singleton_append] at readValue ⊢
      rw [if_pos isQuote, readConstant_congr spaces otherSpaces readValue]
      rfl
  next noQuote =>
  rw [if_neg noQuote]
  split at read
  · next isSlash =>
      obtain ⟨value, readValue, rfl⟩ := map_eq_ok.mp read
      obtain rfl : '/' :: value = run := (List.cons.inj spelling).2
      rw [if_pos isSlash]
      have rereads := readRegex_congr otherSpaces readValue
      show (readRegex (value ++ (tail ++ other))).map _ = _
      rw [rereads]
      rfl
  next noSlash =>
  rw [if_neg noSlash]
  exact read

end Congruence

/-! ### Lexemes one behind the other -/

section Reads

variable {lineBlank : Bool} {source : List Char} {front others lexemes : List Lexeme}
  {lexeme : Lexeme}

theorem exists_fits {first : Char} {rest : List Char}
    (read : readLexeme lineBlank first rest = .ok lexeme) :
    ∃ before behind, lexeme.Fits before behind := by
  have start : ∃ before, isLineBlank before = lineBlank := by
    cases lineBlank with
    | true => exact ⟨[], rfl⟩
    | false => exact ⟨['#'], rfl⟩
  obtain ⟨before, rfl⟩ := start
  obtain ⟨behind, parts, fits⟩ := fits_of_readLexeme read
  exact ⟨before, behind, fits⟩

theorem spelling_ne_nil_of_readLexeme {first : Char} {rest : List Char}
    (read : readLexeme lineBlank first rest = .ok lexeme) : lexeme.spelling ≠ [] := by
  obtain ⟨before, behind, fits⟩ := exists_fits read
  exact fits.full

/-- A lexeme is spelled as the piece that it is anywhere. -/
theorem Reads.spelling_piece (reads : Reads lineBlank source lexemes) (among : lexeme ∈ lexemes)
    (position : Position) : (lexeme.piece position).spelling = lexeme.spelling := by
  induction reads with
  | nil => cases among
  | @cons _ _ _ _ first lexemes read parts others inductionHypothesis =>
      rcases List.mem_cons.mp among with rfl | later
      · obtain ⟨before, behind, fits⟩ := exists_fits read
        rw [← fits.spelling]
        obtain ⟨spelling, token?⟩ := lexeme
        cases token? <;> rfl
      · exact inductionHypothesis later

/-- The lexemes that a source is read as are the source. -/
theorem Reads.spelling (reads : Reads lineBlank source lexemes) :
    lexemes.flatMap Lexeme.spelling = source := by
  induction reads with
  | nil => rfl
  | cons read parts others inductionHypothesis =>
      rw [List.flatMap_cons, inductionHypothesis, parts]

/-- The first lexeme is read, and the others behind it. -/
theorem Reads.of_cons (reads : Reads lineBlank source (lexeme :: others)) :
    ∃ first run, lexeme.spelling = first :: run ∧
      readLexeme lineBlank first (run ++ others.flatMap Lexeme.spelling) = .ok lexeme ∧
      Reads (lexeme.spelling.foldl lineBlankAfter lineBlank) (others.flatMap Lexeme.spelling)
        others := by
  cases reads with
  | cons read parts readsOthers =>
      obtain ⟨first, run, spelling⟩ :=
        List.exists_cons_of_ne_nil (spelling_ne_nil_of_readLexeme read)
      rw [← readsOthers.spelling] at parts readsOthers
      rw [spelling, List.cons_append] at parts
      obtain ⟨rfl, rfl⟩ := List.cons.inj parts
      exact ⟨first, run, spelling, read, readsOthers⟩

/-- What is read behind the first lexemes is read from there. -/
theorem Reads.of_append (reads : Reads lineBlank source (front ++ others)) :
    Reads ((front.flatMap Lexeme.spelling).foldl lineBlankAfter lineBlank)
      (others.flatMap Lexeme.spelling) others := by
  induction front generalizing lineBlank source with
  | nil =>
      rw [List.nil_append] at reads
      have whole := reads
      rw [← reads.spelling] at whole
      exact whole
  | cons first front inductionHypothesis =>
      obtain ⟨character, run, spelling, read, readsOthers⟩ := reads.of_cons
      rw [List.flatMap_cons, List.foldl_append]
      exact inductionHypothesis readsOthers

/-- What tokens are apart from their places. -/
def Token.content (token : Token) : TokenKind × List Char :=
  (token.kind, token.value.toList)

/-- A source that is read as lexemes has their tokens. -/
theorem Reads.tokensFrom (reads : Reads lineBlank source lexemes) (position : Position) :
    ∃ tokens, tokensFrom position lineBlank source = .ok tokens ∧
      tokens.map Token.content = lexemes.filterMap Lexeme.token? := by
  induction reads generalizing position with
  | nil => exact ⟨[], by rw [Pattern.tokensFrom], rfl⟩
  | @cons _ first rest behind lexeme lexemes read parts others inductionHypothesis =>
      obtain ⟨tokens, readBehind, contents⟩ := inductionHypothesis (position.after lexeme.spelling)
      rw [Pattern.tokensFrom, read]
      dsimp only
      rw [drop_of_append (spelling_ne_nil_of_readLexeme read) parts, readBehind]
      cases found : lexeme.token? with
      | none =>
          refine ⟨tokens, rfl, ?_⟩
          rw [contents, List.filterMap_cons_none found]
      | some content =>
          obtain ⟨kind, value⟩ := content
          refine ⟨⟨kind, String.ofList value, position⟩ :: tokens, rfl, ?_⟩
          rw [List.map_cons, contents, List.filterMap_cons_some found, Token.content,
            String.toList_ofList]

end Reads

/-! ### White space and comments -/

section Layout

variable {lineBlank : Bool} {run text after : List Char} {others : List Lexeme}

/-- What a longest run of white space is read as. -/
def layoutLexeme (run : List Char) : Lexeme where
  spelling := run
  token? := if run.contains '\n' then none else some (.blank, run)

/-- White space that goes on as far as it can. -/
structure IsLayoutRun (run after : List Char) : Prop where
  allLayout : ∀ character ∈ run, isLayout character = true
  ends : ∀ next ∈ after.head?, isLayout next = false

/-- White space that goes over a line feed, and as far as it can. -/
structure IsBreak (run after : List Char) : Prop extends IsLayoutRun run after where
  breaksLine : '\n' ∈ run

namespace IsLayoutRun

theorem readLexeme {first : Char} (isRun : IsLayoutRun (first :: run) after) :
    readLexeme lineBlank first (run ++ after) = .ok (layoutLexeme (first :: run)) := by
  have isSpace : isLayout first = true := isRun.allLayout first List.mem_cons_self
  have noComment : ¬(first = '#' ∧ lineBlank = true) := by
    rintro ⟨rfl, -⟩
    cases isSpace
  have noText : ¬isTextCharacter first (run ++ after) = true := by
    rw [isTextCharacter, isSpace]
    exact Bool.false_ne_true
  have longest : (run ++ after).takeWhile isLayout = run :=
    takeWhile_run
      (fun character member => isRun.allLayout character (List.mem_cons_of_mem _ member))
      isRun.ends
  rw [Pattern.readLexeme, if_neg noComment, if_neg noText, if_pos isSpace, longest]
  rfl

/-- White space leaves a line blank, and a line feed makes it blank. -/
theorem foldl_lineBlankAfter (allLayout : ∀ character ∈ run, isLayout character = true) :
    run.foldl lineBlankAfter lineBlank = (lineBlank || run.contains '\n') := by
  induction run generalizing lineBlank with
  | nil => simp
  | cons character run inductionHypothesis =>
      have isSpace := allLayout character List.mem_cons_self
      rw [List.foldl_cons, inductionHypothesis fun next member =>
        allLayout next (List.mem_cons_of_mem _ member), List.contains_cons, lineBlankAfter, isSpace]
      by_cases feed : character = '\n'
      · simp [feed]
      · have other : ('\n' == character) = false := beq_eq_false_iff_ne.mpr (Ne.symm feed)
        rw [if_neg feed, other, Bool.and_true, Bool.false_or]

/-- White space is read as one lexeme, and what comes behind it as before. -/
theorem reads_iff (isRun : IsLayoutRun run after) (full : run ≠ []) {lexemes : List Lexeme} :
    Reads lineBlank (run ++ after) lexemes ↔
      ∃ others, lexemes = layoutLexeme run :: others ∧
        Reads (lineBlank || run.contains '\n') after others := by
  obtain ⟨first, run, rfl⟩ := List.exists_cons_of_ne_nil full
  have blank : (first :: run).foldl lineBlankAfter lineBlank =
      (lineBlank || (first :: run).contains '\n') := foldl_lineBlankAfter isRun.allLayout
  have readFirst : Pattern.readLexeme lineBlank first (run ++ after) =
      .ok (layoutLexeme (first :: run)) := isRun.readLexeme
  constructor
  · intro reads
    cases reads with
    | @cons _ _ _ behind lexeme others read parts readsOthers =>
        obtain rfl : layoutLexeme (first :: run) = lexeme :=
          Except.ok.inj (readFirst.symm.trans read)
        obtain rfl : behind = after := List.append_cancel_left parts
        refine ⟨others, rfl, ?_⟩
        rw [← blank]
        exact readsOthers
  · rintro ⟨others, rfl, readsOthers⟩
    rw [← blank] at readsOthers
    exact .cons readFirst rfl readsOthers

end IsLayoutRun

namespace IsBreak

theorem ne_nil (isBreak : IsBreak run after) : run ≠ [] :=
  List.ne_nil_of_mem isBreak.breaksLine

theorem startsLayout (isBreak : IsBreak run after) : StartsLayout run := by
  obtain ⟨first, run, rfl⟩ := List.exists_cons_of_ne_nil isBreak.ne_nil
  exact ⟨first, rfl, isBreak.allLayout first List.mem_cons_self⟩

/-- White space that goes over a line feed is a gap, and the line behind it is blank so far. -/
theorem reads_iff (isBreak : IsBreak run after) {lexemes : List Lexeme} :
    Reads lineBlank (run ++ after) lexemes ↔
      ∃ others, lexemes = ⟨run, none⟩ :: others ∧ Reads true after others := by
  have breaks : run.contains '\n' = true := List.contains_iff_mem.mpr isBreak.breaksLine
  rw [isBreak.toIsLayoutRun.reads_iff isBreak.ne_nil, layoutLexeme, breaks, Bool.or_true]
  rfl

theorem reads (isBreak : IsBreak run after) (readsOthers : Reads true after others) :
    Reads lineBlank (run ++ after) (⟨run, none⟩ :: others) :=
  isBreak.reads_iff.mpr ⟨others, rfl, readsOthers⟩

end IsBreak

/-- A comment is a gap up to its line feed. -/
theorem Reads.comment {behind : List Char} (oneLine : '\n' ∉ text)
    (readsOthers : ∀ lineBlank, Reads lineBlank ('\n' :: behind) others) :
    Reads true ('#' :: (text ++ '\n' :: behind)) (⟨'#' :: text, none⟩ :: others) := by
  have longest : (text ++ '\n' :: behind).takeWhile (· != '\n') = text :=
    takeWhile_line oneLine (.inr rfl)
  have read : readLexeme true '#' (text ++ '\n' :: behind) = .ok ⟨'#' :: text, none⟩ := by
    rw [readLexeme, if_pos ⟨rfl, rfl⟩, longest]
  exact .cons read rfl (readsOthers _)

theorem eq_comment_of_readLexeme {rest : List Char} {lexeme : Lexeme}
    (read : readLexeme true '#' rest = .ok lexeme) :
    lexeme = ⟨'#' :: rest.takeWhile (· != '\n'), none⟩ := by
  rw [readLexeme, if_pos ⟨rfl, rfl⟩] at read
  exact (Except.ok.inj read).symm

/-- A comment with a break behind it goes on to the line feed of any other break. -/
theorem Reads.comment_break (oneLine : '\n' ∉ text) (isBreak : IsBreak run after)
    (readsAfter : Reads true after others) :
    ∃ lexemes, Reads true ('#' :: (text ++ (run ++ after))) lexemes ∧
      lexemes.filterMap Lexeme.token? = others.filterMap Lexeme.token? := by
  obtain ⟨commented, left, rfl, noFeed⟩ := List.eq_append_cons_of_mem isBreak.breaksLine
  have leftBreak : IsBreak ('\n' :: left) after :=
    ⟨⟨fun character member => isBreak.allLayout character (List.mem_append_right _ member),
      isBreak.ends⟩, List.mem_cons_self⟩
  have longer : '\n' ∉ text ++ commented := by
    rw [List.mem_append]
    rintro (inText | inCommented)
    · exact oneLine inText
    · exact noFeed inCommented
  have reads := Reads.comment longer fun lineBlank => leftBreak.reads readsAfter
  refine ⟨⟨'#' :: (text ++ commented), none⟩ :: ⟨'\n' :: left, none⟩ :: others, ?_, rfl⟩
  rw [List.append_assoc]
  rw [List.append_assoc] at reads
  exact reads

/-- Whatever white space over a line feed comes behind lexemes, they are read with the same tokens.
A comment takes what stands before the line feed. -/
theorem Reads.exists_of_front {gap source : List Char} {front behind : List Lexeme}
    (reads : Reads lineBlank source (front ++ ⟨gap, none⟩ :: behind)) (starts : StartsLayout gap)
    (isBreak : IsBreak run after) (readsAfter : Reads true after others) :
    ∃ lexemes, Reads lineBlank (front.flatMap Lexeme.spelling ++ (run ++ after)) lexemes ∧
      lexemes.filterMap Lexeme.token? =
        front.filterMap Lexeme.token? ++ others.filterMap Lexeme.token? := by
  induction front generalizing lineBlank source with
  | nil => exact ⟨⟨run, none⟩ :: others, isBreak.reads readsAfter, rfl⟩
  | cons lexeme front inductionHypothesis =>
      rw [List.cons_append] at reads
      obtain ⟨first, tail, spelling, read, readsBehind⟩ := reads.of_cons
      by_cases swallows : first = '#' ∧ lineBlank = true ∧ front = []
      · obtain ⟨rfl, rfl, rfl⟩ := swallows
        obtain rfl := eq_comment_of_readLexeme read
        rw [List.flatMap_singleton, List.filterMap_cons_none rfl]
        exact Reads.comment_break (fun member => by simpa using List.mem_takeWhile_imp member)
          isBreak readsAfter
      · obtain ⟨lexemes, rereads, contents⟩ := inductionHypothesis readsBehind
        have noComment : first = '#' ∧ lineBlank = true → front.flatMap Lexeme.spelling ≠ [] := by
          intro comment
          cases front with
          | nil => exact absurd ⟨comment.1, comment.2, rfl⟩ swallows
          | cons next front =>
              obtain ⟨_, _, full, -⟩ := readsBehind.of_cons
              simp [full]
        rw [List.flatMap_append, List.flatMap_cons] at read
        have reread : readLexeme lineBlank first
            (tail ++ (front.flatMap Lexeme.spelling ++ (run ++ after))) = .ok lexeme :=
          readLexeme_congr starts.append isBreak.startsLayout.append noComment read spelling
        refine ⟨lexeme :: lexemes, ?_, ?_⟩
        · rw [List.flatMap_cons, List.append_assoc, spelling]
          refine .cons reread ?_ rereads
          rw [spelling]
          rfl
        · cases token : lexeme.token? with
          | none => rw [List.filterMap_cons_none token, List.filterMap_cons_none token, contents]
          | some content =>
              rw [List.filterMap_cons_some token, List.filterMap_cons_some token, contents,
                List.cons_append]

end Layout

end SeededText.Pattern
