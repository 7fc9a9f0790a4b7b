import Mathlib.Data.List.TakeWhile
import SeededText.Machine.Fault

/-!
Contract: the lexemes of a source, put one behind the other, are the source.

The tokens of a source determine their spellings. Between them stand gaps only, and each token has
the place of its spelling, counted afresh from the start of the source.

Owns: spellings of tokens, what escapes and regexes consist of, pieces of a source, what each piece
is where it stands.
Does not own: how a lexeme is read (`SeededText.Pattern.Lexer`).
-/

namespace SeededText.Pattern

open Machine (map_eq_ok bind_eq_ok)

/-! ### Places -/

/-- What stands behind the last line feed. -/
def lastLine (characters : List Char) : List Char :=
  (characters.reverse.takeWhile (· != '\n')).reverse

/-- Whether only white space stands behind the last line feed. -/
def isLineBlank (characters : List Char) : Bool :=
  (lastLine characters).all isLayout

/-- The place behind the given start of a source. -/
def placeBehind (characters : List Char) : Position where
  line := 1 + characters.count '\n'
  column := 1 + (lastLine characters).length
  offset := (String.ofList characters).utf8ByteSize

theorem lastLine_concat (characters : List Char) (character : Char) :
    lastLine (characters ++ [character]) =
      if character = '\n' then [] else lastLine characters ++ [character] := by
  unfold lastLine
  rw [List.reverse_append, List.reverse_singleton, List.singleton_append]
  by_cases ends : character = '\n' <;> simp [ends]

theorem next_placeBehind (characters : List Char) (character : Char) :
    (placeBehind characters).next character = placeBehind (characters ++ [character]) := by
  have size : (String.ofList (characters ++ [character])).utf8ByteSize =
      (String.ofList characters).utf8ByteSize + character.utf8Size := by
    rw [String.ofList_append, String.utf8ByteSize_append, ← String.singleton_eq_ofList,
      String.utf8ByteSize_singleton]
  unfold Position.next placeBehind
  rw [lastLine_concat, size]
  by_cases ends : character = '\n' <;> simp [ends, Nat.add_assoc]

theorem after_placeBehind (before characters : List Char) :
    (placeBehind before).after characters = placeBehind (before ++ characters) := by
  induction characters generalizing before with
  | nil => rw [List.append_nil]; rfl
  | cons character characters inductionHypothesis =>
      show ((placeBehind before).next character).after characters = _
      rw [next_placeBehind, inductionHypothesis, List.append_assoc, List.singleton_append]

theorem lineBlankAfter_isLineBlank (characters : List Char) (character : Char) :
    lineBlankAfter (isLineBlank characters) character =
      isLineBlank (characters ++ [character]) := by
  unfold lineBlankAfter isLineBlank
  rw [lastLine_concat]
  by_cases ends : character = '\n' <;> simp [ends]

theorem foldl_lineBlankAfter (before characters : List Char) :
    characters.foldl lineBlankAfter (isLineBlank before) = isLineBlank (before ++ characters) := by
  induction characters generalizing before with
  | nil => rw [List.append_nil]; rfl
  | cons character characters inductionHypothesis =>
      rw [List.foldl_cons, lineBlankAfter_isLineBlank, inductionHypothesis, List.append_assoc,
        List.singleton_append]

/-! ### Pieces -/

/-- The spelling of a token in a source. -/
def Token.spelling (token : Token) : List Char :=
  match token.kind with
  | .escape => '\\' :: token.value.toList
  | .constant => quote token.value.toList
  | .regex => '/' :: '/' :: token.value.toList
  | _ => token.value.toList

/-- What values tokens of a kind can have. -/
def TokenKind.Admits : TokenKind → List Char → Prop
  | .text, value => value ≠ [] ∧ ∀ character ∈ value, isLayout character = false ∧
      punctuation? character = none ∧ character ≠ '\\' ∧ character ≠ '"'
  | .blank, value => value ≠ [] ∧ (∀ character ∈ value, isLayout character) ∧ '\n' ∉ value
  | .escape, value => value ≠ []
  | .constant, _ => True
  | .regex, value => ['/', '/'] <:+: value
  | .doubleColon, value => value = [':', ':']
  | kind, value => ∃ character, value = [character] ∧ punctuation? character = some kind

/-- A piece of a source. -/
inductive Piece where
  | lexeme (token : Token)
  | gap (characters : List Char)

def Piece.spelling : Piece → List Char
  | .lexeme token => token.spelling
  | .gap characters => characters

def Piece.token? : Piece → Option Token
  | .lexeme token => some token
  | .gap _ => none

/-- What a piece is where it stands, with the given characters of the source before and behind. -/
inductive Piece.Stands (before : List Char) : Piece → List Char → Prop where
  | lexeme {token : Token} {behind : List Char} (admits : token.kind.Admits token.value.toList)
      (place : token.position = placeBehind before) : Stands before (.lexeme token) behind
  /-- A comment goes on to the end of a line on which only white space stands before it. -/
  | comment {characters behind : List Char} (startsLine : isLineBlank before)
      (onLine : '\n' ∉ characters) (ends : behind = [] ∨ behind.head? = some '\n') :
      Stands before (.gap ('#' :: characters)) behind
  /-- White space that goes over a line feed. -/
  | layout {characters behind : List Char}
      (allLayout : ∀ character ∈ characters, isLayout character)
      (breaksLine : '\n' ∈ characters) (ends : ∀ next ∈ behind.head?, isLayout next = false) :
      Stands before (.gap characters) behind

/-- A source, behind the characters `before`, cut into pieces. -/
structure IsCutInto (before source : List Char) (tokens : List Token) (pieces : List Piece) :
    Prop where
  spelling : pieces.flatMap Piece.spelling = source
  tokens : pieces.filterMap Piece.token? = tokens
  stands : ∀ front piece behind, pieces = front ++ piece :: behind →
    piece.Stands (before ++ front.flatMap Piece.spelling) (behind.flatMap Piece.spelling)

namespace IsCutInto

theorem nil (before : List Char) : IsCutInto before [] [] [] where
  spelling := rfl
  tokens := rfl
  stands front piece behind same := by simp at same

theorem cons {before source : List Char} {tokens : List Token} {pieces : List Piece} {piece : Piece}
    (stands : piece.Stands before source)
    (others : IsCutInto (before ++ piece.spelling) source tokens pieces) :
    IsCutInto before (piece.spelling ++ source) (piece.token?.toList ++ tokens) (piece :: pieces)
    where
  spelling := by rw [List.flatMap_cons, others.spelling]
  tokens := by
    rw [← others.tokens]
    cases found : piece.token? <;> simp [found]
  stands front other behind same := by
    cases front with
    | nil =>
        obtain ⟨rfl, rfl⟩ := List.cons.inj same
        rw [others.spelling, List.flatMap_nil, List.append_nil]
        exact stands
    | cons first front =>
        obtain ⟨rfl, inside⟩ := List.cons.inj same
        rw [List.flatMap_cons, ← List.append_assoc]
        exact others.stands front other behind inside

end IsCutInto

/-! ### What escapes and regexes consist of -/

/-- How the repeat count of an escape is written; without digits there is none. -/
def writtenCount (digits : List Char) : List Char :=
  if digits.isEmpty then [] else digits ++ [',']

/-- The code of an escape: one character, or `u` and four hexadecimal digits. -/
inductive IsEscapeCode : List Char → Prop where
  | single {character : Char} (other : character ≠ 'u') : IsEscapeCode [character]
  | point {digits : List Char} (four : digits.length = 4)
      (hexadecimal : ∀ digit ∈ digits, Text.isAsciiHexDigit digit) : IsEscapeCode ('u' :: digits)

theorem IsEscapeCode.ne_nil {code : List Char} (isCode : IsEscapeCode code) : code ≠ [] := by
  cases isCode <;> exact List.cons_ne_nil _ _

/-- The body of a regex: a backslash takes the next character along, whatever it is, and no other
slash stands before a slash, be it the first of the closing ones. -/
inductive IsRegexBody : List Char → Prop where
  | empty : IsRegexBody []
  | escaped (character : Char) {others : List Char} (rest : IsRegexBody others) :
      IsRegexBody ('\\' :: character :: others)
  | slash {next : Char} {others : List Char} (alone : next ≠ '/')
      (rest : IsRegexBody (next :: others)) : IsRegexBody ('/' :: next :: others)
  | plain {character : Char} {others : List Char} (noEscape : character ≠ '\\')
      (noSlash : character ≠ '/') (rest : IsRegexBody others) : IsRegexBody (character :: others)

/-! ### Lexemes are read off the source -/

section Reading

variable {characters value rest : List Char}

theorem prefix_textRun (characters : List Char) : textRun characters <+: characters := by
  induction characters with
  | nil => exact List.nil_prefix
  | cons character rest inductionHypothesis =>
      unfold textRun
      split
      · exact List.cons_prefix_cons.mpr ⟨rfl, inductionHypothesis⟩
      · exact List.nil_prefix

theorem isTextCharacter_plain {character : Char} (goesOn : isTextCharacter character rest = true) :
    isLayout character = false ∧ punctuation? character = none ∧ character ≠ '\\' ∧
      character ≠ '"' := by
  simp only [isTextCharacter, Bool.and_eq_true, Bool.not_eq_true', Option.isNone_iff_eq_none,
    bne_iff_ne] at goesOn
  exact ⟨goesOn.1.1.1.1, goesOn.1.1.1.2, goesOn.1.1.2, goesOn.1.2⟩

theorem plain_of_mem_textRun {character : Char} (member : character ∈ textRun characters) :
    isLayout character = false ∧ punctuation? character = none ∧ character ≠ '\\' ∧
      character ≠ '"' := by
  induction characters with
  | nil => cases member
  | cons first rest inductionHypothesis =>
      unfold textRun at member
      split at member
      · next goesOn =>
          rcases List.mem_cons.mp member with rfl | later
          · exact isTextCharacter_plain goesOn
          · exact inductionHypothesis later
      · cases member

theorem prefix_of_escapeCount (characters : List Char) : escapeCount characters <+: characters := by
  unfold escapeCount
  dsimp only
  split
  · next counted =>
      rw [Bool.and_eq_true, beq_iff_eq, List.head?_eq_some_iff] at counted
      obtain ⟨-, behind, comma⟩ := counted
      refine ⟨behind, ?_⟩
      rw [List.append_assoc, List.singleton_append, ← comma]
      exact (List.prefix_iff_eq_append.mp (List.takeWhile_prefix _))
  · exact List.nil_prefix

/-- Only digits with a comma behind them are read as a count. -/
theorem exists_writtenCount (characters : List Char) :
    ∃ digits, (∀ digit ∈ digits, Text.isAsciiDigit digit) ∧
      escapeCount characters = writtenCount digits := by
  unfold escapeCount
  dsimp only
  split
  · next counted =>
      rw [Bool.and_eq_true, Bool.not_eq_true'] at counted
      refine ⟨characters.takeWhile Text.isAsciiDigit, fun digit => List.mem_takeWhile_imp, ?_⟩
      rw [writtenCount, if_neg (by simp [counted.1])]
  · exact ⟨[], List.forall_mem_nil _, rfl⟩

/-- An escape is read as a count, if one comes next, and a code. -/
theorem exists_of_readEscape (read : readEscape characters = .ok value) :
    ∃ digits code behind, characters = writtenCount digits ++ (code ++ behind) ∧
      value = writtenCount digits ++ code ∧ (∀ digit ∈ digits, Text.isAsciiDigit digit) ∧
      escapeCount characters = writtenCount digits ∧ IsEscapeCode code := by
  obtain ⟨digits, decimal, count⟩ := exists_writtenCount characters
  have parts := List.prefix_iff_eq_append.mp (prefix_of_escapeCount characters)
  unfold readEscape at read
  dsimp only at read
  rw [count] at read parts
  split at read
  · cases read
  next code rest left =>
  rw [left] at parts
  split at read
  · next isPoint =>
      subst isPoint
      split at read
      · next four =>
          obtain rfl := Except.ok.inj read
          obtain ⟨behind, split⟩ :=
            (List.takeWhile_prefix Text.isAsciiHexDigit).trans (List.take_prefix 4 rest)
          refine ⟨digits, _, behind, ?_, rfl, decimal, count,
            .point four fun digit => List.mem_takeWhile_imp⟩
          rw [List.cons_append, split]
          exact parts.symm
      · cases read
  · next other =>
      obtain rfl := Except.ok.inj read
      exact ⟨digits, [code], rest, parts.symm, rfl, decimal, count, .single other⟩

theorem prefix_of_readEscape (read : readEscape characters = .ok value) :
    value <+: characters ∧ value ≠ [] := by
  obtain ⟨digits, code, behind, rfl, rfl, -, -, isCode⟩ := exists_of_readEscape read
  exact ⟨⟨behind, List.append_assoc _ _ _⟩, List.append_ne_nil_of_right_ne_nil _ isCode.ne_nil⟩

/-- A constant goes on to a quote that is not doubled. -/
theorem parts_of_readConstant (read : readConstant characters = .ok value) :
    ∃ behind, characters = doubleQuotes value ++ '"' :: behind ∧ behind.head? ≠ some '"' := by
  fun_induction readConstant characters generalizing value with
  | case1 => cases read
  | case2 =>
      obtain rfl := Except.ok.inj read
      exact ⟨[], rfl, by simp⟩
  | case3 rest inductionHypothesis =>
      obtain ⟨inner, readInner, rfl⟩ := map_eq_ok.mp read
      obtain ⟨behind, rfl, ends⟩ := inductionHypothesis readInner
      exact ⟨behind, by rw [doubleQuotes, if_pos rfl]; rfl, ends⟩
  | case4 next rest other =>
      obtain rfl := Except.ok.inj read
      exact ⟨next :: rest, rfl, by simpa using other⟩
  | case5 character rest notLast notQuote inductionHypothesis =>
      obtain ⟨inner, readInner, rfl⟩ := map_eq_ok.mp read
      have plain : character ≠ '"' := by
        rintro rfl
        cases rest with
        | nil => exact notLast rfl rfl
        | cons next rest => exact notQuote next rest rfl rfl
      obtain ⟨behind, rfl, ends⟩ := inductionHypothesis readInner
      exact ⟨behind, by rw [doubleQuotes, if_neg plain]; rfl, ends⟩

theorem prefix_of_readConstant (read : readConstant characters = .ok value) :
    doubleQuotes value ++ ['"'] <+: characters := by
  obtain ⟨behind, rfl, -⟩ := parts_of_readConstant read
  exact ⟨behind, by rw [List.append_assoc, List.singleton_append]⟩

/-- Reading a constant gives what was quoted, unless one more quote is behind it. -/
theorem readConstant_doubleQuotes (value : List Char) {behind : List Char}
    (ends : behind.head? ≠ some '"') :
    readConstant (doubleQuotes value ++ '"' :: behind) = .ok value := by
  induction value with
  | nil =>
      cases behind with
      | nil => rfl
      | cons next behind =>
          have other : next ≠ '"' := by simpa using ends
          show readConstant ('"' :: next :: behind) = _
          rw [readConstant, if_neg other]
  | cons character value inductionHypothesis =>
      by_cases isQuote : character = '"'
      · subst isQuote
        simp [doubleQuotes, readConstant, inductionHypothesis, Except.map]
      · simp [doubleQuotes, readConstant, isQuote, inductionHypothesis, Except.map]

theorem append_of_readRegexBody {body behind : List Char}
    (read : readRegexBody characters = .ok (body, behind)) :
    characters = body ++ '/' :: '/' :: behind := by
  fun_induction readRegexBody characters generalizing body behind with
  | case1 => cases read
  | case2 => cases read
  | case3 escaped rest inductionHypothesis =>
      obtain ⟨⟨later, left⟩, readBehind, same⟩ := map_eq_ok.mp read
      cases same
      rw [inductionHypothesis readBehind]
      rfl
  | case4 rest =>
      cases read
      rfl
  | case5 character rest notAlone notEscaping notClosing inductionHypothesis =>
      obtain ⟨⟨later, left⟩, readBehind, same⟩ := map_eq_ok.mp read
      cases same
      rw [inductionHypothesis readBehind]
      rfl

theorem isRegexBody_of_readRegexBody {body behind : List Char}
    (read : readRegexBody characters = .ok (body, behind)) : IsRegexBody body := by
  fun_induction readRegexBody characters generalizing body behind with
  | case1 => cases read
  | case2 => cases read
  | case3 escaped rest inductionHypothesis =>
      obtain ⟨⟨later, left⟩, readBehind, same⟩ := map_eq_ok.mp read
      cases same
      exact .escaped escaped (inductionHypothesis readBehind)
  | case4 rest =>
      cases read
      exact .empty
  | case5 character rest notAlone notEscaping notClosing inductionHypothesis =>
      obtain ⟨⟨later, left⟩, readBehind, same⟩ := map_eq_ok.mp read
      cases same
      have parts := append_of_readRegexBody readBehind
      have laterBody := inductionHypothesis readBehind
      have noEscape : character ≠ '\\' := by
        rintro rfl
        cases rest with
        | nil => exact notAlone rfl rfl
        | cons escaped others => exact notEscaping escaped others rfl rfl
      by_cases isSlash : character = '/'
      · subst isSlash
        cases later with
        | nil => exact absurd parts (notClosing _ rfl)
        | cons next others =>
            refine .slash ?_ laterBody
            rintro rfl
            exact notClosing _ rfl parts
      · exact .plain noEscape isSlash laterBody

/-- A body is read up to the slashes behind it. -/
theorem IsRegexBody.readRegexBody {body : List Char} (isBody : IsRegexBody body)
    (behind : List Char) : readRegexBody (body ++ '/' :: '/' :: behind) = .ok (body, behind) := by
  induction isBody with
  | empty => rfl
  | escaped character rest inductionHypothesis =>
      rw [List.cons_append, List.cons_append, Pattern.readRegexBody, inductionHypothesis]
      rfl
  | slash alone rest inductionHypothesis =>
      rw [List.cons_append, Pattern.readRegexBody, inductionHypothesis]
      · rfl
      · exact fun isEscape => absurd isEscape (by decide)
      · exact fun _ _ isEscape => absurd isEscape (by decide)
      · simpa using alone
  | plain noEscape noSlash rest inductionHypothesis =>
      rw [List.cons_append, Pattern.readRegexBody, inductionHypothesis]
      · rfl
      · exact fun isEscape => absurd isEscape noEscape
      · exact fun _ _ isEscape => absurd isEscape noEscape
      · exact fun _ isSlash => absurd isSlash noSlash

/-- The body goes on to the first two slashes that no backslash keeps from closing it. -/
theorem readRegexBody_eq_ok_iff {body behind : List Char} :
    readRegexBody characters = .ok (body, behind) ↔
      IsRegexBody body ∧ characters = body ++ '/' :: '/' :: behind := by
  constructor
  · intro read
    exact ⟨isRegexBody_of_readRegexBody read, append_of_readRegexBody read⟩
  · rintro ⟨isBody, rfl⟩
    exact isBody.readRegexBody behind

theorem prefix_of_readRegex (read : readRegex characters = .ok value) :
    value <+: characters ∧ ['/', '/'] <:+: value := by
  obtain ⟨⟨body, behind⟩, readBody, rfl⟩ := map_eq_ok.mp read
  rw [append_of_readRegexBody readBody]
  refine ⟨?_, ⟨body, behind.takeWhile isRegexFlag, by simp⟩⟩
  rw [List.prefix_append_right_inj, List.cons_prefix_cons, List.cons_prefix_cons]
  exact ⟨rfl, rfl, List.takeWhile_prefix _⟩

end Reading

/-! ### Lexemes as pieces -/

/-- The piece that a lexeme is at a place. -/
def Lexeme.piece (lexeme : Lexeme) (position : Position) : Piece :=
  match lexeme.token? with
  | some (kind, value) => .lexeme ⟨kind, String.ofList value, position⟩
  | none => .gap lexeme.spelling

/-- A lexeme that is what it says between the given characters. -/
structure Lexeme.Fits (before : List Char) (lexeme : Lexeme) (behind : List Char) : Prop where
  full : lexeme.spelling ≠ []
  spelling : (lexeme.piece (placeBehind before)).spelling = lexeme.spelling
  stands : (lexeme.piece (placeBehind before)).Stands before behind

section Lexemes

variable {before behind rest : List Char} {first : Char} {lexeme : Lexeme}

theorem Lexeme.fits_token {spelling value : List Char} {kind : TokenKind} (full : spelling ≠ [])
    (spelt : Token.spelling ⟨kind, String.ofList value, placeBehind before⟩ = spelling)
    (admits : kind.Admits value) : Lexeme.Fits before ⟨spelling, some (kind, value)⟩ behind where
  full := full
  spelling := spelt
  stands := .lexeme (by rwa [String.toList_ofList]) rfl

theorem Lexeme.fits_gap {characters : List Char} (full : characters ≠ [])
    (stands : Piece.Stands before (.gap characters) behind) :
    Lexeme.Fits before ⟨characters, none⟩ behind :=
  ⟨full, rfl, stands⟩

/-- A longest run ends before a character that does not go on with it. -/
theorem run_stops {goesOn : Char → Bool} {characters : List Char} {next : Char}
    (found : (characters.dropWhile goesOn).head? = some next) : goesOn next = false := by
  rw [← List.find?_not_eq_head?_dropWhile] at found
  simpa using List.find?_some found

theorem fits_comment (rest : List Char) (startsLine : isLineBlank before) :
    Lexeme.Fits before ⟨'#' :: rest.takeWhile (· != '\n'), none⟩ (rest.dropWhile (· != '\n')) := by
  refine Lexeme.fits_gap (List.cons_ne_nil _ _) (.comment startsLine ?_ ?_)
  · intro member
    simpa using List.mem_takeWhile_imp member
  · cases next : (rest.dropWhile (· != '\n')).head? with
    | none => exact .inl (List.head?_eq_none_iff.mp next)
    | some character => exact .inr (by simpa using run_stops next)

theorem fits_layout (isSpace : isLayout first = true) (rest : List Char) :
    Lexeme.Fits before
      ⟨first :: rest.takeWhile isLayout,
        if (first :: rest.takeWhile isLayout).contains '\n' then none
        else some (.blank, first :: rest.takeWhile isLayout)⟩
      (rest.dropWhile isLayout) := by
  have allLayout : ∀ character ∈ first :: rest.takeWhile isLayout, isLayout character :=
    List.forall_mem_cons.mpr ⟨isSpace, fun _ => List.mem_takeWhile_imp⟩
  split
  · next breaks =>
      exact Lexeme.fits_gap (List.cons_ne_nil _ _)
        (.layout allLayout (List.contains_iff_mem.mp breaks) fun _ => run_stops)
  · next stays =>
      refine Lexeme.fits_token (List.cons_ne_nil _ _) String.toList_ofList
        ⟨List.cons_ne_nil _ _, allLayout, fun member => stays (List.contains_iff_mem.mpr member)⟩

theorem exists_punctuation (noText : ¬isTextCharacter first rest = true)
    (noLayout : ¬isLayout first = true) (noEscape : first ≠ '\\') (noQuote : first ≠ '"')
    (noSlash : first ≠ '/') : ∃ kind, punctuation? first = some kind := by
  rw [← Option.ne_none_iff_exists']
  simpa [isTextCharacter, noLayout, noEscape, noQuote, noSlash] using noText

theorem slash_of_not_text (noText : ¬isTextCharacter '/' rest = true) : ['/'] <+: rest := by
  have next : rest.head? = some '/' := by
    by_contra other
    exact noText (by simp [isTextCharacter, isLayout, punctuation?, other])
  obtain ⟨behind, rfl⟩ := List.head?_eq_some_iff.mp next
  exact ⟨behind, rfl⟩

theorem fits_punctuation {kind : TokenKind} (known : punctuation? first = some kind) :
    Lexeme.Fits before ⟨[first], some (kind, [first])⟩ behind := by
  unfold punctuation? at known
  split at known
  all_goals cases known <;>
    exact Lexeme.fits_token (List.cons_ne_nil _ _) String.toList_ofList ⟨_, rfl, rfl⟩

/-- A lexeme begins what it was read from, and is what it says there. -/
theorem fits_of_readLexeme (read : readLexeme (isLineBlank before) first rest = .ok lexeme) :
    ∃ behind, lexeme.spelling ++ behind = first :: rest ∧ lexeme.Fits before behind := by
  -- In the order of the reader: what a lexeme is not, the later cases know.
  unfold readLexeme at read
  split at read
  · next comment =>
      obtain ⟨rfl, startsLine⟩ := comment
      obtain rfl := Except.ok.inj read
      refine ⟨rest.dropWhile (· != '\n'), ?_, fits_comment rest startsLine⟩
      rw [List.cons_append, List.takeWhile_append_dropWhile]
  split at read
  · next goesOn =>
      obtain rfl := Except.ok.inj read
      obtain ⟨behind, parts⟩ := prefix_textRun rest
      refine ⟨behind, by rw [List.cons_append, parts], ?_⟩
      exact Lexeme.fits_token (List.cons_ne_nil _ _) String.toList_ofList ⟨List.cons_ne_nil _ _,
        List.forall_mem_cons.mpr ⟨isTextCharacter_plain goesOn, fun _ => plain_of_mem_textRun⟩⟩
  next noText =>
  split at read
  · next isSpace =>
      obtain rfl := Except.ok.inj read
      refine ⟨rest.dropWhile isLayout, ?_, fits_layout isSpace rest⟩
      rw [List.cons_append, List.takeWhile_append_dropWhile]
  next noLayout =>
  split at read
  · next isEscape =>
      subst isEscape
      obtain ⟨value, readValue, rfl⟩ := map_eq_ok.mp read
      obtain ⟨⟨behind, parts⟩, full⟩ := prefix_of_readEscape readValue
      refine ⟨behind, by rw [List.cons_append, parts], ?_⟩
      exact Lexeme.fits_token (List.cons_ne_nil _ _)
        (congrArg ('\\' :: ·) String.toList_ofList) full
  next noEscape =>
  split at read
  · next isQuote =>
      subst isQuote
      obtain ⟨value, readValue, rfl⟩ := map_eq_ok.mp read
      obtain ⟨behind, parts⟩ := prefix_of_readConstant readValue
      refine ⟨behind, congrArg ('"' :: ·) parts, ?_⟩
      exact Lexeme.fits_token (List.cons_ne_nil _ _) (congrArg quote String.toList_ofList) trivial
  next noQuote =>
  split at read
  · next isSlash =>
      subst isSlash
      obtain ⟨value, readValue, rfl⟩ := map_eq_ok.mp read
      obtain ⟨others, rfl⟩ := slash_of_not_text noText
      obtain ⟨⟨behind, parts⟩, closed⟩ := prefix_of_readRegex readValue
      refine ⟨behind, congrArg (fun rest => '/' :: '/' :: rest) parts, ?_⟩
      exact Lexeme.fits_token (List.cons_ne_nil _ _)
        (congrArg (fun value => '/' :: '/' :: value) String.toList_ofList) closed
  next noSlash =>
  split at read
  · next colons =>
      obtain ⟨rfl, next⟩ := colons
      obtain rfl := Except.ok.inj read
      obtain ⟨behind, rfl⟩ := List.head?_eq_some_iff.mp next
      exact ⟨behind, rfl,
        Lexeme.fits_token (List.cons_ne_nil _ _) String.toList_ofList rfl⟩
  · obtain rfl := Except.ok.inj read
    obtain ⟨kind, known⟩ := exists_punctuation noText noLayout noEscape noQuote noSlash
    rw [known]
    exact ⟨rest, rfl, fits_punctuation known⟩

end Lexemes

/-! ### Whole sources -/

theorem token?_piece (lexeme : Lexeme) (position : Position) :
    (lexeme.piece position).token? =
      lexeme.token?.map fun (kind, value) => ⟨kind, String.ofList value, position⟩ := by
  unfold Lexeme.piece
  cases lexeme.token? <;> rfl

/-- What is left behind the first lexeme of a source. -/
theorem drop_of_append {spelling behind rest : List Char} {first : Char} (full : spelling ≠ [])
    (parts : spelling ++ behind = first :: rest) : rest.drop (spelling.length - 1) = behind := by
  obtain ⟨character, others, rfl⟩ := List.exists_cons_of_ne_nil full
  obtain ⟨-, rfl⟩ := List.cons.inj parts
  rw [List.length_cons, Nat.add_sub_cancel, List.append_eq, List.drop_left]

theorem length_lt_of_append {spelling behind rest : List Char} {first : Char}
    (full : spelling ≠ []) (parts : spelling ++ behind = first :: rest) :
    behind.length < (first :: rest).length := by
  have := List.length_pos_iff.mpr full
  rw [← parts, List.length_append]
  omega

/-- The lexemes that a source is read as, one behind the other, from a place where the line is blank
so far or not. -/
inductive Reads : Bool → List Char → List Lexeme → Prop
  | nil {lineBlank : Bool} : Reads lineBlank [] []
  | cons {lineBlank : Bool} {first : Char} {rest behind : List Char} {lexeme : Lexeme}
      {lexemes : List Lexeme} (read : readLexeme lineBlank first rest = .ok lexeme)
      (parts : lexeme.spelling ++ behind = first :: rest)
      (others : Reads (lexeme.spelling.foldl lineBlankAfter lineBlank) behind lexemes) :
      Reads lineBlank (first :: rest) (lexeme :: lexemes)

/-- The pieces that lexemes are where they stand, behind the characters `before`. -/
def placed (before : List Char) : List Lexeme → List Piece
  | [] => []
  | lexeme :: lexemes =>
      lexeme.piece (placeBehind before) :: placed (before ++ lexeme.spelling) lexemes

/-- Tokens read from a place on are those of lexemes that begin there. -/
theorem exists_reads {before source : List Char} {tokens : List Token}
    (read : tokensFrom (placeBehind before) (isLineBlank before) source = .ok tokens) :
    ∃ lexemes, Reads (isLineBlank before) source lexemes ∧
      (placed before lexemes).filterMap Piece.token? = tokens := by
  cases source with
  | nil =>
      rw [tokensFrom] at read
      obtain rfl := Except.ok.inj read
      exact ⟨[], .nil, rfl⟩
  | cons first rest =>
      rw [tokensFrom] at read
      split at read
      · cases read
      next lexeme readFirst =>
      obtain ⟨behind, parts, fits⟩ := fits_of_readLexeme readFirst
      -- The reader counts on from place to place; that is counting what stands before afresh.
      rw [drop_of_append fits.full parts, after_placeBehind, foldl_lineBlankAfter] at read
      obtain ⟨others, readOthers, same⟩ := bind_eq_ok.mp read
      have shorter := length_lt_of_append fits.full parts
      obtain ⟨lexemes, reads, found⟩ := exists_reads readOthers
      rw [← foldl_lineBlankAfter] at reads
      refine ⟨lexeme :: lexemes, .cons readFirst parts reads, ?_⟩
      rw [placed, List.filterMap_cons, token?_piece, found]
      split at same
      · next isGap =>
          rw [isGap]
          exact Except.ok.inj same
      · next kind value isToken =>
          rw [isToken]
          exact Except.ok.inj same
termination_by source.length

theorem Reads.isCutInto {before source : List Char} {lexemes : List Lexeme}
    (reads : Reads (isLineBlank before) source lexemes) :
    IsCutInto before source ((placed before lexemes).filterMap Piece.token?)
      (placed before lexemes) := by
  generalize blank : isLineBlank before = lineBlank at reads
  induction reads generalizing before with
  | nil => exact .nil before
  | @cons _ first rest behind lexeme lexemes read parts others inductionHypothesis =>
      subst blank
      obtain ⟨left, leftParts, fits⟩ := fits_of_readLexeme read
      obtain rfl : left = behind := List.append_cancel_left (leftParts.trans parts.symm)
      have cut := inductionHypothesis (foldl_lineBlankAfter before lexeme.spelling).symm
      have whole := IsCutInto.cons fits.stands (by rwa [fits.spelling])
      rw [fits.spelling, parts] at whole
      rw [placed, List.filterMap_cons]
      cases found : (lexeme.piece (placeBehind before)).token? <;> rwa [found] at whole

/-- Tokens read from a place on are the tokens of pieces that begin there. -/
theorem exists_isCutInto {before source : List Char} {tokens : List Token}
    (read : tokensFrom (placeBehind before) (isLineBlank before) source = .ok tokens) :
    ∃ pieces, IsCutInto before source tokens pieces := by
  obtain ⟨lexemes, reads, found⟩ := exists_reads read
  exact ⟨placed before lexemes, found ▸ reads.isCutInto⟩

/-- A source is cut into the spellings of its tokens and gaps, without anything left out. -/
theorem isCutInto_of_tokenize {source : String} {tokens : List Token}
    (read : tokenize source = .ok tokens) : ∃ pieces, IsCutInto [] source.toList tokens pieces :=
  exists_isCutInto read

/-! ### A source with gaps of both kinds

The first number sign begins a comment, the second one a text. -/

namespace Gaps

def source : String :=
  " # é\n\té\"a\"\"\" # b::\\2,n//[/]//i"

def tokens : List Token :=
  [⟨.blank, " ", .start⟩, ⟨.text, "é", ⟨2, 2, 7⟩⟩, ⟨.constant, "a\"", ⟨2, 3, 9⟩⟩,
    ⟨.blank, " ", ⟨2, 8, 14⟩⟩, ⟨.text, "#", ⟨2, 9, 15⟩⟩, ⟨.blank, " ", ⟨2, 10, 16⟩⟩,
    ⟨.text, "b", ⟨2, 11, 17⟩⟩, ⟨.doubleColon, "::", ⟨2, 12, 18⟩⟩,
    ⟨.escape, "2,n", ⟨2, 14, 20⟩⟩, ⟨.regex, "[/]//i", ⟨2, 18, 24⟩⟩]

theorem tokenize_source : tokenize source = .ok tokens := by
  decide +kernel

theorem isCutInto_source : tokenize source = .ok tokens ∧
    ∃ pieces, IsCutInto [] source.toList tokens pieces :=
  ⟨tokenize_source, isCutInto_of_tokenize tokenize_source⟩

end Gaps

end SeededText.Pattern
