import SeededText.Proofs.Lexemes
import SeededText.Proofs.Transparency
import SeededText.Proofs.VerbatimArguments

/-!
Contract: sources that print a text as it is.

A pattern whose tokens are all verbatim prints their values, one behind the other. There are two
ways to such a pattern. The constant of a text is a single token, whose value is the text. A source
without brackets, quotes, backslashes, regexes and gaps is cut into tokens that are spelled as their
values, and these put together are the source.

Owns: the runs of verbatim patterns, the source that quotes a text, plain sources.
Does not own: the steps of verbatim code (`SeededText.Proofs.VerbatimArguments`), how a source is
cut into pieces (`SeededText.Proofs.Lexemes`).
-/

namespace SeededText

open Pattern Output

/-! ### Runs of verbatim patterns -/

namespace Machine

variable {name source : String} {tokens : List Token}

/-- A verbatim pattern prints its text. -/
theorem run_of_isVerbatim (engine : Engine) {pattern : Pattern} (seed : UInt64)
    (verbatim : (Code.whole pattern).isVerbatim = true) :
    engine.run pattern seed = .ok [⟨mainChannel, .shared, (Code.whole pattern).text⟩] := by
  let store : Store := .fresh engine seed
  -- The first activation is there from the start, so a run without others fits any stack.
  let top : Activation := .enter (.shared (.whole pattern)) 0
  have tokens (index : Nat) (token : Token) (higher : top.cursor ≤ index)
      (found : top.code.tokenAt? index = some token) : token.kind.isVerbatim = true :=
    Code.isVerbatim_of_tokenAt? verbatim higher found
  have inside : top.sink < store.sinks.size := Nat.one_pos
  have fresh : (store.sinkAt top.sink).Holds store.targets "" := .fresh store.targets
  obtain ⟨later, written, reaches, atEnd, continues, holds⟩ :=
    Configuration.exists_reaches_of_isVerbatim engine store top [] rfl tokens inside fresh
  let last : Store := store.absorb top.sink ⟨store.toMemory, written⟩
  have left : Configuration.Reaches engine ⟨last, [later]⟩ ⟨last, []⟩ :=
    Configuration.reaches_leave_shared atEnd continues
  have output : last.output = [⟨mainChannel, .shared, (Code.whole pattern).text⟩] := by
    have sink : last.sinkAt 0 = written :=
      congrArg Workspace.sink (Store.workspace_absorb inside ⟨store.toMemory, written⟩)
    rw [String.empty_append] at holds
    rw [Store.output, sink]
    exact holds.output
  rw [Engine.run, run_of_reaches (reaches.trans left) .finished]
  exact congrArg Except.ok output

/-- The text of a whole pattern are the values of its tokens. -/
theorem toList_text_whole (name source : String) (tokens : List Token) :
    (Code.whole ⟨name, source, tokens.toArray⟩).text.toList =
      tokens.flatMap fun token => token.value.toList := by
  have all : (Code.whole ⟨name, source, tokens.toArray⟩).text =
      tokens.foldl (fun text token => text ++ token.value) "" := by
    have every : tokens.extract 0 tokens.length = tokens := by
      rw [List.extract_eq_take_drop, List.drop_zero, Nat.sub_zero, List.take_length]
    rw [Code.text, spanText_eq]
    exact congrArg (List.foldl _ "") every
  rw [all]
  clear all
  induction tokens with
  | nil => rfl
  | cons token tokens inductionHypothesis =>
      rw [List.foldl_cons, foldl_append_value, String.empty_append, String.toList_append,
        inductionHypothesis, List.flatMap_cons]

/-- A source whose tokens are verbatim, and put together are a text, prints the text. -/
theorem runSource_of_isVerbatim (engine : Engine) (name : String) (seed : UInt64) {text : String}
    (lexes : tokenize source = .ok tokens)
    (verbatim : ∀ token ∈ tokens, token.kind.isVerbatim = true)
    (together : tokens.flatMap (fun token => token.value.toList) = text.toList) :
    engine.runSource name source seed = .ok [⟨mainChannel, .shared, text⟩] := by
  have allVerbatim : (Code.whole ⟨name, source, tokens.toArray⟩).isVerbatim = true := by
    simpa [Code.isVerbatim, Code.tokens, Code.whole, Pattern.length, Pattern.slice] using verbatim
  have printed : (Code.whole ⟨name, source, tokens.toArray⟩).text = text := by
    rw [← String.toList_inj, toList_text_whole, together]
  rw [runSource_eq engine seed (compile_of_tokenize name lexes),
    run_of_isVerbatim engine seed allVerbatim, printed]

end Machine

/-! ### Quoted texts -/

/-- The source that begins and ends with a quote, between which the text stands with every quote
written twice. -/
def Pattern.quoted (text : String) : String :=
  String.ofList (quote text.toList)

theorem Pattern.tokenize_quoted (text : String) :
    tokenize (quoted text) = .ok [⟨.constant, text, .start⟩] := by
  have ends : ([] : List Char).head? ≠ some '"' := by decide
  have behind : tokensFrom (Position.start.after (quote text.toList))
      ((quote text.toList).foldl lineBlankAfter true)
      ((doubleQuotes text.toList ++ ['"']).drop ((quote text.toList).length - 1)) = .ok [] := by
    have left : (doubleQuotes text.toList ++ ['"']).drop ((quote text.toList).length - 1) = [] := by
      simp [quote]
    rw [left, tokensFrom]
  have lexed := tokensFrom_of_lexeme (readLexeme_quote text.toList ends) behind
  rw [String.ofList_toList] at lexed
  rw [tokenize, quoted, String.toList_ofList]
  exact lexed

/-- Any text can be quoted: its quoted form is one constant of that value, and prints the text. -/
theorem Engine.prints_quoted (text : String) :
    tokenize (quoted text) = .ok [⟨.constant, text, .start⟩] ∧
      ∀ (engine : Engine) (name : String) (seed : UInt64),
        engine.runSource name (quoted text) seed = .ok [⟨mainChannel, .shared, text⟩] := by
  refine ⟨tokenize_quoted text, fun engine name seed => ?_⟩
  apply Machine.runSource_of_isVerbatim engine name seed (tokenize_quoted text)
  · simp [TokenKind.isVerbatim]
  · simp

/-! ### Plain sources -/

namespace Pattern

/-- Characters that are more than themselves wherever they stand in a source. -/
def markup : List Char :=
  ['{', '}', '[', ']', '(', ')', '<', '>', '"', '\\', '\n']

/-- A source without markup, that is without brackets, quotes, backslashes and line feeds, with no
two slashes next to each other, and with no number sign that has nothing but white space before it.
-/
structure IsPlain (source : List Char) : Prop where
  letters : ∀ character ∈ source, character ∉ markup
  slashes : ¬ ['/', '/'] <:+: source
  marks : ∀ before behind, source = before ++ '#' :: behind →
    ∃ character ∈ before, isLayout character = false

/-- A punctuation character that does not print itself is a bracket. -/
theorem mem_markup_of_punctuation {character : Char} {kind : TokenKind}
    (known : punctuation? character = some kind) (bracket : kind.isVerbatim = false) :
    character ∈ markup := by
  unfold punctuation? at known
  split at known <;> cases known <;> first | decide | cases bracket

/-- The last line of a text without line feeds is all of it. -/
theorem lastLine_of_notMem {characters : List Char} (oneLine : '\n' ∉ characters) :
    lastLine characters = characters := by
  have goesOn : ∀ character ∈ characters.reverse, (character != '\n') = true := by
    intro character member
    rw [bne_iff_ne]
    rintro rfl
    exact oneLine (List.mem_reverse.mp member)
  rw [lastLine, List.takeWhile_eq_self_iff.mpr goesOn, List.reverse_reverse]

/-- Pieces that are tokens, spelled as their values, are put together as the values are. -/
theorem flatMap_spelling {pieces : List Piece}
    (tokens : ∀ piece ∈ pieces, ∃ token, piece = .lexeme token ∧
      token.spelling = token.value.toList) :
    pieces.flatMap Piece.spelling =
      (pieces.filterMap Piece.token?).flatMap fun token => token.value.toList := by
  induction pieces with
  | nil => rfl
  | cons piece pieces inductionHypothesis =>
      obtain ⟨⟨token, rfl, spelt⟩, others⟩ := List.forall_mem_cons.mp tokens
      have found : (Piece.lexeme token).token? = some token := rfl
      rw [List.filterMap_cons_some found, List.flatMap_cons, List.flatMap_cons,
        inductionHypothesis others, ← spelt]
      rfl

/-- The only lexemes that break off are escapes, constants and regexes. -/
theorem exists_readLexeme (lineBlank : Bool) {first : Char} {rest : List Char}
    (noEscape : first ≠ '\\') (noQuote : first ≠ '"') (noSlashes : ¬ ['/', '/'] <+: first :: rest) :
    ∃ lexeme, readLexeme lineBlank first rest = .ok lexeme := by
  unfold readLexeme
  rw [if_neg noEscape, if_neg noQuote]
  by_cases isText : isTextCharacter first rest = true
  · rw [if_pos isText]
    split <;> exact ⟨_, rfl⟩
  · have noSlash : first ≠ '/' := by
      rintro rfl
      exact noSlashes (List.cons_prefix_cons.mpr ⟨rfl, slash_of_not_text isText⟩)
    rw [if_neg isText, if_neg noSlash]
    repeat' split
    all_goals exact ⟨_, rfl⟩

/-- A source without backslashes, quotes and pairs of slashes can be cut into tokens. -/
theorem exists_tokensFrom (before : List Char) {source : List Char}
    (noEscape : '\\' ∉ source) (noQuote : '"' ∉ source) (noSlashes : ¬ ['/', '/'] <:+: source) :
    ∃ tokens, tokensFrom (placeBehind before) (isLineBlank before) source = .ok tokens := by
  cases source with
  | nil => exact ⟨[], by rw [tokensFrom]⟩
  | cons first rest =>
      obtain ⟨lexeme, read⟩ := exists_readLexeme (isLineBlank before)
        (List.ne_of_not_mem_cons noEscape).symm (List.ne_of_not_mem_cons noQuote).symm
        (fun starts => noSlashes starts.isInfix)
      obtain ⟨behind, parts, fits⟩ := fits_of_readLexeme read
      have suffix : behind <:+ first :: rest := ⟨lexeme.spelling, parts⟩
      have shorter := length_lt_of_append fits.full parts
      obtain ⟨tokens, others⟩ := exists_tokensFrom (before ++ lexeme.spelling)
        (fun member => noEscape (suffix.subset member))
        (fun member => noQuote (suffix.subset member))
        (fun inside => noSlashes (inside.trans suffix.isInfix))
      rw [tokensFrom, read]
      simp only [drop_of_append fits.full parts, after_placeBehind, foldl_lineBlankAfter, others]
      cases lexeme.token? with
      | none => exact ⟨_, rfl⟩
      | some token => exact ⟨_, rfl⟩
termination_by source.length

namespace IsPlain

variable {source : List Char}

theorem noEscape (plain : IsPlain source) : '\\' ∉ source :=
  fun member => plain.letters '\\' member (by decide)

theorem noQuote (plain : IsPlain source) : '"' ∉ source :=
  fun member => plain.letters '"' member (by decide)

theorem noBreak (plain : IsPlain source) : '\n' ∉ source :=
  fun member => plain.letters '\n' member (by decide)

/-- Tokens that would not print their values have a character that a plain source has not. -/
theorem isVerbatim (plain : IsPlain source) {token : Token}
    (admits : token.kind.Admits token.value.toList) (inside : token.spelling <:+: source) :
    token.kind.isVerbatim = true ∧ token.spelling = token.value.toList := by
  obtain ⟨kind, value, position⟩ := token
  cases kind with
  | escape => exact absurd (inside.subset List.mem_cons_self) plain.noEscape
  | constant => exact absurd (inside.subset List.mem_cons_self) plain.noQuote
  | regex =>
      have slashes : ['/', '/'] <+: Token.spelling ⟨.regex, value, position⟩ := ⟨_, rfl⟩
      exact absurd (slashes.isInfix.trans inside) plain.slashes
  | opens bracket | closes bracket =>
      obtain ⟨character, spelt, known⟩ := admits
      have member : character ∈ value.toList := by
        rw [spelt]
        exact List.mem_singleton.mpr rfl
      have plainLetter := plain.letters character (inside.subset member)
      exact absurd (mem_markup_of_punctuation known rfl) plainLetter
  | _ => exact ⟨rfl, rfl⟩

/-- A plain source has no gaps. -/
theorem not_stands_gap (plain : IsPlain source) {before characters behind : List Char}
    (parts : before ++ (characters ++ behind) = source) :
    ¬ Piece.Stands before (.gap characters) behind := by
  intro stands
  cases stands with
  | @comment characters _ startsLine onLine ends =>
      have oneLine : '\n' ∉ before := by
        intro member
        apply plain.noBreak
        rw [← parts]
        exact List.mem_append_left _ member
      rw [isLineBlank, lastLine_of_notMem oneLine, List.all_eq_true] at startsLine
      obtain ⟨character, member, visible⟩ := plain.marks before (characters ++ behind) parts.symm
      rw [startsLine character member] at visible
      cases visible
  | layout allLayout breaksLine ends =>
      apply plain.noBreak
      rw [← parts]
      exact List.mem_append_right before (List.mem_append_left behind breaksLine)

/-- The pieces of a plain source are tokens that print their spellings. -/
theorem exists_token (plain : IsPlain source) {tokens : List Token} {pieces : List Piece}
    (cut : IsCutInto [] source tokens pieces) {piece : Piece} (member : piece ∈ pieces) :
    ∃ token, piece = .lexeme token ∧ token.kind.isVerbatim = true ∧
      token.spelling = token.value.toList := by
  obtain ⟨front, others, rfl⟩ := List.append_of_mem member
  have stands := cut.stands front piece others rfl
  have parts : front.flatMap Piece.spelling ++ (piece.spelling ++ others.flatMap Piece.spelling) =
      source := by
    rw [← cut.spelling, List.flatMap_append, List.flatMap_cons]
  cases piece with
  | gap characters => exact absurd stands (plain.not_stands_gap parts)
  | lexeme token =>
      have inside : token.spelling <:+: source := by
        rw [← parts, ← List.append_assoc]
        exact ⟨_, _, rfl⟩
      cases stands with
      | lexeme admits place => exact ⟨token, rfl, plain.isVerbatim admits inside⟩

/-- The tokens of a plain source print it. -/
theorem exists_tokens {source : String} (plain : IsPlain source.toList) :
    ∃ tokens, tokenize source = .ok tokens ∧
      (∀ token ∈ tokens, token.kind.isVerbatim = true) ∧
      tokens.flatMap (fun token => token.value.toList) = source.toList := by
  obtain ⟨tokens, lexes⟩ : ∃ tokens, tokenize source = .ok tokens :=
    exists_tokensFrom [] plain.noEscape plain.noQuote plain.slashes
  obtain ⟨pieces, cut⟩ : ∃ pieces, IsCutInto [] source.toList tokens pieces :=
    exists_isCutInto lexes
  refine ⟨tokens, lexes, ?_, ?_⟩
  · intro token member
    rw [← cut.tokens, List.mem_filterMap] at member
    obtain ⟨piece, among, found⟩ := member
    obtain ⟨token, rfl, verbatim, -⟩ := plain.exists_token cut among
    cases found
    exact verbatim
  · rw [← cut.spelling, ← cut.tokens]
    apply Eq.symm
    apply flatMap_spelling
    intro piece among
    obtain ⟨token, same, -, spelt⟩ := plain.exists_token cut among
    exact ⟨token, same, spelt⟩

end IsPlain

end Pattern

/-- A plain source compiles, and prints itself. -/
theorem Engine.prints_plain {source : String} (plain : IsPlain source.toList) :
    (∀ name, ∃ pattern, Machine.compile name source = .ok pattern) ∧
      ∀ (engine : Engine) (name : String) (seed : UInt64),
        engine.runSource name source seed = .ok [⟨mainChannel, .shared, source⟩] := by
  obtain ⟨tokens, lexes, verbatim, together⟩ := plain.exists_tokens
  constructor
  · intro name
    exact ⟨_, Machine.compile_of_tokenize name lexes⟩
  · intro engine name seed
    exact Machine.runSource_of_isVerbatim engine name seed lexes verbatim together

/-! ### A source of punctuation

Its number sign begins no comment, since there is a word before it. -/

namespace Punctuation

def source : String := "no::#1;\t@a?!|-=&$+ / b:"

theorem isPlain_source : IsPlain source.toList where
  letters := by simp [source, markup]
  slashes := by simp [source, List.infix_cons_iff]
  marks before behind parts := by
    have starts : source.toList.head? = some 'n' := by simp [source]
    rw [parts] at starts
    obtain _ | ⟨first, before⟩ := before
    · have other : '#' ≠ 'n' := by decide
      exact absurd (Option.some.inj starts) other
    · obtain rfl : first = 'n' := Option.some.inj starts
      exact ⟨'n', List.mem_cons_self, rfl⟩

theorem prints_source : IsPlain source.toList ∧
    (∃ pattern, Machine.compile "punctuation" source = .ok pattern) ∧
    Engine.standard.runSource "punctuation" source 7 = .ok [⟨mainChannel, .shared, source⟩] := by
  obtain ⟨compiles, prints⟩ := Engine.prints_plain isPlain_source
  exact ⟨isPlain_source, compiles "punctuation", prints .standard "punctuation" 7⟩

end Punctuation

end SeededText
