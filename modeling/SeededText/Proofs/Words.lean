import SeededText.Proofs.Rereading

/-!
Contract: texts that are a single token.

A word has no white space, no punctuation, no backslash, no quote and no two slashes next to each
other. The text tokens of a source have words as their values, and a word that is written before
anything that ends it is one text token, unless a comment begins there.

Owns: words, their tokens; names that are words.
Does not own: how sources are cut (`SeededText.Proofs.Lexemes`).
-/

namespace SeededText

/-! ### Blanks around a text -/

namespace Text

variable {characters : List Char}

theorem dropTrailing_isPrefix (drops : Char → Bool) (characters : List Char) :
    dropTrailing drops characters <+: characters := by
  have suffix := List.dropWhile_suffix drops (l := characters.reverse)
  have starts := List.reverse_prefix.mpr suffix
  rwa [List.reverse_reverse] at starts

theorem trimmed_isInfix (characters : List Char) : trimmed characters <:+: characters :=
  (dropTrailing_isPrefix isBlank _).isInfix.trans (List.dropWhile_suffix isBlank).isInfix

/-- Trimming leaves no blank in front. -/
theorem isBlank_of_head_trimmed (characters : List Char) {first : Char}
    (starts : (trimmed characters).head? = some first) :
    isBlank first = false := by
  obtain ⟨behind, parts⟩ := dropTrailing_isPrefix isBlank (characters.dropWhile isBlank)
  obtain ⟨rest, whole⟩ := List.head?_eq_some_iff.mp starts
  rw [trimmed] at whole
  rw [whole, List.cons_append] at parts
  exact Pattern.run_stops (List.head?_eq_some_iff.mpr ⟨_, parts.symm⟩)

theorem dropWhile_of_head {drops : Char → Bool}
    (front : ∀ first ∈ characters.head?, drops first = false) :
    characters.dropWhile drops = characters := by
  cases characters with
  | nil => rfl
  | cons first rest => rw [List.dropWhile_cons_of_neg (Bool.eq_false_iff.mp (front first rfl))]

theorem trimmed_eq_self (front : ∀ first ∈ characters.head?, isBlank first = false)
    (back : ∀ last ∈ characters.getLast?, isBlank last = false) :
    trimmed characters = characters := by
  rw [trimmed, dropWhile_of_head front, dropTrailing, dropWhile_of_head, List.reverse_reverse]
  rwa [List.head?_reverse]

end Text

namespace Pattern

/-- A character that a text lexeme can have. -/
def IsTextLetter (character : Char) : Prop :=
  isLayout character = false ∧ punctuation? character = none ∧ character ≠ '\\' ∧ character ≠ '"'

instance : DecidablePred IsTextLetter :=
  fun _ => inferInstanceAs (Decidable (_ ∧ _))

theorem isTextLetter_of_all {characters : List Char}
    (all : (characters.all fun character => IsTextLetter character) = true) :
    ∀ character ∈ characters, IsTextLetter character := by
  simpa using all

/-- What a text token can have as its value. -/
structure IsWord (characters : List Char) : Prop where
  full : characters ≠ []
  letters : ∀ character ∈ characters, IsTextLetter character
  apart : ¬ ['/', '/'] <:+: characters

section Words

variable {first : Char} {rest behind characters : List Char}

theorem isTextCharacter_iff {character : Char} : isTextCharacter character rest = true ↔
    IsTextLetter character ∧ ¬(character = '/' ∧ rest.head? = some '/') := by
  simp only [isTextCharacter, IsTextLetter, Bool.and_eq_true, Bool.not_eq_true',
    Option.isNone_iff_eq_none, bne_iff_ne, Bool.and_eq_false_iff, beq_eq_false_iff_ne, not_and_or,
    and_assoc]

/-- A text lexeme ends before a pair of slashes. -/
theorem not_infix_textRun (characters : List Char) : ¬ ['/', '/'] <:+: textRun characters := by
  induction characters with
  | nil => simp [textRun]
  | cons character rest inductionHypothesis =>
      unfold textRun
      split
      · next goesOn =>
          rw [List.infix_cons_iff]
          rintro (starts | later)
          · obtain ⟨rfl, next⟩ := List.cons_prefix_cons.mp starts
            obtain ⟨behind, parts⟩ := next.trans (prefix_textRun rest)
            exact (isTextCharacter_iff.mp goesOn).2 ⟨rfl, by rw [← parts]; rfl⟩
          · exact inductionHypothesis later
      · simp

theorem isWord_of_isTextCharacter (goesOn : isTextCharacter first rest = true) :
    IsWord (first :: textRun rest) where
  full := List.cons_ne_nil _ _
  letters := List.forall_mem_cons.mpr
    ⟨isTextCharacter_plain goesOn, fun _ => plain_of_mem_textRun⟩
  apart := by
    have whole : textRun (first :: rest) = first :: textRun rest := if_pos goesOn
    exact whole ▸ not_infix_textRun (first :: rest)

/-- Nothing comes behind, or a character that ends a text. -/
def EndsWord (behind : List Char) : Prop :=
  ∀ next ∈ behind.head?, ¬IsTextLetter next

theorem EndsWord.of_cons (other : ¬IsTextLetter first) : EndsWord (first :: rest) := by
  rintro next ⟨⟩
  exact other

theorem isTextCharacter_of_apart (letter : IsTextLetter first)
    (apart : ¬ ['/', '/'] <:+: first :: rest) (ends : EndsWord behind) :
    isTextCharacter first (rest ++ behind) = true := by
  refine isTextCharacter_iff.mpr ⟨letter, ?_⟩
  rintro ⟨rfl, slash⟩
  cases rest with
  | nil => exact ends '/' slash (by decide)
  | cons next rest =>
      obtain rfl := Option.some.inj slash
      exact apart ⟨[], rest, rfl⟩

theorem textRun_eq (letters : ∀ character ∈ characters, IsTextLetter character)
    (apart : ¬ ['/', '/'] <:+: characters) (ends : EndsWord behind) :
    textRun (characters ++ behind) = characters := by
  induction characters with
  | nil =>
      cases behind with
      | nil => rfl
      | cons next behind =>
          exact if_neg fun goesOn => ends next rfl (isTextCharacter_iff.mp goesOn).1
  | cons character rest inductionHypothesis =>
      obtain ⟨letter, others⟩ := List.forall_mem_cons.mp letters
      rw [List.cons_append, textRun, if_pos (isTextCharacter_of_apart letter apart ends),
        inductionHypothesis others fun inside => apart (inside.trans (List.suffix_cons ..).isInfix)]

/-! ### Words in a source -/

/-- A word is read as one text, unless it begins a comment. -/
theorem IsWord.readLexeme {lineBlank : Bool} (isWord : IsWord (first :: rest))
    (ends : EndsWord behind) (visible : ¬(first = '#' ∧ lineBlank = true)) :
    readLexeme lineBlank first (rest ++ behind) =
      .ok ⟨first :: rest, some (.text, first :: rest)⟩ := by
  obtain ⟨letter, others⟩ := List.forall_mem_cons.mp isWord.letters
  have run : textRun (rest ++ behind) = rest :=
    textRun_eq others (fun inside => isWord.apart (inside.trans (List.suffix_cons ..).isInfix)) ends
  rw [Pattern.readLexeme, if_neg visible,
    if_pos (isTextCharacter_of_apart letter isWord.apart ends), run]

/-- What a source is read as is known from its first lexeme on. -/
theorem reads_iff {lineBlank : Bool} {lexeme : Lexeme} {lexemes : List Lexeme}
    (read : readLexeme lineBlank first rest = .ok lexeme)
    (parts : lexeme.spelling ++ behind = first :: rest) :
    Reads lineBlank (first :: rest) lexemes ↔ ∃ others, lexemes = lexeme :: others ∧
      Reads (lexeme.spelling.foldl lineBlankAfter lineBlank) behind others := by
  constructor
  · intro reads
    cases reads with
    | cons readFirst partsFirst others =>
        cases read.symm.trans readFirst
        obtain rfl := List.append_cancel_left (partsFirst.trans parts.symm)
        exact ⟨_, rfl, others⟩
  · rintro ⟨others, rfl, readsOthers⟩
    exact .cons read parts readsOthers

/-- The lexeme of a word. -/
def wordLexeme (word : List Char) : Lexeme :=
  ⟨word, some (.text, word)⟩

theorem IsWord.reads_iff {word : List Char} {lineBlank : Bool} {lexemes : List Lexeme}
    (isWord : IsWord word) (ends : EndsWord behind) (visible : word.head? ≠ some '#') :
    Reads lineBlank (word ++ behind) lexemes ↔ ∃ others, lexemes = wordLexeme word :: others ∧
      Reads (word.foldl lineBlankAfter lineBlank) behind others := by
  obtain ⟨first, rest, rfl⟩ := List.exists_cons_of_ne_nil isWord.full
  have other : ¬(first = '#' ∧ lineBlank = true) :=
    fun comment => visible (congrArg some comment.1)
  exact Pattern.reads_iff (isWord.readLexeme ends other) rfl

/-- A punctuation character is a token of its own, except that two colons are one. -/
theorem readLexeme_sign {lineBlank : Bool} {sign : Char} {kind : TokenKind}
    (known : punctuation? sign = some kind) (single : sign ≠ ':' ∨ behind.head? ≠ some ':') :
    readLexeme lineBlank sign behind = .ok ⟨[sign], some (kind, [sign])⟩ := by
  have other (character : Char) (plain : punctuation? character = none) : sign ≠ character := by
    rintro rfl
    cases plain.symm.trans known
  have visible : ¬isLayout sign = true := by
    intro isSpace
    obtain rfl | rfl | rfl | rfl := eq_of_isLayout isSpace <;> cases known
  have noText : ¬isTextCharacter sign behind = true := by simp [isTextCharacter, known]
  rw [readLexeme, if_neg fun comment => other '#' rfl comment.1, if_neg noText, if_neg visible,
    if_neg (other '\\' rfl), if_neg (other '"' rfl), if_neg (other '/' rfl),
    if_neg fun colons => single.elim (absurd colons.1) (absurd colons.2), known]
  rfl

/-- The lexeme of a punctuation character. -/
def signLexeme (kind : TokenKind) (sign : Char) : Lexeme :=
  ⟨[sign], some (kind, [sign])⟩

theorem reads_sign_iff {lineBlank : Bool} {sign : Char} (kind : TokenKind) {lexemes : List Lexeme}
    (known : punctuation? sign = some kind) (single : sign ≠ ':' ∨ behind.head? ≠ some ':') :
    Reads lineBlank (sign :: behind) lexemes ↔ ∃ others,
      lexemes = signLexeme kind sign :: others ∧
        Reads (lineBlankAfter lineBlank sign) behind others :=
  reads_iff (readLexeme_sign known single) rfl

/-- A source that is read as lexemes whether or not the line is blank so far. -/
def ReadsAnywhere (source : List Char) (lexemes : List Lexeme) : Prop :=
  ∀ lineBlank, Reads lineBlank source lexemes

namespace ReadsAnywhere

variable {others : List Lexeme}

theorem nil : ReadsAnywhere [] [] :=
  fun _ => .nil

theorem word {word : List Char} (isWord : IsWord word) (ends : EndsWord behind)
    (visible : word.head? ≠ some '#') (reads : ReadsAnywhere behind others) :
    ReadsAnywhere (word ++ behind) (wordLexeme word :: others) :=
  fun _ => (isWord.reads_iff ends visible).mpr ⟨others, rfl, reads _⟩

theorem sign {sign : Char} {kind : TokenKind} (known : punctuation? sign = some kind)
    (other : sign ≠ ':') (reads : ReadsAnywhere behind others) :
    ReadsAnywhere (sign :: behind) (signLexeme kind sign :: others) :=
  fun _ => (reads_sign_iff _ known (.inl other)).mpr ⟨others, rfl, reads _⟩

theorem colon (single : behind.head? ≠ some ':') (reads : ReadsAnywhere behind others) :
    ReadsAnywhere (':' :: behind) (signLexeme .colon ':' :: others) :=
  fun _ => (reads_sign_iff _ rfl (.inr single)).mpr ⟨others, rfl, reads _⟩

end ReadsAnywhere

theorem EndsWord.of_sign {sign : Char} (kind : TokenKind) (known : punctuation? sign = some kind) :
    EndsWord (sign :: behind) := by
  rintro next ⟨⟩ ⟨-, plain, -⟩
  cases plain.symm.trans known

theorem exists_read {lineBlank : Bool} {source : List Char} {lexemes : List Lexeme}
    {lexeme : Lexeme} (reads : Reads lineBlank source lexemes) (among : lexeme ∈ lexemes) :
    ∃ (blank : Bool) (first : Char) (rest : List Char),
      readLexeme blank first rest = .ok lexeme := by
  induction reads with
  | nil => cases among
  | cons read parts others inductionHypothesis =>
      rcases List.mem_cons.mp among with rfl | later
      · exact ⟨_, _, _, read⟩
      · exact inductionHypothesis later

/-- The tokens of a source are those of its lexemes. -/
theorem exists_reads_of_tokenize {source : String} {tokens : List Token}
    (lexes : tokenize source = .ok tokens) :
    ∃ lexemes, Reads true source.toList lexemes ∧
      tokens.map Token.content = lexemes.filterMap Lexeme.token? := by
  have read : tokensFrom (placeBehind []) (isLineBlank []) source.toList = .ok tokens := lexes
  obtain ⟨lexemes, reads, -⟩ := exists_reads read
  obtain ⟨same, lexed, contents⟩ := reads.tokensFrom .start
  cases lexes.symm.trans lexed
  exact ⟨lexemes, reads, contents⟩

/-- A source that is read as lexemes lexes. -/
theorem exists_tokenize_of_reads {source : String} {lexemes : List Lexeme}
    (reads : Reads true source.toList lexemes) :
    ∃ tokens, tokenize source = .ok tokens ∧
      tokens.map Token.content = lexemes.filterMap Lexeme.token? :=
  reads.tokensFrom .start

theorem punctuation?_ne_text (character : Char) : punctuation? character ≠ some .text := by
  unfold punctuation?
  split <;> nofun

/-- Only words are read as texts. -/
theorem isWord_of_readLexeme {lineBlank : Bool} {spelling value : List Char}
    (read : readLexeme lineBlank first rest = .ok ⟨spelling, some (.text, value)⟩) :
    IsWord value := by
  -- Texts come from the second way to read a lexeme. The others make gaps or tokens of other kinds.
  unfold readLexeme at read
  split at read
  · cases read
  split at read
  · next goesOn =>
      cases read
      exact isWord_of_isTextCharacter goesOn
  split at read
  · dsimp only at read
    split at read <;> cases read
  split at read
  · obtain ⟨_, -, same⟩ := Machine.map_eq_ok.mp read
    cases same
  split at read
  · obtain ⟨_, -, same⟩ := Machine.map_eq_ok.mp read
    cases same
  split at read
  · obtain ⟨_, -, same⟩ := Machine.map_eq_ok.mp read
    cases same
  split at read
  · cases read
  · simp only [Except.ok.injEq, Lexeme.mk.injEq, Option.map_eq_some_iff, Prod.mk.injEq] at read
    obtain ⟨-, kind, known, isText, -⟩ := read
    exact absurd (isText ▸ known) (punctuation?_ne_text first)

/-- The text tokens of a source are words. -/
theorem isWord_of_tokenize {source : String} {tokens : List Token}
    (lexes : tokenize source = .ok tokens) {token : Token} (member : token ∈ tokens)
    (isText : token.kind = .text) : IsWord token.value.toList := by
  obtain ⟨lexemes, reads, contents⟩ := exists_reads_of_tokenize lexes
  have among : token.content ∈ lexemes.filterMap Lexeme.token? :=
    contents ▸ List.mem_map_of_mem member
  obtain ⟨⟨spelling, token?⟩, inside, found⟩ := List.mem_filterMap.mp among
  obtain ⟨blank, first, rest, read⟩ := exists_read reads inside
  obtain rfl : token? = some (.text, token.value.toList) := by
    rw [← isText]
    exact found
  exact isWord_of_readLexeme read

/-! ### Names -/

/-- A name is not empty, begins as names do, and goes on as names do. -/
theorem letters_of_isName {name : String} (valid : isName name = true) :
    ∃ first rest, name.toList = first :: rest ∧ isNameStart first = true ∧
      ∀ character ∈ name.toList, isNameCharacter character = true := by
  unfold isName at valid
  split at valid
  · cases valid
  · next first rest same =>
      obtain ⟨starts, others⟩ := Bool.and_eq_true_iff.mp valid
      have continues : isNameCharacter first = true := by
        simp only [isNameStart, isNameCharacter, Bool.or_eq_true] at starts ⊢
        exact .inl (starts.imp_left .inl)
      refine ⟨first, rest, same, starts, ?_⟩
      rw [same, List.forall_mem_cons]
      exact ⟨continues, List.all_eq_true.mp others⟩

/-- Of the characters of names, only the hyphen is punctuation. -/
theorem isTextLetter_of_isNameCharacter {character : Char}
    (named : isNameCharacter character = true) (other : character ≠ '-') :
    IsTextLetter character := by
  refine ⟨?_, ?_, ?_, ?_⟩
  · by_contra isSpace
    obtain rfl | rfl | rfl | rfl := eq_of_isLayout (Bool.not_eq_false _ ▸ isSpace) <;> cases named
  · by_contra known
    obtain ⟨kind, known⟩ := Option.ne_none_iff_exists'.mp known
    unfold punctuation? at known
    split at known
    -- No sign but the hyphen is a character of names.
    all_goals first | exact other rfl | cases named | cases known
  · rintro rfl
    cases named
  · rintro rfl
    cases named

/-- A name without hyphens is a word. -/
theorem isWord_of_isName {name : String} (valid : isName name = true) (solid : '-' ∉ name.toList) :
    IsWord name.toList := by
  obtain ⟨first, rest, same, -, characters⟩ := letters_of_isName valid
  refine ⟨by simp [same], ?_, ?_⟩
  · intro character member
    apply isTextLetter_of_isNameCharacter (characters character member)
    rintro rfl
    exact solid member
  · intro slashes
    exact absurd (characters '/' (slashes.subset List.mem_cons_self)) (by decide)

theorem isBlank_of_isNameCharacter {character : Char} (named : isNameCharacter character = true) :
    Text.isBlank character = false := by
  have bounds (low high : Char) (inside : (decide (low ≤ character) &&
      decide (character ≤ high)) = true) :
      low.toNat ≤ character.toNat ∧ character.toNat ≤ high.toNat := by
    obtain ⟨above, below⟩ := Bool.and_eq_true_iff.mp inside
    exact ⟨of_decide_eq_true above, of_decide_eq_true below⟩
  have visible : ' '.toNat < character.toNat ∧ character.toNat ≤ '~'.toNat := by
    simp only [isNameCharacter, Text.isAsciiLetter, Text.isAsciiLower, Text.isAsciiUpper,
      Text.isAsciiDigit, Bool.or_eq_true, beq_iff_eq] at named
    rcases named with (((lower | upper) | digit) | rfl) | rfl
    · exact (bounds _ _ lower).imp (Nat.lt_of_lt_of_le (by decide)) (Nat.le_trans · (by decide))
    · exact (bounds _ _ upper).imp (Nat.lt_of_lt_of_le (by decide)) (Nat.le_trans · (by decide))
    · exact (bounds _ _ digit).imp (Nat.lt_of_lt_of_le (by decide)) (Nat.le_trans · (by decide))
    · decide
    · decide
  obtain ⟨above, below⟩ : 32 < character.toNat ∧ character.toNat ≤ 126 := visible
  simp [Text.isBlank]
  omega

/-- A name has no blanks around it. -/
theorem trim_of_isName {name : String} (valid : isName name = true) : Text.trim name = name := by
  obtain ⟨-, -, -, -, characters⟩ := letters_of_isName valid
  rw [Text.trim, Text.trimmed_eq_self, String.ofList_toList]
  · intro first starts
    exact isBlank_of_isNameCharacter (characters first (List.mem_of_mem_head? starts))
  · intro last ends
    exact isBlank_of_isNameCharacter (characters last (List.mem_of_mem_getLast? ends))

end Words

end Pattern

end SeededText
