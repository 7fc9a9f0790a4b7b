import SeededText.Proofs.CompleteLookups
import SeededText.Proofs.QueryReading
import SeededText.Proofs.Words

/-!
Contract: which tables queries can reach by name, and which names the linter reports.

The name of a table is what stands before the first point of a word, without blanks in front. The
linter asks for a name as macros have it. That is another set: names such as `2fast` are reported
and can be written, and a name with a hyphen is not reported although the hyphen is a token of its
own wherever it is written.

Owns: reached names, names that can be written, the linter's report on names.
Does not own: words (`SeededText.Proofs.Words`), the rest of what the linter finds
(`SeededText.Proofs.CompleteLookups`).
-/

namespace SeededText.Vocabulary

open Pattern Text

/-- A source is read, without a problem, as a look-up in the table of this name. -/
def IsReached (name : String) : Prop :=
  ∃ (source : String) (tokens : List Token) (stop : Position) (query : Query),
    tokenize source = .ok tokens ∧ parseQuery tokens stop = ⟨.lookup query, []⟩ ∧
      query.table = name

/-- A name that may stand before the point of a word, with any blanks in front of it. -/
structure IsWritable (name : List Char) : Prop where
  letters : ∀ character ∈ name, IsTextLetter character
  apart : ¬ ['/', '/'] <:+: name
  whole : '.' ∉ name
  begins : ∀ first ∈ name.head?, isBlank first = false

section Reach

variable {name : List Char}

/-! ### Written names -/

/-- A word that asks for a table of any name: the vertical tab in front is a blank that keeps a
number sign from beginning a comment, and the form behind keeps blanks at the end of the name. -/
def askingWord (name : List Char) : List Char :=
  '\x0b' :: (name ++ ['.', 'x'])

theorem not_infix_append_form (apart : ¬ ['/', '/'] <:+: name) :
    ¬ ['/', '/'] <:+: name ++ ['.', 'x'] := by
  induction name with
  | nil => decide
  | cons first rest inductionHypothesis =>
      have others := inductionHypothesis fun inside => apart (List.infix_cons inside)
      rw [List.cons_append, List.infix_cons_iff]
      rintro (starts | later)
      · obtain ⟨rfl, next⟩ := List.cons_prefix_cons.mp starts
        cases rest with
        | nil => exact absurd next (by decide)
        | cons second rest =>
            obtain ⟨rfl, -⟩ := List.cons_prefix_cons.mp next
            exact apart ⟨[], rest, rfl⟩
      · exact others later

theorem IsWritable.isWord (writable : IsWritable name) : IsWord (askingWord name) where
  full := List.cons_ne_nil _ _
  letters := by
    rw [askingWord, List.forall_mem_cons, List.forall_mem_append]
    exact ⟨by decide, writable.letters, isTextLetter_of_all (by decide)⟩
  apart := by
    rw [askingWord, List.infix_cons_iff]
    rintro (starts | later)
    · exact absurd (List.cons_prefix_cons.mp starts).1 (by decide)
    · exact not_infix_append_form writable.apart later

/-- Only the tab in front is trimmed. -/
theorem IsWritable.trimmed_askingWord (writable : IsWritable name) :
    trimmed (askingWord name) = name ++ ['.', 'x'] := by
  have front : (askingWord name).dropWhile isBlank = (name ++ ['.', 'x']).dropWhile isBlank := rfl
  have whole : trimmed (askingWord name) = trimmed (name ++ ['.', 'x']) := by
    rw [trimmed, trimmed, front]
  rw [whole]
  apply trimmed_eq_self
  · intro first starts
    rw [List.head?_append] at starts
    cases found : name.head? with
    | none =>
        rw [found] at starts
        cases starts
        rfl
    | some character =>
        rw [found] at starts
        cases starts
        exact writable.begins first found
  · intro last ends
    have x : (name ++ ['.', 'x']).getLast? = some 'x' := by simp
    rw [x] at ends
    cases ends
    rfl

/-- A word on its own is a single token. -/
theorem exists_tokenize_word {word : List Char} (isWord : IsWord word)
    (visible : word.head? ≠ some '#') :
    ∃ token : Token, tokenize (String.ofList word) = .ok [token] ∧ token.kind = .text ∧
      token.value.toList = word := by
  have ends : EndsWord [] := nofun
  have alone : Reads true (word ++ []) [wordLexeme word] :=
    (isWord.reads_iff ends visible).mpr ⟨[], rfl, .nil⟩
  have reads : Reads true (String.ofList word).toList [wordLexeme word] := by simpa using alone
  obtain ⟨tokens, lexes, contents⟩ := exists_tokenize_of_reads reads
  obtain ⟨token, rfl, content⟩ := List.map_eq_singleton_iff.mp contents
  exact ⟨token, lexes, congrArg Prod.fst content, congrArg Prod.snd content⟩

theorem IsWritable.isReached (writable : IsWritable name) : IsReached (String.ofList name) := by
  obtain ⟨token, lexes, isText, value⟩ :=
    exists_tokenize_word writable.isWord (show some '\x0b' ≠ some '#' by decide)
  have names : Grammar.TableName (trimmed token.value.toList) (String.ofList name)
      (some (String.ofList ['x'])) := by
    rw [value, writable.trimmed_askingWord]
    exact .withSubtype writable.whole
  have asks : Grammar.Form [token] _ :=
    .lookup (.query (.single isText) names .unmarked .nil .nothing) .nil
  exact ⟨_, _, .start, _, lexes, Grammar.parseQuery_form asks, rfl⟩

/-! ### Reached names -/

/-- The table of a query is the front of a word. -/
theorem isWritable_of_tableName {word : List Char} {table : String} {subtype? : Option String}
    (isWord : IsWord word) (names : Grammar.TableName (trimmed word) table subtype?) :
    IsWritable table.toList := by
  have front : table.toList <+: trimmed word ∧ '.' ∉ table.toList := by
    generalize trimmed word = written at names
    cases names with
    | plain whole => simpa using whole
    | withSubtype first => simpa using first
  obtain ⟨starts, whole⟩ := front
  have inside : table.toList <:+: word := starts.isInfix.trans (trimmed_isInfix word)
  refine ⟨fun character member => isWord.letters character (inside.subset member),
    fun slashes => isWord.apart (slashes.trans inside), whole, ?_⟩
  intro first found
  obtain ⟨rest, spelt⟩ := List.head?_eq_some_iff.mp found
  obtain ⟨behind, parts⟩ := starts
  apply isBlank_of_head_trimmed word
  rw [← parts, spelt]
  rfl

theorem Grammar.Terminal.mem {kind : TokenKind} {tokens : List Token} {token : Token}
    (terminal : Terminal kind tokens token) : token ∈ tokens := by
  cases terminal with
  | behind => simp

theorem isWritable_of_isReached {table : String} (reached : IsReached table) :
    IsWritable table.toList := by
  obtain ⟨source, tokens, stop, query, lexes, parses, rfl⟩ := reached
  -- What is read without a problem has a derivation, and there the name is a text token.
  have silent : (parseQuery tokens stop).diagnostics = [] := by rw [parses]
  obtain ⟨form, derived⟩ := Grammar.exists_form silent
  have same : parseQuery tokens stop = ⟨form, []⟩ := Grammar.parseQuery_form derived
  rw [parses] at same
  cases same
  cases derived with
  | lookup body spaced =>
      cases body with
      | query begins names exclusiveness filtered tied =>
          have isWord := isWord_of_tokenize lexes (by simp [begins.mem]) begins.kind_eq
          exact isWritable_of_tableName isWord names

/-- The names that queries reach are those that can be written. -/
theorem isReached_iff {table : String} : IsReached table ↔ IsWritable table.toList := by
  constructor
  · exact isWritable_of_isReached
  · intro writable
    simpa using writable.isReached

/-- A name as macros have it can be written unless it has a hyphen. -/
theorem isWritable_iff_of_isName {table : String} (valid : isName table = true) :
    IsWritable table.toList ↔ '-' ∉ table.toList := by
  obtain ⟨first, rest, spelt, -, characters⟩ := letters_of_isName valid
  constructor
  · intro writable hyphen
    exact absurd (writable.letters '-' hyphen) (by decide)
  · intro solid
    have isWord := isWord_of_isName valid solid
    refine ⟨isWord.letters, isWord.apart, ?_, ?_⟩
    · intro point
      exact absurd (characters '.' point) (by decide)
    · intro character starts
      exact isBlank_of_isNameCharacter (characters character (List.mem_of_mem_head? starts))

end Reach

/-! ### Reported names -/

namespace Dictionary

open Tools

variable {dictionary : Dictionary} {name : String} {table : WordTable}

theorem unreachableName_notMem_termCountErrors {expected index : Nat} {entries : List Entry}
    {reported : String} :
    .unreachableName reported ∉ termCountErrors name expected index entries := by
  induction entries generalizing index with
  | nil => exact List.not_mem_nil
  | cons entry entries inductionHypothesis =>
      rw [termCountErrors]
      dsimp only
      split
      · exact inductionHypothesis
      · simpa using inductionHypothesis

theorem unreachableName_mem_tableErrors_iff {reported : String} :
    .unreachableName reported ∈ tableErrors name table ↔
      reported = name ∧ isName name = false := by
  have contents : LintError.unreachableName reported ∉
      if table.entries.isEmpty then [LintError.emptyTable name]
      else termCountErrors name (max table.subtypes.length 1) 0 table.entries := by
    split
    · simp
    · exact unreachableName_notMem_termCountErrors
  rw [tableErrors, List.mem_append, or_iff_left contents]
  split <;> simp_all

theorem unreachableName_mem_iff (found : dictionary.table? name = some table) :
    .unreachableName name ∈ dictionaryErrors dictionary ↔ isName name = false := by
  rw [dictionaryErrors, List.mem_flatMap]
  constructor
  · rintro ⟨⟨other, otherTable⟩, -, reported⟩
    obtain ⟨rfl, invalid⟩ := unreachableName_mem_tableErrors_iff.mp reported
    exact invalid
  · intro invalid
    exact ⟨(name, table), mem_of_tableIn found,
      unreachableName_mem_tableErrors_iff.mpr ⟨rfl, invalid⟩⟩

/-- The linter reports the tables whose names are none that a macro could have. Queries reach the
tables whose names can be written; of those that are not reported, the ones without a hyphen. -/
theorem reported_names (found : dictionary.table? name = some table) :
    (.unreachableName name ∈ dictionaryErrors dictionary ↔ isName name = false) ∧
      (IsReached name ↔ IsWritable name.toList) ∧
      (.unreachableName name ∉ dictionaryErrors dictionary →
        (IsReached name ↔ '-' ∉ name.toList)) := by
  refine ⟨unreachableName_mem_iff found, isReached_iff, ?_⟩
  intro silent
  rw [unreachableName_mem_iff found, Bool.not_eq_false] at silent
  rw [isReached_iff, isWritable_iff_of_isName silent]

/-! ### Two names

The first is reported and can be asked for, the second is not reported and cannot. -/

namespace SwiftWords

def swift (name : String) : WordTable :=
  ⟨name, [], [WrittenEntry.toEntry ⟨["quick"], [], [], []⟩]⟩

def tables : Dictionary :=
  ofTables [("2fast", swift "2fast"), ("a-b", swift "a-b")]

theorem table?_fast : tables.table? "2fast" = some (swift "2fast") := by
  decide +kernel

theorem table?_hyphenated : tables.table? "a-b" = some (swift "a-b") := by
  decide +kernel

theorem reported_names_fast : tables.table? "2fast" = some (swift "2fast") ∧
    (.unreachableName "2fast" ∈ dictionaryErrors tables ↔ isName "2fast" = false) ∧
      (IsReached "2fast" ↔ IsWritable "2fast".toList) ∧
      (.unreachableName "2fast" ∉ dictionaryErrors tables →
        (IsReached "2fast" ↔ '-' ∉ "2fast".toList)) :=
  ⟨table?_fast, reported_names table?_fast⟩

theorem misreported :
    (tables.table? "2fast" = some (swift "2fast") ∧
      .unreachableName "2fast" ∈ dictionaryErrors tables ∧ IsReached "2fast") ∧
    tables.table? "a-b" = some (swift "a-b") ∧
      .unreachableName "a-b" ∉ dictionaryErrors tables ∧ ¬IsReached "a-b" := by
  have writable : IsWritable "2fast".toList := by
    refine ⟨isTextLetter_of_all (by decide), by decide, by decide, ?_⟩
    rintro first ⟨⟩
    rfl
  refine ⟨⟨table?_fast, (unreachableName_mem_iff table?_fast).mpr rfl, isReached_iff.mpr writable⟩,
    table?_hyphenated, ?_, ?_⟩
  · rw [unreachableName_mem_iff table?_hyphenated]
    decide
  · rw [isReached_iff, isWritable_iff_of_isName (by decide)]
    decide

end SwiftWords

end Dictionary

end SeededText.Vocabulary
