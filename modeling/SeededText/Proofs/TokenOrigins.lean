import SeededText.Proofs.BrokenLexemes
import SeededText.Proofs.Rereading

/-!
Contract: what the tokens of a source were read from.

Every token comes from one lexeme, which was read at the place of the token when everything before
it had been read. An escape token was read from a backslash, and a regex token from two slashes; no
other lexemes give tokens of these kinds.

Owns: the lexeme of a token, the lexemes that escapes and regexes come from.
Does not own: what the values of these tokens hold (`SeededText.Proofs.RegexLiterals`,
`SeededText.Proofs.EscapeValues`).
-/

namespace SeededText.Pattern

open Machine (map_eq_ok)

section Origins

variable {source front rest value : List Char} {first : Char} {lineBlank : Bool} {lexeme : Lexeme}
  {kind : TokenKind} {token : Token}

/-- The token was read at its place, as the lexeme that begins there with `first`. -/
structure IsReadAt (source : List Char) (token : Token) (front : List Char) (first : Char)
    (rest : List Char) (lexeme : Lexeme) : Prop where
  reached : ReadsUpTo source front (first :: rest)
  read : readLexeme (isLineBlank front) first rest = .ok lexeme
  content : lexeme.token? = some token.content
  place : token.position = placeBehind front

/-- The token of a placed lexeme, if it has one. -/
theorem token?_piece_eq_some (made : (lexeme.piece (placeBehind front)).token? = some token) :
    lexeme.token? = some token.content ∧ token.position = placeBehind front := by
  rw [token?_piece, Option.map_eq_some_iff] at made
  obtain ⟨⟨kind, value⟩, found, rfl⟩ := made
  exact ⟨by rw [found, Token.content, String.toList_ofList], rfl⟩

/-- Each token of the lexemes from a place on was read from one of them. -/
theorem Reads.exists_isReadAt {lexemes : List Lexeme}
    (reads : Reads (isLineBlank front) rest lexemes) (reached : ReadsUpTo source front rest)
    (member : token ∈ (placed front lexemes).filterMap Piece.token?) :
    ∃ before first behind lexeme, IsReadAt source token before first behind lexeme := by
  generalize blank : isLineBlank front = lineBlank at reads
  induction reads generalizing front with
  | nil => cases member
  | @cons _ first rest behind lexeme lexemes read parts others inductionHypothesis =>
      subst blank
      rw [placed, List.filterMap_cons] at member
      have further := inductionHypothesis (reached.next read parts)
      cases made : (lexeme.piece (placeBehind front)).token? with
      | none =>
          rw [made] at member
          exact further member (foldl_lineBlankAfter front lexeme.spelling).symm
      | some found =>
          rw [made] at member
          rcases List.mem_cons.mp member with rfl | later
          · obtain ⟨content, place⟩ := token?_piece_eq_some made
            exact ⟨front, first, rest, lexeme, reached, read, content, place⟩
          · exact further later (foldl_lineBlankAfter front lexeme.spelling).symm

theorem exists_isReadAt {source : String} {tokens : List Token}
    (lexes : tokenize source = .ok tokens) (member : token ∈ tokens) :
    ∃ front first rest lexeme, IsReadAt source.toList token front first rest lexeme := by
  have read : tokensFrom (placeBehind []) (isLineBlank []) source.toList = .ok tokens := lexes
  obtain ⟨lexemes, reads, rfl⟩ := exists_reads read
  exact reads.exists_isReadAt .start member

theorem punctuation?_ne_literal {kind : TokenKind} (known : punctuation? first = some kind) :
    kind ≠ .escape ∧ kind ≠ .regex := by
  unfold punctuation? at known
  split at known
  all_goals cases known <;> decide

/-- Escapes are read behind a backslash, and regexes behind two slashes. -/
theorem literal_of_readLexeme (read : readLexeme lineBlank first rest = .ok lexeme)
    (made : lexeme.token? = some (kind, value)) :
    (kind = .escape → first = '\\' ∧ readEscape rest = .ok value) ∧
      (kind = .regex → first = '/' ∧ ∃ others, rest = '/' :: others ∧
        readRegex others = .ok value) := by
  unfold readLexeme at read
  split at read
  · cases read
    cases made
  split at read
  · cases read
    cases made
    exact ⟨nofun, nofun⟩
  next noText =>
  split at read
  · cases read
    dsimp only at made
    split at made
    · cases made
    · cases made
      exact ⟨nofun, nofun⟩
  split at read
  · next isEscape =>
      obtain ⟨found, readValue, rfl⟩ := map_eq_ok.mp read
      cases made
      exact ⟨fun _ => ⟨isEscape, readValue⟩, nofun⟩
  split at read
  · obtain ⟨found, readValue, rfl⟩ := map_eq_ok.mp read
    cases made
    exact ⟨nofun, nofun⟩
  split at read
  · next isSlash =>
      subst isSlash
      obtain ⟨found, readValue, rfl⟩ := map_eq_ok.mp read
      obtain ⟨others, rfl⟩ := slash_of_not_text noText
      cases made
      exact ⟨nofun, fun _ => ⟨rfl, others, rfl, readValue⟩⟩
  split at read
  · cases read
    cases made
    exact ⟨nofun, nofun⟩
  · cases read
    obtain ⟨found, known, same⟩ := Option.map_eq_some_iff.mp made
    cases same
    obtain ⟨noEscape, noRegex⟩ := punctuation?_ne_literal known
    exact ⟨fun isEscape => absurd isEscape noEscape, fun isRegex => absurd isRegex noRegex⟩

/-- The value of an escape token is what was read behind its backslash. -/
theorem exists_readEscape_of_mem {source : String} {tokens : List Token}
    (lexes : tokenize source = .ok tokens) (member : token ∈ tokens)
    (isEscape : token.kind = .escape) :
    ∃ front rest, ReadsUpTo source.toList front ('\\' :: rest) ∧
      token.position = placeBehind front ∧ readEscape rest = .ok token.value.toList := by
  obtain ⟨front, first, rest, lexeme, reached, read, content, place⟩ :=
    exists_isReadAt lexes member
  obtain ⟨rfl, readValue⟩ := (literal_of_readLexeme read content).1 isEscape
  exact ⟨front, rest, reached, place, readValue⟩

/-- The value of a regex token is what was read behind its opening slashes. -/
theorem exists_readRegex_of_mem {source : String} {tokens : List Token}
    (lexes : tokenize source = .ok tokens) (member : token ∈ tokens)
    (isRegex : token.kind = .regex) :
    ∃ front rest, ReadsUpTo source.toList front ('/' :: '/' :: rest) ∧
      token.position = placeBehind front ∧ readRegex rest = .ok token.value.toList := by
  obtain ⟨front, first, rest, lexeme, reached, read, content, place⟩ :=
    exists_isReadAt lexes member
  obtain ⟨rfl, others, rfl, readValue⟩ := (literal_of_readLexeme read content).2 isRegex
  exact ⟨front, others, reached, place, readValue⟩

end Origins

end SeededText.Pattern
