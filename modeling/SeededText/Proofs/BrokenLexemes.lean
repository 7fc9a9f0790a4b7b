import SeededText.Proofs.Lexemes

/-!
Contract: where a source does not lex.

Lexemes are read one behind the other. The first that cannot be read is an escape, a constant or a
regex, and the problem is reported at the place where it starts.

Owns: the start of a source that has been read, the lexeme behind it that is broken.
Does not own: sources that lex (`SeededText.Proofs.Lexemes`).
-/

namespace SeededText.Pattern

open Machine (map_eq_ok map_eq_error bind_eq_ok)

/-- The front of a source consists of lexemes, read one behind the other. -/
inductive ReadsUpTo (source : List Char) : List Char → List Char → Prop
  | start : ReadsUpTo source [] source
  | next {front rest behind : List Char} {first : Char} {lexeme : Lexeme}
      (reads : ReadsUpTo source front (first :: rest))
      (read : readLexeme (isLineBlank front) first rest = .ok lexeme)
      (parts : lexeme.spelling ++ behind = first :: rest) :
      ReadsUpTo source (front ++ lexeme.spelling) behind

/-- An escape or a literal starts here that cannot be read. -/
inductive IsBroken : List Char → LexProblem → Prop
  | escape {rest : List Char} {problem : LexProblem} (broken : readEscape rest = .error problem) :
      IsBroken ('\\' :: rest) problem
  | constant {rest : List Char} {problem : LexProblem}
      (broken : readConstant rest = .error problem) : IsBroken ('"' :: rest) problem
  | regex {rest : List Char} {problem : LexProblem} (broken : readRegex rest = .error problem) :
      IsBroken ('/' :: '/' :: rest) problem

/-- The source is cut into lexemes up to a place where one is broken. -/
def BreaksAt (source : String) (located : Located LexProblem) : Prop :=
  ∃ front rest, source.toList = front ++ rest ∧ ReadsUpTo source.toList front rest ∧
    IsBroken rest located.problem ∧ located.position = placeBehind front

theorem ReadsUpTo.parts {source front rest : List Char} (reads : ReadsUpTo source front rest) :
    source = front ++ rest := by
  induction reads with
  | start => rfl
  | next _ _ parts inductionHypothesis =>
      rw [inductionHypothesis, ← parts, List.append_assoc]

/-- Only escapes and literals can be broken. -/
theorem isBroken_of_readLexeme {rest : List Char} {first : Char} {lineBlank : Bool}
    {problem : LexProblem} (failed : readLexeme lineBlank first rest = .error problem) :
    IsBroken (first :: rest) problem := by
  unfold readLexeme at failed
  split at failed
  · cases failed
  split at failed
  · cases failed
  next noText =>
  split at failed
  · cases failed
  split at failed
  · next isEscape =>
      subst isEscape
      exact .escape (map_eq_error.mp failed)
  split at failed
  · next isQuote =>
      subst isQuote
      exact .constant (map_eq_error.mp failed)
  split at failed
  · next isSlash =>
      subst isSlash
      obtain ⟨others, rfl⟩ := slash_of_not_text noText
      exact .regex (map_eq_error.mp failed)
  split at failed
  · cases failed
  · cases failed

/-- Reading goes on behind each lexeme, until one is broken. -/
theorem breaks_of_tokensFrom {source front rest : List Char} {located : Located LexProblem}
    (reads : ReadsUpTo source front rest)
    (failed : tokensFrom (placeBehind front) (isLineBlank front) rest = .error located) :
    ∃ before behind, source = before ++ behind ∧ ReadsUpTo source before behind ∧
      IsBroken behind located.problem ∧ located.position = placeBehind before := by
  cases rest with
  | nil =>
      rw [tokensFrom] at failed
      cases failed
  | cons first rest =>
      rw [tokensFrom] at failed
      split at failed
      · next problem broken =>
          cases failed
          exact ⟨front, _, reads.parts, reads, isBroken_of_readLexeme broken, rfl⟩
      · next lexeme read =>
          obtain ⟨behind, parts, fits⟩ := fits_of_readLexeme read
          rw [drop_of_append fits.full parts, after_placeBehind, foldl_lineBlankAfter] at failed
          have shorter : behind.length < (first :: rest).length := by
            have := List.length_pos_iff.mpr fits.full
            rw [← parts, List.length_append]
            omega
          refine breaks_of_tokensFrom (reads.next read parts) ?_
          cases others : tokensFrom (placeBehind (front ++ lexeme.spelling))
              (isLineBlank (front ++ lexeme.spelling)) behind with
          | error found =>
              rw [others] at failed
              cases failed
              rfl
          | ok tokens =>
              rw [others] at failed
              simp only [bind, Except.bind] at failed
              split at failed <;> cases failed
termination_by rest.length

/-- A source that does not lex is broken at the place that is reported. -/
theorem breaksAt_of_tokenize {source : String} {located : Located LexProblem}
    (failed : tokenize source = .error located) : BreaksAt source located :=
  breaks_of_tokensFrom .start failed

end SeededText.Pattern
