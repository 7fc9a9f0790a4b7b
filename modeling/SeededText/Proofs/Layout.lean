import SeededText.Proofs.Rereading

/-!
Contract: layout is invisible.

The tokens of a source are the same, apart from their places, when comment lines are put behind line
feeds that are layout, and white space that goes over a line feed is written in another way. In
front of a source, a comment line is invisible if it has the indentation that the source begins
with: behind its line feed this is layout, and the indentation stands for it.

Owns: that a source is cut in one way, sources that are laid out anew.
Does not own: lexemes before white space (`SeededText.Proofs.Rereading`).
-/

namespace SeededText.Pattern

/-! ### A source is cut in one way -/

section Unique

variable {before source behind otherBehind characters : List Char} {tokens : List Token}
  {token : Token} {piece : Piece} {pieces others : List Piece}

theorem TokenKind.Admits.value_ne_nil {value : List Char} {kind : TokenKind}
    (admits : kind.Admits value) (spelt : kind ≠ .constant) : value ≠ [] := by
  rintro rfl
  cases kind with
  | constant => exact spelt rfl
  | text | blank => exact admits.1 rfl
  | escape => exact admits rfl
  | regex => simp [Admits] at admits
  | doubleColon => cases admits
  | _ =>
      obtain ⟨character, same, -⟩ := admits
      cases same

theorem Piece.Stands.spelling_ne_nil (stands : piece.Stands before behind) :
    piece.spelling ≠ [] := by
  cases stands with
  | @lexeme token _ admits place =>
      obtain ⟨kind, value, position⟩ := token
      cases kind with
      | escape | constant | regex => exact List.cons_ne_nil _ _
      | _ => exact admits.value_ne_nil (by simp)
  | comment => exact List.cons_ne_nil _ _
  | layout allLayout breaksLine => exact List.ne_nil_of_mem breaksLine

theorem offset_lt_of_ne_nil (before : List Char) (full : characters ≠ []) :
    (placeBehind before).offset < (placeBehind (before ++ characters)).offset := by
  obtain ⟨first, rest, rfl⟩ := List.exists_cons_of_ne_nil full
  have positive := first.utf8Size_pos
  rw [← List.singleton_append]
  simp only [placeBehind, String.ofList_append, String.utf8ByteSize_append,
    ← String.singleton_eq_ofList, String.utf8ByteSize_singleton]
  omega

theorem offset_le (before characters : List Char) :
    (placeBehind before).offset ≤ (placeBehind (before ++ characters)).offset := by
  cases characters with
  | nil => rw [List.append_nil]
  | cons first rest => exact Nat.le_of_lt (offset_lt_of_ne_nil before (List.cons_ne_nil _ _))

namespace IsCutInto

theorem tail (cut : IsCutInto before source tokens (piece :: pieces)) :
    IsCutInto (before ++ piece.spelling) (pieces.flatMap Piece.spelling)
      (pieces.filterMap Piece.token?) pieces where
  spelling := rfl
  tokens := rfl
  stands front other behind same := by
    rw [List.append_assoc, ← List.flatMap_cons]
    exact cut.stands (piece :: front) other behind (congrArg (piece :: ·) same)

/-- Tokens stand behind what stands before the source. -/
theorem offset_le_of_mem (cut : IsCutInto before source tokens pieces) (member : token ∈ tokens) :
    (placeBehind before).offset ≤ token.position.offset := by
  rw [← cut.tokens, List.mem_filterMap] at member
  obtain ⟨piece, among, found⟩ := member
  obtain ⟨front, behind, rfl⟩ := List.append_of_mem among
  have stands := cut.stands front piece behind rfl
  cases stands with
  | lexeme admits place =>
      obtain rfl := Option.some.inj found
      rw [place]
      exact offset_le before _
  | comment | layout => cases found

/-- Where a token stands is no gap. -/
theorem not_gap (cut : IsCutInto before source tokens (.lexeme token :: pieces))
    (otherCut : IsCutInto before source tokens (.gap characters :: others)) : False := by
  have stands := otherCut.stands [] _ others rfl
  have full : characters ≠ [] := stands.spelling_ne_nil
  have later : token ∈ others.filterMap Piece.token? := by
    have sameTokens : token :: pieces.filterMap Piece.token? = others.filterMap Piece.token? :=
      cut.tokens.trans otherCut.tokens.symm
    rw [← sameTokens]
    exact List.mem_cons_self
  have place : token.position = placeBehind before := by
    cases cut.stands [] _ pieces rfl with
    | lexeme admits place => simpa using place
  have behindGap := otherCut.tail.offset_le_of_mem later
  rw [place] at behindGap
  have beforeGap := offset_lt_of_ne_nil before full
  exact Nat.not_lt_of_le behindGap beforeGap

end IsCutInto

theorem sign_ne_layout {text : List Char}
    (allLayout : ∀ character ∈ characters, isLayout character = true)
    (breaksLine : '\n' ∈ characters) : '#' :: text ≠ characters ++ behind := by
  intro same
  obtain ⟨first, rest, rfl⟩ := List.exists_cons_of_ne_nil (List.ne_nil_of_mem breaksLine)
  obtain rfl := (List.cons.inj same).1
  cases allLayout '#' List.mem_cons_self

/-- Two gaps at one place are the same. -/
theorem gap_unique {other : List Char} (stands : Piece.Stands before (.gap characters) behind)
    (otherStands : Piece.Stands before (.gap other) otherBehind)
    (same : characters ++ behind = other ++ otherBehind) : characters = other := by
  cases stands with
  | @comment text _ startsLine oneLine ends =>
      cases otherStands with
      | @comment otherText _ otherStartsLine otherOneLine otherEnds =>
          have sameText := (List.cons.inj same).2
          have run := takeWhile_line oneLine ends
          have otherRun := takeWhile_line otherOneLine otherEnds
          rw [← run, ← otherRun]
          exact congrArg ('#' :: List.takeWhile _ ·) sameText
      | layout allLayout breaksLine => exact absurd same (sign_ne_layout allLayout breaksLine)
  | layout allLayout breaksLine ends =>
      cases otherStands with
      | comment => exact absurd same.symm (sign_ne_layout allLayout breaksLine)
      | layout otherAllLayout otherBreaksLine otherEnds =>
          have run := takeWhile_run allLayout ends
          have otherRun := takeWhile_run otherAllLayout otherEnds
          rw [← run, ← otherRun, same]

/-- The tokens of a source tell how it is cut. -/
theorem IsCutInto.unique (cut : IsCutInto before source tokens pieces)
    (otherCut : IsCutInto before source tokens others) : pieces = others := by
  induction pieces generalizing before source tokens others with
  | nil =>
      cases others with
      | nil => rfl
      | cons other others =>
          have full := (otherCut.stands [] other others rfl).spelling_ne_nil
          have none := cut.spelling.trans otherCut.spelling.symm
          exact absurd (List.append_eq_nil_iff.mp none.symm).1 full
  | cons piece pieces inductionHypothesis =>
      cases others with
      | nil =>
          have full := (cut.stands [] piece pieces rfl).spelling_ne_nil
          have none := otherCut.spelling.trans cut.spelling.symm
          exact absurd (List.append_eq_nil_iff.mp none.symm).1 full
      | cons other others =>
          have sameSource := cut.spelling.trans otherCut.spelling.symm
          have sameTokens := cut.tokens.trans otherCut.tokens.symm
          have same : piece = other := by
            cases piece with
            | lexeme token =>
                cases other with
                | lexeme otherToken => exact congrArg Piece.lexeme (List.cons.inj sameTokens).1
                | gap characters => exact (cut.not_gap otherCut).elim
            | gap characters =>
                cases other with
                | lexeme otherToken => exact (otherCut.not_gap cut).elim
                | gap other =>
                    have stands := cut.stands [] _ pieces rfl
                    have otherStands := otherCut.stands [] _ others rfl
                    exact congrArg Piece.gap (gap_unique stands otherStands sameSource)
          subst same
          have tailSource : pieces.flatMap Piece.spelling = others.flatMap Piece.spelling :=
            List.append_cancel_left sameSource
          have tailTokens : pieces.filterMap Piece.token? = others.filterMap Piece.token? := by
            rw [List.filterMap_cons, List.filterMap_cons] at sameTokens
            cases found : piece.token? with
            | none => simpa [found] using sameTokens
            | some token => simpa [found] using sameTokens
          have tail := cut.tail
          rw [tailSource, tailTokens] at tail
          rw [inductionHypothesis tail otherCut.tail]

end Unique

/-! ### Sources laid out anew -/

def TokenKind.isLiteral : TokenKind → Bool
  | .escape | .constant | .regex => true
  | _ => false

/-- Pieces in which a line feed stands for itself: literals, and escapes. -/
def Piece.isLiteral : Piece → Bool
  | .lexeme token => token.kind.isLiteral
  | .gap _ => false

/-- A line with nothing but a comment. -/
def commentLine (indentation text : List Char) : List Char :=
  indentation ++ '#' :: (text ++ ['\n'])

theorem commentLine_append (indentation text behind : List Char) :
    commentLine indentation text ++ behind = indentation ++ '#' :: (text ++ '\n' :: behind) := by
  simp [commentLine]

/-- The white space that a source begins with, unless it goes over a line feed. -/
def leadingBlank (source : List Char) : List Char :=
  let run := source.takeWhile isLayout
  if run.contains '\n' then [] else run

/-- A source, given by its pieces, with a comment line put in or white space written in another
way. -/
inductive Relaid : List Piece → List Char → Prop
  /-- A comment line right behind a line feed. -/
  | commentBehind {front behind : List Piece} {piece : Piece}
      {before after indentation text : List Char}
      (spelling : piece.spelling = before ++ '\n' :: after) (notLiteral : piece.isLiteral = false)
      (indents : ∀ character ∈ indentation, character = ' ' ∨ character = '\t')
      (oneLine : '\n' ∉ text) :
      Relaid (front ++ piece :: behind)
        (front.flatMap Piece.spelling ++
          (before ++ '\n' :: (commentLine indentation text ++ after)) ++
          behind.flatMap Piece.spelling)
  /-- A comment line in front, with the indentation that the source begins with. -/
  | commentInFront {pieces : List Piece} {text : List Char} (oneLine : '\n' ∉ text) :
      Relaid pieces (commentLine (leadingBlank (pieces.flatMap Piece.spelling)) text ++
        pieces.flatMap Piece.spelling)
  /-- Other white space over a line feed. -/
  | whiteSpace {front behind : List Piece} {piece : Piece} {before run other after : List Char}
      (spelling : piece.spelling = before ++ run ++ after) (notLiteral : piece.isLiteral = false)
      (breaksLine : '\n' ∈ run) (otherLayout : ∀ character ∈ other, isLayout character = true)
      (otherBreaksLine : '\n' ∈ other) :
      Relaid (front ++ piece :: behind)
        (front.flatMap Piece.spelling ++ (before ++ other ++ after) ++
          behind.flatMap Piece.spelling)

section Pieces

variable {before behind source : List Char} {lineBlank : Bool} {front others : List Piece}
  {piece : Piece} {lexeme : Lexeme} {lexemes : List Lexeme}

/-- A line feed that does not stand for itself is in white space. -/
theorem Piece.Stands.isBreak (stands : piece.Stands before behind)
    (notLiteral : piece.isLiteral = false) (breaksLine : '\n' ∈ piece.spelling) :
    IsBreak piece.spelling behind ∧ piece = .gap piece.spelling := by
  cases stands with
  | @lexeme token _ admits place =>
      obtain ⟨kind, value, position⟩ := token
      exfalso
      cases kind with
      | escape | constant | regex => cases notLiteral
      | text => cases (admits.2 '\n' breaksLine).1
      | blank => exact admits.2.2 breaksLine
      | doubleColon =>
          have colons : '\n' ∈ [':', ':'] := admits ▸ breaksLine
          simp at colons
      | _ =>
          obtain ⟨character, single, known⟩ := admits
          have same : '\n' ∈ [character] := single ▸ breaksLine
          obtain rfl := List.mem_singleton.mp same
          cases known
  | comment startsLine oneLine ends =>
      rcases List.mem_cons.mp breaksLine with isSign | inComment
      · cases isSign
      · exact absurd inComment oneLine
  | layout allLayout breaks ends => exact ⟨⟨⟨allLayout, ends⟩, breaks⟩, rfl⟩

theorem eq_of_piece_eq_gap {position : Position} {characters : List Char}
    (same : lexeme.piece position = .gap characters) : lexeme = ⟨characters, none⟩ := by
  obtain ⟨spelling, token?⟩ := lexeme
  cases token? with
  | none =>
      obtain rfl := Piece.gap.inj same
      rfl
  | some content => cases same

/-- Lexemes that are spelled as the pieces they are. -/
theorem spelling_placed (before : List Char)
    (spelt : ∀ lexeme ∈ lexemes, ∀ position, (lexeme.piece position).spelling = lexeme.spelling) :
    (placed before lexemes).flatMap Piece.spelling = lexemes.flatMap Lexeme.spelling := by
  induction lexemes generalizing before with
  | nil => rfl
  | cons lexeme lexemes inductionHypothesis =>
      rw [placed, List.flatMap_cons, List.flatMap_cons, spelt lexeme List.mem_cons_self,
        inductionHypothesis _ fun later among => spelt later (List.mem_cons_of_mem _ among)]

/-- The lexemes of a source are cut where its pieces are cut. -/
theorem exists_of_placed_eq_append
    (spelt : ∀ lexeme ∈ lexemes, ∀ position, (lexeme.piece position).spelling = lexeme.spelling)
    (cut : placed before lexemes = front ++ piece :: others) :
    ∃ first lexeme rest position, lexemes = first ++ lexeme :: rest ∧
      lexeme.piece position = piece ∧
      first.flatMap Lexeme.spelling = front.flatMap Piece.spelling ∧
      rest.flatMap Lexeme.spelling = others.flatMap Piece.spelling := by
  induction front generalizing before lexemes with
  | nil =>
      cases lexemes with
      | nil => cases cut
      | cons lexeme lexemes =>
          obtain ⟨same, rfl⟩ := List.cons.inj cut
          have sameRest := spelling_placed (before ++ lexeme.spelling) fun later among =>
            spelt later (List.mem_cons_of_mem _ among)
          exact ⟨[], lexeme, lexemes, _, rfl, same, rfl, sameRest.symm⟩
  | cons other front inductionHypothesis =>
      cases lexemes with
      | nil => cases cut
      | cons lexeme lexemes =>
          obtain ⟨rfl, inside⟩ := List.cons.inj cut
          obtain ⟨first, found, rest, position, rfl, same, sameFront, sameRest⟩ :=
            inductionHypothesis (fun later among => spelt later (List.mem_cons_of_mem _ among))
              inside
          refine ⟨lexeme :: first, found, rest, position, rfl, same, ?_, sameRest⟩
          rw [List.flatMap_cons, List.flatMap_cons, sameFront, spelt lexeme List.mem_cons_self]

end Pieces

section Edits

variable {source run other after text indentation : List Char} {front behind : List Piece}
  {piece : Piece} {lexemes : List Lexeme}

/-- White space over a line feed can be replaced by any other, and what comes behind it by anything
that is read with the same tokens. -/
theorem Reads.exists_of_break (reads : Reads true source lexemes)
    (cut : placed [] lexemes = front ++ piece :: behind) (notLiteral : piece.isLiteral = false)
    (breaksLine : '\n' ∈ piece.spelling) :
    IsBreak piece.spelling (behind.flatMap Piece.spelling) ∧
      ∃ rest, Reads true (behind.flatMap Piece.spelling) rest ∧
        ∀ run after others, IsBreak run after → Reads true after others →
          others.filterMap Lexeme.token? = rest.filterMap Lexeme.token? →
            ∃ edited, Reads true (front.flatMap Piece.spelling ++ (run ++ after)) edited ∧
              edited.filterMap Lexeme.token? = lexemes.filterMap Lexeme.token? := by
  have whole : IsCutInto [] source _ (placed [] lexemes) := Reads.isCutInto reads
  obtain ⟨isBreak, isGap⟩ := (whole.stands front piece behind cut).isBreak notLiteral breaksLine
  obtain ⟨first, lexeme, rest, position, rfl, same, sameFront, sameRest⟩ :=
    exists_of_placed_eq_append (fun _ among => reads.spelling_piece among) cut
  rw [isGap] at same
  obtain rfl := eq_of_piece_eq_gap same
  rw [← sameRest] at isBreak
  rw [← sameFront, ← sameRest]
  have readsBreak := reads.of_append
  rw [List.flatMap_cons, isBreak.reads_iff] at readsBreak
  obtain ⟨others, sameOthers, readsRest⟩ := readsBreak
  obtain rfl : rest = others := (List.cons.inj sameOthers).2
  refine ⟨isBreak, rest, readsRest, ?_⟩
  intro run after others otherBreak readsAfter contents
  obtain ⟨edited, readsEdited, sameContents⟩ :=
    reads.exists_of_front isBreak.startsLayout otherBreak readsAfter
  refine ⟨edited, readsEdited, ?_⟩
  rw [sameContents, contents, List.filterMap_append, List.filterMap_cons_none rfl]

/-- A comment line behind a line feed has no part in what is read. -/
theorem Reads.exists_of_commentBehind {before : List Char} (reads : Reads true source lexemes)
    (cut : placed [] lexemes = front ++ piece :: behind) (notLiteral : piece.isLiteral = false)
    (spelling : piece.spelling = before ++ '\n' :: after)
    (indents : ∀ character ∈ indentation, character = ' ' ∨ character = '\t')
    (oneLine : '\n' ∉ text) :
    ∃ edited, Reads true (front.flatMap Piece.spelling ++
        (before ++ '\n' :: (commentLine indentation text ++ after)) ++
        behind.flatMap Piece.spelling) edited ∧
      edited.filterMap Lexeme.token? = lexemes.filterMap Lexeme.token? := by
  have breaksLine : '\n' ∈ piece.spelling := by simp [spelling]
  obtain ⟨isBreak, rest, readsRest, exists_edited⟩ :=
    reads.exists_of_break cut notLiteral breaksLine
  rw [spelling] at isBreak
  have behindComment : IsBreak ('\n' :: after) (behind.flatMap Piece.spelling) :=
    ⟨⟨fun character among => isBreak.allLayout character (List.mem_append_right _ among),
      isBreak.ends⟩, List.mem_cons_self⟩
  have beforeComment : IsBreak (before ++ '\n' :: indentation)
      ('#' :: (text ++ '\n' :: (after ++ behind.flatMap Piece.spelling))) := by
    refine ⟨⟨?_, ends_of_head rfl⟩, List.mem_append_right before List.mem_cons_self⟩
    rw [List.forall_mem_append, List.forall_mem_cons]
    refine ⟨fun character among => isBreak.allLayout character (List.mem_append_left _ among),
      rfl, ?_⟩
    intro character among
    rcases indents character among with rfl | rfl <;> rfl
  have readsComment := Reads.comment oneLine fun _ => behindComment.reads readsRest
  obtain ⟨edited, readsEdited, contents⟩ := exists_edited _ _ _ beforeComment readsComment rfl
  refine ⟨edited, ?_, contents⟩
  rw [commentLine_append]
  simpa using readsEdited

/-- White space over a line feed has no part in what is read. -/
theorem Reads.exists_of_whiteSpace {before : List Char} (reads : Reads true source lexemes)
    (cut : placed [] lexemes = front ++ piece :: behind) (notLiteral : piece.isLiteral = false)
    (spelling : piece.spelling = before ++ run ++ after) (breaksLine : '\n' ∈ run)
    (otherLayout : ∀ character ∈ other, isLayout character = true)
    (otherBreaksLine : '\n' ∈ other) :
    ∃ edited, Reads true (front.flatMap Piece.spelling ++ (before ++ other ++ after) ++
        behind.flatMap Piece.spelling) edited ∧
      edited.filterMap Lexeme.token? = lexemes.filterMap Lexeme.token? := by
  have breaks : '\n' ∈ piece.spelling := by simp [spelling, breaksLine]
  obtain ⟨isBreak, rest, readsRest, exists_edited⟩ := reads.exists_of_break cut notLiteral breaks
  rw [spelling] at isBreak
  have otherBreak : IsBreak (before ++ other ++ after) (behind.flatMap Piece.spelling) := by
    refine ⟨⟨?_, isBreak.ends⟩, by simp [otherBreaksLine]⟩
    have allLayout := isBreak.allLayout
    rw [List.forall_mem_append, List.forall_mem_append] at allLayout ⊢
    exact ⟨⟨allLayout.1.1, otherLayout⟩, allLayout.2⟩
  obtain ⟨edited, readsEdited, contents⟩ := exists_edited _ _ _ otherBreak readsRest rfl
  refine ⟨edited, ?_, contents⟩
  rw [List.append_assoc]
  exact readsEdited

/-- A comment line in front has no part in what is read if it is indented as the source is. -/
theorem Reads.exists_of_commentInFront (reads : Reads true source lexemes)
    (oneLine : '\n' ∉ text) :
    ∃ edited, Reads true (commentLine (leadingBlank source) text ++ source) edited ∧
      edited.filterMap Lexeme.token? = lexemes.filterMap Lexeme.token? := by
  generalize leading : source.takeWhile isLayout = run
  generalize left : source.dropWhile isLayout = rest
  have isRun : IsLayoutRun run rest := by
    rw [← leading, ← left]
    exact ⟨fun _ => List.mem_takeWhile_imp, fun _ => run_stops⟩
  have parts : run ++ rest = source := by rw [← leading, ← left, List.takeWhile_append_dropWhile]
  have behindComment : IsBreak ('\n' :: run) rest :=
    ⟨⟨List.forall_mem_cons.mpr ⟨rfl, isRun.allLayout⟩, isRun.ends⟩, List.mem_cons_self⟩
  rw [commentLine_append, leadingBlank, leading]
  subst parts
  by_cases full : run = []
  · subst full
    have readsComment := Reads.comment oneLine fun _ => behindComment.reads reads
    exact ⟨⟨'#' :: text, none⟩ :: ⟨['\n'], none⟩ :: lexemes, readsComment, rfl⟩
  rw [isRun.reads_iff full] at reads
  obtain ⟨others, rfl, readsOthers⟩ := reads
  have readsComment := Reads.comment oneLine fun _ => behindComment.reads readsOthers
  by_cases breaks : run.contains '\n' = true
  · refine ⟨⟨'#' :: text, none⟩ :: ⟨'\n' :: run, none⟩ :: others, ?_, ?_⟩
    · rw [if_pos breaks]
      exact readsComment
    · have gap : (layoutLexeme run).token? = none := if_pos breaks
      rw [List.filterMap_cons_none gap]
      rfl
  · -- The indentation is what the white space in front was: a token of its own.
    have isIndentation : IsLayoutRun run ('#' :: (text ++ '\n' :: (run ++ rest))) :=
      ⟨isRun.allLayout, ends_of_head rfl⟩
    refine ⟨layoutLexeme run :: ⟨'#' :: text, none⟩ :: ⟨'\n' :: run, none⟩ :: others, ?_, rfl⟩
    rw [if_neg breaks, isIndentation.reads_iff full]
    exact ⟨_, rfl, readsComment⟩

theorem Reads.exists_of_relaid {edited : List Char} (reads : Reads true source lexemes)
    (relaid : Relaid (placed [] lexemes) edited) :
    ∃ others, Reads true edited others ∧
      others.filterMap Lexeme.token? = lexemes.filterMap Lexeme.token? := by
  generalize cut : placed [] lexemes = pieces at relaid
  cases relaid with
  | commentBehind spelling notLiteral indents oneLine =>
      exact reads.exists_of_commentBehind cut notLiteral spelling indents oneLine
  | commentInFront oneLine =>
      have whole : IsCutInto [] source _ (placed [] lexemes) := Reads.isCutInto reads
      rw [← cut, whole.spelling]
      exact reads.exists_of_commentInFront oneLine
  | whiteSpace spelling notLiteral breaksLine otherLayout otherBreaksLine =>
      exact reads.exists_of_whiteSpace cut notLiteral spelling breaksLine otherLayout
        otherBreaksLine

end Edits

/-- Layout is invisible: a source that is laid out anew has the same tokens, apart from their
places. -/
theorem contents_of_relaid {source : String} {tokens : List Token} {pieces : List Piece}
    {edited : List Char} (read : tokenize source = .ok tokens)
    (cut : IsCutInto [] source.toList tokens pieces) (relaid : Relaid pieces edited) :
    ∃ others, tokenize (String.ofList edited) = .ok others ∧
      others.map Token.content = tokens.map Token.content := by
  have started : tokensFrom (placeBehind []) (isLineBlank []) source.toList = .ok tokens := read
  obtain ⟨lexemes, reads, found⟩ := exists_reads started
  obtain rfl : pieces = placed [] lexemes := by
    have otherCut := Reads.isCutInto reads
    rw [found] at otherCut
    exact cut.unique otherCut
  obtain ⟨others, readsEdited, contents⟩ := reads.exists_of_relaid relaid
  obtain ⟨otherTokens, readOthers, sameOthers⟩ := readsEdited.tokensFrom .start
  obtain ⟨sameTokens, readTokens, same⟩ := reads.tokensFrom .start
  obtain rfl : tokens = sameTokens := Except.ok.inj (read.symm.trans readTokens)
  refine ⟨otherTokens, ?_, ?_⟩
  · rw [tokenize, String.toList_ofList]
    exact readOthers
  · rw [sameOthers, contents, same]

/-! ### A comment behind a literal

The first line feed is in a constant, and so is the number sign behind it. -/

namespace CommentedSource

def source : String := "\"a\n#\"\n  b"

def commented : String := "\"a\n#\"\n\t# c\n  b"

def constant : Token := ⟨.constant, "a\n#", .start⟩

def text : Token := ⟨.text, "b", ⟨3, 3, 8⟩⟩

def pieces : List Piece := [.lexeme constant, .gap ['\n', ' ', ' '], .lexeme text]

theorem tokenize_source : tokenize source = .ok [constant, text] := by
  decide +kernel

theorem isCutInto_pieces : IsCutInto [] source.toList [constant, text] pieces := by
  have spelled : source.toList = pieces.flatMap Piece.spelling := by decide +kernel
  rw [spelled]
  have plain : TokenKind.text.Admits ['b'] := by
    refine ⟨List.cons_ne_nil _ _, ?_⟩
    intro character among
    obtain rfl := List.mem_singleton.mp among
    exact ⟨rfl, rfl, by decide, by decide⟩
  have behindGap : Piece.Stands constant.spelling (.gap ['\n', ' ', ' ']) ['b'] :=
    .layout (by simp [isLayout]) List.mem_cons_self (ends_of_head rfl)
  refine .cons (.lexeme trivial rfl) (.cons behindGap (.cons (.lexeme plain ?_) (.nil _)))
  decide +kernel

theorem relaid_commented : Relaid pieces commented.toList := by
  have spelled : commented.toList = ([Piece.lexeme constant].flatMap Piece.spelling ++
      ([] ++ '\n' :: (commentLine ['\t'] [' ', 'c'] ++ [' ', ' '])) ++
      [Piece.lexeme text].flatMap Piece.spelling) := by decide +kernel
  rw [spelled]
  exact @Relaid.commentBehind [.lexeme constant] [.lexeme text] (.gap ['\n', ' ', ' ']) []
    [' ', ' '] ['\t'] [' ', 'c'] rfl rfl (by simp) (by simp)

theorem contents_commented : tokenize source = .ok [constant, text] ∧
    IsCutInto [] source.toList [constant, text] pieces ∧ Relaid pieces commented.toList ∧
    ∃ others, tokenize (String.ofList commented.toList) = .ok others ∧
      others.map Token.content = [constant, text].map Token.content :=
  ⟨tokenize_source, isCutInto_pieces, relaid_commented,
    contents_of_relaid tokenize_source isCutInto_pieces relaid_commented⟩

end CommentedSource

/-! ### Comments in front

White space that a source begins with is a token as long as no line feed comes before it, and so is
the indentation of a comment in front. -/

/-- A comment line in front of white space makes it layout, and its own indentation is a token. -/
theorem contents_ne_of_commentInFront :
    (∃ tokens others, tokenize "  a" = .ok tokens ∧
      tokenize (String.ofList (commentLine [] [' ', 'c'] ++ "  a".toList)) = .ok others ∧
      others.map Token.content ≠ tokens.map Token.content) ∧
    ∃ tokens others, tokenize "a" = .ok tokens ∧
      tokenize (String.ofList (commentLine [' ', ' '] [' ', 'c'] ++ "a".toList)) = .ok others ∧
      others.map Token.content ≠ tokens.map Token.content := by
  refine ⟨⟨[⟨.blank, "  ", .start⟩, ⟨.text, "a", ⟨1, 3, 2⟩⟩], [⟨.text, "a", ⟨2, 3, 6⟩⟩], ?_⟩,
    [⟨.text, "a", .start⟩], [⟨.blank, "  ", .start⟩, ⟨.text, "a", ⟨2, 1, 6⟩⟩], ?_⟩
  all_goals decide +kernel

end SeededText.Pattern
