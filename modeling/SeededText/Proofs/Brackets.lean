import SeededText.Pattern.Scope

/-!
Contract: ranges in which brackets nest.

A scope that closes encloses a balanced range, and its closer is the only one that can close it.
What is cut out of a balanced range outside its brackets is balanced again: the rest behind a token
or a scope, the pieces between separators, the range without the blanks at its ends.

Owns: balanced ranges, ranges that code can be, the pieces of a range.
Does not own: which ranges a run makes code of (`SeededText.Proofs.CodeRanges`).
-/

namespace SeededText.Pattern

/-- The kinds that open or close a bracket. -/
def TokenKind.isBracket : TokenKind → Bool
  | .opens _ | .closes _ => true
  | _ => false

theorem TokenKind.isBracket_eq_false_iff (kind : TokenKind) :
    kind.isBracket = false ↔
      (∀ bracket, kind ≠ .opens bracket) ∧ ∀ bracket, kind ≠ .closes bracket := by
  cases kind <;> simp [isBracket]

/-! ### Balanced ranges -/

/-- Brackets nest in the tokens from the first index up to the second. -/
inductive Balanced (pattern : Pattern) : Nat → Nat → Prop where
  | empty {index : Nat} (inside : index ≤ pattern.length) : Balanced pattern index index
  | plain {index stop : Nat} {kind : TokenKind} (here : pattern.kindAt? index = some kind)
      (noBracket : kind.isBracket = false) (rest : Balanced pattern (index + 1) stop) :
      Balanced pattern index stop
  | scope {opening close stop : Nat} {bracket : Bracket}
      (opens : pattern.kindAt? opening = some (.opens bracket))
      (body : Balanced pattern (opening + 1) close)
      (closes : pattern.kindAt? close = some (.closes bracket))
      (rest : Balanced pattern (close + 1) stop) : Balanced pattern opening stop

theorem kindAt?_of_lt {pattern : Pattern} {index : Nat} (inside : index < pattern.tokens.size) :
    pattern.kindAt? index = some pattern.tokens[index].kind := by
  rw [kindAt?, Array.getElem?_eq_getElem inside, Option.map_some]

theorem kindAt?_of_getElem? {pattern : Pattern} {index : Nat} {token : Token}
    (read : pattern.tokens[index]? = some token) : pattern.kindAt? index = some token.kind := by
  rw [kindAt?, read, Option.map_some]

theorem lt_of_kindAt? {pattern : Pattern} {index : Nat} {kind : TokenKind}
    (found : pattern.kindAt? index = some kind) : index < pattern.length := by
  obtain ⟨token, read, -⟩ := Option.map_eq_some_iff.mp found
  exact (Array.getElem?_eq_some_iff.mp read).1

namespace Balanced

variable {pattern : Pattern} {start index middle stop close other : Nat} {kind : TokenKind}
  {bracket : Bracket}

theorem bounds (balanced : Balanced pattern index stop) :
    index ≤ stop ∧ stop ≤ pattern.length := by
  induction balanced with
  | empty inside => exact ⟨Nat.le_refl _, inside⟩
  | plain _ _ _ inductionHypothesis => omega
  | scope _ _ _ _ bodyHypothesis restHypothesis => omega

/-- A token that is no bracket, for itself. -/
theorem token (here : pattern.kindAt? index = some kind) (noBracket : kind.isBracket = false) :
    Balanced pattern index (index + 1) :=
  .plain here noBracket (.empty (lt_of_kindAt? here))

/-- A scope for itself. -/
theorem enclosed (opens : pattern.kindAt? index = some (.opens bracket))
    (body : Balanced pattern (index + 1) close)
    (closes : pattern.kindAt? close = some (.closes bracket)) :
    Balanced pattern index (close + 1) :=
  .scope opens body closes (.empty (lt_of_kindAt? closes))

theorem append (first : Balanced pattern index middle) (second : Balanced pattern middle stop) :
    Balanced pattern index stop := by
  induction first with
  | empty => exact second
  | plain here noBracket _ inductionHypothesis =>
      exact .plain here noBracket (inductionHypothesis second)
  | scope opens body closes _ _ restHypothesis =>
      exact .scope opens body closes (restHypothesis second)

/-- What is left behind a token that is no bracket. -/
theorem tail (balanced : Balanced pattern index stop) (inside : index < stop)
    (here : pattern.kindAt? index = some kind) (noBracket : kind.isBracket = false) :
    Balanced pattern (index + 1) stop := by
  cases balanced with
  | empty => exact absurd inside (Nat.lt_irrefl _)
  | plain _ _ rest => exact rest
  | scope opens =>
      rw [opens] at here
      cases here
      cases noBracket

/-- What is left before a token that is no bracket. -/
theorem init (balanced : Balanced pattern index (stop + 1)) (inside : index ≤ stop)
    (last : pattern.kindAt? stop = some kind) (noBracket : kind.isBracket = false) :
    Balanced pattern index stop := by
  generalize whole : stop + 1 = behind at balanced
  induction balanced with
  | empty => omega
  | @plain index _ _ here plain rest inductionHypothesis =>
      by_cases more : index < stop
      · exact .plain here plain (inductionHypothesis more whole)
      · obtain rfl : index = stop := by omega
        exact .empty (by have := rest.bounds; omega)
  | @scope opening close _ _ opens body closes rest _ restHypothesis =>
      have bounds := rest.bounds
      by_cases more : close < stop
      · exact .scope opens body closes (restHypothesis more whole)
      · obtain rfl : close = stop := by omega
        rw [closes] at last
        cases last
        cases noBracket

/-- A scope has one closer. -/
theorem closer_unique (body : Balanced pattern index close)
    (closes : pattern.kindAt? close = some (.closes bracket))
    (otherBody : Balanced pattern index other)
    (otherCloses : pattern.kindAt? other = some (.closes bracket)) : close = other := by
  induction body generalizing other bracket with
  | empty =>
      cases otherBody with
      | empty => rfl
      | plain here noBracket =>
          rw [closes] at here
          cases here
          cases noBracket
      | scope opens => simp [opens] at closes
  | plain here noBracket _ inductionHypothesis =>
      cases otherBody with
      | empty =>
          rw [otherCloses] at here
          cases here
          cases noBracket
      | plain _ _ otherRest => exact inductionHypothesis closes otherRest otherCloses
      | scope opens =>
          rw [opens] at here
          cases here
          cases noBracket
  | scope opens _ innerCloses _ innerHypothesis restHypothesis =>
      cases otherBody with
      | empty => simp [otherCloses] at opens
      | plain here noBracket =>
          rw [opens] at here
          cases here
          cases noBracket
      | scope otherOpens otherInner otherInnerCloses otherRest =>
          rw [opens] at otherOpens
          cases otherOpens
          obtain rfl := innerHypothesis innerCloses otherInner otherInnerCloses
          exact restHypothesis closes otherRest otherCloses

/-- What is left behind a scope. -/
theorem behind_scope (balanced : Balanced pattern index stop) (inside : index < stop)
    (opens : pattern.kindAt? index = some (.opens bracket))
    (body : Balanced pattern (index + 1) close)
    (closes : pattern.kindAt? close = some (.closes bracket)) :
    close < stop ∧ Balanced pattern (close + 1) stop := by
  cases balanced with
  | empty => exact absurd inside (Nat.lt_irrefl _)
  | plain here noBracket =>
      rw [opens] at here
      cases here
      cases noBracket
  | scope otherOpens otherBody otherCloses rest =>
      rw [opens] at otherOpens
      cases otherOpens
      obtain rfl := body.closer_unique closes otherBody otherCloses
      exact ⟨rest.bounds.1, rest⟩

end Balanced

/-! ### Scopes that close -/

section Scopes

variable {pattern : Pattern} {opener : Token} {expected : List Bracket}
  {before index close opening : Nat}

/-- Balanced ranges, each with the closer of one of the brackets behind it. -/
inductive Unwinds (pattern : Pattern) : List Bracket → Nat → Nat → Prop where
  | last {bracket : Bracket} {index close : Nat} (body : Balanced pattern index close)
      (closes : pattern.kindAt? close = some (.closes bracket)) :
      Unwinds pattern [bracket] index close
  | further {bracket : Bracket} {outer : List Bracket} {index middle close : Nat}
      (body : Balanced pattern index middle)
      (closes : pattern.kindAt? middle = some (.closes bracket))
      (rest : Unwinds pattern outer (middle + 1) close) :
      Unwinds pattern (bracket :: outer) index close

/-- What is balanced may stand before it. -/
theorem Unwinds.prepend (unwinds : Unwinds pattern expected index close)
    (first : Balanced pattern before index) : Unwinds pattern expected before close := by
  cases unwinds with
  | last body closes => exact .last (first.append body) closes
  | further body closes rest => exact .further (first.append body) closes rest

/-- Between the place where the search for a closer begins and the closer stand all closers that
were expected, and otherwise brackets nest. -/
theorem unwinds_of_closeFrom (open? : expected ≠ [])
    (found : pattern.closeFrom opener expected index = .ok close) :
    Unwinds pattern expected index close := by
  fun_induction closeFrom pattern opener expected index with
  | case1 expected index inside _ bracket kind inductionHypothesis =>
      have opens := kind ▸ kindAt?_of_lt inside
      cases inductionHypothesis (List.cons_ne_nil _ _) found with
      | last => exact absurd rfl open?
      | further body closes rest => exact rest.prepend (.enclosed opens body closes)
  | case2 index inside _ bracket outer last kind =>
      have closes := kind ▸ kindAt?_of_lt inside
      cases found
      obtain rfl := List.isEmpty_iff.mp last
      exact .last (.empty (Nat.le_of_lt inside)) closes
  | case3 index inside _ bracket outer more kind inductionHypothesis =>
      have closes := kind ▸ kindAt?_of_lt inside
      have nested := inductionHypothesis (by simpa using more) found
      exact .further (.empty (Nat.le_of_lt inside)) closes nested
  | case6 expected index inside _ noOpener noCloser inductionHypothesis =>
      refine (inductionHypothesis open? found).prepend (.token (kindAt?_of_lt inside) ?_)
      exact (TokenKind.isBracket_eq_false_iff _).mpr ⟨noOpener, noCloser⟩
  | case4 | case5 | case7 => simp at found

/-- Where a scope closes its brackets match, and those between them nest. -/
theorem enclosed_of_scopeClose (found : pattern.scopeClose opening = .ok close) :
    ∃ bracket, pattern.kindAt? opening = some (.opens bracket) ∧
      Balanced pattern (opening + 1) close ∧ pattern.kindAt? close = some (.closes bracket) := by
  unfold scopeClose at found
  split at found
  · cases found
  · next opener read =>
      split at found
      · next bracket kind =>
          have opens := kind ▸ kindAt?_of_getElem? read
          cases unwinds_of_closeFrom (List.cons_ne_nil _ _) found with
          | last body closes => exact ⟨bracket, opens, body, closes⟩
          | further _ _ rest => cases rest
      · cases found

end Scopes

/-! ### Cutting ranges -/

section Cutting

variable {pattern : Pattern} {start index middle stop depth : Nat} {separator : TokenKind}

/-- Ranges that are balanced, lie in order between two indices, and leave at least one token between
each other. -/
structure Cuts (pattern : Pattern) (start stop : Nat) (pieces : List Span) : Prop where
  balanced : ∀ piece ∈ pieces, Balanced pattern piece.start piece.stop
  inside : ∀ piece ∈ pieces, start ≤ piece.start ∧ piece.stop ≤ stop
  apart : pieces.Pairwise fun first second => first.stop < second.start

theorem Cuts.nil : Cuts pattern start stop [] :=
  ⟨by simp, by simp, .nil⟩

theorem Cuts.single {span : Span} (balanced : Balanced pattern span.start span.stop)
    (inside : start ≤ span.start ∧ span.stop ≤ stop) : Cuts pattern start stop [span] :=
  ⟨by simpa using balanced, by simpa using inside, List.pairwise_singleton _ _⟩

theorem Cuts.mono {wideStart wideStop : Nat} {pieces : List Span}
    (cuts : Cuts pattern start stop pieces) (before : wideStart ≤ start)
    (behind : stop ≤ wideStop) : Cuts pattern wideStart wideStop pieces where
  balanced := cuts.balanced
  inside piece member := by
    have inside := cuts.inside piece member
    omega
  apart := cuts.apart

theorem Cuts.sublist {some pieces : List Span} (cuts : Cuts pattern start stop pieces)
    (kept : some.Sublist pieces) : Cuts pattern start stop some where
  balanced piece member := cuts.balanced piece (kept.subset member)
  inside piece member := cuts.inside piece (kept.subset member)
  apart := cuts.apart.sublist kept

/-- Inside brackets nothing is cut. -/
theorem splitFrom_of_balanced (balanced : Balanced pattern index middle) (inside : middle ≤ stop) :
    pattern.splitFrom separator start index (depth + 1) stop =
      pattern.splitFrom separator start middle (depth + 1) stop := by
  induction balanced generalizing depth with
  | empty => rfl
  | @plain index _ _ here noBracket rest inductionHypothesis =>
      have bounds := rest.bounds
      rw [splitFrom, if_pos (by omega), here]
      split <;> simp_all [TokenKind.isBracket]
  | @scope opening close _ _ opens body closes rest bodyHypothesis restHypothesis =>
      have bodyBounds := body.bounds
      have restBounds := rest.bounds
      rw [splitFrom, if_pos (by omega), opens]
      show pattern.splitFrom _ _ _ (depth + 1 + 1) _ = _
      rw [bodyHypothesis (by omega), splitFrom, if_pos (by omega), closes]
      exact restHypothesis inside

/-- Pieces between separators outside brackets are balanced. -/
theorem cuts_splitFrom (first : Balanced pattern start index)
    (balanced : Balanced pattern index stop) :
    Cuts pattern start stop (pattern.splitFrom separator start index 0 stop) := by
  induction balanced generalizing start with
  | @empty stop inside =>
      rw [splitFrom, if_neg (Nat.lt_irrefl _)]
      exact ⟨by simpa using first, by simp, by simp⟩
  | @plain index stop kind here noBracket rest inductionHypothesis =>
      have bounds := rest.bounds
      have firstBounds := first.bounds
      have further := inductionHypothesis (first.append (.token here noBracket))
      obtain ⟨noOpener, noCloser⟩ := (TokenKind.isBracket_eq_false_iff kind).mp noBracket
      rw [splitFrom, if_pos (by omega), here]
      split
      · next opens => exact absurd (Option.some.inj opens) (noOpener _)
      · next closes => exact absurd (Option.some.inj closes) (noCloser _)
      · split
        · -- The piece before the separator comes in front of those behind it.
          have within : index ≤ stop := by omega
          have others := inductionHypothesis (.empty (by omega))
          refine ⟨?_, ?_, ?_⟩
          · exact List.forall_mem_cons.mpr ⟨first, others.balanced⟩
          · refine List.forall_mem_cons.mpr ⟨⟨Nat.le_refl _, within⟩, fun piece member => ?_⟩
            have inside := others.inside piece member
            omega
          · refine List.pairwise_cons.mpr ⟨fun piece member => ?_, others.apart⟩
            have inside := others.inside piece member
            exact inside.1
        · exact further
      · exact further
  | @scope opening close stop _ opens body closes rest _ inductionHypothesis =>
      have bodyBounds := body.bounds
      have restBounds := rest.bounds
      rw [splitFrom, if_pos (by omega), opens]
      show Cuts _ _ _ (pattern.splitFrom _ _ _ (0 + 1) _)
      rw [splitFrom_of_balanced body (by omega), splitFrom, if_pos (by omega), closes]
      exact inductionHypothesis (first.append (.enclosed opens body closes))

theorem cuts_split (balanced : Balanced pattern start stop) :
    Cuts pattern start stop (pattern.split ⟨start, stop⟩ separator) :=
  cuts_splitFrom (.empty (by have := balanced.bounds; omega)) balanced

/-- Blanks in front do not count. -/
theorem Balanced.skipBlanks (balanced : Balanced pattern index stop) :
    index ≤ pattern.skipBlanks index stop ∧
      Balanced pattern (pattern.skipBlanks index stop) stop := by
  fun_induction Pattern.skipBlanks pattern index stop with
  | case1 index inside blank inductionHypothesis =>
      obtain ⟨bound, left⟩ := inductionHypothesis (balanced.tail inside blank rfl)
      exact ⟨by omega, left⟩
  | case2 | case3 => exact ⟨Nat.le_refl _, balanced⟩

/-- Blanks at the end do not count. -/
theorem Balanced.trimStop (balanced : Balanced pattern start stop) :
    pattern.trimStop start stop ≤ stop ∧
      Balanced pattern start (pattern.trimStop start stop) := by
  induction stop with
  | zero => exact ⟨Nat.le_refl _, balanced⟩
  | succ last inductionHypothesis =>
      unfold Pattern.trimStop
      split
      · next blank =>
          obtain ⟨inside, blank⟩ := blank
          obtain ⟨bound, left⟩ :=
            inductionHypothesis (balanced.init (Nat.lt_succ_iff.mp inside) blank rfl)
          exact ⟨by omega, left⟩
      · exact ⟨Nat.le_refl _, balanced⟩

theorem Balanced.trimSpan (balanced : Balanced pattern start stop) :
    let trimmed := pattern.trimSpan ⟨start, stop⟩
    start ≤ trimmed.start ∧ trimmed.stop ≤ stop ∧
      Balanced pattern trimmed.start trimmed.stop := by
  obtain ⟨skipped, left⟩ := balanced.skipBlanks
  obtain ⟨before, trimmed⟩ := left.trimStop
  exact ⟨skipped, before, trimmed⟩

theorem Cuts.trim {pieces : List Span} (cuts : Cuts pattern start stop pieces) :
    Cuts pattern start stop (pieces.map pattern.trimSpan) := by
  refine ⟨?_, ?_, ?_⟩
  · rw [List.forall_mem_map]
    exact fun piece member => (cuts.balanced piece member).trimSpan.2.2
  · rw [List.forall_mem_map]
    rintro ⟨first, last⟩ member
    have inside := cuts.inside _ member
    have trimmed := (cuts.balanced _ member).trimSpan
    dsimp only at inside trimmed ⊢
    omega
  · rw [List.pairwise_map]
    refine cuts.apart.imp_of_mem ?_
    rintro ⟨first, last⟩ ⟨nextFirst, nextLast⟩ member nextMember before
    have trimmed := (cuts.balanced _ member).trimSpan
    have nextTrimmed := (cuts.balanced _ nextMember).trimSpan
    dsimp only at before trimmed nextTrimmed ⊢
    omega

theorem cuts_splitTrimmed (balanced : Balanced pattern start stop) :
    Cuts pattern start stop (pattern.splitTrimmed ⟨start, stop⟩ separator) :=
  (cuts_split balanced).trim

/-- A block has balanced items between its braces. -/
theorem cuts_itemsBetween {opening close : Nat} (body : Balanced pattern (opening + 1) close) :
    Cuts pattern (opening + 1) close (pattern.itemsBetween opening close).toList := by
  simp only [itemsBetween]
  split
  · exact .nil
  · exact cuts_split body

end Cutting

/-! ### Ranges of code -/

/-- A range that no scope opened in it leaves: it is balanced, or it goes to the end of the
pattern. -/
inductive SelfContained (pattern : Pattern) (index stop : Nat) : Prop where
  | balanced (nests : Balanced pattern index stop)
  | toEnd (inside : index ≤ stop) (ends : stop = pattern.length)

namespace SelfContained

variable {pattern : Pattern} {index stop close : Nat} {kind : TokenKind}

theorem bounds (contained : SelfContained pattern index stop) :
    index ≤ stop ∧ stop ≤ pattern.length := by
  cases contained with
  | balanced nests => exact nests.bounds
  | toEnd inside ends => exact ⟨inside, Nat.le_of_eq ends⟩

theorem whole (pattern : Pattern) : SelfContained pattern 0 pattern.length :=
  .toEnd (Nat.zero_le _) rfl

/-- What is left behind a token that opens no scope. -/
theorem tail (contained : SelfContained pattern index stop) (inside : index < stop)
    (here : pattern.kindAt? index = some kind) (noOpener : ∀ bracket, kind ≠ .opens bracket) :
    SelfContained pattern (index + 1) stop := by
  cases contained with
  | toEnd _ ends => exact .toEnd inside ends
  | balanced nests =>
      cases nests with
      | empty => exact absurd inside (Nat.lt_irrefl _)
      | plain _ _ rest => exact .balanced rest
      | scope opens =>
          rw [opens] at here
          exact absurd (Option.some.inj here).symm (noOpener _)

/-- A scope that is opened in the range closes in it; what is left behind it. -/
theorem behind_scope (contained : SelfContained pattern index stop) (inside : index < stop)
    (closes : pattern.scopeClose index = .ok close) :
    close < stop ∧ SelfContained pattern (close + 1) stop := by
  cases contained with
  | balanced nests =>
      obtain ⟨bracket, opens, body, closer⟩ := enclosed_of_scopeClose closes
      obtain ⟨before, rest⟩ := nests.behind_scope inside opens body closer
      exact ⟨before, .balanced rest⟩
  | toEnd _ ends =>
      have bounds := scopeClose_bounds closes
      exact ⟨by omega, .toEnd (by omega) ends⟩

end SelfContained

end SeededText.Pattern

namespace SeededText.Code

/-- Scopes that are opened in the code close in it. -/
def IsSelfContained (code : Code) : Prop :=
  code.pattern.SelfContained code.span.start code.span.stop

theorem isSelfContained_whole (pattern : Pattern) : (whole pattern).IsSelfContained :=
  .whole pattern

end SeededText.Code
