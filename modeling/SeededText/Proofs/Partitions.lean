import SeededText.Proofs.Scopes
import Mathlib.Algebra.Ring.Int.Defs
import Mathlib.Data.List.Forall2
import Mathlib.Data.List.Intervals

/-!
Contract: the pieces of a range between its separators.

The depth of a place is the number of brackets that are open there. In a balanced range it is never
negative, it is zero at the end, and it is positive at every place inside a scope. A range that
begins at depth zero is cut at those of its separators that have depth zero on both sides, and at no
other token. No piece is cut out of a scope, and a piece that is trimmed loses blanks only.

Owns: the depth of a place, the separators at depth zero, what a trimmed piece is.
Does not own: balanced ranges (`SeededText.Proofs.Brackets`), the closers of scopes
(`SeededText.Proofs.Scopes`).
-/

namespace SeededText.Pattern

/-! ### The depth of a place -/

/-- How many brackets are open behind a token, more than in front of it. Brackets of all kinds count
alike. -/
def TokenKind.rise : TokenKind → Int
  | .opens _ => 1
  | .closes _ => -1
  | _ => 0

theorem TokenKind.rise_eq_zero {kind : TokenKind} (noBracket : kind.isBracket = false) :
    kind.rise = 0 := by
  cases kind <;> simp_all [isBracket, rise]

/-- The rise of the token at an index. Where there is none nothing rises. -/
def riseAt (pattern : Pattern) (index : Nat) : Int :=
  (pattern.kindAt? index).elim 0 TokenKind.rise

/-- How many brackets are open at `stop`, more than at `start`. -/
def depthBetween (pattern : Pattern) (start stop : Nat) : Int :=
  ((List.Ico start stop).map pattern.riseAt).sum

section Depth

variable {pattern : Pattern} {start middle stop index : Nat} {kind : TokenKind}

theorem riseAt_of_kindAt? (here : pattern.kindAt? index = some kind) :
    pattern.riseAt index = kind.rise := by
  rw [riseAt, here, Option.elim_some]

@[simp] theorem depthBetween_self (pattern : Pattern) (index : Nat) :
    pattern.depthBetween index index = 0 := by
  rw [depthBetween, List.Ico.self_empty, List.map_nil, List.sum_nil]

/-- The depth over one token is its rise. -/
theorem depthBetween_token (pattern : Pattern) (index : Nat) :
    pattern.depthBetween index (index + 1) = pattern.riseAt index := by
  rw [depthBetween, List.Ico.succ_singleton, List.map_singleton, List.sum_singleton]

/-- The depth over two ranges, one behind the other. -/
theorem depthBetween_append (before : start ≤ middle) (behind : middle ≤ stop) :
    pattern.depthBetween start stop =
      pattern.depthBetween start middle + pattern.depthBetween middle stop := by
  simp only [depthBetween]
  rw [← List.Ico.append_consecutive before behind, List.map_append, List.sum_append]

/-- The depth over a range, from its first token on. -/
theorem depthBetween_cons (here : pattern.kindAt? index = some kind) (inside : index < stop) :
    pattern.depthBetween index stop = kind.rise + pattern.depthBetween (index + 1) stop := by
  rw [depthBetween_append (Nat.le_succ index) inside, depthBetween_token, riseAt_of_kindAt? here]

/-- Behind an opener the depth is one more. -/
theorem depthBetween_opener {bracket : Bracket}
    (opens : pattern.kindAt? index = some (.opens bracket)) (inside : index < stop) :
    pattern.depthBetween index stop = 1 + pattern.depthBetween (index + 1) stop :=
  depthBetween_cons opens inside

/-- A scope leaves the depth as it is, if what it encloses does. -/
theorem depthBetween_enclosed {bracket : Bracket} {opening close : Nat}
    (opens : pattern.kindAt? opening = some (.opens bracket)) (behind : opening < close)
    (closes : pattern.kindAt? close = some (.closes bracket))
    (body : pattern.depthBetween (opening + 1) close = 0) :
    pattern.depthBetween opening (close + 1) = 0 := by
  rw [depthBetween_opener opens (by omega), depthBetween_append behind (Nat.le_succ close), body,
    depthBetween_token, riseAt_of_kindAt? closes]
  rfl

end Depth

namespace Balanced

variable {pattern : Pattern} {index middle stop opening close : Nat} {bracket : Bracket}

/-- As many brackets are closed in a balanced range as are opened. -/
theorem depthBetween_eq_zero (balanced : Balanced pattern index stop) :
    pattern.depthBetween index stop = 0 := by
  induction balanced with
  | empty => exact depthBetween_self _ _
  | @plain index stop kind here noBracket rest inductionHypothesis =>
      have bounds := rest.bounds
      rw [depthBetween_cons here (by omega), kind.rise_eq_zero noBracket, inductionHypothesis,
        add_zero]
  | @scope opening close stop bracket opens body closes rest bodyHypothesis restHypothesis =>
      have bodyBounds := body.bounds
      have restBounds := rest.bounds
      have whole := depthBetween_enclosed opens bodyBounds.1 closes bodyHypothesis
      rw [depthBetween_append (by omega) restBounds.1, whole, restHypothesis, add_zero]

/-- Behind a scope the depth is what it was in front of it. -/
theorem depthBetween_behind_scope (opens : pattern.kindAt? opening = some (.opens bracket))
    (body : Balanced pattern (opening + 1) close)
    (closes : pattern.kindAt? close = some (.closes bracket)) (behind : close < middle) :
    pattern.depthBetween opening middle = pattern.depthBetween (close + 1) middle := by
  have bounds := body.bounds
  have whole := depthBetween_enclosed opens bounds.1 closes body.depthBetween_eq_zero
  rw [depthBetween_append (by omega) behind, whole, zero_add]

/-- In a balanced range no more brackets are closed up to a place than are opened. -/
theorem depthBetween_nonneg (balanced : Balanced pattern index stop) (behind : index ≤ middle)
    (inside : middle ≤ stop) : 0 ≤ pattern.depthBetween index middle := by
  induction balanced with
  | @empty index =>
      obtain rfl : index = middle := by omega
      rw [depthBetween_self]
  | @plain index stop kind here noBracket rest inductionHypothesis =>
      by_cases first : index = middle
      · rw [first, depthBetween_self]
      · rw [depthBetween_cons here (by omega), kind.rise_eq_zero noBracket, zero_add]
        exact inductionHypothesis (by omega) inside
  | @scope opening close stop bracket opens body closes rest bodyHypothesis restHypothesis =>
      -- The place is in front of the scope, inside it, or behind it.
      by_cases first : opening = middle
      · rw [first, depthBetween_self]
      by_cases within : middle ≤ close
      · have level := bodyHypothesis (by omega) within
        rw [depthBetween_opener opens (by omega)]
        omega
      · rw [depthBetween_behind_scope opens body closes (by omega)]
        exact restHypothesis (by omega) inside

/-- Inside a scope, up to its closer, the depth is positive. -/
theorem depthBetween_pos (opens : pattern.kindAt? opening = some (.opens bracket))
    (body : Balanced pattern (opening + 1) close) (behind : opening < middle)
    (inside : middle ≤ close) : 0 < pattern.depthBetween opening middle := by
  have level := body.depthBetween_nonneg behind inside
  rw [depthBetween_opener opens behind]
  omega

/-- At depth zero a balanced range can be cut in two. -/
theorem of_depthBetween_eq_zero (balanced : Balanced pattern index stop) (behind : index ≤ middle)
    (inside : middle ≤ stop) (level : pattern.depthBetween index middle = 0) :
    Balanced pattern middle stop := by
  induction balanced with
  | @empty index within =>
      obtain rfl : index = middle := by omega
      exact .empty within
  | @plain index stop kind here noBracket rest inductionHypothesis =>
      by_cases first : index = middle
      · exact first ▸ .plain here noBracket rest
      · rw [depthBetween_cons here (by omega), kind.rise_eq_zero noBracket, zero_add] at level
        exact inductionHypothesis (by omega) inside level
  | @scope opening close stop bracket opens body closes rest _ restHypothesis =>
      by_cases first : opening = middle
      · exact first ▸ .scope opens body closes rest
      by_cases within : middle ≤ close
      · have positive := depthBetween_pos opens body (by omega) within
        omega
      · rw [depthBetween_behind_scope opens body closes (by omega)] at level
        exact restHypothesis (by omega) inside level

end Balanced

/-! ### The pieces and the separators between them -/

/-- A separator that stands outside brackets: from `base` on, no bracket is open in front of it or
behind it. A bracket belongs to the scope that it delimits, and separates nothing. -/
def Separates (pattern : Pattern) (base : Nat) (separator : TokenKind) (index : Nat) : Prop :=
  pattern.kindAt? index = some separator ∧ pattern.depthBetween base index = 0 ∧
    pattern.depthBetween base (index + 1) = 0

instance (pattern : Pattern) (base : Nat) (separator : TokenKind) :
    DecidablePred (pattern.Separates base separator) :=
  fun _ => inferInstanceAs (Decidable (_ ∧ _ ∧ _))

/-- The separators outside brackets from one index up to another, in order. -/
def separators (pattern : Pattern) (base : Nat) (separator : TokenKind) (start stop : Nat) :
    List Nat :=
  (List.Ico start stop).filter (pattern.Separates base separator)

/-- The spans between cuts at single tokens. -/
def spansBetween (start stop : Nat) : List Nat → List Span
  | [] => [⟨start, stop⟩]
  | cut :: cuts => ⟨start, cut⟩ :: spansBetween (cut + 1) stop cuts

section Spans

variable {pattern : Pattern} {base start index stop opening close : Nat} {kind : TokenKind}
  {separator : TokenKind} {bracket : Bracket}

theorem spansBetween_starts (start stop : Nat) (cuts : List Nat) :
    (spansBetween start stop cuts).map Span.start = start :: cuts.map (· + 1) := by
  induction cuts generalizing start with
  | nil => rfl
  | cons cut cuts inductionHypothesis =>
      rw [spansBetween, List.map_cons, inductionHypothesis, List.map_cons]

theorem spansBetween_stops (start stop : Nat) (cuts : List Nat) :
    (spansBetween start stop cuts).map Span.stop = cuts ++ [stop] := by
  induction cuts generalizing start with
  | nil => rfl
  | cons cut cuts inductionHypothesis =>
      rw [spansBetween, List.map_cons, inductionHypothesis, List.cons_append]

theorem separators_append (base : Nat) (separator : TokenKind) {middle : Nat}
    (before : start ≤ middle) (behind : middle ≤ stop) :
    pattern.separators base separator start stop =
      pattern.separators base separator start middle ++
        pattern.separators base separator middle stop := by
  simp only [separators]
  rw [← List.Ico.append_consecutive before behind, List.filter_append]

/-- Behind a token the depth is that in front of it, if the token is no bracket. -/
theorem depthBetween_behind_token (behind : base ≤ index)
    (here : pattern.kindAt? index = some kind) (noBracket : kind.isBracket = false) :
    pattern.depthBetween base (index + 1) = pattern.depthBetween base index := by
  rw [depthBetween_append behind (Nat.le_succ index), depthBetween_token, riseAt_of_kindAt? here,
    kind.rise_eq_zero noBracket, add_zero]

/-- A token at depth zero that is no bracket is a separator exactly if it is of its kind. -/
theorem separates_iff (behind : base ≤ index) (level : pattern.depthBetween base index = 0)
    (here : pattern.kindAt? index = some kind) (noBracket : kind.isBracket = false) :
    pattern.Separates base separator index ↔ kind = separator := by
  rw [Separates, depthBetween_behind_token behind here noBracket, here, Option.some.injEq]
  simp only [level, and_true]

theorem separators_cons (behind : base ≤ index) (level : pattern.depthBetween base index = 0)
    (here : pattern.kindAt? index = some kind) (noBracket : kind.isBracket = false)
    (inside : index < stop) :
    pattern.separators base separator index stop =
      if kind = separator then index :: pattern.separators base separator (index + 1) stop
      else pattern.separators base separator (index + 1) stop := by
  simp only [separators]
  rw [List.Ico.eq_cons inside, List.filter_cons]
  simp only [decide_eq_true_eq, separates_iff behind level here noBracket]

/-- No token of a scope separates what stands around the scope. -/
theorem separators_scope (behind : base ≤ opening)
    (level : pattern.depthBetween base opening = 0)
    (opens : pattern.kindAt? opening = some (.opens bracket))
    (body : Balanced pattern (opening + 1) close) (separator : TokenKind) :
    pattern.separators base separator opening (close + 1) = [] := by
  refine List.filter_eq_nil_iff.mpr fun index member => ?_
  obtain ⟨after, before⟩ := List.Ico.mem.mp member
  rw [decide_eq_true_eq]
  rintro ⟨-, front, back⟩
  by_cases first : opening = index
  · -- Behind the opener of the scope the depth is one.
    subst first
    rw [depthBetween_append behind (Nat.le_succ _), level] at back
    have positive := Balanced.depthBetween_pos opens body (Nat.lt_succ_self _) body.bounds.1
    omega
  · rw [depthBetween_append behind after, level] at front
    have further : opening < index := by omega
    have positive := Balanced.depthBetween_pos opens body further (Nat.le_of_lt_succ before)
    omega

/-- Nothing is cut out of a scope. -/
theorem splitFrom_of_scope (opens : pattern.kindAt? opening = some (.opens bracket))
    (body : Balanced pattern (opening + 1) close)
    (closes : pattern.kindAt? close = some (.closes bracket)) (inside : close < stop) :
    pattern.splitFrom separator start opening 0 stop =
      pattern.splitFrom separator start (close + 1) 0 stop := by
  have bounds := body.bounds
  rw [splitFrom, if_pos (by omega), opens]
  show pattern.splitFrom _ _ _ (0 + 1) _ = _
  rw [splitFrom_of_balanced body (by omega), splitFrom, if_pos inside, closes]

/-- A token that is no bracket ends the span before it, if it is a separator outside brackets. -/
theorem splitFrom_of_plain (here : pattern.kindAt? index = some kind)
    (noBracket : kind.isBracket = false) (inside : index < stop) :
    pattern.splitFrom separator start index 0 stop =
      if kind = separator then
        ⟨start, index⟩ :: pattern.splitFrom separator (index + 1) (index + 1) 0 stop
      else pattern.splitFrom separator start (index + 1) 0 stop := by
  obtain ⟨noOpener, noCloser⟩ := (TokenKind.isBracket_eq_false_iff kind).mp noBracket
  rw [splitFrom, if_pos inside, here]
  split
  · next opens => exact absurd (Option.some.inj opens) (noOpener _)
  · next closes => exact absurd (Option.some.inj closes) (noCloser _)
  · next same =>
      cases same
      simp only [and_true]
  · next missing => cases missing

/-- What is left of a balanced range is cut at its separators outside brackets. -/
theorem splitFrom_eq_spansBetween (balanced : Balanced pattern index stop) (behind : base ≤ index)
    (level : pattern.depthBetween base index = 0) :
    pattern.splitFrom separator start index 0 stop =
      spansBetween start stop (pattern.separators base separator index stop) := by
  -- `base` stays where it is: at every place that is reached outside brackets the depth is zero.
  induction balanced generalizing start with
  | @empty stop =>
      rw [splitFrom, if_neg (Nat.lt_irrefl _), separators, List.Ico.self_empty]
      rfl
  | @plain index stop kind here noBracket rest inductionHypothesis =>
      have bounds := rest.bounds
      have further := (depthBetween_behind_token behind here noBracket).trans level
      rw [splitFrom_of_plain here noBracket bounds.1, inductionHypothesis (by omega) further,
        inductionHypothesis (by omega) further,
        separators_cons behind level here noBracket bounds.1]
      split <;> rfl
  | @scope opening close stop bracket opens body closes rest _ restHypothesis =>
      have bodyBounds := body.bounds
      have restBounds := rest.bounds
      have whole := depthBetween_enclosed opens bodyBounds.1 closes body.depthBetween_eq_zero
      have further : pattern.depthBetween base (close + 1) = 0 := by
        rw [depthBetween_append behind (by omega), level, whole, add_zero]
      have none := separators_scope behind level opens body separator
      rw [splitFrom_of_scope opens body closes restBounds.1, restHypothesis (by omega) further,
        separators_append base separator (by omega : opening ≤ close + 1) restBounds.1, none,
        List.nil_append]

end Spans

/-! ### Trimmed pieces -/

section Trimming

variable {start stop index : Nat}

/-- What is left of a span without the blanks at its ends. -/
structure TrimsTo (pattern : Pattern) (span trimmed : Span) : Prop where
  inside : span.start ≤ trimmed.start ∧ trimmed.stop ≤ span.stop
  ordered : trimmed.start ≤ trimmed.stop
  blankInFront : ∀ index, span.start ≤ index → index < trimmed.start →
    pattern.kindAt? index = some .blank
  blankBehind : ∀ index, trimmed.stop ≤ index → index < span.stop →
    pattern.kindAt? index = some .blank
  solidEnds : trimmed.start < trimmed.stop → pattern.kindAt? trimmed.start ≠ some .blank ∧
    pattern.kindAt? (trimmed.stop - 1) ≠ some .blank

/-- Blanks are skipped up to the first token that is none. -/
theorem skipBlanks_skips (pattern : Pattern) (inside : index ≤ stop) :
    index ≤ pattern.skipBlanks index stop ∧ pattern.skipBlanks index stop ≤ stop ∧
      (∀ other, index ≤ other → other < pattern.skipBlanks index stop →
        pattern.kindAt? other = some .blank) ∧
      (pattern.skipBlanks index stop < stop →
        pattern.kindAt? (pattern.skipBlanks index stop) ≠ some .blank) := by
  fun_induction skipBlanks pattern index stop with
  | case1 index more blank inductionHypothesis =>
      obtain ⟨behind, before, blanks, solid⟩ := inductionHypothesis more
      refine ⟨by omega, before, fun other after skipped => ?_, solid⟩
      by_cases first : index = other
      · exact first ▸ blank
      · exact blanks other (by omega) skipped
  | case2 index more solid => exact ⟨Nat.le_refl _, inside, by omega, fun _ => solid⟩
  | case3 index none => exact ⟨Nat.le_refl _, inside, by omega, fun more => absurd more none⟩

/-- Blanks are dropped from the end back to the last token that is none. -/
theorem trimStop_drops (pattern : Pattern) (inside : start ≤ stop) :
    start ≤ pattern.trimStop start stop ∧ pattern.trimStop start stop ≤ stop ∧
      (∀ other, pattern.trimStop start stop ≤ other → other < stop →
        pattern.kindAt? other = some .blank) ∧
      (start < pattern.trimStop start stop →
        pattern.kindAt? (pattern.trimStop start stop - 1) ≠ some .blank) := by
  induction stop with
  | zero => exact ⟨inside, Nat.le_refl _, by omega, fun more => absurd more (Nat.not_lt_zero _)⟩
  | succ last inductionHypothesis =>
      unfold trimStop
      split
      · next drops =>
          obtain ⟨more, blank⟩ := drops
          obtain ⟨behind, before, blanks, solid⟩ := inductionHypothesis (Nat.le_of_lt_succ more)
          refine ⟨behind, by omega, fun other after dropped => ?_, solid⟩
          by_cases final : other = last
          · exact final ▸ blank
          · exact blanks other after (by omega)
      · next keeps =>
          refine ⟨inside, Nat.le_refl _, by omega, fun more blank => keeps ⟨more, ?_⟩⟩
          exact blank

theorem trimsTo_trimSpan (pattern : Pattern) {span : Span} (ordered : span.start ≤ span.stop) :
    TrimsTo pattern span (pattern.trimSpan span) := by
  obtain ⟨behind, within, blankInFront, solidFront⟩ := skipBlanks_skips pattern ordered
  obtain ⟨left, before, blankBehind, solidBack⟩ := trimStop_drops pattern within
  refine ⟨⟨behind, before⟩, left, blankInFront, blankBehind, fun more => ⟨solidFront ?_, ?_⟩⟩
  · exact Nat.lt_of_lt_of_le more before
  · exact solidBack more

end Trimming

/-! ### Splitting a range -/

section Splitting

variable {pattern : Pattern} {opening start close : Nat}

/-- Every bracket that is opened in the span is closed in it. -/
def ClosesItsScopes (pattern : Pattern) (span : Span) : Prop :=
  ∀ opening bracket, span.start ≤ opening → opening < span.stop →
    pattern.kindAt? opening = some (.opens bracket) →
    ∃ close, pattern.scopeClose opening = .ok close ∧ opening < close ∧ close < span.stop

/-- A span from one bracket depth on, cut at the separators that stand at this depth: the pieces
begin at the start of the span and behind each separator, they end at each separator and at the end
of the span, and brackets nest in each of them. -/
structure IsPartition (pattern : Pattern) (base : Nat) (separator : TokenKind) (span : Span)
    (pieces : List Span) : Prop where
  starts : pieces.map Span.start =
    span.start :: (pattern.separators base separator span.start span.stop).map (· + 1)
  stops : pieces.map Span.stop =
    pattern.separators base separator span.start span.stop ++ [span.stop]
  count : pieces.length = (pattern.separators base separator span.start span.stop).length + 1
  ordered : ∀ piece ∈ pieces, piece.start ≤ piece.stop
  nests : ∀ piece ∈ pieces, Balanced pattern piece.start piece.stop
  closesScopes : ∀ piece ∈ pieces, ClosesItsScopes pattern piece

theorem Balanced.closesItsScopes {span : Span}
    (balanced : Balanced pattern span.start span.stop) : ClosesItsScopes pattern span := by
  intro opening bracket behind inside opens
  obtain ⟨close, before, body, closes⟩ := balanced.exists_closer behind inside opens
  have bounds := body.bounds
  exact ⟨close, Closes.found ⟨bounds.1, body, closes⟩ opens, bounds.1, before⟩

theorem isPartition_split {base stop : Nat} (balanced : Balanced pattern start stop)
    (behind : base ≤ start) (level : pattern.depthBetween base start = 0)
    (separator : TokenKind) :
    IsPartition pattern base separator ⟨start, stop⟩
      (pattern.split ⟨start, stop⟩ separator) := by
  have cuts : Cuts pattern start stop (pattern.split ⟨start, stop⟩ separator) := cuts_split balanced
  have pieces : pattern.split ⟨start, stop⟩ separator =
      spansBetween start stop (pattern.separators base separator start stop) :=
    splitFrom_eq_spansBetween balanced behind level
  have stops := spansBetween_stops start stop (pattern.separators base separator start stop)
  refine ⟨?_, ?_, ?_, fun piece member => (cuts.balanced piece member).bounds.1, cuts.balanced,
    fun piece member => (cuts.balanced piece member).closesItsScopes⟩
  · rw [pieces, spansBetween_starts]
  · rw [pieces, stops]
  · rw [pieces, ← List.length_map Span.stop, stops, List.length_append, List.length_singleton]

/-- In a scope, what begins outside brackets and goes up to the closer is cut at the separators
outside brackets and nowhere else, and trimming takes only blanks away. -/
theorem split_is_partition (found : pattern.scopeClose opening = .ok close)
    (behind : opening < start) (inside : start ≤ close)
    (level : pattern.depthBetween (opening + 1) start = 0) (separator : TokenKind) :
    IsPartition pattern (opening + 1) separator ⟨start, close⟩
        (pattern.split ⟨start, close⟩ separator) ∧
      List.Forall₂ (TrimsTo pattern) (pattern.split ⟨start, close⟩ separator)
        (pattern.splitTrimmed ⟨start, close⟩ separator) := by
  obtain ⟨bracket, -, body, -⟩ := enclosed_of_scopeClose found
  have partition := isPartition_split (body.of_depthBetween_eq_zero behind inside level) behind
    level separator
  refine ⟨partition, ?_⟩
  rw [splitTrimmed, List.forall₂_map_right_iff, List.forall₂_same]
  exact fun piece member => trimsTo_trimSpan pattern (partition.ordered piece member)

end Splitting

/-! ### Arguments with a block among them

The separator in the block cuts nothing, and behind the last separator stands an empty piece. -/

namespace BlockArgument

def pattern : Pattern where
  name := "arguments"
  source := "[f: a;\x7bb;c\x7d;]"
  tokens := #[⟨.opens .square, "[", .start⟩, ⟨.text, "f", ⟨1, 2, 1⟩⟩, ⟨.colon, ":", ⟨1, 3, 2⟩⟩,
    ⟨.blank, " ", ⟨1, 4, 3⟩⟩, ⟨.text, "a", ⟨1, 5, 4⟩⟩, ⟨.semicolon, ";", ⟨1, 6, 5⟩⟩,
    ⟨.opens .brace, "\x7b", ⟨1, 7, 6⟩⟩, ⟨.text, "b", ⟨1, 8, 7⟩⟩, ⟨.semicolon, ";", ⟨1, 9, 8⟩⟩,
    ⟨.text, "c", ⟨1, 10, 9⟩⟩, ⟨.closes .brace, "\x7d", ⟨1, 11, 10⟩⟩,
    ⟨.semicolon, ";", ⟨1, 12, 11⟩⟩, ⟨.closes .square, "]", ⟨1, 13, 12⟩⟩]

theorem scopeClose_tag : pattern.scopeClose 0 = .ok 12 := by
  simp [scopeClose, closeFrom, pattern]

theorem split_arguments :
    pattern.scopeClose 0 = .ok 12 ∧ pattern.depthBetween 1 3 = 0 ∧
      IsPartition pattern 1 .semicolon ⟨3, 12⟩ (pattern.split ⟨3, 12⟩ .semicolon) ∧
      List.Forall₂ (TrimsTo pattern) (pattern.split ⟨3, 12⟩ .semicolon)
        (pattern.splitTrimmed ⟨3, 12⟩ .semicolon) :=
  ⟨scopeClose_tag, by decide,
    split_is_partition scopeClose_tag (by decide) (by decide) (by decide) .semicolon⟩

example : pattern.splitTrimmed ⟨3, 12⟩ .semicolon = [⟨4, 5⟩, ⟨6, 11⟩, ⟨12, 12⟩] := by
  decide +kernel

end BlockArgument

end SeededText.Pattern
