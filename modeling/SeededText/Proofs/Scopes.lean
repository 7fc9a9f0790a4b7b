import SeededText.Proofs.Brackets

/-!
Contract: a scope closes at the bracket that matches its opener.

The closer of a scope is the only one of its kind behind a balanced range. A scope that has none
breaks at the first closer that does not match the innermost bracket open there, or is left open
to the end of the pattern, which is reported at its opener.

Owns: closers and stray closers of a scope, the brackets that are open at a place.
Does not own: balanced ranges and what is cut out of them (`SeededText.Proofs.Brackets`).
-/

namespace SeededText.Pattern

/-! ### Brackets of a balanced range -/

namespace Balanced

variable {pattern : Pattern} {index inner other stop opening close : Nat} {bracket : Bracket}

/-- A balanced range does not reach over a closer that has no opener in it. -/
theorem stop_le_closer (balanced : Balanced pattern index stop)
    (body : Balanced pattern index close)
    (closes : pattern.kindAt? close = some (.closes bracket)) : stop ≤ close := by
  induction body with
  | @empty index inside =>
      cases balanced with
      | empty => exact Nat.le_refl _
      | plain here noBracket =>
          rw [closes] at here
          cases here
          cases noBracket
      | scope opens => simp [closes] at opens
  | @plain index close kind here noBracket rest inductionHypothesis =>
      have bounds := rest.bounds
      by_cases inside : index < stop
      · exact inductionHypothesis (balanced.tail inside here noBracket) closes
      · omega
  | @scope opening inner close other opens body innerCloses rest _ inductionHypothesis =>
      have bodyBounds := body.bounds
      have restBounds := rest.bounds
      by_cases inside : opening < stop
      · have left := balanced.behind_scope inside opens body innerCloses
        exact inductionHypothesis left.2 closes
      · omega

/-- A bracket that is opened in a balanced range is closed in it. -/
theorem exists_closer (balanced : Balanced pattern index stop) (behind : index ≤ opening)
    (inside : opening < stop) (opens : pattern.kindAt? opening = some (.opens bracket)) :
    ∃ close, close < stop ∧ Balanced pattern (opening + 1) close ∧
      pattern.kindAt? close = some (.closes bracket) := by
  induction balanced with
  | empty => omega
  | @plain index stop kind here noBracket rest inductionHypothesis =>
      by_cases first : index = opening
      · subst first
        rw [opens] at here
        cases here
        cases noBracket
      · exact inductionHypothesis (by omega) inside
  | @scope first closer stop other firstOpens body closes rest bodyHypothesis restHypothesis =>
      have restBounds := rest.bounds
      by_cases same : first = opening
      · subst same
        rw [opens] at firstOpens
        cases firstOpens
        exact ⟨closer, by omega, body, closes⟩
      by_cases within : opening < closer
      · obtain ⟨close, before, found⟩ := bodyHypothesis (by omega) within
        exact ⟨close, by omega, found⟩
      by_cases atCloser : opening = closer
      · subst atCloser
        simp [opens] at closes
      · exact restHypothesis (by omega) inside

/-- Where a balanced range ends, no bracket is open that was opened in it. -/
theorem innermost_le (body : Balanced pattern (inner + 1) index)
    (otherOpens : pattern.kindAt? other = some (.opens bracket))
    (otherBody : Balanced pattern (other + 1) index) : other ≤ inner := by
  have bounds := otherBody.bounds
  by_cases behind : inner < other
  · obtain ⟨close, before, closed, closes⟩ :=
      body.exists_closer (by omega) (by omega) otherOpens
    have inside := otherBody.stop_le_closer closed closes
    omega
  · omega

/-- One bracket is the innermost of those that are open at a place. -/
theorem innermost_unique {otherBracket : Bracket}
    (opens : pattern.kindAt? inner = some (.opens bracket))
    (body : Balanced pattern (inner + 1) index)
    (otherOpens : pattern.kindAt? other = some (.opens otherBracket))
    (otherBody : Balanced pattern (other + 1) index) : inner = other :=
  Nat.le_antisymm (otherBody.innermost_le opens body) (body.innermost_le otherOpens otherBody)

end Balanced

/-! ### How a scope ends -/

section Ends

variable {pattern : Pattern} {opening index close : Nat} {opener : Token} {bracket : Bracket}
  {expected outer : List Bracket}

/-- The closer of the scope of a bracket: brackets nest between the two, and they match. -/
structure Closes (pattern : Pattern) (bracket : Bracket) (opening close : Nat) : Prop where
  behind : opening < close
  nests : Balanced pattern (opening + 1) close
  closer : pattern.kindAt? close = some (.closes bracket)

/-- A closer that does not match the innermost bracket open where it stands, among those from
`opening` on. Behind the innermost open bracket, brackets nest up to the place. -/
def IsStray (pattern : Pattern) (opening index : Nat) : Prop :=
  ∃ inner bracket other, opening ≤ inner ∧ pattern.kindAt? inner = some (.opens bracket) ∧
    Balanced pattern (inner + 1) index ∧ pattern.kindAt? index = some (.closes other) ∧
    other ≠ bracket

/-- What is wrong with a scope that does not close: the first stray closer, if the scope has not
closed before it, or that there is none and the opener is left open. -/
inductive Breaks (pattern : Pattern) (opening : Nat) (opener : Token) (bracket : Bracket) :
    Located ScopeProblem → Prop
  | stray {index : Nat} {token : Token} (read : pattern.tokens[index]? = some token)
      (stray : IsStray pattern opening index)
      (first : ∀ earlier < index, ¬ IsStray pattern opening earlier)
      (unclosed : ∀ close < index, ¬ Closes pattern bracket opening close) :
      Breaks pattern opening opener bracket
        ⟨token.position, .strayCloser token.value opener.position⟩
  | unterminated (noStray : ∀ index, ¬ IsStray pattern opening index)
      (unclosed : ∀ close, ¬ Closes pattern bracket opening close) :
      Breaks pattern opening opener bracket ⟨opener.position, .unterminated opener.value⟩

theorem Closes.unique {other : Nat} (closes : Closes pattern bracket opening close)
    (otherCloses : Closes pattern bracket opening other) : close = other :=
  closes.nests.closer_unique closes.closer otherCloses.nests otherCloses.closer

/-- No closer up to that of the scope is stray. -/
theorem Closes.not_isStray (closes : Closes pattern bracket opening close)
    (opens : pattern.kindAt? opening = some (.opens bracket)) (upTo : index ≤ close) :
    ¬ IsStray pattern opening index := by
  rintro ⟨inner, innerBracket, other, behind, innerOpens, body, strays, differ⟩
  have bounds := body.bounds
  apply differ
  by_cases outermost : inner = opening
  · -- The innermost open bracket is that of the scope, which closes here.
    subst outermost
    have inside := closes.nests.stop_le_closer body strays
    obtain rfl : index = close := by omega
    rw [opens] at innerOpens
    cases innerOpens
    rw [closes.closer] at strays
    cases strays
    rfl
  · obtain ⟨innerClose, before, closed, innerCloses⟩ :=
      closes.nests.exists_closer (by omega) (by omega) innerOpens
    have least := closed.stop_le_closer body strays
    have most := body.stop_le_closer closed innerCloses
    obtain rfl : innerClose = index := by omega
    rw [innerCloses] at strays
    cases strays
    rfl

theorem Breaks.not_closes {located : Located ScopeProblem}
    (breaks : Breaks pattern opening opener bracket located)
    (opens : pattern.kindAt? opening = some (.opens bracket)) :
    ¬ Closes pattern bracket opening close := by
  intro closes
  cases breaks with
  | @stray index token read stray first unclosed =>
      by_cases before : close < index
      · exact unclosed close before closes
      · exact closes.not_isStray opens (by omega) stray
  | unterminated noStray unclosed => exact unclosed close closes

theorem Breaks.unique {located other : Located ScopeProblem}
    (breaks : Breaks pattern opening opener bracket located)
    (otherBreaks : Breaks pattern opening opener bracket other) : located = other := by
  cases breaks with
  | @stray index token read stray first =>
      cases otherBreaks with
      | @stray otherIndex otherToken otherRead otherStray otherFirst =>
          have noEarlier : ¬ index < otherIndex := fun earlier => otherFirst index earlier stray
          have noLater : ¬ otherIndex < index := fun earlier => first otherIndex earlier otherStray
          obtain rfl : index = otherIndex := by omega
          rw [read] at otherRead
          cases otherRead
          rfl
      | unterminated noStray => exact absurd stray (noStray _)
  | unterminated noStray =>
      cases otherBreaks with
      | stray _ otherStray => exact absurd otherStray (noStray _)
      | unterminated => rfl

/-! ### Looking for the closer -/

/-- The brackets that are open at a place, the innermost first; the last of them is that at
`opening`. -/
inductive StillOpen (pattern : Pattern) (opening : Nat) : List Bracket → Nat → Prop
  | outermost {bracket : Bracket} {index : Nat}
      (opens : pattern.kindAt? opening = some (.opens bracket))
      (body : Balanced pattern (opening + 1) index) : StillOpen pattern opening [bracket] index
  | further {bracket : Bracket} {outer : List Bracket} {inner index : Nat}
      (outside : StillOpen pattern opening outer inner)
      (opens : pattern.kindAt? inner = some (.opens bracket))
      (body : Balanced pattern (inner + 1) index) :
      StillOpen pattern opening (bracket :: outer) index

namespace StillOpen

theorem opening_lt (isOpen : StillOpen pattern opening expected index) : opening < index := by
  induction isOpen with
  | outermost opens body => exact body.bounds.1
  | further outside opens body inductionHypothesis =>
      have bounds := body.bounds
      omega

theorem expected_ne_nil (isOpen : StillOpen pattern opening expected index) : expected ≠ [] := by
  cases isOpen <;> exact List.cons_ne_nil _ _

/-- What is balanced leaves the same brackets open. -/
theorem append {stop : Nat} (isOpen : StillOpen pattern opening expected index)
    (body : Balanced pattern index stop) : StillOpen pattern opening expected stop := by
  cases isOpen with
  | outermost opens first => exact .outermost opens (first.append body)
  | further outside opens first => exact .further outside opens (first.append body)

/-- The first of the open brackets is the innermost, and it is that of the scope if it is alone. -/
theorem exists_innermost (isOpen : StillOpen pattern opening (bracket :: outer) index) :
    ∃ inner, opening ≤ inner ∧ pattern.kindAt? inner = some (.opens bracket) ∧
      Balanced pattern (inner + 1) index ∧ (inner = opening ↔ outer = []) := by
  cases isOpen with
  | outermost opens body => exact ⟨opening, Nat.le_refl _, opens, body, by simp⟩
  | @further _ _ inner _ outside opens body =>
      have before := outside.opening_lt
      refine ⟨inner, Nat.le_of_lt before, opens, body, ?_⟩
      constructor
      · intro same
        omega
      · intro none
        exact absurd none outside.expected_ne_nil

/-- A closer that matches the innermost open bracket is not stray. -/
theorem not_isStray (isOpen : StillOpen pattern opening (bracket :: outer) index)
    (closes : pattern.kindAt? index = some (.closes bracket)) :
    ¬ IsStray pattern opening index := by
  rintro ⟨inner, innerBracket, other, behind, innerOpens, body, strays, differ⟩
  obtain ⟨innermost, -, opens, innermostBody, -⟩ := isOpen.exists_innermost
  obtain rfl := innermostBody.innermost_unique opens innerOpens body
  apply differ
  rw [opens] at innerOpens
  cases innerOpens
  rw [closes] at strays
  cases strays
  rfl

/-- As long as further brackets are open the scope is not closed. -/
theorem not_closes {scope : Bracket} (isOpen : StillOpen pattern opening (bracket :: outer) index)
    (opens : pattern.kindAt? opening = some (.opens scope)) (more : outer ≠ []) :
    ¬ Closes pattern scope opening index := by
  intro closes
  obtain ⟨innermost, -, innerOpens, body, alone⟩ := isOpen.exists_innermost
  have same := body.innermost_unique innerOpens opens closes.nests
  exact more (alone.mp same)

/-- Behind the closer of the innermost bracket the others are open. -/
theorem behind_closer (isOpen : StillOpen pattern opening (bracket :: outer) index)
    (closes : pattern.kindAt? index = some (.closes bracket)) (more : outer ≠ []) :
    StillOpen pattern opening outer (index + 1) := by
  cases isOpen with
  | outermost => exact absurd rfl more
  | further outside opens body => exact outside.append (.enclosed opens body closes)

/-- The scope closes where its bracket alone is open. -/
theorem closes {last : Bracket} (isOpen : StillOpen pattern opening [last] index)
    (opens : pattern.kindAt? opening = some (.opens bracket))
    (closes : pattern.kindAt? index = some (.closes last)) :
    Closes pattern bracket opening index := by
  obtain ⟨inner, -, innerOpens, body, alone⟩ := isOpen.exists_innermost
  obtain rfl := alone.mpr rfl
  rw [opens] at innerOpens
  cases innerOpens
  exact ⟨isOpen.opening_lt, body, closes⟩

end StillOpen

theorem not_isStray_of_kindAt? {kind : TokenKind} (here : pattern.kindAt? index = some kind)
    (noCloser : ∀ bracket, kind ≠ .closes bracket) : ¬ IsStray pattern opening index := by
  rintro ⟨-, -, other, -, -, -, strays, -⟩
  rw [here] at strays
  exact noCloser other (Option.some.inj strays)

theorem not_closes_of_kindAt? {kind : TokenKind} (here : pattern.kindAt? index = some kind)
    (noCloser : ∀ bracket, kind ≠ .closes bracket) : ¬ Closes pattern bracket opening index := by
  intro closes
  have closer := closes.closer
  rw [here] at closer
  exact noCloser bracket (Option.some.inj closer)

/-- The search has gone up to a place without meeting a stray closer or the closer of the scope. -/
structure SearchedTo (pattern : Pattern) (bracket : Bracket) (opening : Nat)
    (expected : List Bracket) (index : Nat) : Prop where
  isOpen : StillOpen pattern opening expected index
  noStray : ∀ earlier < index, ¬ IsStray pattern opening earlier
  unclosed : ∀ close < index, ¬ Closes pattern bracket opening close

/-- The search goes on behind a token that is neither. -/
theorem SearchedTo.goOn {further : List Bracket}
    (searched : SearchedTo pattern bracket opening expected index)
    (isOpen : StillOpen pattern opening further (index + 1))
    (noStray : ¬ IsStray pattern opening index)
    (unclosed : ¬ Closes pattern bracket opening index) :
    SearchedTo pattern bracket opening further (index + 1) where
  isOpen := isOpen
  noStray earlier before := by
    by_cases last : earlier = index
    · exact last ▸ noStray
    · exact searched.noStray earlier (by omega)
  unclosed close before := by
    by_cases last : close = index
    · exact last ▸ unclosed
    · exact searched.unclosed close (by omega)

/-- The search ends at the closer of the scope, or tells what is wrong with it. -/
theorem SearchedTo.ends (opens : pattern.kindAt? opening = some (.opens bracket))
    (searched : SearchedTo pattern bracket opening expected index) :
    (∃ close, pattern.closeFrom opener expected index = .ok close ∧
        Closes pattern bracket opening close) ∨
      ∃ located, pattern.closeFrom opener expected index = .error located ∧
        Breaks pattern opening opener bracket located := by
  have isOpen := searched.isOpen
  fun_induction closeFrom pattern opener expected index with
  | case1 expected index inside _ inner kind inductionHypothesis =>
      have here := kind ▸ kindAt?_of_lt inside
      have isOpen := StillOpen.further isOpen here (.empty inside)
      have goesOn := searched.goOn isOpen (not_isStray_of_kindAt? here (by simp))
        (not_closes_of_kindAt? here (by simp))
      exact inductionHypothesis goesOn isOpen
  | case2 index inside _ inner outer last kind =>
      have here := kind ▸ kindAt?_of_lt inside
      obtain rfl := List.isEmpty_iff.mp last
      exact .inl ⟨index, rfl, isOpen.closes opens here⟩
  | case3 index inside _ inner outer more kind inductionHypothesis =>
      have here := kind ▸ kindAt?_of_lt inside
      have more : outer ≠ [] := by simpa using more
      have goesOn := searched.goOn (isOpen.behind_closer here more) (isOpen.not_isStray here)
        (isOpen.not_closes opens more)
      exact inductionHypothesis goesOn goesOn.isOpen
  | case4 index inside token other kind innermost outer differ =>
      have here := kind ▸ kindAt?_of_lt inside
      obtain ⟨inner, behind, innerOpens, body, -⟩ := isOpen.exists_innermost
      have stray : IsStray pattern opening index :=
        ⟨inner, innermost, other, behind, innerOpens, body, here, Ne.symm differ⟩
      have read : pattern.tokens[index]? = some token := Array.getElem?_eq_getElem inside
      exact .inr ⟨_, rfl, .stray read stray searched.noStray searched.unclosed⟩
  | case5 => exact absurd rfl isOpen.expected_ne_nil
  | case6 expected index inside _ noOpener noCloser inductionHypothesis =>
      have here := kindAt?_of_lt inside
      have noBracket := (TokenKind.isBracket_eq_false_iff _).mpr ⟨noOpener, noCloser⟩
      have goesOn := searched.goOn (isOpen.append (.token here noBracket))
        (not_isStray_of_kindAt? here noCloser) (not_closes_of_kindAt? here noCloser)
      exact inductionHypothesis goesOn goesOn.isOpen
  | case7 expected index outside =>
      refine .inr ⟨_, rfl, .unterminated ?_ ?_⟩
      · intro other stray
        have inside : other < pattern.length := by
          obtain ⟨_, _, _, -, -, -, closes, -⟩ := stray
          exact lt_of_kindAt? closes
        have before := Nat.lt_of_lt_of_le inside (Nat.le_of_not_lt outside)
        exact searched.noStray other before stray
      · intro close closes
        have inside := lt_of_kindAt? closes.closer
        have before := Nat.lt_of_lt_of_le inside (Nat.le_of_not_lt outside)
        exact searched.unclosed close before closes

/-- At the opener nothing has been met, and its bracket is open behind it. -/
theorem searchedTo_opened (opens : pattern.kindAt? opening = some (.opens bracket)) :
    SearchedTo pattern bracket opening [bracket] (opening + 1) where
  isOpen := .outermost opens (.empty (lt_of_kindAt? opens))
  noStray index before stray := by
    obtain ⟨inner, innerBracket, other, behind, innerOpens, body, -⟩ := stray
    have bounds := body.bounds
    omega
  unclosed close before closes := by
    have behind := closes.behind
    omega

theorem scopeClose_ends (read : pattern.tokens[opening]? = some opener)
    (kind : opener.kind = .opens bracket) :
    (∃ close, pattern.scopeClose opening = .ok close ∧ Closes pattern bracket opening close) ∨
      ∃ located, pattern.scopeClose opening = .error located ∧
        Breaks pattern opening opener bracket located := by
  have opens := kind ▸ kindAt?_of_getElem? read
  have search : pattern.scopeClose opening = pattern.closeFrom opener [bracket] (opening + 1) := by
    simp only [scopeClose, read, kind]
  rw [search]
  exact (searchedTo_opened opens).ends opens

/-- The closer of a scope is found. -/
theorem Closes.found (closes : Closes pattern bracket opening close)
    (opens : pattern.kindAt? opening = some (.opens bracket)) :
    pattern.scopeClose opening = .ok close := by
  obtain ⟨opener, read, kind⟩ := Option.map_eq_some_iff.mp opens
  obtain ⟨other, search, otherCloses⟩ | ⟨located, search, breaks⟩ := scopeClose_ends read kind
  · exact closes.unique otherCloses ▸ search
  · exact absurd closes (breaks.not_closes opens)

/-- The search finds exactly the closer of a scope, of which there is one at most, and otherwise
tells exactly what is wrong with the scope. -/
theorem scopeClose_finds_closer (read : pattern.tokens[opening]? = some opener)
    (kind : opener.kind = .opens bracket) :
    (∀ close, pattern.scopeClose opening = .ok close ↔ Closes pattern bracket opening close) ∧
      (∀ close other, Closes pattern bracket opening close →
        Closes pattern bracket opening other → close = other) ∧
      ∀ located, pattern.scopeClose opening = .error located ↔
        Breaks pattern opening opener bracket located := by
  have opens := kind ▸ kindAt?_of_getElem? read
  refine ⟨fun close => ?_, fun close other closes otherCloses => closes.unique otherCloses,
    fun located => ?_⟩
  · obtain ⟨found, search, closes⟩ | ⟨located, search, breaks⟩ := scopeClose_ends read kind
    · rw [search, Except.ok.injEq]
      constructor
      · rintro rfl
        exact closes
      · exact closes.unique
    · rw [search]
      constructor
      · intro impossible
        cases impossible
      · intro closes
        exact absurd closes (breaks.not_closes opens)
  · obtain ⟨found, search, closes⟩ | ⟨other, search, breaks⟩ := scopeClose_ends read kind
    · rw [search]
      constructor
      · intro impossible
        cases impossible
      · intro breaks
        exact absurd closes (breaks.not_closes opens)
    · rw [search, Except.error.injEq]
      constructor
      · rintro rfl
        exact breaks
      · exact breaks.unique

end Ends

/-! ### A scope with brackets of all kinds

The angle bracket behind its closer is not looked at. -/

namespace Nesting

def pattern : Pattern where
  name := "nesting"
  source := "[\x7b(|)<a>\x7d]>"
  tokens := #[⟨.opens .square, "[", .start⟩, ⟨.opens .brace, "\x7b", ⟨1, 2, 1⟩⟩,
    ⟨.opens .round, "(", ⟨1, 3, 2⟩⟩, ⟨.bar, "|", ⟨1, 4, 3⟩⟩, ⟨.closes .round, ")", ⟨1, 5, 4⟩⟩,
    ⟨.opens .angle, "<", ⟨1, 6, 5⟩⟩, ⟨.text, "a", ⟨1, 7, 6⟩⟩, ⟨.closes .angle, ">", ⟨1, 8, 7⟩⟩,
    ⟨.closes .brace, "\x7d", ⟨1, 9, 8⟩⟩, ⟨.closes .square, "]", ⟨1, 10, 9⟩⟩,
    ⟨.closes .angle, ">", ⟨1, 11, 10⟩⟩]

def opener : Token := ⟨.opens .square, "[", .start⟩

theorem scopeClose_opener :
    pattern.tokens[0]? = some opener ∧ opener.kind = .opens .square ∧
      (∀ close, pattern.scopeClose 0 = .ok close ↔ Closes pattern .square 0 close) ∧
      (∀ close other, Closes pattern .square 0 close → Closes pattern .square 0 other →
        close = other) ∧
      ∀ located, pattern.scopeClose 0 = .error located ↔
        Breaks pattern 0 opener .square located :=
  ⟨rfl, rfl, scopeClose_finds_closer rfl rfl⟩

example : (pattern.scopeClose 0).toOption = some 9 := by decide +kernel

end Nesting

end SeededText.Pattern
