import SeededText.Pattern.Lexer

/-!
Contract: compiled patterns and ranges of their tokens.

Every bracket pair of a pattern nests. `Pattern.scopeClose` finds the closer of an opener,
`Pattern.split` cuts a range at separators outside brackets, and `Pattern.block` gives the items of
a braced block.

Owns: patterns, spans, code (a span of a pattern), scopes, items.
Does not own: what tokens do when they run.
-/

namespace SeededText

open Pattern

/-- A source and its tokens, under a name that faults report. -/
structure Pattern where
  name : String
  source : String
  tokens : Array Token
deriving DecidableEq, Repr, Inhabited

namespace Pattern

/-- Token indices from `start` up to, but not including, `stop`. -/
structure Span where
  start : Nat
  stop : Nat
deriving DecidableEq, Repr, Inhabited

def Span.isEmpty (span : Span) : Bool :=
  span.stop ≤ span.start

inductive ScopeProblem where
  | notAnOpener (spelling : String)
  | strayCloser (spelling : String) (openedAt : Position)
  | unterminated (spelling : String)
deriving DecidableEq, Repr

def ScopeProblem.message : ScopeProblem → String
  | .notAnOpener spelling => s!"'{spelling}' does not open a scope"
  | .strayCloser spelling openedAt =>
      s!"unexpected '{spelling}' inside scope opened at {openedAt.text}"
  | .unterminated spelling => s!"unterminated '{spelling}'"

def compile (name source : String) : Except (Located LexProblem) Pattern :=
  (tokenize source).map fun tokens => ⟨name, source, tokens.toArray⟩

def length (pattern : Pattern) : Nat :=
  pattern.tokens.size

def kindAt? (pattern : Pattern) (index : Nat) : Option TokenKind :=
  pattern.tokens[index]?.map Token.kind

/-- Place of the token at `index`; behind the last token, the place of the last token. -/
def positionAt (pattern : Pattern) (index : Nat) : Position :=
  match pattern.tokens[index]? with
  | some token => token.position
  | none => (pattern.tokens.back?.map Token.position).getD .start

/-- Index of the token that closes the innermost of the brackets `expected` and all around it,
looking from `index` on. -/
def closeFrom (pattern : Pattern) (opener : Token) (expected : List Bracket) (index : Nat) :
    Except (Located ScopeProblem) Nat :=
  if inside : index < pattern.tokens.size then
    let token := pattern.tokens[index]
    match token.kind with
    | .opens bracket => closeFrom pattern opener (bracket :: expected) (index + 1)
    | .closes bracket =>
        match expected with
        | innermost :: outer =>
            if innermost = bracket then
              if outer.isEmpty then .ok index else closeFrom pattern opener outer (index + 1)
            else .error ⟨token.position, .strayCloser token.value opener.position⟩
        | [] => .error ⟨token.position, .strayCloser token.value opener.position⟩
    | _ => closeFrom pattern opener expected (index + 1)
  else .error ⟨opener.position, .unterminated opener.value⟩
termination_by pattern.tokens.size - index

theorem closeFrom_bounds {pattern : Pattern} {opener : Token} {expected : List Bracket}
    {index close : Nat} (found : closeFrom pattern opener expected index = .ok close) :
    index ≤ close ∧ close < pattern.length := by
  fun_induction closeFrom pattern opener expected index with
  | case1 _ _ _ _ _ _ inductionHypothesis | case3 _ _ _ _ _ _ _ inductionHypothesis
  | case6 _ _ _ _ _ _ inductionHypothesis =>
      have bounds := inductionHypothesis found
      omega
  | case2 _ inside =>
      cases found
      exact ⟨Nat.le_refl _, inside⟩
  | case4 | case5 | case7 => simp at found

/-- Index of the token that closes the bracket opened at `opening`. -/
def scopeClose (pattern : Pattern) (opening : Nat) : Except (Located ScopeProblem) Nat :=
  match pattern.tokens[opening]? with
  | none => .error ⟨.start, .notAnOpener ""⟩
  | some opener =>
      match opener.kind with
      | .opens bracket => closeFrom pattern opener [bracket] (opening + 1)
      | _ => .error ⟨opener.position, .notAnOpener opener.value⟩

/-- A closer stands behind its opener. -/
theorem scopeClose_bounds {pattern : Pattern} {opening close : Nat}
    (found : pattern.scopeClose opening = .ok close) :
    opening < close ∧ close < pattern.length := by
  unfold scopeClose at found
  split at found
  · simp at found
  · split at found
    · exact closeFrom_bounds found
    · simp at found

/-- Spans between separators at depth zero, from `index` up to `stop`; the current span began at
`start`. A closer at depth zero leaves the depth at zero. -/
def splitFrom (pattern : Pattern) (separator : TokenKind) (start index depth stop : Nat) :
    List Span :=
  if index < stop then
    match pattern.kindAt? index with
    | some (.opens _) => splitFrom pattern separator start (index + 1) (depth + 1) stop
    | some (.closes _) => splitFrom pattern separator start (index + 1) (depth - 1) stop
    | some kind =>
        if kind = separator ∧ depth = 0 then
          ⟨start, index⟩ :: splitFrom pattern separator (index + 1) (index + 1) depth stop
        else splitFrom pattern separator start (index + 1) depth stop
    | none => splitFrom pattern separator start (index + 1) depth stop
  else [⟨start, stop⟩]
termination_by stop - index

/-- First index from `index` up to `stop` that is not blank, else `stop`. -/
def skipBlanks (pattern : Pattern) (index stop : Nat) : Nat :=
  if index < stop then
    if pattern.kindAt? index = some .blank then skipBlanks pattern (index + 1) stop else index
  else index
termination_by stop - index

theorem skipBlanks_self (pattern : Pattern) (stop : Nat) : pattern.skipBlanks stop stop = stop := by
  rw [skipBlanks, if_neg (Nat.lt_irrefl stop)]

theorem skipBlanks_of_solid {pattern : Pattern} {index : Nat}
    (solid : pattern.kindAt? index ≠ some .blank) (stop : Nat) :
    pattern.skipBlanks index stop = index := by
  rw [skipBlanks, if_neg solid, ite_self]

/-- The end of a span without its last blank tokens. -/
def trimStop (pattern : Pattern) (start : Nat) : Nat → Nat
  | 0 => 0
  | last + 1 =>
      if start < last + 1 ∧ pattern.kindAt? last = some .blank then trimStop pattern start last
      else last + 1

/-- The span without blank tokens at either end. -/
def trimSpan (pattern : Pattern) (span : Span) : Span :=
  let start := pattern.skipBlanks span.start span.stop
  ⟨start, pattern.trimStop start span.stop⟩

/-- Spans between the separators of a span that stand outside brackets. -/
def split (pattern : Pattern) (span : Span) (separator : TokenKind) : List Span :=
  splitFrom pattern separator span.start span.start 0 span.stop

def splitTrimmed (pattern : Pattern) (span : Span) (separator : TokenKind) : List Span :=
  (pattern.split span separator).map pattern.trimSpan

def slice (pattern : Pattern) (span : Span) : Array Token :=
  pattern.tokens.extract span.start span.stop

/-- Values of the tokens of a span, one behind the other. -/
def spanText (pattern : Pattern) (span : Span) : String :=
  (pattern.slice span).foldl (fun text token => text ++ token.value) ""

/-- The items between the brackets at `opening` and `close`. A body of blanks has none. -/
def itemsBetween (pattern : Pattern) (opening close : Nat) : Array Span :=
  let body : Span := ⟨opening + 1, close⟩
  if (pattern.trimSpan body).isEmpty then #[] else (pattern.split body .bar).toArray

/-- The items of a braced block, and the index behind its closing brace. -/
structure Block where
  items : Array Span
  stop : Nat
deriving DecidableEq, Repr

/-- The block opened at `opening`. -/
def block (pattern : Pattern) (opening : Nat) : Except (Located ScopeProblem) Block := do
  let close ← pattern.scopeClose opening
  return ⟨pattern.itemsBetween opening close, close + 1⟩

end Pattern

/-- A range of tokens that can run. -/
structure Code where
  pattern : Pattern
  span : Pattern.Span
deriving DecidableEq, Repr, Inhabited

namespace Code

/-- All tokens of a pattern. -/
def whole (pattern : Pattern) : Code :=
  ⟨pattern, 0, pattern.length⟩

def tokens (code : Code) : Array Token :=
  code.pattern.slice code.span

def text (code : Code) : String :=
  code.pattern.spanText code.span

def isVerbatim (code : Code) : Bool :=
  code.tokens.all fun token => token.kind.isVerbatim

/-- The token at an index before the end of the code. -/
def tokenAt? (code : Code) (index : Nat) : Option Token :=
  if index < code.span.stop then code.pattern.tokens[index]? else none

/-- The token before the end is that of the pattern. -/
theorem read_of_tokenAt? {code : Code} {index : Nat} {token : Token}
    (found : code.tokenAt? index = some token) :
    index < code.span.stop ∧ code.pattern.tokens[index]? = some token := by
  unfold tokenAt? at found
  split at found
  · next inside => exact ⟨inside, found⟩
  · cases found

theorem lt_stop_of_tokenAt? {code : Code} {index : Nat} {token : Token}
    (found : code.tokenAt? index = some token) : index < code.span.stop :=
  (read_of_tokenAt? found).1

end Code

end SeededText
