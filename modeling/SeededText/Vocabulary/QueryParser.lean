import SeededText.Number.Numeral
import SeededText.Vocabulary.Query

/-!
Contract: the written form of queries.

A problem does not end the reading: it is reported, what cannot be read is passed over, and the rest
is read on, so one pass reports all problems.

Owns: the grammar of queries, of query macros, and their problems.
Does not own: tokens; what queries answer.
-/

namespace SeededText.Vocabulary

open Pattern Text

inductive QueryProblem where
  | expectedText (what : String) (found? : Option String)
  | invalidMacroName (name : String)
  | textAfterMacroName (text : String)
  | expectedRegex (sign : String)
  | invalidRegex (fault : Regex.Fault)
  | unexpectedInQuery (text : String)
  | negatedInExclusive
  | unterminatedRange
  | invalidRange (text : String)
  | unexpectedInCarrier (text : String)
  | emptyCarrier
deriving DecidableEq, Repr

/-- What is said of a regex that cannot be read. -/
def invalidRegexMessage (fault : Regex.Fault) : String :=
  s!"invalid regex: {fault.message}"

def QueryProblem.message : QueryProblem → String
  | .expectedText what (some found) => s!"expected {what}, found '{found}'"
  | .expectedText what none => s!"expected {what}, found end of query"
  | .invalidMacroName name => s!"invalid macro name '{name}'"
  | .textAfterMacroName text => s!"unexpected '{text}' after macro name"
  | .expectedRegex sign => s!"expected a regex after '{sign}'"
  | .invalidRegex fault => invalidRegexMessage fault
  | .unexpectedInQuery text => s!"unexpected '{text}' in query"
  | .negatedInExclusive => "cannot negate classes in an exclusive query"
  | .unterminatedRange => "unterminated syllable range"
  | .invalidRange text => s!"invalid syllable range '({text})'"
  | .unexpectedInCarrier text => s!"unexpected '{text}' in carrier"
  | .emptyCarrier => "empty carrier"

abbrev Diagnostic := Located QueryProblem

inductive QueryForm where
  | lookup (query : Query)
  /-- A query under a name, for one pattern or for all. -/
  | define (name : String) (isGlobal : Bool) (query : Query)
  | call (name : String)

structure ParsedQuery where
  form : QueryForm
  diagnostics : List Diagnostic

/-- Something read, with its problems and what follows. -/
structure Reading (α : Type) where
  value : α
  diagnostics : List Diagnostic
  rest : List Token

def skipBlankTokens (tokens : List Token) : List Token :=
  tokens.dropWhile fun token => token.kind = .blank

theorem length_skipBlankTokens (tokens : List Token) :
    (skipBlankTokens tokens).length ≤ tokens.length :=
  (List.dropWhile_suffix _).length_le

/-- Place of the next token, or the end. -/
def placeOf (stop : Position) (tokens : List Token) : Position :=
  (tokens.head?.map Token.position).getD stop

/-- Whether a token of the given kind comes next, and what follows it then. -/
def takeKind (kind : TokenKind) : List Token → Bool × List Token
  | [] => (false, [])
  | token :: rest => if token.kind = kind then (true, rest) else (false, token :: rest)

theorem length_takeKind (kind : TokenKind) (tokens : List Token) :
    (takeKind kind tokens).2.length ≤ tokens.length := by
  unfold takeKind
  split
  · exact Nat.le_refl _
  · split
    · exact Nat.le_succ _
    · exact Nat.le_refl _

/-- A text token behind blanks; another token is reported and stays. -/
def readText (what : String) (stop : Position) (tokens : List Token) : Reading (Option Token) :=
  match skipBlankTokens tokens with
  | [] => ⟨none, [⟨stop, .expectedText what none⟩], []⟩
  | token :: rest =>
      if token.kind = .text then ⟨some token, [], rest⟩
      else ⟨none, [⟨token.position, .expectedText what (some token.value)⟩], token :: rest⟩

theorem length_readText (what : String) (stop : Position) (tokens : List Token) :
    (readText what stop tokens).rest.length ≤ tokens.length := by
  have skipped := length_skipBlankTokens tokens
  unfold readText
  split
  · exact Nat.zero_le _
  · rename_i found
    rw [found] at skipped
    split
    · exact Nat.le_of_succ_le skipped
    · exact skipped

/-- Alternatives of class rules, apart by bars. -/
def readClassGroup (stop : Position) (exclusive : Bool) (tokens : List Token) :
    Reading (List ClassRule) :=
  let signed := takeKind .exclamation (skipBlankTokens tokens)
  let refused : List Diagnostic :=
    if signed.1 && exclusive then [⟨placeOf stop signed.2, .negatedInExclusive⟩] else []
  let name := readText "class name" stop signed.2
  let rules := name.value.toList.map fun token => (⟨trim token.value, !signed.1⟩ : ClassRule)
  let rest := skipBlankTokens name.rest
  match _ : rest with
  | [] => ⟨rules, refused ++ name.diagnostics, []⟩
  | token :: behind =>
      if token.kind = .bar then
        let others := readClassGroup stop exclusive behind
        ⟨rules ++ others.value, refused ++ name.diagnostics ++ others.diagnostics, others.rest⟩
      else ⟨rules, refused ++ name.diagnostics, token :: behind⟩
termination_by tokens.length
decreasing_by
  have first := length_skipBlankTokens tokens
  have second := length_takeKind .exclamation (skipBlankTokens tokens)
  have third := length_readText "class name" stop signed.2
  have fourth := length_skipBlankTokens name.rest
  have found : (skipBlankTokens name.rest).length = behind.length + 1 :=
    congrArg List.length ‹rest = token :: behind›
  have signedLength : signed.2.length ≤ (skipBlankTokens tokens).length := second
  have nameLength : name.rest.length ≤ signed.2.length := third
  omega

theorem length_readClassGroup (stop : Position) (exclusive : Bool) (tokens : List Token) :
    (readClassGroup stop exclusive tokens).rest.length ≤ tokens.length := by
  fun_induction readClassGroup stop exclusive tokens with
  | case1 => exact Nat.zero_le _
  | case2 tokens signed refused name rules rest token behind found isBar others
    inductionHypothesis =>
      have first := length_skipBlankTokens tokens
      have second : signed.2.length ≤ (skipBlankTokens tokens).length := length_takeKind _ _
      have third : name.rest.length ≤ signed.2.length := length_readText _ _ _
      have fourth : rest.length ≤ name.rest.length := length_skipBlankTokens _
      have behindLength : rest.length = behind.length + 1 := congrArg List.length found
      have fifth : others.rest.length ≤ behind.length := inductionHypothesis
      show others.rest.length ≤ tokens.length
      omega
  | case3 tokens signed refused name rules rest token behind found isBar =>
      have first := length_skipBlankTokens tokens
      have second : signed.2.length ≤ (skipBlankTokens tokens).length := length_takeKind _ _
      have third : name.rest.length ≤ signed.2.length := length_readText _ _ _
      have fourth : rest.length ≤ name.rest.length := length_skipBlankTokens _
      have behindLength : rest.length = behind.length + 1 := congrArg List.length found
      show behind.length + 1 ≤ tokens.length
      omega

/-- The regex of a filter, whose sign has been read. -/
def readRegexFilter (stop : Position) (sign : Token) (tokens : List Token) :
    Reading (Option RegexFilter) :=
  match skipBlankTokens tokens with
  | [] => ⟨none, [⟨stop, .expectedRegex sign.value⟩], []⟩
  | token :: rest =>
      if token.kind = .regex then
        match Regex.compile token.value with
        | .ok regex => ⟨some ⟨regex, sign.kind = .question⟩, [], rest⟩
        | .error fault => ⟨none, [⟨token.position, .invalidRegex fault⟩], rest⟩
      else ⟨none, [⟨token.position, .expectedRegex sign.value⟩], token :: rest⟩

theorem length_readRegexFilter (stop : Position) (sign : Token) (tokens : List Token) :
    (readRegexFilter stop sign tokens).rest.length ≤ tokens.length := by
  have skipped := length_skipBlankTokens tokens
  unfold readRegexFilter
  split
  · exact Nat.zero_le _
  · rename_i found
    rw [found] at skipped
    split
    · split
      · exact Nat.le_of_succ_le skipped
      · exact Nat.le_of_succ_le skipped
    · exact skipped

/-- A bound of a range, open if nothing is written; no value if it is no number. -/
def readBound? (written : List Char) : Option (Option Nat) :=
  if written.isEmpty then some none else (Number.readWord? written).map some

/-- The range that a text without blanks writes. Both bounds must not be open at once, and they must
be in order. -/
def rangeOfText? (written : List Char) : Option SyllableRange :=
  let lower := written.takeWhile (· != '-')
  match written.drop lower.length with
  | [] => (Number.readWord? written).map SyllableRange.exactly
  | _ :: upper =>
      match readBound? lower, readBound? upper with
      | some none, some none => none
      | some (some least), some (some most) =>
          if least ≤ most then some ⟨some least, some most⟩ else none
      | some least?, some most? => some ⟨least?, most?⟩
      | _, _ => none

/-- A range of syllables, whose parenthesis at `opening` has been read. -/
def readRange (opening : Position) (tokens : List Token) : Reading (Option SyllableRange) :=
  let inside := tokens.takeWhile fun token => token.kind ≠ .closes .round
  match tokens.drop inside.length with
  | [] => ⟨none, [⟨opening, .unterminatedRange⟩], []⟩
  | _ :: rest =>
      let written := (inside.flatMap fun token => token.value.toList).filter fun character =>
        !isBlank character
      match rangeOfText? written with
      | some range => ⟨some range, [], rest⟩
      | none => ⟨none, [⟨opening, .invalidRange (String.ofList written)⟩], rest⟩

theorem length_readRange (opening : Position) (tokens : List Token) :
    (readRange opening tokens).rest.length ≤ tokens.length := by
  have dropped : (tokens.drop
      (tokens.takeWhile fun token => decide (token.kind ≠ .closes .round)).length).length ≤
      tokens.length := by simp only [List.length_drop]; omega
  unfold readRange
  dsimp only
  split
  · exact Nat.zero_le _
  · rename_i found
    rw [found] at dropped
    split
    · exact Nat.le_of_succ_le dropped
    · exact Nat.le_of_succ_le dropped

/-- The kind that the rest of a sigil names behind its `@`. -/
def readGrouping (tokens : List Token) : Grouping × List Token :=
  match tokens with
  | token :: rest =>
      match token.kind with
      | .exclamation => (.dissociative, rest)
      | .plus => (.divergent, rest)
      | .question => (.relational, rest)
      | _ => (.associative, token :: rest)
  | [] => (.associative, [])

theorem length_readGrouping (tokens : List Token) :
    (readGrouping tokens).2.length ≤ tokens.length := by
  unfold readGrouping
  split
  · split <;> simp
  · exact Nat.zero_le _

/-- A sigil, whose first token is given. -/
def readSigil? (first : Token) (tokens : List Token) : Option (CarrierKind × List Token) :=
  match first.kind with
  | .equals => some (.matching, tokens)
  | .exclamation =>
      let (withEquals, rest) := takeKind .equals tokens
      some (if withEquals then .matchUnique else .unique, rest)
  | .ampersand => some (.rhyme, tokens)
  | .atSign =>
      let (grouping, rest) := readGrouping tokens
      let (pins, rest) := takeKind .equals rest
      some (.grouping grouping pins, rest)
  | _ => none

theorem length_readSigil? {first : Token} {tokens rest : List Token} {kind : CarrierKind}
    (read : readSigil? first tokens = some (kind, rest)) : rest.length ≤ tokens.length := by
  unfold readSigil? at read
  split at read
  · simp only [Option.some.injEq, Prod.mk.injEq] at read
    exact read.2 ▸ Nat.le_refl _
  · simp only [Option.some.injEq, Prod.mk.injEq] at read
    exact read.2 ▸ length_takeKind _ _
  · simp only [Option.some.injEq, Prod.mk.injEq] at read
    exact read.2 ▸ Nat.le_refl _
  · simp only [Option.some.injEq, Prod.mk.injEq] at read
    exact read.2 ▸ Nat.le_trans (length_takeKind _ _) (length_readGrouping _)
  · exact absurd read (by simp)

/-- The components of a carrier, up to the end. -/
def readCarrier (stop : Position) (tokens : List Token) : Reading (List CarrierComponent) :=
  match _ : skipBlankTokens tokens with
  | [] => ⟨[], [], []⟩
  | first :: rest =>
      match _ : readSigil? first rest with
      | some (kind, behind) =>
          let name := readText "carrier id" stop behind
          let others := readCarrier stop name.rest
          ⟨(name.value.toList.map fun token => (⟨kind, trim token.value⟩ : CarrierComponent)) ++
              others.value,
            name.diagnostics ++ others.diagnostics, others.rest⟩
      | none =>
          let others := readCarrier stop rest
          ⟨others.value, ⟨first.position, .unexpectedInCarrier first.value⟩ :: others.diagnostics,
            others.rest⟩
termination_by tokens.length
decreasing_by
  · have skipped := length_skipBlankTokens tokens
    rw [‹skipBlankTokens tokens = _›, List.length_cons] at skipped
    have afterSigil := length_readSigil? ‹readSigil? first rest = _›
    have afterName := length_readText "carrier id" stop behind
    omega
  · have skipped := length_skipBlankTokens tokens
    rw [‹skipBlankTokens tokens = _›, List.length_cons] at skipped
    omega

/-- Filters and carrier behind the table of a query. -/
def readElements (stop : Position) (query : Query) (tokens : List Token) : Reading Query :=
  match _ : skipBlankTokens tokens with
  | [] => ⟨query, [], []⟩
  | first :: rest =>
      match first.kind with
      | .hyphen =>
          let group := readClassGroup stop query.exclusive rest
          let others := readElements stop
            { query with classFilter := query.classFilter.addGroup group.value } group.rest
          { others with diagnostics := group.diagnostics ++ others.diagnostics }
      | .question | .exclamation =>
          let filter := readRegexFilter stop first rest
          let others := readElements stop
            { query with regexFilters := query.regexFilters ++ filter.value.toList } filter.rest
          { others with diagnostics := filter.diagnostics ++ others.diagnostics }
      | .opens .round =>
          let range := readRange first.position rest
          let others := readElements stop
            { query with syllables? := range.value.or query.syllables? } range.rest
          { others with diagnostics := range.diagnostics ++ others.diagnostics }
      | .doubleColon =>
          let carrier := readCarrier stop rest
          let missing : List Diagnostic :=
            if carrier.value.isEmpty then [⟨stop, .emptyCarrier⟩] else []
          ⟨{ query with carrier := carrier.value }, carrier.diagnostics ++ missing, carrier.rest⟩
      | _ =>
          let others := readElements stop query rest
          { others with
            diagnostics :=
              ⟨first.position, .unexpectedInQuery first.value⟩ :: others.diagnostics }
termination_by tokens.length
decreasing_by
  all_goals
    have skipped := length_skipBlankTokens tokens
    rw [‹skipBlankTokens tokens = _›, List.length_cons] at skipped
  · have shorter := length_readClassGroup stop query.exclusive rest
    omega
  · have shorter := length_readRegexFilter stop first rest
    omega
  · have shorter := length_readRange first.position rest
    omega
  · omega

/-- The query for a table whose name may have a form behind a point. -/
def queryOfName (name : List Char) : Query :=
  let table := name.takeWhile (· != '.')
  match name.drop table.length with
  | [] => .all (String.ofList table)
  | _ :: subtype =>
      { Query.all (String.ofList table) with subtype? := some (String.ofList subtype) }

/-- A whole query: table, exclusiveness, filters, carrier. -/
def readQuery (stop : Position) (tokens : List Token) : Reading Query :=
  let name := readText "table name" stop tokens
  let query :=
    match name.value with
    | some token => queryOfName (trimmed token.value.toList)
    | none => .all ""
  let (exclusive, rest) := takeKind .dollar (skipBlankTokens name.rest)
  let elements := readElements stop { query with exclusive := exclusive } rest
  { elements with diagnostics := name.diagnostics ++ elements.diagnostics }

/-- The name of a macro, empty if there is none. -/
def readMacroName (stop : Position) (tokens : List Token) : Reading String :=
  let read := readText "macro name" stop tokens
  match read.value with
  | none => ⟨"", read.diagnostics, read.rest⟩
  | some token =>
      let name := trim token.value
      ⟨name, if isName name then [] else [⟨token.position, .invalidMacroName name⟩], read.rest⟩

/-- Definition or call of a macro, whose `@` has been read. -/
def parseMacro (stop : Position) (tokens : List Token) : ParsedQuery :=
  let name := readMacroName stop tokens
  let define (isGlobal : Bool) (rest : List Token) : ParsedQuery :=
    let query := readQuery stop rest
    ⟨.define name.value isGlobal query.value, name.diagnostics ++ query.diagnostics⟩
  match skipBlankTokens name.rest with
  | [] => ⟨.call name.value, name.diagnostics⟩
  | token :: rest =>
      match token.kind with
      | .colon => define false rest
      | .equals => define true rest
      | _ =>
          ⟨.call name.value,
            name.diagnostics ++ [⟨token.position, .textAfterMacroName token.value⟩]⟩

/-- What the tokens of a query say; `stop` is the place behind them. -/
def parseQuery (tokens : List Token) (stop : Position) : ParsedQuery :=
  match takeKind .atSign (skipBlankTokens tokens) with
  | (true, rest) => parseMacro stop rest
  | (false, rest) =>
      let query := readQuery stop rest
      ⟨.lookup query.value, query.diagnostics⟩

end SeededText.Vocabulary
