import SeededText.Proofs.QueryRanges

/-!
Contract: reading the filters of queries.

For each part of the reader there are two facts: it reads a derivation up to its end, whatever
follows, and where it reports nothing it has read one. A group of classes is the exception to
"whatever follows": it goes on behind a bar.

Owns: blanks and single tokens, groups of classes, regexes, ranges in parentheses, one filter of
a query and what it adds to the query.
Does not own: the text of ranges (`SeededText.Proofs.QueryRanges`), carriers and whole queries
(`SeededText.Proofs.QueryReading`).
-/

namespace SeededText.Vocabulary.Grammar

open Pattern Text

/-! ### Blanks and terminals -/

section Terminals

variable {kind : TokenKind} {blanks front tokens rest : List Token} {token : Token}

theorem skipBlankTokens_append (spaced : Blanks blanks) (rest : List Token) :
    skipBlankTokens (blanks ++ rest) = skipBlankTokens rest :=
  List.dropWhile_append_of_pos fun token member => decide_eq_true (spaced token member)

theorem skipBlankTokens_cons (solid : token.kind ≠ .blank) (rest : List Token) :
    skipBlankTokens (token :: rest) = token :: rest :=
  List.dropWhile_cons_of_neg (by simpa using solid)

theorem exists_blanks (tokens : List Token) :
    ∃ blanks, Blanks blanks ∧ tokens = blanks ++ skipBlankTokens tokens := by
  refine ⟨tokens.takeWhile fun token => token.kind = .blank, ?_, ?_⟩
  · intro token member
    simpa using List.mem_takeWhile_imp member
  · exact List.takeWhile_append_dropWhile.symm

theorem skipBlankTokens_idem (tokens : List Token) :
    skipBlankTokens (skipBlankTokens tokens) = skipBlankTokens tokens := by
  obtain ⟨blanks, spaced, split⟩ := exists_blanks tokens
  rw [← skipBlankTokens_append spaced (skipBlankTokens tokens), ← split]

theorem blanks_of_skipBlankTokens (ends : skipBlankTokens tokens = []) : Blanks tokens := by
  obtain ⟨blanks, spaced, split⟩ := exists_blanks tokens
  rw [ends, List.append_nil] at split
  exact split ▸ spaced

theorem skipBlankTokens_of_blanks (spaced : Blanks blanks) : skipBlankTokens blanks = [] := by
  have skipped := skipBlankTokens_append spaced []
  rwa [List.append_nil] at skipped

theorem Blanks.nil : Blanks [] :=
  nofun

theorem Blanks.single (isBlank : token.kind = .blank) : Blanks [token] :=
  List.forall_mem_singleton.mpr isBlank

theorem Terminal.single (same : token.kind = kind) : Terminal kind [token] token :=
  .behind .nil same

theorem Terminal.behindBlank {blank : Token} (isBlank : blank.kind = .blank)
    (same : token.kind = kind) : Terminal kind [blank, token] token :=
  .behind (.single isBlank) same

theorem Terminal.kind_eq (terminal : Terminal kind front token) : token.kind = kind := by
  cases terminal with
  | behind _ same => exact same

theorem Terminal.skipBlankTokens (terminal : Terminal kind front token) (solid : kind ≠ .blank)
    (rest : List Token) : skipBlankTokens (front ++ rest) = token :: rest := by
  cases terminal with
  | behind spaced same =>
      rw [List.append_assoc, skipBlankTokens_append spaced]
      exact skipBlankTokens_cons (same ▸ solid) rest

theorem Terminal.length_pos (terminal : Terminal kind front token) : 0 < front.length := by
  cases terminal
  simp

theorem exists_terminal (found : skipBlankTokens tokens = token :: rest)
    (same : token.kind = kind) :
    ∃ front, Terminal kind front token ∧ tokens = front ++ rest := by
  obtain ⟨blanks, spaced, split⟩ := exists_blanks tokens
  refine ⟨blanks ++ [token], .behind spaced same, ?_⟩
  rw [List.append_assoc, List.singleton_append, ← found]
  exact split

/-- The kind of the first token that is no blank. -/
def nextKind? (tokens : List Token) : Option TokenKind :=
  (skipBlankTokens tokens).head?.map Token.kind

theorem Terminal.nextKind? (terminal : Terminal kind front token) (solid : kind ≠ .blank)
    (rest : List Token) : nextKind? (front ++ rest) = some kind := by
  rw [Grammar.nextKind?, terminal.skipBlankTokens solid, ← terminal.kind_eq]
  rfl

theorem nextKind?_of_skipBlankTokens (found : skipBlankTokens tokens = token :: rest) :
    nextKind? tokens = some token.kind := by
  rw [nextKind?, found]
  rfl

theorem nextKind?_of_blanks (spaced : Blanks blanks) : nextKind? blanks = none := by
  rw [nextKind?, skipBlankTokens_of_blanks spaced]
  rfl

theorem takeKind_of_terminal (terminal : Terminal kind front token) (solid : kind ≠ .blank)
    (rest : List Token) : takeKind kind (skipBlankTokens (front ++ rest)) = (true, rest) := by
  rw [terminal.skipBlankTokens solid]
  exact if_pos terminal.kind_eq

theorem takeKind_of_ne (other : nextKind? tokens ≠ some kind) :
    takeKind kind (skipBlankTokens tokens) = (false, skipBlankTokens tokens) := by
  cases found : skipBlankTokens tokens with
  | nil => rfl
  | cons token rest =>
      rw [nextKind?_of_skipBlankTokens found] at other
      exact if_neg fun same => other (congrArg some same)

theorem exists_terminal_of_nextKind? (next : nextKind? tokens = some kind) :
    ∃ front token rest, Terminal kind front token ∧ tokens = front ++ rest := by
  cases found : skipBlankTokens tokens with
  | nil =>
      rw [nextKind?, found] at next
      cases next
  | cons token rest =>
      rw [nextKind?_of_skipBlankTokens found] at next
      obtain ⟨front, terminal, split⟩ := exists_terminal found (Option.some.inj next)
      exact ⟨front, token, rest, terminal, split⟩

end Terminals

/-! ### Names -/

section Readers

variable {what : String} {stop opening : Position} {exclusive : Bool}
  {front tokens rest : List Token} {name : Token}

theorem readText_append (text : Terminal .text front name) :
    readText what stop (front ++ rest) = ⟨some name, [], rest⟩ := by
  unfold readText
  rw [text.skipBlankTokens (by decide)]
  exact if_pos text.kind_eq

/-- A name is read, or a problem is reported and there is no name. -/
theorem readText_cases (what : String) (stop : Position) (tokens : List Token) :
    (∃ front name rest, Terminal .text front name ∧ tokens = front ++ rest) ∨
      (readText what stop tokens).value = none ∧ (readText what stop tokens).diagnostics ≠ [] := by
  unfold readText
  split
  · exact .inr ⟨rfl, List.cons_ne_nil _ _⟩
  · rename_i name rest found
    split
    · rename_i isText
      obtain ⟨front, text, split⟩ := exists_terminal found isText
      exact .inl ⟨front, name, rest, text, split⟩
    · exact .inr ⟨rfl, List.cons_ne_nil _ _⟩

theorem exists_of_readText (silent : (readText what stop tokens).diagnostics = []) :
    ∃ front name rest, Terminal .text front name ∧ tokens = front ++ rest := by
  rcases readText_cases what stop tokens with found | ⟨-, reported⟩
  · exact found
  · exact absurd silent reported

theorem readText_skipBlankTokens :
    readText what stop (skipBlankTokens tokens) = readText what stop tokens := by
  unfold readText
  rw [skipBlankTokens_idem]

/-! ### Groups of classes -/

/-- One alternative of a group, as `readClassGroup` reads it. -/
def readAlternative (stop : Position) (exclusive : Bool) (tokens : List Token) :
    Reading (List ClassRule) :=
  let signed := takeKind .exclamation (skipBlankTokens tokens)
  let refused : List Diagnostic :=
    if signed.1 && exclusive then [⟨placeOf stop signed.2, .negatedInExclusive⟩] else []
  let name := readText "class name" stop signed.2
  ⟨name.value.toList.map fun token => ⟨trim token.value, !signed.1⟩,
    refused ++ name.diagnostics, name.rest⟩

theorem readClassGroup_eq :
    readClassGroup stop exclusive tokens =
      let alternative := readAlternative stop exclusive tokens
      match skipBlankTokens alternative.rest with
      | [] => ⟨alternative.value, alternative.diagnostics, []⟩
      | token :: behind =>
          if token.kind = .bar then
            let others := readClassGroup stop exclusive behind
            ⟨alternative.value ++ others.value, alternative.diagnostics ++ others.diagnostics,
              others.rest⟩
          else ⟨alternative.value, alternative.diagnostics, token :: behind⟩ := by
  rw [readClassGroup]
  unfold readAlternative
  dsimp only
  split
  · rename_i ends
    rw [ends]
  · rename_i found
    rw [found]

theorem readAlternative_append {rule : ClassRule} (alternative : Alternative exclusive front rule) :
    readAlternative stop exclusive (front ++ rest) = ⟨[rule], [], rest⟩ := by
  unfold readAlternative
  cases alternative with
  | included text =>
      have unsigned : nextKind? (front ++ rest) ≠ some .exclamation := by
        rw [text.nextKind? (by decide)]
        decide
      rw [takeKind_of_ne unsigned]
      dsimp only
      rw [readText_skipBlankTokens, readText_append text]
      rfl
  | excluded allowed negates text =>
      rw [List.append_assoc, takeKind_of_terminal negates (by decide), allowed]
      dsimp only
      rw [readText_append text]
      rfl

theorem exists_of_readAlternative
    (silent : (readAlternative stop exclusive tokens).diagnostics = []) :
    ∃ front rule rest, Alternative exclusive front rule ∧ tokens = front ++ rest := by
  unfold readAlternative at silent
  obtain ⟨permitted, named⟩ := List.append_eq_nil_iff.mp silent
  by_cases signed : nextKind? tokens = some .exclamation
  · obtain ⟨first, sign, behind, negates, rfl⟩ := exists_terminal_of_nextKind? signed
    rw [takeKind_of_terminal negates (by decide)] at permitted named
    obtain ⟨second, name, rest, text, rfl⟩ := exists_of_readText named
    have allowed : exclusive = false := by
      cases exclusive with
      | false => rfl
      | true => cases permitted
    exact ⟨first ++ second, _, rest, .excluded allowed negates text,
      (List.append_assoc ..).symm⟩
  · rw [takeKind_of_ne signed, readText_skipBlankTokens] at named
    obtain ⟨front, name, rest, text, split⟩ := exists_of_readText named
    exact ⟨front, _, rest, .included text, split⟩

/-- A group is read up to its end, and the blanks behind it are passed over. -/
theorem readClassGroup_append {rules : List ClassRule} (group : Group exclusive front rules)
    (apart : nextKind? rest ≠ some .bar) :
    readClassGroup stop exclusive (front ++ rest) = ⟨rules, [], skipBlankTokens rest⟩ := by
  induction group with
  | last alternative =>
      rw [readClassGroup_eq, readAlternative_append alternative]
      dsimp only
      split
      · rename_i ends
        rw [ends]
      · rename_i token behind found
        rw [nextKind?_of_skipBlankTokens found] at apart
        rw [if_neg fun isBar => apart (congrArg some isBar), found]
  | cons alternative bars _ inductionHypothesis =>
      rw [readClassGroup_eq, List.append_assoc, List.append_assoc,
        readAlternative_append alternative]
      dsimp only
      rw [bars.skipBlankTokens (by decide)]
      dsimp only
      rw [if_pos bars.kind_eq, inductionHypothesis]
      rfl

theorem exists_of_readClassGroup
    (silent : (readClassGroup stop exclusive tokens).diagnostics = []) :
    ∃ front rules rest, Group exclusive front rules ∧ nextKind? rest ≠ some .bar ∧
      tokens = front ++ rest := by
  -- Behind each bar less is left to read.
  induction size : tokens.length using Nat.strong_induction_on generalizing tokens with
  | _ count inductionHypothesis =>
      rw [readClassGroup_eq] at silent
      dsimp only at silent
      have alternativeSilent : (readAlternative stop exclusive tokens).diagnostics = [] := by
        split at silent
        · exact silent
        · split at silent
          · exact (List.append_eq_nil_iff.mp silent).1
          · exact silent
      obtain ⟨front, rule, rest, alternative, rfl⟩ := exists_of_readAlternative alternativeSilent
      rw [readAlternative_append alternative] at silent
      by_cases continues : nextKind? rest = some .bar
      · obtain ⟨separator, bar, behind, bars, rfl⟩ := exists_terminal_of_nextKind? continues
        rw [bars.skipBlankTokens (by decide)] at silent
        dsimp only at silent
        rw [if_pos bars.kind_eq] at silent
        have shorter : behind.length < count := by
          have barLength := bars.length_pos
          rw [← size, List.length_append, List.length_append]
          omega
        obtain ⟨others, rules, rest, group, apart, rfl⟩ :=
          inductionHypothesis behind.length shorter silent rfl
        refine ⟨front ++ separator ++ others, rule :: rules, rest, .cons alternative bars group,
          apart, ?_⟩
        simp only [List.append_assoc]
      · exact ⟨front, [rule], rest, .last alternative, continues, rfl⟩

/-! ### Filters -/

section Filters

variable {sign source closer first : Token} {regex : Regex} {inside : List Token}
  {range : SyllableRange} {query : Query}

theorem readRegexFilter_append (filters : Terminal .regex front source)
    (compiles : Regex.compile source.value = .ok regex) :
    readRegexFilter stop sign (front ++ rest) =
      ⟨some ⟨regex, sign.kind = .question⟩, [], rest⟩ := by
  unfold readRegexFilter
  rw [filters.skipBlankTokens (by decide)]
  dsimp only
  rw [if_pos filters.kind_eq, compiles]

theorem exists_of_readRegexFilter
    (silent : (readRegexFilter stop sign tokens).diagnostics = []) :
    ∃ front source regex rest, Terminal .regex front source ∧
      Regex.compile source.value = .ok regex ∧ tokens = front ++ rest := by
  unfold readRegexFilter at silent
  split at silent
  · cases silent
  · rename_i source rest found
    split at silent
    · rename_i isRegex
      split at silent
      · rename_i regex compiles
        obtain ⟨front, filters, split⟩ := exists_terminal found isRegex
        exact ⟨front, source, regex, rest, filters, compiles, split⟩
      · cases silent
    · cases silent

theorem readRange_append (inner : ∀ token ∈ inside, token.kind ≠ .closes .round)
    (ends : closer.kind = .closes .round) (reads : Range (solidText inside) range) :
    readRange opening (inside ++ closer :: rest) = ⟨some range, [], rest⟩ := by
  have within : (inside ++ closer :: rest).takeWhile
      (fun token => token.kind ≠ .closes .round) = inside := by
    rw [List.takeWhile_append_of_pos fun token member => decide_eq_true (inner token member),
      List.takeWhile_cons_of_neg (by simp [ends]), List.append_nil]
  have read : rangeOfText? (solidText inside) = some range := rangeOfText?_eq_some_iff.mpr reads
  unfold solidText at read
  unfold readRange
  dsimp only
  rw [within, List.drop_left]
  dsimp only
  rw [read]

theorem exists_of_readRange (silent : (readRange opening tokens).diagnostics = []) :
    ∃ inside closer range rest, (∀ token ∈ inside, token.kind ≠ .closes .round) ∧
      closer.kind = .closes .round ∧ Range (solidText inside) range ∧
      tokens = inside ++ closer :: rest := by
  have joined := @List.takeWhile_append_dropWhile _ (fun token : Token =>
    decide (token.kind ≠ .closes .round)) tokens
  generalize inner : tokens.takeWhile (fun token => decide (token.kind ≠ .closes .round)) = inside
    at joined
  generalize outer : tokens.dropWhile (fun token => decide (token.kind ≠ .closes .round)) = rest
    at joined
  unfold readRange at silent
  dsimp only at silent
  rw [inner, ← joined, List.drop_left] at silent
  split at silent
  · cases silent
  · rename_i closer rest
    split at silent
    · rename_i range read
      refine ⟨inside, closer, range, rest, ?_, ?_, rangeOfText?_eq_some_iff.mp read, joined.symm⟩
      · intro token member
        rw [← inner] at member
        simpa using List.mem_takeWhile_imp member
      · have stops := List.head?_dropWhile_not
          (fun token : Token => decide (token.kind ≠ .closes .round)) tokens
        rw [outer] at stops
        simpa using stops
    · cases silent

/-- The query with one filter more; a range takes the place of an earlier one. -/
def filtered (query : Query) : QueryElement → Query
  | .classes group => { query with classFilter := query.classFilter ++ [group] }
  | .regex filter => { query with regexFilters := query.regexFilters ++ [filter] }
  | .syllables range => { query with syllables? := some range }

@[simp] theorem filtered_exclusive {element : QueryElement} :
    (filtered query element).exclusive = query.exclusive := by
  cases element <;> rfl

@[simp] theorem filtered_carrier {element : QueryElement} :
    (filtered query element).carrier = query.carrier := by
  cases element <;> rfl

theorem getLast?_cons_or {α : Type} (value : α) (values : List α) (other? : Option α) :
    (value :: values).getLast?.or other? = values.getLast?.or (some value) := by
  rw [List.getLast?_cons]
  cases values.getLast? <;> rfl

theorem foldl_filtered (elements : List QueryElement) (query : Query) :
    elements.foldl filtered query =
      { query with
        classFilter := query.classFilter ++ elements.filterMap QueryElement.classes?
        regexFilters := query.regexFilters ++ elements.filterMap QueryElement.regex?
        syllables? :=
          (elements.filterMap QueryElement.syllables?).getLast?.or query.syllables? } := by
  induction elements generalizing query with
  | nil => simp
  | cons element elements inductionHypothesis =>
      rw [List.foldl_cons, inductionHypothesis]
      cases element with
      | classes group =>
          simp [filtered, List.filterMap_cons, QueryElement.classes?, QueryElement.regex?,
            QueryElement.syllables?]
      | regex filter =>
          simp [filtered, List.filterMap_cons, QueryElement.classes?, QueryElement.regex?,
            QueryElement.syllables?]
      | syllables range =>
          simp [filtered, List.filterMap_cons, QueryElement.classes?, QueryElement.regex?,
            QueryElement.syllables?, getLast?_cons_or]

theorem Group.ne_nil {rules : List ClassRule} (group : Group exclusive front rules) :
    rules ≠ [] := by
  cases group with
  | last => exact List.cons_ne_nil _ _
  | cons => exact List.cons_ne_nil _ _

theorem readElements_of_blanks (spaced : Blanks tokens) :
    readElements stop query tokens = ⟨query, [], []⟩ := by
  rw [readElements]
  split
  · rfl
  · rename_i found
    rw [skipBlankTokens_of_blanks spaced] at found
    cases found

/-- What the reader does with the first token that is no blank. -/
theorem readElements_eq (found : skipBlankTokens tokens = first :: rest) :
    readElements stop query tokens =
      match first.kind with
      | .hyphen =>
          let group := readClassGroup stop query.exclusive rest
          let others := readElements stop
            { query with classFilter := query.classFilter.addGroup group.value } group.rest
          { others with diagnostics := group.diagnostics ++ others.diagnostics }
      | .question | .exclamation =>
          let filter := readRegexFilter stop first rest
          let others := readElements stop
            { query with regexFilters := query.regexFilters ++ filter.value.toList } filter.rest
          { others with diagnostics := filter.diagnostics ++ others.diagnostics }
      | .opens .round =>
          let range := readRange first.position rest
          let others := readElements stop
            { query with syllables? := range.value.or query.syllables? } range.rest
          { others with diagnostics := range.diagnostics ++ others.diagnostics }
      | .doubleColon =>
          let carrier := readCarrier stop rest
          let missing : List Diagnostic :=
            if carrier.value.isEmpty then [⟨stop, .emptyCarrier⟩] else []
          ⟨{ query with carrier := carrier.value }, carrier.diagnostics ++ missing, carrier.rest⟩
      | _ =>
          let others := readElements stop query rest
          { others with
            diagnostics :=
              ⟨first.position, .unexpectedInQuery first.value⟩ :: others.diagnostics } := by
  rw [readElements]
  split
  · rename_i ends
    rw [ends] at found
    cases found
  · rename_i same
    rw [same] at found
    cases found
    rfl

theorem readElements_congr (same : skipBlankTokens tokens = skipBlankTokens rest) :
    readElements stop query tokens = readElements stop query rest := by
  cases found : skipBlankTokens rest with
  | nil =>
      rw [readElements_of_blanks (blanks_of_skipBlankTokens found),
        readElements_of_blanks (blanks_of_skipBlankTokens (same.trans found))]
  | cons first behind => rw [readElements_eq found, readElements_eq (same.trans found)]

/-- A filter is read up to its end and added to the query. A group would go on behind a bar, other
filters would not. -/
theorem readElements_append {element : QueryElement}
    (begins : Element query.exclusive front element)
    (apart : ∀ group, element = .classes group → nextKind? rest ≠ some .bar) :
    readElements stop query (front ++ rest) = readElements stop (filtered query element) rest := by
  cases begins with
  | classes begins group =>
      rw [List.append_assoc, readElements_eq (begins.skipBlankTokens (by decide) _),
        begins.kind_eq]
      dsimp only
      rw [readClassGroup_append group (apart _ rfl)]
      -- An empty group would not be added.
      have added : query.classFilter.addGroup _ = _ := if_neg (by simpa using group.ne_nil)
      dsimp only
      rw [added]
      exact readElements_congr (skipBlankTokens_idem rest)
  | «matches» begins filters compiles =>
      rw [List.append_assoc, readElements_eq (begins.skipBlankTokens (by decide) _)]
      simp only [begins.kind_eq]
      rw [readRegexFilter_append filters compiles, begins.kind_eq]
      rfl
  | lacks begins filters compiles =>
      rw [List.append_assoc, readElements_eq (begins.skipBlankTokens (by decide) _)]
      simp only [begins.kind_eq]
      rw [readRegexFilter_append filters compiles, begins.kind_eq]
      rfl
  | syllables begins inner ends reads =>
      rw [List.append_assoc, List.append_assoc, List.singleton_append,
        readElements_eq (begins.skipBlankTokens (by decide) _)]
      simp only [begins.kind_eq]
      rw [readRange_append inner ends reads]
      rfl

end Filters

end Readers

end SeededText.Vocabulary.Grammar
