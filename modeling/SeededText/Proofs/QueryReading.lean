import SeededText.Proofs.QueryFilters

/-!
Contract: reading a query without a problem is deriving it.

The reader reports nothing on the tokens that the grammar derives, and on no others, and what it
returns then is what the derivation says. A sigil is read as long as it goes on; a name follows it,
so that no other reading of the same tokens is derived.

Owns: the agreement of the readers of carriers, queries and macros with the grammar.
Does not own: the grammar (`SeededText.Proofs.QueryGrammar`), filters
(`SeededText.Proofs.QueryFilters`).
-/

namespace SeededText.Vocabulary

open Pattern Text

namespace Grammar

section Readers

variable {stop : Position} {exclusive : Bool} {front tokens rest : List Token} {name : Token}

/-! ### Carriers -/

section Carriers

variable {first : Token} {behind : List Token} {kind : CarrierKind} {grouping : Grouping}

/-- The first token, if there is one, is of none of the kinds. -/
def Avoids (kinds : List TokenKind) (tokens : List Token) : Prop :=
  ∀ token ∈ tokens.head?, token.kind ∉ kinds

theorem Terminal.avoids {kinds : List TokenKind} (text : Terminal .text front name)
    (solid : .blank ∉ kinds) (wordless : .text ∉ kinds) (rest : List Token) :
    Avoids kinds (front ++ rest) := by
  intro token starts
  cases text with
  | @behind blanks _ spaced isText =>
      cases blanks with
      | nil =>
          cases starts
          rwa [isText]
      | cons blank blanks =>
          cases starts
          rwa [spaced _ (List.mem_cons_self ..)]

theorem Avoids.cons {kinds : List TokenKind} (other : first.kind ∉ kinds) :
    Avoids kinds (first :: rest) := by
  intro token starts
  cases starts
  exact other

theorem Avoids.mono {kinds others : List TokenKind} (avoids : Avoids others tokens)
    (subset : kinds ⊆ others) : Avoids kinds tokens :=
  fun token starts member => avoids token starts (subset member)

theorem Avoids.takeKind {kind : TokenKind} (avoids : Avoids [kind] tokens) :
    takeKind kind tokens = (false, tokens) := by
  cases tokens with
  | nil => rfl
  | cons token rest => exact if_neg fun same => avoids token rfl (List.mem_singleton.mpr same)

theorem Avoids.readGrouping (avoids : Avoids [.exclamation, .plus, .question] tokens) :
    readGrouping tokens = (.associative, tokens) := by
  unfold Vocabulary.readGrouping
  split
  · rename_i token rest
    have other := avoids token rfl
    split
    · rename_i same
      exact absurd other (by simp [same])
    · rename_i same
      exact absurd other (by simp [same])
    · rename_i same
      exact absurd other (by simp [same])
    · rfl
  · rfl

theorem exists_of_takeKind {kind : TokenKind} {taken : Bool}
    (read : takeKind kind tokens = (taken, rest)) :
    ∃ sigil, tokens = sigil ++ rest ∧ sigil.map Token.kind = if taken then [kind] else [] := by
  cases tokens with
  | nil =>
      cases read
      exact ⟨[], rfl, rfl⟩
  | cons token behind =>
      rw [takeKind] at read
      split at read
      · rename_i same
        cases read
        exact ⟨[token], rfl, congrArg (fun kind => [kind]) same⟩
      · cases read
        exact ⟨[], rfl, rfl⟩

theorem exists_of_readGrouping (read : readGrouping tokens = (grouping, rest)) :
    ∃ sigil, tokens = sigil ++ rest ∧ sigil.map Token.kind = grouping.sigilKinds := by
  unfold readGrouping at read
  split at read
  · rename_i token behind
    split at read
    all_goals
      rename_i kind
      cases read
    · exact ⟨[token], rfl, congrArg (fun kind => [kind]) kind⟩
    · exact ⟨[token], rfl, congrArg (fun kind => [kind]) kind⟩
    · exact ⟨[token], rfl, congrArg (fun kind => [kind]) kind⟩
    · exact ⟨[], rfl, rfl⟩
  · cases read
    exact ⟨[], rfl, rfl⟩

theorem exists_of_readSigil? (read : readSigil? first tokens = some (kind, rest)) :
    ∃ sigil, tokens = sigil ++ rest ∧ (first :: sigil).map Token.kind = kind.sigilKinds := by
  unfold readSigil? at read
  split at read
  · rename_i isEquals
    cases read
    exact ⟨[], rfl, congrArg (fun kind => [kind]) isEquals⟩
  · rename_i isExclamation
    rcases taken : takeKind .equals tokens with ⟨withEquals, behind⟩
    rw [taken] at read
    cases read
    obtain ⟨sigil, split, signs⟩ := exists_of_takeKind taken
    refine ⟨sigil, split, ?_⟩
    rw [List.map_cons, isExclamation, signs]
    cases withEquals <;> rfl
  · rename_i isAmpersand
    cases read
    exact ⟨[], rfl, congrArg (fun kind => [kind]) isAmpersand⟩
  · rename_i isAtSign
    rcases grouped : readGrouping tokens with ⟨grouping, behind⟩
    rcases taken : takeKind .equals behind with ⟨pins, others⟩
    rw [grouped] at read
    dsimp only at read
    rw [taken] at read
    cases read
    obtain ⟨group, rfl, groupSigns⟩ := exists_of_readGrouping grouped
    obtain ⟨pin, rfl, pinSigns⟩ := exists_of_takeKind taken
    refine ⟨group ++ pin, (List.append_assoc ..).symm, ?_⟩
    rw [List.map_cons, List.map_append, isAtSign, groupSigns, pinSigns]
    rfl
  · cases read

theorem takeKind_append {sigil : List Token} {kind : TokenKind} {taken : Bool}
    (signs : sigil.map Token.kind = if taken then [kind] else []) (avoids : Avoids [kind] rest) :
    takeKind kind (sigil ++ rest) = (taken, rest) := by
  cases taken with
  | false =>
      obtain rfl := List.map_eq_nil_iff.mp signs
      exact avoids.takeKind
  | true =>
      obtain ⟨token, rfl, same⟩ := List.map_eq_singleton_iff.mp signs
      exact if_pos same

theorem readGrouping_append {sigil : List Token}
    (signs : sigil.map Token.kind = grouping.sigilKinds)
    (avoids : Avoids [.exclamation, .plus, .question] rest) :
    readGrouping (sigil ++ rest) = (grouping, rest) := by
  cases grouping with
  | associative =>
      obtain rfl := List.map_eq_nil_iff.mp signs
      exact avoids.readGrouping
  | dissociative | divergent | relational =>
      obtain ⟨token, rfl, same⟩ := List.map_eq_singleton_iff.mp signs
      simp only [List.singleton_append, readGrouping, same]

/-- The whole sigil is read, since no token behind it goes on with it. -/
theorem readSigil?_append {sigil : List Token}
    (signs : (first :: sigil).map Token.kind = kind.sigilKinds)
    (avoids : Avoids [.equals, .exclamation, .plus, .question] rest) :
    readSigil? first (sigil ++ rest) = some (kind, rest) := by
  have unpinned : Avoids [.equals] rest := avoids.mono (by simp)
  have ungrouped : Avoids [.exclamation, .plus, .question] rest := avoids.mono (by simp)
  unfold readSigil?
  cases kind with
  | matching | rhyme =>
      obtain ⟨begins, others⟩ := List.cons.inj signs
      obtain rfl := List.map_eq_nil_iff.mp others
      simp only [begins, List.nil_append]
  | unique =>
      obtain ⟨begins, others⟩ := List.cons.inj signs
      have taken : takeKind .equals (sigil ++ rest) = (false, rest) :=
        takeKind_append others unpinned
      simp only [begins, taken]
      rfl
  | matchUnique =>
      obtain ⟨begins, others⟩ := List.cons.inj signs
      have taken : takeKind .equals (sigil ++ rest) = (true, rest) :=
        takeKind_append others unpinned
      simp only [begins, taken]
      rfl
  | grouping grouping pins =>
      obtain ⟨begins, others⟩ := List.cons.inj signs
      obtain ⟨group, pin, rfl, groupSigns, pinSigns⟩ := List.map_eq_append_iff.mp others
      -- The sign that pins does not go on with the grouping.
      have pinAvoids : Avoids [.exclamation, .plus, .question] (pin ++ rest) := by
        cases pins with
        | false =>
            obtain rfl := List.map_eq_nil_iff.mp pinSigns
            exact ungrouped
        | true =>
            obtain ⟨token, rfl, same⟩ := List.map_eq_singleton_iff.mp pinSigns
            exact .cons (by simp [same])
      simp only [begins, List.append_assoc, readGrouping_append groupSigns pinAvoids,
        takeKind_append pinSigns unpinned]

theorem CarrierKind.sigilKinds_eq_cons (kind : CarrierKind) :
    ∃ first others, kind.sigilKinds = first :: others ∧ first ≠ .blank := by
  cases kind <;> exact ⟨_, _, rfl, by decide⟩

theorem readCarrier_of_blanks (spaced : Blanks tokens) :
    readCarrier stop tokens = ⟨[], [], []⟩ := by
  rw [readCarrier]
  split
  · rfl
  · rename_i found
    rw [skipBlankTokens_of_blanks spaced] at found
    cases found

theorem readCarrier_of_sigil (found : skipBlankTokens tokens = first :: rest)
    (sigil : readSigil? first rest = some (kind, behind)) :
    readCarrier stop tokens =
      let name := readText "carrier id" stop behind
      let others := readCarrier stop name.rest
      ⟨(name.value.toList.map fun token => ⟨kind, trim token.value⟩) ++ others.value,
        name.diagnostics ++ others.diagnostics, others.rest⟩ := by
  rw [readCarrier]
  split
  · rename_i ends
    rw [ends] at found
    cases found
  · rename_i same
    rw [same] at found
    cases found
    split
    · rename_i read
      rw [read] at sigil
      cases sigil
      rfl
    · rename_i unsigned
      rw [unsigned] at sigil
      cases sigil

theorem readCarrier_append {components : List CarrierComponent} {blanks : List Token}
    (tied : Components front components) (spaced : Blanks blanks) :
    readCarrier stop (front ++ blanks) = ⟨components, [], []⟩ := by
  induction tied with
  | nil => exact readCarrier_of_blanks spaced
  | @cons _ following _ _ begins _ inductionHypothesis =>
      cases begins with
      | @named leading sigil named kind name leads signs text =>
          obtain ⟨opening, others, kinds, solid⟩ := CarrierKind.sigilKinds_eq_cons kind
          obtain ⟨opener, sigil, rfl, opens, -⟩ := List.map_eq_cons_iff.mp (signs.trans kinds)
          have found : skipBlankTokens
              (leading ++ opener :: sigil ++ named ++ following ++ blanks) =
                opener :: (sigil ++ (named ++ (following ++ blanks))) := by
            simp only [List.append_assoc, List.cons_append]
            rw [skipBlankTokens_append leads]
            exact skipBlankTokens_cons (opens ▸ solid) _
          have avoids : Avoids [.equals, .exclamation, .plus, .question]
              (named ++ (following ++ blanks)) := text.avoids (by simp) (by simp) _
          rw [readCarrier_of_sigil found (readSigil?_append signs avoids), readText_append text]
          dsimp only
          rw [inductionHypothesis]
          rfl

theorem exists_of_readCarrier (silent : (readCarrier stop tokens).diagnostics = []) :
    ∃ front components blanks, Components front components ∧ Blanks blanks ∧
      tokens = front ++ blanks := by
  fun_induction readCarrier stop tokens with
  | case1 tokens ends => exact ⟨[], [], tokens, .nil, blanks_of_skipBlankTokens ends, rfl⟩
  | case2 tokens first rest found kind behind sigil name others inductionHypothesis =>
      obtain ⟨nameSilent, othersSilent⟩ := List.append_eq_nil_iff.mp silent
      obtain ⟨front, token, following, text, rfl⟩ := exists_of_readText nameSilent
      have read : name.rest = following := congrArg Reading.rest (readText_append text)
      obtain ⟨remaining, components, blanks, tied, spaced, split⟩ :=
        inductionHypothesis othersSilent
      obtain rfl := read.symm.trans split
      obtain ⟨signs, rfl, kinds⟩ := exists_of_readSigil? sigil
      obtain ⟨leading, leads, whole⟩ := exists_blanks tokens
      refine ⟨leading ++ first :: signs ++ front ++ remaining, _, blanks,
        .cons (.named leads kinds text) tied, spaced, ?_⟩
      rw [found] at whole
      simpa using whole
  | case3 tokens first rest found unsigned others => cases silent

end Carriers

/-! ### Queries -/

section Queries

variable {query : Query} {elements : List QueryElement} {components : List CarrierComponent}

/-- What stands behind the name of a table and its mark: filters, a carrier and blanks. -/
inductive Remainder (exclusive : Bool) :
    List Token → List QueryElement → List CarrierComponent → Prop where
  | parts {filters ties blanks : List Token} {elements : List QueryElement}
      {components : List CarrierComponent} (filtered : Elements exclusive filters elements)
      (tied : Carrier ties components) (spaced : Blanks blanks) :
      Remainder exclusive (filters ++ (ties ++ blanks)) elements components

theorem Remainder.cons {element : QueryElement} (begins : Element exclusive front element)
    (behind : Remainder exclusive rest elements components) :
    Remainder exclusive (front ++ rest) (element :: elements) components := by
  cases behind with
  | parts filtered tied spaced =>
      rw [← List.append_assoc]
      exact .parts (.cons begins filtered) tied spaced

/-- A filter begins with a sign of its own. -/
theorem Element.nextKind?_ne {kind : TokenKind} {element : QueryElement}
    (begins : Element exclusive front element)
    (foreign : kind ∉ [.hyphen, .question, .exclamation, .opens .round, .doubleColon])
    (rest : List Token) : nextKind? (front ++ rest) ≠ some kind := by
  have differs : ∀ start ∈ ([.hyphen, .question, .exclamation, .opens .round, .doubleColon] :
      List TokenKind), some start ≠ some kind :=
    fun start member same => foreign (Option.some.inj same ▸ member)
  cases begins with
  | classes begins | «matches» begins | lacks begins | syllables begins =>
      simp only [List.append_assoc]
      rw [begins.nextKind? (by decide)]
      exact differs _ (by decide)

/-- Only a token that begins a filter or a carrier comes next. -/
theorem Remainder.nextKind?_ne {kind : TokenKind}
    (remainder : Remainder exclusive tokens elements components)
    (foreign : kind ∉ [.hyphen, .question, .exclamation, .opens .round, .doubleColon]) :
    nextKind? tokens ≠ some kind := by
  cases remainder with
  | parts filtered tied spaced =>
      cases filtered with
      | nil =>
          cases tied with
          | nothing =>
              rw [List.nil_append, List.nil_append, nextKind?_of_blanks spaced]
              exact (Option.some_ne_none kind).symm
          | components begins =>
              rw [List.nil_append, List.append_assoc, begins.nextKind? (by decide)]
              rintro ⟨⟩
              exact foreign (by decide)
      | cons begins =>
          rw [List.append_assoc]
          exact begins.nextKind?_ne foreign _

theorem Element.length_pos {element : QueryElement} (begins : Element exclusive front element) :
    0 < front.length := by
  cases begins with
  | classes begins | «matches» begins | lacks begins | syllables begins =>
      have taken := begins.length_pos
      simp only [List.length_append]
      omega

/-- All filters and the carrier are read, and nothing is left. -/
theorem readElements_remainder (remainder : Remainder query.exclusive tokens elements components)
    (untied : query.carrier = []) :
    readElements stop query tokens =
      ⟨{ elements.foldl filtered query with carrier := components }, [], []⟩ := by
  cases remainder with
  | @parts filters ties blanks _ _ filtering tied spaced =>
      generalize exclusiveness : query.exclusive = exclusive at filtering
      induction filtering generalizing query with
      | nil =>
          cases tied with
          | nothing =>
              rw [List.nil_append, List.nil_append, readElements_of_blanks spaced, ← untied]
              rfl
          | components begins notEmpty behind =>
              rw [List.nil_append, List.append_assoc,
                readElements_eq (begins.skipBlankTokens (by decide) _), begins.kind_eq]
              dsimp only
              rw [readCarrier_append behind spaced]
              simp [notEmpty]
      | cons begins behind inductionHypothesis =>
          subst exclusiveness
          have follows := Remainder.parts behind tied spaced
          rw [List.append_assoc,
            readElements_append begins fun _ _ => follows.nextKind?_ne (by decide), List.foldl_cons]
          apply inductionHypothesis
          · rw [filtered_carrier, untied]
          · exact filtered_exclusive

/-- Where the reader reports nothing, a filter comes first or the carrier does. -/
theorem exists_element_of_readElements (found : skipBlankTokens tokens = first :: rest)
    (silent : (readElements stop query tokens).diagnostics = []) :
    (∃ components, Remainder query.exclusive tokens [] components) ∨
      ∃ front element behind, Element query.exclusive front element ∧
        (∀ group, element = .classes group → nextKind? behind ≠ some .bar) ∧
        tokens = front ++ behind := by
  rw [readElements_eq found] at silent
  split at silent
  · rename_i isHyphen
    obtain ⟨sign, begins, rfl⟩ := exists_terminal found isHyphen
    obtain ⟨front, rules, behind, group, apart, rfl⟩ :=
      exists_of_readClassGroup (List.append_eq_nil_iff.mp silent).1
    exact .inr ⟨sign ++ front, _, behind, .classes begins group, fun _ _ => apart,
      (List.append_assoc ..).symm⟩
  · rename_i isQuestion
    obtain ⟨sign, begins, rfl⟩ := exists_terminal found isQuestion
    obtain ⟨front, source, regex, behind, filters, compiles, rfl⟩ :=
      exists_of_readRegexFilter (List.append_eq_nil_iff.mp silent).1
    exact .inr ⟨sign ++ front, _, behind, .matches begins filters compiles, by rintro _ ⟨⟩,
      (List.append_assoc ..).symm⟩
  · rename_i isExclamation
    obtain ⟨sign, begins, rfl⟩ := exists_terminal found isExclamation
    obtain ⟨front, source, regex, behind, filters, compiles, rfl⟩ :=
      exists_of_readRegexFilter (List.append_eq_nil_iff.mp silent).1
    exact .inr ⟨sign ++ front, _, behind, .lacks begins filters compiles, by rintro _ ⟨⟩,
      (List.append_assoc ..).symm⟩
  · rename_i opens
    obtain ⟨sign, begins, rfl⟩ := exists_terminal found opens
    obtain ⟨inside, closer, range, behind, inner, ends, reads, rfl⟩ :=
      exists_of_readRange (List.append_eq_nil_iff.mp silent).1
    exact .inr ⟨sign ++ inside ++ [closer], _, behind, .syllables begins inner ends reads,
      by rintro _ ⟨⟩, by simp⟩
  · rename_i isDoubleColon
    obtain ⟨sign, begins, rfl⟩ := exists_terminal found isDoubleColon
    obtain ⟨carrierSilent, present⟩ := List.append_eq_nil_iff.mp silent
    obtain ⟨ties, components, blanks, tied, spaced, rfl⟩ := exists_of_readCarrier carrierSilent
    rw [readCarrier_append tied spaced] at present
    have notEmpty : components ≠ [] := by
      rintro rfl
      cases present
    have remainder : Remainder query.exclusive ([] ++ (sign ++ ties ++ blanks)) [] components :=
      .parts .nil (.components begins notEmpty tied) spaced
    exact .inl ⟨components, by simpa using remainder⟩
  · cases silent

theorem exists_of_readElements (silent : (readElements stop query tokens).diagnostics = []) :
    ∃ elements components, Remainder query.exclusive tokens elements components := by
  -- Behind each filter less is left to read. The problems of the rest are those of the whole.
  induction size : tokens.length using Nat.strong_induction_on generalizing tokens query with
  | _ count inductionHypothesis =>
      cases found : skipBlankTokens tokens with
      | nil => exact ⟨[], [], .parts .nil .nothing (blanks_of_skipBlankTokens found)⟩
      | cons first rest =>
          rcases exists_element_of_readElements found silent with ⟨components, remainder⟩ | taken
          · exact ⟨[], components, remainder⟩
          · obtain ⟨front, element, behind, begins, apart, rfl⟩ := taken
            rw [readElements_append begins apart] at silent
            have shorter : behind.length < count := by
              have consumed := begins.length_pos
              rw [← size, List.length_append]
              omega
            obtain ⟨elements, components, remainder⟩ :=
              inductionHypothesis behind.length shorter silent rfl
            rw [filtered_exclusive] at remainder
            exact ⟨element :: elements, components, remainder.cons begins⟩

theorem queryOfName_eq {written : List Char} {table : String} {subtype? : Option String}
    (names : TableName written table subtype?) :
    queryOfName written = { Query.all table with subtype? := subtype? } := by
  unfold queryOfName
  dsimp only
  cases names with
  | plain whole =>
      rw [takeWhile_bne_of_notMem whole, List.drop_length]
      rfl
  | withSubtype first =>
      rw [takeWhile_bne_append first, List.drop_left]

theorem exists_tableName (written : List Char) :
    ∃ table subtype?, TableName written table subtype? := by
  by_cases dotted : '.' ∈ written
  · obtain ⟨table, subtype, rfl, first⟩ := List.eq_append_cons_of_mem dotted
    exact ⟨_, _, .withSubtype first⟩
  · exact ⟨_, _, .plain dotted⟩

theorem takeKind_of_exclusiveness {marks : List Token}
    (exclusiveness : Exclusiveness marks exclusive)
    (apart : exclusive = false → nextKind? rest ≠ some .dollar) :
    ∃ behind, takeKind .dollar (skipBlankTokens (marks ++ rest)) = (exclusive, behind) ∧
      skipBlankTokens behind = skipBlankTokens rest := by
  cases exclusiveness with
  | unmarked => exact ⟨_, takeKind_of_ne (apart rfl), skipBlankTokens_idem rest⟩
  | marked sign => exact ⟨rest, takeKind_of_terminal sign (by decide) rest, rfl⟩

theorem exists_exclusiveness (tokens : List Token) :
    ∃ marks exclusive rest, Exclusiveness marks exclusive ∧
      (exclusive = false → nextKind? rest ≠ some .dollar) ∧ tokens = marks ++ rest := by
  by_cases marked : nextKind? tokens = some .dollar
  · obtain ⟨marks, sign, rest, dollar, rfl⟩ := exists_terminal_of_nextKind? marked
    exact ⟨marks, true, rest, .marked dollar, by rintro ⟨⟩, rfl⟩
  · exact ⟨[], false, tokens, .unmarked, fun _ => marked, rfl⟩

theorem readQuery_append {blanks : List Token} (body : Body front query) (spaced : Blanks blanks) :
    readQuery stop (front ++ blanks) = ⟨query, [], []⟩ := by
  cases body with
  | @query first marks filters ties name table subtype? exclusive elements components begins names
      exclusiveness filtering tied =>
      have remainder := Remainder.parts filtering tied spaced
      obtain ⟨behind, marked, same⟩ := takeKind_of_exclusiveness exclusiveness fun _ =>
        remainder.nextKind?_ne (by decide)
      unfold readQuery
      simp only [List.append_assoc]
      rw [readText_append begins]
      dsimp only
      rw [marked]
      dsimp only
      rw [queryOfName_eq names, readElements_congr same, readElements_remainder remainder rfl,
        foldl_filtered]
      simp [Query.ofElements, Query.all]

theorem exists_of_readQuery (silent : (readQuery stop tokens).diagnostics = []) :
    ∃ front query blanks, Body front query ∧ Blanks blanks ∧ tokens = front ++ blanks := by
  unfold readQuery at silent
  obtain ⟨nameSilent, silent⟩ := List.append_eq_nil_iff.mp silent
  obtain ⟨first, name, rest, begins, rfl⟩ := exists_of_readText nameSilent
  obtain ⟨marks, exclusive, following, exclusiveness, apart, rfl⟩ := exists_exclusiveness rest
  obtain ⟨behind, marked, same⟩ := takeKind_of_exclusiveness exclusiveness apart
  rw [readText_append begins] at silent
  dsimp only at silent
  rw [marked] at silent
  dsimp only at silent
  rw [readElements_congr same] at silent
  obtain ⟨elements, components, remainder⟩ := exists_of_readElements silent
  obtain ⟨table, subtype?, names⟩ := exists_tableName (trimmed name.value.toList)
  cases remainder with
  | @parts filters ties blanks _ _ filtering tied spaced =>
      refine ⟨first ++ marks ++ filters ++ ties, _, blanks,
        .query begins names exclusiveness filtering tied, spaced, ?_⟩
      simp only [List.append_assoc]

/-! ### Macros and whole queries -/

theorem readMacroName_append (text : Terminal .text front name)
    (valid : isName (trim name.value) = true) :
    readMacroName stop (front ++ rest) = ⟨trim name.value, [], rest⟩ := by
  unfold readMacroName
  rw [readText_append text]
  dsimp only
  rw [if_pos valid]

theorem exists_of_readMacroName (silent : (readMacroName stop tokens).diagnostics = []) :
    ∃ front name rest, Terminal .text front name ∧ isName (trim name.value) = true ∧
      tokens = front ++ rest := by
  unfold readMacroName at silent
  dsimp only at silent
  rcases readText_cases "macro name" stop tokens with found | ⟨missing, reported⟩
  · obtain ⟨front, name, rest, text, rfl⟩ := found
    refine ⟨front, name, rest, text, ?_, rfl⟩
    rw [readText_append text] at silent
    by_contra invalid
    dsimp only at silent
    rw [if_neg invalid] at silent
    cases silent
  · rw [missing] at silent
    exact absurd silent reported

theorem parseQuery_of_macroName {macroName : String} (names : MacroName front macroName) :
    parseQuery (front ++ rest) stop =
      match skipBlankTokens rest with
      | [] => ⟨.call macroName, []⟩
      | token :: behind =>
          let query := readQuery stop behind
          match token.kind with
          | .colon => ⟨.define macroName false query.value, query.diagnostics⟩
          | .equals => ⟨.define macroName true query.value, query.diagnostics⟩
          | _ => ⟨.call macroName, [⟨token.position, .textAfterMacroName token.value⟩]⟩ := by
  cases names with
  | named begins text valid =>
      unfold parseQuery
      rw [List.append_assoc, takeKind_of_terminal begins (by decide)]
      dsimp only
      unfold parseMacro
      rw [readMacroName_append text valid]
      rfl

theorem exists_macroName (starts : nextKind? tokens = some .atSign)
    (silent : (parseQuery tokens stop).diagnostics = []) :
    ∃ front name rest, MacroName front name ∧ tokens = front ++ rest := by
  obtain ⟨first, sign, behind, begins, rfl⟩ := exists_terminal_of_nextKind? starts
  have named : (readMacroName stop behind).diagnostics = [] := by
    unfold parseQuery at silent
    rw [takeKind_of_terminal begins (by decide)] at silent
    dsimp only at silent
    unfold parseMacro at silent
    dsimp only at silent
    split at silent
    · exact silent
    · split at silent
      · exact (List.append_eq_nil_iff.mp silent).1
      · exact (List.append_eq_nil_iff.mp silent).1
      · exact (List.append_eq_nil_iff.mp silent).1
  obtain ⟨front, name, rest, text, valid, rfl⟩ := exists_of_readMacroName named
  exact ⟨first ++ front, _, rest, .named begins text valid, (List.append_assoc ..).symm⟩

theorem parseQuery_lookup (other : nextKind? tokens ≠ some .atSign) :
    parseQuery tokens stop =
      ⟨.lookup (readQuery stop tokens).value, (readQuery stop tokens).diagnostics⟩ := by
  have same : readQuery stop (skipBlankTokens tokens) = readQuery stop tokens := by
    unfold readQuery
    rw [readText_skipBlankTokens]
  unfold parseQuery
  rw [takeKind_of_ne other]
  dsimp only
  rw [same]

theorem Body.nextKind? (body : Body front query) : nextKind? (front ++ rest) = some .text := by
  cases body with
  | query begins =>
      simp only [List.append_assoc]
      exact begins.nextKind? (by decide) _

/-- What the grammar derives is read as the derivation says. -/
theorem parseQuery_form {form : QueryForm} (derived : Form tokens form) :
    parseQuery tokens stop = ⟨form, []⟩ := by
  cases derived with
  | call names spaced =>
      rw [parseQuery_of_macroName names, skipBlankTokens_of_blanks spaced]
  | defineLocal names begins body spaced =>
      simp only [List.append_assoc]
      rw [parseQuery_of_macroName names, begins.skipBlankTokens (by decide)]
      simp only [begins.kind_eq]
      rw [readQuery_append body spaced]
  | defineGlobal names begins body spaced =>
      simp only [List.append_assoc]
      rw [parseQuery_of_macroName names, begins.skipBlankTokens (by decide)]
      simp only [begins.kind_eq]
      rw [readQuery_append body spaced]
  | @lookup front blanks _ body spaced =>
      have other : nextKind? (front ++ blanks) ≠ some .atSign := by
        rw [body.nextKind?]
        decide
      rw [parseQuery_lookup other, readQuery_append body spaced]

/-- What is read without a problem is derived by the grammar. -/
theorem exists_form (silent : (parseQuery tokens stop).diagnostics = []) :
    ∃ form, Form tokens form := by
  by_cases starts : nextKind? tokens = some .atSign
  · obtain ⟨front, name, rest, names, rfl⟩ := exists_macroName starts silent
    rw [parseQuery_of_macroName names] at silent
    cases found : skipBlankTokens rest with
    | nil => exact ⟨_, .call names (blanks_of_skipBlankTokens found)⟩
    | cons token behind =>
        rw [found] at silent
        dsimp only at silent
        split at silent
        · rename_i isColon
          obtain ⟨separator, begins, rfl⟩ := exists_terminal found isColon
          obtain ⟨written, query, blanks, body, spaced, rfl⟩ := exists_of_readQuery silent
          exact ⟨_, by simpa using Form.defineLocal names begins body spaced⟩
        · rename_i isEquals
          obtain ⟨separator, begins, rfl⟩ := exists_terminal found isEquals
          obtain ⟨written, query, blanks, body, spaced, rfl⟩ := exists_of_readQuery silent
          exact ⟨_, by simpa using Form.defineGlobal names begins body spaced⟩
        · cases silent
  · rw [parseQuery_lookup starts] at silent
    obtain ⟨front, query, blanks, body, spaced, rfl⟩ := exists_of_readQuery silent
    exact ⟨_, .lookup body spaced⟩

end Queries

end Readers

end Grammar

/-- A query is read without a problem if and only if its tokens are derived by the grammar, and then
the reader returns what they are derived for. -/
theorem parseQuery_follows_grammar (tokens : List Token) (stop : Position) :
    ((parseQuery tokens stop).diagnostics = [] ↔ ∃ form, Grammar.Form tokens form) ∧
      ∀ form, Grammar.Form tokens form → (parseQuery tokens stop).form = form := by
  refine ⟨⟨Grammar.exists_form, ?_⟩, ?_⟩
  · rintro ⟨form, derived⟩
    rw [Grammar.parseQuery_form derived]
  · intro form derived
    rw [Grammar.parseQuery_form derived]

end SeededText.Vocabulary
