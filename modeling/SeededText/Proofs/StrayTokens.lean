import SeededText.Proofs.QueryReading

/-!
Contract: a token that means nothing in a query is one problem and changes nothing else.

Where a filter ends does not depend on what follows, except that a group of classes goes on behind a
bar. A stray token is no bar and begins neither a filter nor a carrier. Between filters it is
therefore passed over alone, and what is read in front of it and behind it is what was read without
it.

Owns: stray tokens, the places between filters, reading queries with stray tokens at such places.
Does not own: queries without problems (`SeededText.Proofs.QueryReading`).
-/

namespace SeededText.Vocabulary

open Pattern

/-! ### Stray tokens -/

/-- The kinds that have no meaning behind the table of a query and in front of its carrier. -/
def strayKinds : List TokenKind :=
  [.text, .constant, .regex, .escape, .semicolon, .colon, .atSign, .equals, .ampersand, .plus]

def IsStray (token : Token) : Prop :=
  token.kind ∈ strayKinds

instance (token : Token) : Decidable (IsStray token) :=
  inferInstanceAs (Decidable (token.kind ∈ strayKinds))

/-- The problem that is reported for a stray token. -/
def strayReport (token : Token) : Diagnostic :=
  ⟨token.position, .unexpectedInQuery token.value⟩

namespace Grammar

section Reading

variable {stop : Position} {query : Query} {exclusive : Bool}
  {tokens strewn strays before after blanks : List Token} {junk : Token}

theorem skipBlankTokens_of_isStray (stray : IsStray junk) :
    skipBlankTokens (junk :: tokens) = junk :: tokens := by
  apply skipBlankTokens_cons
  intro blank
  exact absurd (blank ▸ stray : TokenKind.blank ∈ strayKinds) (by decide)

/-- A stray token is reported, and what follows is read as if it were not there. -/
theorem readElements_of_isStray (stray : IsStray junk) :
    readElements stop query (junk :: tokens) =
      let others := readElements stop query tokens
      { others with diagnostics := strayReport junk :: others.diagnostics } := by
  have meaning {kind : TokenKind} (same : junk.kind = kind) : kind ∈ strayKinds := same ▸ stray
  rw [readElements_eq (skipBlankTokens_of_isStray stray)]
  -- The signs that begin a filter or a carrier are none of the stray kinds.
  split
  case h_6 => rfl
  all_goals exact absurd (meaning ‹_›) (by decide)

/-! ### Strewing -/

/-- The second tokens are the first ones, which stand behind the table and the mark of a query, with
stray tokens at places between filters, in front of the carrier or at the end. The third tokens are
the stray ones, in their order. -/
inductive Strewn (exclusive : Bool) : List Token → List Token → List Token → Prop where
  | ends {ties blanks : List Token} {components : List CarrierComponent}
      (tied : Carrier ties components) (spaced : Blanks blanks) :
      Strewn exclusive (ties ++ blanks) (ties ++ blanks) []
  | element {front tokens strewn strays : List Token} {element : QueryElement}
      (begins : Element exclusive front element) (behind : Strewn exclusive tokens strewn strays) :
      Strewn exclusive (front ++ tokens) (front ++ strewn) strays
  | blank {tokens strewn strays : List Token} {blank : Token} (isBlank : blank.kind = .blank)
      (behind : Strewn exclusive tokens strewn strays) :
      Strewn exclusive (blank :: tokens) (blank :: strewn) strays
  | stray {tokens strewn strays : List Token} {junk : Token} (isStray : IsStray junk)
      (behind : Strewn exclusive tokens strewn strays) :
      Strewn exclusive tokens (junk :: strewn) (junk :: strays)

theorem nextKind?_cons_blank {blank : Token} (isBlank : blank.kind = .blank) :
    nextKind? (blank :: tokens) = nextKind? tokens := by
  rw [nextKind?, ← List.singleton_append, skipBlankTokens_append (.single isBlank), nextKind?]

/-- A group of classes does not go on behind a stray token, and there is no mark. -/
theorem Strewn.nextKind?_ne (scattered : Strewn exclusive tokens strewn strays) (kind : TokenKind)
    (sign : kind ∈ [.bar, .dollar]) :
    nextKind? tokens ≠ some kind ∧ nextKind? strewn ≠ some kind := by
  have foreign : kind ∉ [.hyphen, .question, .exclamation, .opens .round, .doubleColon] := by
    revert kind
    decide
  have meaningful : kind ∉ strayKinds := by
    revert kind
    decide
  induction scattered with
  | ends tied spaced =>
      have remainder : Remainder exclusive _ _ _ := .parts .nil tied spaced
      exact ⟨remainder.nextKind?_ne foreign, remainder.nextKind?_ne foreign⟩
  | element begins behind =>
      exact ⟨begins.nextKind?_ne foreign _, begins.nextKind?_ne foreign _⟩
  | blank isBlank behind inductionHypothesis =>
      rwa [nextKind?_cons_blank isBlank, nextKind?_cons_blank isBlank]
  | stray isStray behind inductionHypothesis =>
      refine ⟨inductionHypothesis.1, ?_⟩
      rw [nextKind?_of_skipBlankTokens (skipBlankTokens_of_isStray isStray)]
      rintro ⟨⟩
      exact meaningful isStray

/-- Stray tokens are reported in their order, and nothing else is read otherwise. -/
theorem readElements_strewn (scattered : Strewn query.exclusive tokens strewn strays) :
    readElements stop query strewn =
      let clean := readElements stop query tokens
      { clean with diagnostics := strays.map strayReport ++ clean.diagnostics } := by
  generalize same : query.exclusive = exclusive at scattered
  -- Both lists are read side by side. The query grows with each filter, so it is general.
  induction scattered generalizing query with
  | ends tied spaced => rfl
  | element begins behind inductionHypothesis =>
      subst same
      obtain ⟨apart, apartStrewn⟩ := behind.nextKind?_ne .bar (by decide)
      rw [readElements_append begins fun _ _ => apart,
        readElements_append begins fun _ _ => apartStrewn]
      exact inductionHypothesis filtered_exclusive
  | @blank tokens strewn _ blank isBlank behind inductionHypothesis =>
      have skipped (tokens : List Token) : readElements stop query (blank :: tokens) =
          readElements stop query tokens :=
        readElements_congr (skipBlankTokens_append (.single isBlank) tokens)
      rw [skipped, skipped]
      exact inductionHypothesis same
  | stray isStray behind inductionHypothesis =>
      rw [readElements_of_isStray isStray, inductionHypothesis same]
      rfl

/-! ### Whole queries -/

/-- A query with stray tokens behind its table and the mark, if it has one. -/
inductive StrewnQuery : List Token → List Token → List Token → Prop where
  | behind {first marks tokens strewn strays : List Token} {name : Token} {exclusive : Bool}
      (begins : Terminal .text first name) (exclusiveness : Exclusiveness marks exclusive)
      (scattered : Strewn exclusive tokens strewn strays) :
      StrewnQuery (first ++ marks ++ tokens) (first ++ marks ++ strewn) strays

theorem readQuery_strewn (scattered : StrewnQuery tokens strewn strays) :
    readQuery stop strewn =
      let clean := readQuery stop tokens
      { clean with diagnostics := strays.map strayReport ++ clean.diagnostics } := by
  cases scattered with
  | @behind first marks tokens strewn _ name exclusive begins exclusiveness scattered =>
      obtain ⟨apart, apartStrewn⟩ := scattered.nextKind?_ne .dollar (by decide)
      obtain ⟨rest, marked, same⟩ := takeKind_of_exclusiveness exclusiveness fun _ => apart
      obtain ⟨restStrewn, markedStrewn, sameStrewn⟩ :=
        takeKind_of_exclusiveness exclusiveness fun _ => apartStrewn
      unfold readQuery
      simp only [List.append_assoc]
      rw [readText_append begins, readText_append begins]
      dsimp only
      rw [marked, markedStrewn]
      dsimp only
      rw [readElements_congr same, readElements_congr sameStrewn, readElements_strewn scattered]
      rfl

theorem StrewnQuery.nextKind? (scattered : StrewnQuery tokens strewn strays) :
    nextKind? tokens = some .text ∧ nextKind? strewn = some .text := by
  cases scattered with
  | behind begins =>
      simp only [List.append_assoc]
      exact ⟨begins.nextKind? (by decide) _, begins.nextKind? (by decide) _⟩

/-- A place behind the table of a query and its mark, between two filters, in front of the carrier
or at the end. -/
inductive IsGap : List Token → List Token → Prop where
  | between {first marks filters blanks after : List Token} {name : Token} {exclusive : Bool}
      {elements others : List QueryElement} {components : List CarrierComponent}
      (begins : Terminal .text first name) (exclusiveness : Exclusiveness marks exclusive)
      (filtered : Elements exclusive filters elements) (spaced : Blanks blanks)
      (left : Remainder exclusive after others components) :
      IsGap (first ++ marks ++ (filters ++ blanks)) after

theorem Strewn.behindElements {filters : List Token} {elements : List QueryElement}
    (filtered : Elements exclusive filters elements)
    (scattered : Strewn exclusive tokens strewn strays) :
    Strewn exclusive (filters ++ tokens) (filters ++ strewn) strays := by
  induction filtered with
  | nil => exact scattered
  | cons begins _ inductionHypothesis =>
      rw [List.append_assoc, List.append_assoc]
      exact .element begins inductionHypothesis

theorem Strewn.behindBlanks (spaced : Blanks blanks)
    (scattered : Strewn exclusive tokens strewn strays) :
    Strewn exclusive (blanks ++ tokens) (blanks ++ strewn) strays := by
  induction blanks with
  | nil => exact scattered
  | cons blank blanks inductionHypothesis =>
      obtain ⟨isBlank, others⟩ := List.forall_mem_cons.mp spaced
      exact .blank isBlank (inductionHypothesis others)

/-- Nothing is strewn into what stands behind the table and the mark. -/
theorem Strewn.of_remainder {elements : List QueryElement} {components : List CarrierComponent}
    (remainder : Remainder exclusive tokens elements components) :
    Strewn exclusive tokens tokens [] := by
  cases remainder with
  | parts filtered tied spaced => exact .behindElements filtered (.ends tied spaced)

/-- A token is strewn into a query at one place. -/
theorem IsGap.strewnQuery (gap : IsGap before after) (stray : IsStray junk) :
    StrewnQuery (before ++ after) (before ++ junk :: after) [junk] := by
  cases gap with
  | between begins exclusiveness filtered spaced left =>
      have scattered : Strewn _ after (junk :: after) [junk] := .stray stray (.of_remainder left)
      have whole := StrewnQuery.behind begins exclusiveness
        (.behindElements filtered (.behindBlanks spaced scattered))
      simpa only [List.append_assoc] using whole

end Reading

end Grammar

/-- Stray tokens between the filters of a query that is read without a problem are reported, one
problem each, in their order, and the query is the same. -/
theorem strays_are_reported {tokens : List Token} {stop : Position} {query : Query}
    (accepted : parseQuery tokens stop = ⟨.lookup query, []⟩) :
    (∀ before after junk, tokens = before ++ after → Grammar.IsGap before after → IsStray junk →
      parseQuery (before ++ junk :: after) stop = ⟨.lookup query, [strayReport junk]⟩) ∧
    ∀ strewn strays, Grammar.StrewnQuery tokens strewn strays →
      parseQuery strewn stop = ⟨.lookup query, strays.map strayReport⟩ := by
  have scatter {strewn strays : List Token}
      (scattered : Grammar.StrewnQuery tokens strewn strays) :
      parseQuery strewn stop = ⟨.lookup query, strays.map strayReport⟩ := by
    obtain ⟨starts, startsStrewn⟩ := scattered.nextKind?
    rw [Grammar.parseQuery_lookup (by simp [starts]), ParsedQuery.mk.injEq,
      QueryForm.lookup.injEq] at accepted
    obtain ⟨same, silent⟩ := accepted
    rw [Grammar.parseQuery_lookup (by simp [startsStrewn]), Grammar.readQuery_strewn scattered]
    dsimp only
    rw [same, silent, List.append_nil]
  constructor
  · rintro before after junk rfl gap stray
    exact scatter (gap.strewnQuery stray)
  · intro strewn strays scattered
    exact scatter scattered

/-! ### Two stray tokens -/

namespace StrayPair

open Grammar

/-- A token of the line `noun; -animal &::=x`. -/
def token (column : Nat) (kind : TokenKind) (value : String) : Token :=
  ⟨kind, value, ⟨1, column, column - 1⟩⟩

def noun : Token := token 1 .text "noun"

def semicolon : Token := token 5 .semicolon ";"

def animals : List Token := [token 6 .blank " ", token 7 .hyphen "-", token 8 .text "animal"]

def space : Token := token 14 .blank " "

def ampersand : Token := token 15 .ampersand "&"

def carrier : List Token := [token 16 .doubleColon "::", token 18 .equals "=", token 19 .text "x"]

def query : Query :=
  { Query.all "noun" with
    classFilter := [[⟨"animal", true⟩]]
    carrier := [⟨.matching, "x"⟩] }

theorem noun_names : Terminal .text [noun] noun :=
  .single rfl

theorem animals_filter : Element false animals (.classes [⟨"animal", true⟩]) := by
  have sign : Terminal .hyphen [token 6 .blank " ", token 7 .hyphen "-"] _ := .behindBlank rfl rfl
  have text : Terminal .text [token 8 .text "animal"] _ := .single rfl
  have trimmed : Text.trim (token 8 .text "animal").value = "animal" := by decide
  have rule := @Alternative.included false _ _ text
  rw [trimmed] at rule
  exact .classes sign (.last rule)

theorem components : Components [token 18 .equals "=", token 19 .text "x"] query.carrier := by
  have text : Terminal .text [token 19 .text "x"] _ := .single rfl
  have trimmed : Text.trim (token 19 .text "x").value = "x" := by decide
  have component := @Component.named [] [token 18 .equals "="] _ .matching _ .nil rfl text
  rw [trimmed] at component
  exact .cons component .nil

theorem carrier_ties : Carrier carrier query.carrier :=
  .components (.single rfl : Terminal .doubleColon [token 16 .doubleColon "::"] _)
    (List.cons_ne_nil _ _) components

theorem space_carrier_ties : Carrier (space :: carrier) query.carrier :=
  .components (.behindBlank rfl rfl : Terminal .doubleColon [space, token 16 .doubleColon "::"] _)
    (List.cons_ne_nil _ _) components

theorem accepted (stop : Position) :
    parseQuery (noun :: (animals ++ space :: carrier)) stop = ⟨.lookup query, []⟩ := by
  have names : TableName (Text.trimmed noun.value.toList) "noun" none := by
    have trimmed : Text.trimmed noun.value.toList = "noun".toList := by decide
    rw [trimmed]
    exact .plain (by decide)
  have body : Body _ query :=
    .query noun_names names .unmarked (.cons animals_filter .nil) space_carrier_ties
  exact parseQuery_form (.lookup body .nil)

theorem gap : IsGap [noun] (animals ++ space :: carrier) := by
  have left : Remainder false (animals ++ space :: carrier) _ _ :=
    .cons animals_filter (.parts .nil space_carrier_ties .nil)
  exact .between noun_names .unmarked .nil .nil left

theorem strewn : StrewnQuery (noun :: (animals ++ space :: carrier))
    (noun :: semicolon :: (animals ++ space :: ampersand :: carrier)) [semicolon, ampersand] := by
  have ends : Strewn false carrier carrier [] := .ends carrier_ties .nil
  have behind : Strewn false (space :: carrier) (space :: ampersand :: carrier) [ampersand] :=
    .blank rfl (.stray (by decide) ends)
  exact .behind noun_names .unmarked (.stray (by decide) (.element animals_filter behind))

/-- A semicolon between the table and a filter, alone and with an ampersand before the carrier. -/
theorem reports_pair :
    parseQuery (noun :: (animals ++ space :: carrier)) ⟨1, 20, 19⟩ = ⟨.lookup query, []⟩ ∧
    parseQuery (noun :: semicolon :: (animals ++ space :: carrier)) ⟨1, 20, 19⟩ =
      ⟨.lookup query, [⟨⟨1, 5, 4⟩, .unexpectedInQuery ";"⟩]⟩ ∧
    parseQuery (noun :: semicolon :: (animals ++ space :: ampersand :: carrier)) ⟨1, 20, 19⟩ =
      ⟨.lookup query,
        [⟨⟨1, 5, 4⟩, .unexpectedInQuery ";"⟩, ⟨⟨1, 15, 14⟩, .unexpectedInQuery "&"⟩]⟩ := by
  obtain ⟨single, several⟩ := strays_are_reported (accepted ⟨1, 20, 19⟩)
  exact ⟨accepted _, single [noun] _ semicolon rfl gap (by decide), several _ _ strewn⟩

end StrayPair

end SeededText.Vocabulary
