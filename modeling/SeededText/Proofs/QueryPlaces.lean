import SeededText.Vocabulary.QueryParser

/-!
Contract: where the problems of a query are.

Each reader of a query leaves some of the tokens that it was given, and reports its problems at the
places of such tokens, or at the place behind the query.

Owns: places of diagnostics, for each reader.
Does not own: which queries have problems (`SeededText.Proofs.QueryReading`).
-/

namespace SeededText.Vocabulary

open Pattern

/-- The place of one of the tokens, or the place behind all of them. -/
def IsPlaceIn (stop : Position) (tokens : List Token) (position : Position) : Prop :=
  position = stop ∨ ∃ token ∈ tokens, token.position = position

theorem IsPlaceIn.of_mem {stop : Position} {tokens : List Token} {token : Token}
    (member : token ∈ tokens) : IsPlaceIn stop tokens token.position :=
  .inr ⟨token, member, rfl⟩

theorem IsPlaceIn.mono {stop position : Position} {few many : List Token}
    (isPlace : IsPlaceIn stop few position) (subset : few ⊆ many) :
    IsPlaceIn stop many position :=
  isPlace.imp_right fun ⟨token, member, same⟩ => ⟨token, subset member, same⟩

/-- A reader has left some of the tokens, and its problems are at places of the tokens. -/
structure Reading.Within {α : Type} (stop : Position) (tokens : List Token)
    (reading : Reading α) : Prop where
  rest : reading.rest ⊆ tokens
  places : ∀ diagnostic ∈ reading.diagnostics, IsPlaceIn stop tokens diagnostic.position

section Readers

variable {stop opening : Position} {tokens few many : List Token} {sign : Token}

theorem Reading.Within.mono {α : Type} {reading : Reading α} (within : reading.Within stop few)
    (subset : few ⊆ many) : reading.Within stop many :=
  ⟨List.Subset.trans within.rest subset,
    fun diagnostic member => (within.places diagnostic member).mono subset⟩

theorem skipBlankTokens_subset (tokens : List Token) : skipBlankTokens tokens ⊆ tokens :=
  (List.dropWhile_suffix _).subset

theorem subset_of_skipBlankTokens {token : Token} {rest : List Token}
    (skipped : skipBlankTokens tokens = token :: rest) : token ∈ tokens ∧ rest ⊆ tokens := by
  have subset := skipBlankTokens_subset tokens
  rw [skipped] at subset
  exact List.cons_subset.mp subset

theorem takeKind_subset (kind : TokenKind) (tokens : List Token) :
    (takeKind kind tokens).2 ⊆ tokens := by
  unfold takeKind
  split
  · exact List.Subset.refl _
  · split
    · exact List.subset_cons_self _ _
    · exact List.Subset.refl _

theorem isPlaceIn_placeOf (stop : Position) (tokens : List Token) :
    IsPlaceIn stop tokens (placeOf stop tokens) := by
  cases tokens with
  | nil => exact .inl rfl
  | cons token rest => exact .of_mem List.mem_cons_self

theorem within_readText (what : String) (stop : Position) (tokens : List Token) :
    (readText what stop tokens).Within stop tokens := by
  unfold readText
  split
  · exact ⟨List.nil_subset _, List.forall_mem_singleton.mpr (.inl rfl)⟩
  · next token rest skipped =>
      obtain ⟨member, subset⟩ := subset_of_skipBlankTokens skipped
      split
      · exact ⟨subset, nofun⟩
      · exact ⟨List.cons_subset.mpr ⟨member, subset⟩,
          List.forall_mem_singleton.mpr (.of_mem member)⟩

theorem within_readClassGroup (stop : Position) (exclusive : Bool) (tokens : List Token) :
    (readClassGroup stop exclusive tokens).Within stop tokens := by
  -- A sign that is refused and the name stand behind blanks of the tokens.
  have signedSubset (tokens : List Token) :
      (takeKind .exclamation (skipBlankTokens tokens)).2 ⊆ tokens :=
    List.Subset.trans (takeKind_subset _ _) (skipBlankTokens_subset tokens)
  have refusedPlaces (tokens : List Token) (refuses : Bool) :
      ∀ diagnostic ∈ (if refuses then
          [⟨placeOf stop (takeKind .exclamation (skipBlankTokens tokens)).2, .negatedInExclusive⟩]
        else [] : List Diagnostic), IsPlaceIn stop tokens diagnostic.position := by
    cases refuses with
    | false => exact nofun
    | true =>
        exact List.forall_mem_singleton.mpr
          ((isPlaceIn_placeOf stop _).mono (signedSubset tokens))
  have nameWithin (tokens : List Token) : (readText "class name" stop
      (takeKind .exclamation (skipBlankTokens tokens)).2).Within stop tokens :=
    (within_readText _ stop _).mono (signedSubset tokens)
  fun_induction readClassGroup stop exclusive tokens with
  | case1 tokens signed refused name rules rest found =>
      refine ⟨List.nil_subset _, ?_⟩
      exact List.forall_mem_append.mpr ⟨refusedPlaces tokens _, (nameWithin tokens).places⟩
  | case2 tokens signed refused name rules rest token behind found isBar others
    inductionHypothesis =>
      have behindSubset :=
        List.Subset.trans (subset_of_skipBlankTokens found).2 (nameWithin tokens).rest
      have othersWithin : others.Within stop tokens := inductionHypothesis.mono behindSubset
      refine ⟨othersWithin.rest, ?_⟩
      exact List.forall_mem_append.mpr ⟨List.forall_mem_append.mpr
        ⟨refusedPlaces tokens _, (nameWithin tokens).places⟩, othersWithin.places⟩
  | case3 tokens signed refused name rules rest token behind found isBar =>
      obtain ⟨member, subset⟩ := subset_of_skipBlankTokens found
      have tokenSubset := List.cons_subset.mpr ⟨member, subset⟩
      refine ⟨List.Subset.trans tokenSubset (nameWithin tokens).rest, ?_⟩
      exact List.forall_mem_append.mpr ⟨refusedPlaces tokens _, (nameWithin tokens).places⟩

theorem within_readRegexFilter (stop : Position) (sign : Token) (tokens : List Token) :
    (readRegexFilter stop sign tokens).Within stop tokens := by
  unfold readRegexFilter
  split
  · exact ⟨List.nil_subset _, List.forall_mem_singleton.mpr (.inl rfl)⟩
  · next token rest skipped =>
      obtain ⟨member, subset⟩ := subset_of_skipBlankTokens skipped
      split
      · split
        · exact ⟨subset, nofun⟩
        · exact ⟨subset, List.forall_mem_singleton.mpr (.of_mem member)⟩
      · exact ⟨List.cons_subset.mpr ⟨member, subset⟩,
          List.forall_mem_singleton.mpr (.of_mem member)⟩

theorem within_readRange (stop : Position) {opener : Token} (member : opener ∈ many)
    (subset : tokens ⊆ many) : (readRange opener.position tokens).Within stop many := by
  unfold readRange
  dsimp only
  split
  · exact ⟨List.nil_subset _, List.forall_mem_singleton.mpr (.of_mem member)⟩
  · next bracket rest found =>
      have behind : rest ⊆ tokens := by
        have dropped := List.drop_subset (tokens.takeWhile fun token =>
          decide (token.kind ≠ .closes .round)).length tokens
        rw [found] at dropped
        exact (List.cons_subset.mp dropped).2
      split
      · exact ⟨List.Subset.trans behind subset, nofun⟩
      · exact ⟨List.Subset.trans behind subset, List.forall_mem_singleton.mpr (.of_mem member)⟩

theorem readGrouping_subset (tokens : List Token) : (readGrouping tokens).2 ⊆ tokens := by
  unfold readGrouping
  split
  · split
    all_goals first
      | exact List.subset_cons_self _ _
      | exact List.Subset.refl _
  · exact List.Subset.refl _

theorem readSigil_subset {first : Token} {rest : List Token} {kind : CarrierKind}
    (read : readSigil? first tokens = some (kind, rest)) : rest ⊆ tokens := by
  unfold readSigil? at read
  split at read
  · cases read
    exact List.Subset.refl _
  · cases read
    exact takeKind_subset _ _
  · cases read
    exact List.Subset.refl _
  · cases read
    exact List.Subset.trans (takeKind_subset _ _) (readGrouping_subset tokens)
  · cases read

theorem within_readCarrier (stop : Position) (tokens : List Token) :
    (readCarrier stop tokens).Within stop tokens := by
  fun_induction readCarrier stop tokens with
  | case1 tokens skipped => exact ⟨List.nil_subset _, nofun⟩
  | case2 tokens first rest skipped kind behind sigil name others inductionHypothesis =>
      have behindSubset :=
        List.Subset.trans (readSigil_subset sigil) (subset_of_skipBlankTokens skipped).2
      have nameWithin : name.Within stop tokens :=
        (within_readText _ stop behind).mono behindSubset
      have othersWithin : others.Within stop tokens := inductionHypothesis.mono nameWithin.rest
      exact ⟨othersWithin.rest, List.forall_mem_append.mpr ⟨nameWithin.places, othersWithin.places⟩⟩
  | case3 tokens first rest skipped noSigil others inductionHypothesis =>
      obtain ⟨member, subset⟩ := subset_of_skipBlankTokens skipped
      have othersWithin : others.Within stop tokens := inductionHypothesis.mono subset
      exact ⟨othersWithin.rest, List.forall_mem_cons.mpr ⟨.of_mem member, othersWithin.places⟩⟩

/-- What is read first, and then what is read from what it leaves. -/
theorem Reading.Within.followed {α β : Type} {first : Reading α} {others : Reading β}
    (before : first.Within stop tokens) (behind : others.Within stop first.rest) :
    ({ others with diagnostics := first.diagnostics ++ others.diagnostics }).Within stop tokens :=
  have whole := behind.mono before.rest
  ⟨whole.rest, List.forall_mem_append.mpr ⟨before.places, whole.places⟩⟩

theorem within_readElements (stop : Position) (query : Query) (tokens : List Token) :
    (readElements stop query tokens).Within stop tokens := by
  fun_induction readElements stop query tokens with
  | case1 query tokens skipped => exact ⟨List.nil_subset _, nofun⟩
  | case2 query tokens first rest skipped isHyphen group others inductionHypothesis =>
      have subset := (subset_of_skipBlankTokens skipped).2
      exact ((within_readClassGroup stop query.exclusive rest).followed inductionHypothesis).mono
        subset
  | case3 query tokens first rest skipped isSign filter others inductionHypothesis
  | case4 query tokens first rest skipped isSign filter others inductionHypothesis =>
      have subset := (subset_of_skipBlankTokens skipped).2
      exact ((within_readRegexFilter stop first rest).followed inductionHypothesis).mono subset
  | case5 query tokens first rest skipped isRange range others inductionHypothesis =>
      obtain ⟨member, subset⟩ := subset_of_skipBlankTokens skipped
      exact (within_readRange stop member subset).followed inductionHypothesis
  | case6 query tokens first rest skipped isSign carrier missing =>
      have within : carrier.Within stop tokens :=
        (within_readCarrier stop rest).mono (subset_of_skipBlankTokens skipped).2
      refine ⟨within.rest, List.forall_mem_append.mpr ⟨within.places, ?_⟩⟩
      unfold missing
      split
      · exact List.forall_mem_singleton.mpr (.inl rfl)
      · exact nofun
  | case7 query tokens first rest skipped _ _ _ _ _ _ inductionHypothesis =>
      obtain ⟨member, subset⟩ := subset_of_skipBlankTokens skipped
      have within := inductionHypothesis.mono subset
      exact ⟨within.rest, List.forall_mem_cons.mpr ⟨.of_mem member, within.places⟩⟩

theorem within_readQuery (stop : Position) (tokens : List Token) :
    (readQuery stop tokens).Within stop tokens := by
  unfold readQuery
  refine (within_readText _ stop tokens).followed ((within_readElements stop _ _).mono ?_)
  exact List.Subset.trans (takeKind_subset _ _) (skipBlankTokens_subset _)

theorem mem_of_readText {what : String} {token : Token}
    (read : (readText what stop tokens).value = some token) : token ∈ tokens := by
  unfold readText at read
  split at read
  · cases read
  · next skipped =>
      split at read
      · cases read
        exact (subset_of_skipBlankTokens skipped).1
      · cases read

theorem within_readMacroName (stop : Position) (tokens : List Token) :
    (readMacroName stop tokens).Within stop tokens := by
  have within := within_readText "macro name" stop tokens
  unfold readMacroName
  dsimp only
  split
  · exact ⟨within.rest, within.places⟩
  · next token read =>
      refine ⟨within.rest, ?_⟩
      dsimp only
      split
      · exact nofun
      · exact List.forall_mem_singleton.mpr (.of_mem (mem_of_readText read))

theorem places_parseMacro (stop : Position) (tokens : List Token) :
    ∀ diagnostic ∈ (parseMacro stop tokens).diagnostics,
      IsPlaceIn stop tokens diagnostic.position := by
  have name := within_readMacroName stop tokens
  have defined {rest : List Token} (subset : rest ⊆ tokens) :
      ∀ diagnostic ∈ (readMacroName stop tokens).diagnostics ++ (readQuery stop rest).diagnostics,
        IsPlaceIn stop tokens diagnostic.position :=
    List.forall_mem_append.mpr ⟨name.places, ((within_readQuery stop rest).mono subset).places⟩
  unfold parseMacro
  dsimp only
  split
  · exact name.places
  · next token rest skipped =>
      obtain ⟨member, subset⟩ := subset_of_skipBlankTokens skipped
      split
      · exact defined (List.Subset.trans subset name.rest)
      · exact defined (List.Subset.trans subset name.rest)
      · exact List.forall_mem_append.mpr ⟨name.places,
          List.forall_mem_singleton.mpr (.of_mem (name.rest member))⟩

/-- The problems of a query are at places of its tokens, or behind them. -/
theorem places_parseQuery (tokens : List Token) (stop : Position) :
    ∀ diagnostic ∈ (parseQuery tokens stop).diagnostics,
      IsPlaceIn stop tokens diagnostic.position := by
  have behind : (takeKind .atSign (skipBlankTokens tokens)).2 ⊆ tokens :=
    List.Subset.trans (takeKind_subset _ _) (skipBlankTokens_subset _)
  unfold parseQuery
  split
  · next rest taken =>
      rw [taken] at behind
      exact fun diagnostic member => (places_parseMacro stop rest diagnostic member).mono behind
  · next rest taken =>
      rw [taken] at behind
      exact ((within_readQuery stop rest).mono behind).places

end Readers

end SeededText.Vocabulary
