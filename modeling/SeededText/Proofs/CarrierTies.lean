import SeededText.Proofs.Selections

/-!
Contract: picks under the same names are tied together.

Whatever is selected in between, the kinds of a carrier bind every pick to picks before it: to all
of them, to the latest or to the first that carries the name. A component that pins takes its latest
pick again as long as the whole carrier allows it.

Owns: what a pick owes to the picks before it, reuse of pins.
Does not own: what a history remembers of them (`SeededText.Proofs.Selections`).
-/

namespace SeededText.Vocabulary

open SeededText.Random

/-! ### Ties -/

/-- How a pick fits the picks before it, of which the latest stands in front. -/
structure Pick.Fits (rules : CarrierRules) (earlier : List Pick) (pick : Pick) : Prop where
  /-- No two picks under a unique name are the same entry. -/
  unique : ∀ id, pick.carries CarrierKind.unique.is id →
    ∀ other ∈ earlier, other.carries CarrierKind.unique.is id →
      other.candidate.key ≠ pick.candidate.key
  matchUnique : ∀ id, pick.carries CarrierKind.matchUnique.is id →
    ∀ other ∈ earlier, other.carries CarrierKind.matchUnique.is id →
      other.candidate.key ≠ pick.candidate.key
  /-- Nor is it the entry that matches under that name at the time. -/
  matching : ∀ id, pick.carries CarrierKind.matchUnique.is id →
    ∀ anchor, latest? CarrierKind.matching.is id earlier = some anchor →
      anchor.key ≠ pick.candidate.key
  rhyme : ∀ id, pick.carries CarrierKind.rhyme.is id →
    ∀ first, first? CarrierKind.rhyme.is id earlier = some first →
      rules.rhymes first pick.candidate = true
  /-- The first pick of any kind that compares group keys sets the key for all of them. -/
  associative : ∀ id, pick.carries (CarrierKind.groupsBy .associative) id →
    ∀ first, first? CarrierKind.comparesGroups id earlier = some first →
      rules.groupKey pick.candidate = rules.groupKey first
  dissociative : ∀ id, pick.carries (CarrierKind.groupsBy .dissociative) id →
    ∀ first, first? CarrierKind.comparesGroups id earlier = some first →
      rules.groupKey pick.candidate ≠ rules.groupKey first
  relational : ∀ id, pick.carries (CarrierKind.groupsBy .relational) id →
    ∀ first, first? (CarrierKind.groupsBy .relational) id earlier = some first →
      rules.related first pick.candidate = true

section Ties

variable {rules : CarrierRules} {history : CarrierHistory} {picks : List Pick} {query : Query}
  {candidate : Candidate} {kinds : CarrierKind → Bool} {id : String}

/-- What a pick carries is allowed by the component that says so. -/
theorem Pick.exists_component {pick : Pick} (carries : pick.carries kinds id = true) :
    ∃ kind, kinds kind = true ∧ ⟨kind, id⟩ ∈ pick.query.carrier := by
  obtain ⟨component, member, tied⟩ := List.any_eq_true.mp carries
  obtain ⟨isKind, named⟩ := Bool.and_eq_true_iff.mp tied
  obtain rfl := of_decide_eq_true named
  exact ⟨component.kind, isKind, member⟩

theorem CarrierKind.exists_grouping {grouping : Grouping} {kind : CarrierKind}
    (groups : kind.groupsBy grouping = true) : ∃ pins, kind = .grouping grouping pins := by
  cases kind with
  | grouping other pins => exact ⟨pins, congrArg (CarrierKind.grouping · pins)
      (of_decide_eq_true groups)⟩
  | matching | unique | matchUnique | rhyme => cases groups

/-- An entry that a pick under the name took was picked. -/
theorem wasPicked_of_mem {key : EntryKey} {pick : Pick} (member : pick ∈ picks)
    (carries : pick.carries kinds id = true) (same : pick.candidate.key = key) :
    wasPicked kinds id key picks = true :=
  List.any_eq_true.mpr ⟨pick, member, by simp [carries, same]⟩

/-- A candidate that the history admits fits the picks that the history remembers. -/
theorem CarrierHistory.Remembers.fits (remembers : history.Remembers rules picks)
    (admitted : ∀ component ∈ query.carrier,
      history.allows rules query component candidate = true) :
    Pick.Fits rules picks ⟨query, candidate⟩ := by
  have allowed {kinds : CarrierKind → Bool} {id : String}
      (carries : Pick.carries kinds id ⟨query, candidate⟩ = true) :
      ∃ kind, kinds kind = true ∧ history.allows rules query ⟨kind, id⟩ candidate = true := by
    obtain ⟨kind, isKind, member⟩ := Pick.exists_component carries
    exact ⟨kind, isKind, admitted _ member⟩
  constructor
  · intro id carries other member tied same
    obtain ⟨kind, isKind, allows⟩ := allowed carries
    obtain rfl := of_decide_eq_true isKind
    have picked := wasPicked_of_mem member tied same
    simp [CarrierHistory.allows, remembers.uniques, picked] at allows
  · intro id carries other member tied same
    obtain ⟨kind, isKind, allows⟩ := allowed carries
    obtain rfl := of_decide_eq_true isKind
    have picked := wasPicked_of_mem member tied same
    simp [CarrierHistory.allows, remembers.matchUniques, picked] at allows
  · intro id carries anchor latest
    obtain ⟨kind, isKind, allows⟩ := allowed carries
    obtain rfl := of_decide_eq_true isKind
    have pinned : history.pin? ⟨.matching, id⟩ = some anchor :=
      (remembers.pins .matching id rfl).trans latest
    simp only [CarrierHistory.allows, pinned, Option.all_some, Bool.and_eq_true, bne_iff_ne] at allows
    exact allows.1
  · intro id carries first known
    obtain ⟨kind, isKind, allows⟩ := allowed carries
    obtain rfl := of_decide_eq_true isKind
    simpa [CarrierHistory.allows, remembers.rhymes, known] using allows
  · intro id carries first known
    obtain ⟨kind, isKind, allows⟩ := allowed carries
    obtain ⟨pins, rfl⟩ := CarrierKind.exists_grouping isKind
    have same : rules.groupKey first = rules.groupKey candidate := by
      simpa [CarrierHistory.allows, remembers.groupKeys, known] using allows
    exact same.symm
  · intro id carries first known
    obtain ⟨kind, isKind, allows⟩ := allowed carries
    obtain ⟨pins, rfl⟩ := CarrierKind.exists_grouping isKind
    have different : rules.groupKey first ≠ rules.groupKey candidate := by
      simpa [CarrierHistory.allows, remembers.groupKeys, known] using allows
    exact different.symm
  · intro id carries first known
    obtain ⟨kind, isKind, allows⟩ := allowed carries
    obtain ⟨pins, rfl⟩ := CarrierKind.exists_grouping isKind
    simpa [CarrierHistory.allows, remembers.relations, known] using allows

theorem CarrierHistory.allows_of_mem_constrained {pool : List Candidate}
    (member : candidate ∈ history.constrained rules query query.carrier pool) :
    ∀ component ∈ query.carrier, history.allows rules query component candidate = true :=
  List.all_eq_true.mp (List.mem_filter.mp member).2

/-- Every pick was admitted by a history that remembers the picks before it. -/
theorem Selections.exists_admitted {selections : List Selection} {later earlier : List Pick}
    {pick : Pick} (made : Selections rules selections history)
    (picks : picksOf selections = later ++ pick :: earlier) :
    ∃ before : CarrierHistory, before.Remembers rules earlier ∧
      ∀ component ∈ pick.query.carrier,
        before.allows rules pick.query component pick.candidate = true := by
  induction made generalizing later with
  | fresh => simp [picksOf] at picks
  | failed _ _ inductionHypothesis => exact inductionHypothesis picks
  | chosen before selected inductionHypothesis =>
      cases later with
      | nil =>
          obtain ⟨rfl, rfl⟩ := List.cons.inj picks
          have member := (CarrierHistory.of_select selected).1
          exact ⟨_, before.remembers, CarrierHistory.allows_of_mem_constrained member⟩
      | cons last later => exact inductionHypothesis (List.cons.inj picks).2

/-- Every pick that selections make fits the picks before it. -/
theorem fits_of_selections {selections : List Selection}
    (made : Selections rules selections history) (later earlier : List Pick) (pick : Pick)
    (picks : picksOf selections = later ++ pick :: earlier) : pick.Fits rules earlier := by
  induction made generalizing later with
  | fresh => simp [picksOf] at picks
  | failed _ _ inductionHypothesis => exact inductionHypothesis later picks
  | chosen before selected inductionHypothesis =>
      cases later with
      | nil =>
          obtain ⟨rfl, rfl⟩ := List.cons.inj picks
          have member := (CarrierHistory.of_select selected).1
          exact before.remembers.fits (CarrierHistory.allows_of_mem_constrained member)
      | cons last later => exact inductionHypothesis later (List.cons.inj picks).2

end Ties

/-! ### Pins -/

namespace CarrierHistory

/-- A component pins an entry that is among the candidates. -/
def PinsIn (history : CarrierHistory) (component : CarrierComponent) (pool : List Candidate) :
    Prop :=
  component.kind.pinsEntry = true ∧
    ∃ pin, history.pin? component = some pin ∧ ∃ candidate ∈ pool, candidate.key = pin.key

/-- How one of the candidates that a query's carrier allows is chosen. -/
inductive Chooses {σ : Type} [IndexSource σ] (history : CarrierHistory) (query : Query)
    (pool : List Candidate) (source : σ) : Candidate → σ → Prop where
  /-- The first component that pins one of the candidates decides, and nothing is drawn. -/
  | pinned {before after : List CarrierComponent} {component : CarrierComponent}
      {pin candidate : Candidate} (carrier : query.carrier = before ++ component :: after)
      (none : ∀ other ∈ before, ¬ history.PinsIn other pool)
      (pins : component.kind.pinsEntry = true) (holds : history.pin? component = some pin)
      (member : candidate ∈ pool) (same : candidate.key = pin.key) :
      Chooses history query pool source candidate source
  /-- If no component pins one of the candidates, one of them is drawn. -/
  | drawn {candidate : Candidate} (none : ∀ component ∈ query.carrier, ¬ history.PinsIn component pool)
      (drawn : pool[(IndexSource.chooseBelow source pool.length).1]? = some candidate) :
      Chooses history query pool source candidate (IndexSource.chooseBelow source pool.length).2

section Pinning

variable {rules : CarrierRules} {history : CarrierHistory} {query : Query}
  {pool : List Candidate} {candidate : Candidate} {components : List CarrierComponent}

theorem pinned?_cons (component : CarrierComponent) (components : List CarrierComponent)
    (pool : List Candidate) :
    history.pinned? (component :: components) pool =
      ((if component.kind.pinsEntry then history.pin? component else none).bind fun pin =>
        pool.find? fun candidate => candidate.key = pin.key).or
          (history.pinned? components pool) := by
  unfold pinned?
  rw [List.filter_cons]
  split
  · rw [List.filterMap_cons]
    cases history.pin? component with
    | none => rfl
    | some pin =>
        rw [List.findSome?_cons, Option.bind_some]
        split
        · next found => rw [found, Option.some_or]
        · next missing => rw [missing, Option.none_or]
  · rfl

/-- A component that pins nothing among the candidates does not decide. -/
theorem pinned?_cons_of_not_pinsIn {component : CarrierComponent}
    (not : ¬ history.PinsIn component pool) :
    history.pinned? (component :: components) pool = history.pinned? components pool := by
  rw [pinned?_cons]
  split
  · next pins =>
      cases holds : history.pin? component with
      | none => rfl
      | some pin =>
          have missing : pool.find? (fun candidate => candidate.key = pin.key) = none := by
            rw [List.find?_eq_none]
            intro candidate member
            simpa using fun same => not ⟨pins, pin, holds, candidate, member, same⟩
          rw [Option.bind_some, missing, Option.none_or]
  · rfl

theorem exists_pinned?_cons {component : CarrierComponent}
    (pinsIn : history.PinsIn component pool) :
    ∃ pin candidate, history.pin? component = some pin ∧ candidate ∈ pool ∧
      candidate.key = pin.key ∧
      history.pinned? (component :: components) pool = some candidate := by
  obtain ⟨pins, pin, holds, member⟩ := pinsIn
  have found : (pool.find? fun candidate => candidate.key = pin.key).isSome := by
    simpa using member
  obtain ⟨candidate, found⟩ := Option.isSome_iff_exists.mp found
  refine ⟨pin, candidate, holds, List.mem_of_find?_eq_some found, ?_, ?_⟩
  · simpa using List.find?_some found
  · rw [pinned?_cons, if_pos pins, holds, Option.bind_some, found, Option.some_or]

/-- What is picked from candidates is chosen among them. -/
theorem exists_chooses {σ : Type} [IndexSource σ] (history : CarrierHistory) (query : Query)
    (source : σ) (some : pool ≠ []) :
    ∃ candidate rest, history.pick query pool source = (.some candidate, rest) ∧
      history.Chooses query pool source candidate rest := by
  -- Either no component pins a candidate, or there is a first one that does.
  have cases (before components : List CarrierComponent)
      (none : ∀ other ∈ before, ¬ history.PinsIn other pool) :
      history.pinned? components pool = .none ∧
          (∀ component ∈ before ++ components, ¬ history.PinsIn component pool) ∨
        ∃ candidate, history.pinned? components pool = .some candidate ∧
          ∃ first component after pin, before ++ components = first ++ component :: after ∧
            (∀ other ∈ first, ¬ history.PinsIn other pool) ∧ component.kind.pinsEntry = true ∧
            history.pin? component = .some pin ∧ candidate ∈ pool ∧ candidate.key = pin.key := by
    induction components generalizing before with
    | nil => exact .inl ⟨rfl, by simpa using none⟩
    | cons component components inductionHypothesis =>
        by_cases pinsIn : history.PinsIn component pool
        · obtain ⟨pin, candidate, holds, member, same, pinned⟩ := exists_pinned?_cons pinsIn
          exact .inr ⟨candidate, pinned, before, component, components, pin, rfl, none, pinsIn.1,
            holds, member, same⟩
        · rw [pinned?_cons_of_not_pinsIn pinsIn, List.append_cons]
          refine inductionHypothesis (before ++ [component]) ?_
          intro other member
          rcases List.mem_append.mp member with earlier | same
          · exact none other earlier
          · exact List.mem_singleton.mp same ▸ pinsIn
  rcases cases [] query.carrier (by simp) with ⟨unpinned, none⟩ | ⟨candidate, pinned, rest⟩
  · have inside := IndexSource.chooseBelow_lt source pool.length (List.length_pos_iff.mpr some)
    refine ⟨pool[(IndexSource.chooseBelow source pool.length).1], _, ?_,
      .drawn none (List.getElem?_eq_getElem inside)⟩
    simp only [pick, unpinned, List.getElem?_eq_getElem inside]
  · obtain ⟨before, component, after, pin, carrier, none, pins, holds, member, same⟩ := rest
    refine ⟨candidate, source, ?_, .pinned carrier none pins holds member same⟩
    simp only [pick, pinned]

theorem select_of_pick {σ : Type} [IndexSource σ] {source rest : σ}
    (some : history.constrained rules query query.carrier pool ≠ [])
    (picked : history.pick query (history.constrained rules query query.carrier pool) source =
      (.some candidate, rest)) :
    history.select rules query pool source =
      .ok (candidate, history.recordAll rules query candidate, rest) := by
  have present : pool ≠ [] := by
    rintro rfl
    exact some rfl
  rw [select, if_neg (by simpa using present), constrain_eq some]
  simp only [bind, Except.bind, picked]
  rfl

/-- A query succeeds if its carrier allows some candidate. -/
theorem exists_select {σ : Type} [IndexSource σ] (source : σ)
    (some : history.constrained rules query query.carrier pool ≠ []) :
    ∃ candidate rest, history.select rules query pool source =
        .ok (candidate, history.recordAll rules query candidate, rest) ∧
      history.Chooses query (history.constrained rules query query.carrier pool) source candidate
        rest := by
  obtain ⟨candidate, rest, picked, chooses⟩ := history.exists_chooses query source some
  exact ⟨candidate, rest, select_of_pick some picked, chooses⟩

end Pinning

end CarrierHistory

section Reuse

variable {rules : CarrierRules} {history : CarrierHistory} {picks : List Pick} {query : Query}
  {candidate : Candidate} {id : String}

/-- Behind a choice every component of the query that pins, pins it. -/
theorem CarrierHistory.Remembers.pin?_recordAll (remembers : history.Remembers rules picks)
    {component : CarrierComponent} (member : component ∈ query.carrier)
    (pins : component.kind.pinsEntry = true) :
    (history.recordAll rules query candidate).pin? component = some candidate := by
  rw [(remembers.recordAll query candidate).pins component.kind component.id pins, latest?_cons]
  refine if_pos (List.any_eq_true.mpr ⟨component, member, ?_⟩)
  simp [CarrierKind.is]

/-- A carrier that only asks for a match allows everything. -/
theorem CarrierHistory.constrained_matching (history : CarrierHistory) (rules : CarrierRules)
    (pool : List Candidate) (matching : ∀ component ∈ query.carrier, component = ⟨.matching, id⟩) :
    history.constrained rules query query.carrier pool = pool := by
  refine List.filter_eq_self.mpr fun candidate _ => List.all_eq_true.mpr ?_
  intro component member
  rw [matching component member]
  rfl

/-- A query that only asks for a match takes the pinned entry again. -/
theorem CarrierHistory.exists_select_matching {σ : Type} [IndexSource σ] {pin : Candidate}
    {pool : List Candidate} (rules : CarrierRules) (source : σ)
    (pinned : history.pin? ⟨.matching, id⟩ = some pin) (tied : query.carrier ≠ [])
    (matching : ∀ component ∈ query.carrier, component = ⟨.matching, id⟩)
    (present : ∃ entry ∈ pool, entry.key = pin.key) :
    ∃ again next, history.select rules query pool source = .ok (again, next, source) ∧
      again ∈ pool ∧ again.key = pin.key := by
  have everything := history.constrained_matching rules pool matching
  have some : history.constrained rules query query.carrier pool ≠ [] := by
    obtain ⟨entry, member, -⟩ := present
    rw [everything]
    exact List.ne_nil_of_mem member
  obtain ⟨again, rest, selected, chooses⟩ := exists_select source some
  rw [everything] at chooses
  cases chooses with
  | drawn none =>
      obtain ⟨component, member⟩ := List.exists_mem_of_ne_nil query.carrier tied
      have same := matching component member
      exact absurd ⟨same ▸ rfl, pin, same ▸ pinned, present⟩ (none component member)
  | pinned carrier none pins holds member same =>
      have component := matching _ (carrier ▸ List.mem_append_cons_self)
      rw [component, pinned] at holds
      cases holds
      exact ⟨again, _, selected, member, same⟩

/-- How pins follow the picks that were made, of which the latest stands in front. -/
structure CarrierHistory.ReusesPins (rules : CarrierRules) (history : CarrierHistory)
    (picks : List Pick) : Prop where
  /-- What a component pins is the latest pick that carries it. -/
  pins : ∀ kind id, kind.pinsEntry = true →
    history.pin? ⟨kind, id⟩ = latest? kind.is id picks
  /-- A query whose carrier allows some candidate succeeds; its first component that pins one of
  them decides, else one is drawn. The choice is pinned by all components that pin. -/
  next : ∀ {σ : Type} [IndexSource σ] (source : σ) (query : Query) (pool : List Candidate),
    history.constrained rules query query.carrier pool ≠ [] →
    ∃ candidate next rest, history.select rules query pool source = .ok (candidate, next, rest) ∧
      history.Chooses query (history.constrained rules query query.carrier pool) source candidate
        rest ∧
      ∀ component ∈ query.carrier, component.kind.pinsEntry = true →
        next.pin? component = some candidate
  /-- A query that only asks for a match takes the latest match again, if it is there. -/
  again : ∀ (id : String) (between earlier : List Pick) (first : Pick),
    picks = between ++ first :: earlier →
    first.carries CarrierKind.matching.is id = true →
    (∀ pick ∈ between, pick.carries CarrierKind.matching.is id = false) →
    ∀ {σ : Type} [IndexSource σ] (source : σ) (query : Query) (pool : List Candidate),
      query.carrier ≠ [] → (∀ component ∈ query.carrier, component = ⟨.matching, id⟩) →
      (∃ entry ∈ pool, entry.key = first.candidate.key) →
      ∃ again next, history.select rules query pool source = .ok (again, next, source) ∧
        again ∈ pool ∧ again.key = first.candidate.key

/-- Whatever has been selected before, pins are latest picks, and they are taken again as long as
the whole carrier allows them. -/
theorem reusesPins_of_selections {selections : List Selection}
    (made : Selections rules selections history) :
    history.ReusesPins rules (picksOf selections) := by
  have remembers := made.remembers
  refine ⟨remembers.pins, ?_, ?_⟩
  · intro σ _ source query pool some
    obtain ⟨candidate, rest, selected, chooses⟩ :=
      CarrierHistory.exists_select source some
    exact ⟨candidate, _, rest, selected, chooses, fun _ => remembers.pin?_recordAll⟩
  · intro id between earlier first picks carries untied σ _ source query pool tied matching present
    refine CarrierHistory.exists_select_matching rules source ?_ tied matching present
    rw [remembers.pins .matching id rfl, picks, latest?, List.find?_append,
      List.find?_eq_none.mpr (by simpa using untied), Option.none_or, List.find?_cons, carries]
    rfl

end Reuse

/-! ### A match and its counterpart

The first query takes a word under a name. The second one asks for another word than the one that
matches, and there is only one; so the third one fails. -/

namespace Counterpart

/-- A source that always chooses the first. -/
structure Leftmost

instance : IndexSource Leftmost where
  chooseBelow source _ := (0, source)
  chooseBelow_lt _ _ positive := positive

def cat : Candidate := ⟨⟨"noun", 0⟩, "cat", none, ["animal"], 1⟩

def dog : Candidate := ⟨⟨"noun", 1⟩, "dog", none, ["animal"], 1⟩

def asking (kind : CarrierKind) : Query :=
  { Query.all "noun" with carrier := [⟨kind, "pet"⟩] }

def matched : CarrierHistory :=
  CarrierHistory.fresh.recordAll .standard (asking .matching) cat

def selections : List Selection :=
  [⟨asking .matchUnique, [cat, dog], .error (.exhausted "noun" ⟨.matchUnique, "pet"⟩)⟩,
    ⟨asking .matchUnique, [cat, dog], .ok dog⟩, ⟨asking .matching, [cat, dog], .ok cat⟩]

def history : CarrierHistory :=
  matched.recordAll .standard (asking .matchUnique) dog

theorem selections_made : Selections .standard selections history := by
  have first : CarrierHistory.fresh.select .standard (asking .matching) [cat, dog] Leftmost.mk =
      .ok (cat, matched, .mk) := rfl
  have second : matched.select .standard (asking .matchUnique) [cat, dog] Leftmost.mk =
      .ok (dog, history, .mk) := rfl
  have third : history.select .standard (asking .matchUnique) [cat, dog] Leftmost.mk =
      .error (.exhausted "noun" ⟨.matchUnique, "pet"⟩) := rfl
  exact .failed (.chosen (.chosen .fresh first) second) third

theorem fits_dog : Pick.Fits .standard [⟨asking .matching, cat⟩] ⟨asking .matchUnique, dog⟩ :=
  fits_of_selections selections_made [] _ _ rfl

theorem reusesPins_history : history.ReusesPins .standard (picksOf selections) :=
  reusesPins_of_selections selections_made

end Counterpart

end SeededText.Vocabulary
