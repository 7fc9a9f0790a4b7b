import SeededText.Vocabulary.Carrier

/-!
Contract: what a carrier history says of the selections that made it.

A history that was fresh at first and has gone through selections is a view of the picks that they
made: its pins are latest picks, its anchors first picks, and its sets of entries hold all picks of
their kind and name. Selections that fail leave no trace.

Owns: sequences of selections, their picks, what a history remembers of them, what a selection
gives.
Does not own: what ties the picks of a sequence together (`SeededText.Proofs.CarrierTies`).
-/

namespace SeededText.Vocabulary

open SeededText.Random

/-! ### Sequences of selections -/

/-- A call of `select`: what was asked for, what there was to choose from, and what came of it. -/
structure Selection where
  query : Query
  pool : List Candidate
  outcome : Except SelectionFault Candidate

/-- Selections from a fresh history on, the latest in front, and the history that they lead to. Each
may draw from a source of its own. -/
inductive Selections (rules : CarrierRules) : List Selection → CarrierHistory → Prop where
  | fresh : Selections rules [] .fresh
  | chosen {σ : Type} [IndexSource σ] {source rest : σ} {selections : List Selection}
      {history next : CarrierHistory} {query : Query} {pool : List Candidate}
      {candidate : Candidate} (earlier : Selections rules selections history)
      (selected : history.select rules query pool source = .ok (candidate, next, rest)) :
      Selections rules (⟨query, pool, .ok candidate⟩ :: selections) next
  | failed {σ : Type} [IndexSource σ] {source : σ} {selections : List Selection}
      {history : CarrierHistory} {query : Query} {pool : List Candidate} {fault : SelectionFault}
      (earlier : Selections rules selections history)
      (refused : history.select rules query pool source = .error fault) :
      Selections rules (⟨query, pool, .error fault⟩ :: selections) history

/-- A candidate that was chosen, and the query it was chosen for. -/
structure Pick where
  query : Query
  candidate : Candidate

/-- The pick of a selection that did not fail. -/
def Selection.pick? (selection : Selection) : Option Pick :=
  match selection.outcome with
  | .ok candidate => some ⟨selection.query, candidate⟩
  | .error _ => none

/-- The picks of a sequence of selections, in the same order. -/
def picksOf (selections : List Selection) : List Pick :=
  selections.filterMap Selection.pick?

/-- Whether the carrier of its query has a component of one of the kinds under a name. -/
def Pick.carries (kinds : CarrierKind → Bool) (id : String) (pick : Pick) : Bool :=
  pick.query.carrier.any fun component => kinds component.kind && decide (component.id = id)

/-- The candidate of the latest pick that carries one of the kinds under a name. -/
def latest? (kinds : CarrierKind → Bool) (id : String) (picks : List Pick) : Option Candidate :=
  (picks.find? (Pick.carries kinds id)).map Pick.candidate

/-- The candidate of the first pick that carries one of the kinds under a name. -/
def first? (kinds : CarrierKind → Bool) (id : String) (picks : List Pick) : Option Candidate :=
  latest? kinds id picks.reverse

/-- Whether one of the picks carries one of the kinds under a name and is the given entry. -/
def wasPicked (kinds : CarrierKind → Bool) (id : String) (key : EntryKey) (picks : List Pick) :
    Bool :=
  picks.any fun pick => pick.carries kinds id && decide (pick.candidate.key = key)

namespace CarrierKind

/-- The one kind. -/
def is (kind other : CarrierKind) : Bool :=
  other = kind

/-- The kinds of a grouping, whether they pin or not. -/
def groupsBy (grouping : Grouping) : CarrierKind → Bool
  | .grouping other _ => other = grouping
  | _ => false

/-- The kinds that compare group keys. -/
def comparesGroups (kind : CarrierKind) : Bool :=
  kind.groupsBy .associative || kind.groupsBy .dissociative

end CarrierKind

section Picks

variable {kinds : CarrierKind → Bool} {id : String} {pick : Pick} {picks : List Pick}

theorem latest?_cons (pick : Pick) (picks : List Pick) :
    latest? kinds id (pick :: picks) =
      if pick.carries kinds id then some pick.candidate else latest? kinds id picks := by
  unfold latest?
  rw [List.find?_cons]
  cases pick.carries kinds id <;> rfl

theorem first?_cons (pick : Pick) (picks : List Pick) :
    first? kinds id (pick :: picks) =
      (first? kinds id picks).or
        (if pick.carries kinds id then some pick.candidate else none) := by
  unfold first? latest?
  rw [List.reverse_cons, List.find?_append, Option.map_or, List.find?_cons]
  cases pick.carries kinds id <;> rfl

theorem wasPicked_cons (key : EntryKey) (pick : Pick) (picks : List Pick) :
    wasPicked kinds id key (pick :: picks) =
      (pick.carries kinds id && decide (pick.candidate.key = key) ||
        wasPicked kinds id key picks) := rfl

/-- What a pick carries that was made under one component more. -/
theorem Pick.carries_append (query : Query) (components : List CarrierComponent)
    (component : CarrierComponent) (candidate : Candidate) :
    Pick.carries kinds id ⟨{ query with carrier := components ++ [component] }, candidate⟩ =
      (Pick.carries kinds id ⟨{ query with carrier := components }, candidate⟩ ||
        kinds component.kind && decide (component.id = id)) := by
  simp [carries]

end Picks

/-! ### What a history remembers -/

/-- A history is a view of the picks that were made. -/
structure CarrierHistory.Remembers (rules : CarrierRules) (history : CarrierHistory)
    (picks : List Pick) : Prop where
  pins : ∀ kind id, kind.pinsEntry = true →
    history.pin? ⟨kind, id⟩ = latest? kind.is id picks
  uniques : ∀ id key, history.uniques.has id key = wasPicked CarrierKind.unique.is id key picks
  matchUniques : ∀ id key,
    history.matchUniques.has id key = wasPicked CarrierKind.matchUnique.is id key picks
  rhymes : ∀ id, history.rhymes.find? id = first? CarrierKind.rhyme.is id picks
  groupKeys : ∀ id, history.groupKeys.find? id =
    (first? CarrierKind.comparesGroups id picks).map rules.groupKey
  relations : ∀ id,
    history.relations.find? id = first? (CarrierKind.groupsBy .relational) id picks
  /-- Picks of other forms do not count. -/
  divergences : ∀ (form : FormKey) key, history.divergences.has form key =
    wasPicked (CarrierKind.groupsBy .divergent) form.id key (picks.filter fun pick =>
      decide (pick.query.table = form.table ∧ pick.query.subtype? = form.subtype?))

namespace CarrierHistory

variable {rules : CarrierRules} {history : CarrierHistory} {picks : List Pick} {query : Query}
  {candidate : Candidate}

theorem remembers_fresh (rules : CarrierRules) : Remembers rules .fresh [] := by
  constructor <;> intros <;> rfl

/-- A pick that carries nothing leaves no trace. -/
theorem Remembers.untied (remembers : history.Remembers rules picks) :
    history.Remembers rules (⟨{ query with carrier := [] }, candidate⟩ :: picks) := by
  have carries (kinds : CarrierKind → Bool) (id : String) :
      Pick.carries kinds id ⟨{ query with carrier := [] }, candidate⟩ = false := rfl
  constructor
  · intro kind id pins
    rw [remembers.pins kind id pins, latest?_cons, carries]
    rfl
  · intro id key
    rw [remembers.uniques, wasPicked_cons, carries]
    rfl
  · intro id key
    rw [remembers.matchUniques, wasPicked_cons, carries]
    rfl
  · intro id
    rw [remembers.rhymes, first?_cons, carries]
    simp
  · intro id
    rw [remembers.groupKeys, first?_cons, carries]
    simp
  · intro id
    rw [remembers.relations, first?_cons, carries]
    simp
  · intro form key
    rw [remembers.divergences, List.filter_cons]
    split
    · rw [wasPicked_cons, carries]
      rfl
    · rfl

/-! ### What a choice adds -/

section Recording

variable (history : CarrierHistory) (rules : CarrierRules) (query : Query)
  (component : CarrierComponent) (candidate : Candidate)

/-- Only pins change with a pin. -/
theorem recordPin_eq :
    history.recordPin component candidate =
      { history with pins := (history.recordPin component candidate).pins } := by
  unfold recordPin
  split <;> rfl

theorem pin?_record (sought : CarrierComponent) :
    (history.record rules query component candidate).pin? sought =
      if component.kind.pinsEntry = true ∧ component = sought then some candidate
      else history.pin? sought := by
  have recorded : (history.record rules query component candidate).pins =
      (history.recordPin component candidate).pins := by
    unfold record
    split <;> rfl
  unfold pin?
  rw [recorded, recordPin]
  cases component.kind.pinsEntry <;> simp [Table.find?_insert]

theorem has_uniques_record (id : String) (key : EntryKey) :
    (history.record rules query component candidate).uniques.has id key =
      (CarrierKind.unique.is component.kind && decide (component.id = id) &&
        decide (candidate.key = key) || history.uniques.has id key) := by
  unfold record
  rw [recordPin_eq]
  split <;> simp [*, CarrierKind.is, PickedEntries.has_add, Bool.or_comm]

theorem has_matchUniques_record (id : String) (key : EntryKey) :
    (history.record rules query component candidate).matchUniques.has id key =
      (CarrierKind.matchUnique.is component.kind && decide (component.id = id) &&
        decide (candidate.key = key) || history.matchUniques.has id key) := by
  unfold record
  rw [recordPin_eq]
  split <;> simp [*, CarrierKind.is, PickedEntries.has_add, Bool.or_comm]

theorem has_divergences_record (form : FormKey) (key : EntryKey) :
    (history.record rules query component candidate).divergences.has form key =
      (CarrierKind.groupsBy .divergent component.kind &&
        decide ((⟨component.id, query.table, query.subtype?⟩ : FormKey) = form) &&
        decide (candidate.key = key) || history.divergences.has form key) := by
  unfold record
  rw [recordPin_eq]
  split <;> simp [*, CarrierKind.groupsBy, PickedEntries.has_add, Bool.or_comm]

theorem find?_rhymes_record (id : String) :
    (history.record rules query component candidate).rhymes.find? id =
      (history.rhymes.find? id).or
        (if CarrierKind.rhyme.is component.kind && decide (component.id = id) then some candidate
        else none) := by
  unfold record
  rw [recordPin_eq]
  split <;> simp [*, CarrierKind.is, Table.find?_insertIfNew]

theorem find?_groupKeys_record (id : String) :
    (history.record rules query component candidate).groupKeys.find? id =
      (history.groupKeys.find? id).or
        (if component.kind.comparesGroups && decide (component.id = id) then
          some (rules.groupKey candidate) else none) := by
  unfold record
  rw [recordPin_eq]
  split <;>
    simp [*, CarrierKind.comparesGroups, CarrierKind.groupsBy, Table.find?_insertIfNew]

theorem find?_relations_record (id : String) :
    (history.record rules query component candidate).relations.find? id =
      (history.relations.find? id).or
        (if component.kind.groupsBy .relational && decide (component.id = id) then some candidate
        else none) := by
  unfold record
  rw [recordPin_eq]
  split <;> simp [*, CarrierKind.groupsBy, Table.find?_insertIfNew]

end Recording

section Remembering

variable {rules : CarrierRules} {history : CarrierHistory} {picks : List Pick} {query : Query}
  {candidate : Candidate}

/-- A choice under one component more is remembered as a pick that carries it too. -/
theorem Remembers.record {components : List CarrierComponent}
    (remembers : history.Remembers rules
      (⟨{ query with carrier := components }, candidate⟩ :: picks))
    (component : CarrierComponent) :
    (history.record rules query component candidate).Remembers rules
      (⟨{ query with carrier := components ++ [component] }, candidate⟩ :: picks) := by
  constructor
  · intro kind id pins
    rw [pin?_record, remembers.pins kind id pins, latest?_cons, latest?_cons,
      Pick.carries_append]
    obtain ⟨other, name⟩ := component
    by_cases same : other = kind ∧ name = id
    · obtain ⟨rfl, rfl⟩ := same
      simp [pins, CarrierKind.is]
    · have different : (⟨other, name⟩ : CarrierComponent) ≠ ⟨kind, id⟩ := by simpa using same
      rw [if_neg fun both => different both.2]
      simp [CarrierKind.is, same]
  · intro id key
    rw [has_uniques_record, remembers.uniques, wasPicked_cons, wasPicked_cons,
      Pick.carries_append]
    grind
  · intro id key
    rw [has_matchUniques_record, remembers.matchUniques, wasPicked_cons, wasPicked_cons,
      Pick.carries_append]
    grind
  · intro id
    rw [find?_rhymes_record, remembers.rhymes, first?_cons, first?_cons, Pick.carries_append]
    grind
  · intro id
    rw [find?_groupKeys_record, remembers.groupKeys, first?_cons, first?_cons,
      Pick.carries_append]
    grind
  · intro id
    rw [find?_relations_record, remembers.relations, first?_cons, first?_cons,
      Pick.carries_append]
    grind
  · intro form key
    rw [has_divergences_record, remembers.divergences, List.filter_cons, List.filter_cons]
    by_cases sameForm : query.table = form.table ∧ query.subtype? = form.subtype?
    · have sought : (⟨component.id, query.table, query.subtype?⟩ : FormKey) = form ↔
          component.id = form.id := by
        obtain ⟨name, table, subtype?⟩ := form
        rw [FormKey.mk.injEq]
        exact and_iff_left sameForm
      rw [if_pos (by simpa using sameForm), if_pos (by simpa using sameForm), wasPicked_cons,
        wasPicked_cons, Pick.carries_append]
      grind
    · have other : (⟨component.id, query.table, query.subtype?⟩ : FormKey) ≠ form := by
        rintro rfl
        exact sameForm ⟨rfl, rfl⟩
      rw [if_neg (by simpa using sameForm), if_neg (by simpa using sameForm), decide_eq_false other]
      simp

end Remembering

section Choosing

variable {rules : CarrierRules} {history next : CarrierHistory} {picks : List Pick} {query : Query}
  {pool allowed : List Candidate} {candidate : Candidate} {components : List CarrierComponent}

/-- A choice is remembered as a pick of its query. -/
theorem Remembers.recordAll (remembers : history.Remembers rules picks) (query : Query)
    (candidate : Candidate) :
    (history.recordAll rules query candidate).Remembers rules (⟨query, candidate⟩ :: picks) := by
  -- The carrier is gone through from the left; what has been recorded is a pick that carries only
  -- the components before.
  have recorded (before after : List CarrierComponent) (history : CarrierHistory)
      (remembers : history.Remembers rules
        (⟨{ query with carrier := before }, candidate⟩ :: picks)) :
      (after.foldl (fun history component => history.record rules query component candidate)
        history).Remembers rules
          (⟨{ query with carrier := before ++ after }, candidate⟩ :: picks) := by
    induction after generalizing before history with
    | nil => simpa using remembers
    | cons component after inductionHypothesis =>
        have whole := inductionHypothesis _ _ (remembers.record component)
        rwa [List.append_assoc] at whole
  exact recorded [] query.carrier history remembers.untied

/-- The candidates of a pool that all the given components of a query allow. -/
def constrained (history : CarrierHistory) (rules : CarrierRules) (query : Query)
    (components : List CarrierComponent) (pool : List Candidate) : List Candidate :=
  pool.filter fun candidate =>
    components.all fun component => history.allows rules query component candidate

theorem constrained_nil (pool : List Candidate) : history.constrained rules query [] pool = pool :=
  List.filter_eq_self.mpr fun _ _ => rfl

theorem constrained_cons (component : CarrierComponent) (components : List CarrierComponent)
    (pool : List Candidate) :
    history.constrained rules query (component :: components) pool =
      history.constrained rules query components
        (pool.filter fun candidate => history.allows rules query component candidate) := by
  simp [constrained, List.filter_filter, Bool.and_comm]

/-- Going through the components one by one leaves what all of them allow, unless that is
nothing. -/
theorem constrain_eq (some : history.constrained rules query components pool ≠ []) :
    history.constrain rules query components pool =
      .ok (history.constrained rules query components pool) := by
  induction components generalizing pool with
  | nil => rw [constrained_nil, constrain]
  | cons component components inductionHypothesis =>
      rw [constrained_cons] at some ⊢
      have left : (pool.filter fun candidate =>
          history.allows rules query component candidate) ≠ [] := by
        intro none
        rw [none] at some
        exact some rfl
      rw [constrain, if_neg (by simpa using left), inductionHypothesis some]

theorem eq_of_constrain (constrains : history.constrain rules query components pool = .ok allowed) :
    allowed = history.constrained rules query components pool := by
  induction components generalizing pool with
  | nil =>
      cases constrains
      rw [constrained_nil]
  | cons component components inductionHypothesis =>
      rw [constrain] at constrains
      split at constrains
      · cases constrains
      · rw [constrained_cons, inductionHypothesis constrains]

/-- A pick is one of the candidates. -/
theorem mem_of_pick {σ : Type} [IndexSource σ] {source rest : σ}
    (picked : history.pick query pool source = (some candidate, rest)) : candidate ∈ pool := by
  unfold pick at picked
  split at picked
  · next pinned =>
      cases picked
      obtain ⟨pin, -, found⟩ := List.exists_of_findSome?_eq_some pinned
      exact List.mem_of_find?_eq_some found
  · exact List.mem_of_getElem? (Prod.mk.inj picked).1

/-- What a selection that succeeds gives: an admitted candidate, which is recorded. -/
theorem of_select {σ : Type} [IndexSource σ] {source rest : σ}
    (selected : history.select rules query pool source = .ok (candidate, next, rest)) :
    candidate ∈ history.constrained rules query query.carrier pool ∧
      next = history.recordAll rules query candidate := by
  unfold select at selected
  split at selected
  · cases selected
  · cases constrains : history.constrain rules query query.carrier pool with
    | error fault =>
        rw [constrains] at selected
        cases selected
    | ok allowed =>
        rw [constrains] at selected
        obtain rfl := eq_of_constrain constrains
        simp only [bind, Except.bind] at selected
        split at selected
        · next picked =>
            cases selected
            exact ⟨mem_of_pick picked, rfl⟩
        · cases selected

end Choosing

end CarrierHistory

/-- A history that has gone through selections is a view of their picks. -/
theorem Selections.remembers {rules : CarrierRules} {selections : List Selection}
    {history : CarrierHistory} (made : Selections rules selections history) :
    history.Remembers rules (picksOf selections) := by
  induction made with
  | fresh => exact CarrierHistory.remembers_fresh rules
  | chosen _ selected inductionHypothesis =>
      obtain ⟨-, rfl⟩ := CarrierHistory.of_select selected
      exact inductionHypothesis.recordAll _ _
  | failed _ _ inductionHypothesis => exact inductionHypothesis

end SeededText.Vocabulary
