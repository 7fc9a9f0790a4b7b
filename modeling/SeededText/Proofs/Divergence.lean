import SeededText.Proofs.CarrierTies

/-!
Contract: divergent answers do not repeat a form as queries write it.

Of the queries that a run resolves, those under one divergent name that write table and form alike
are answered by different entries. A form that is written in another way, by its number in place of
its name or not at all, counts as another form: the entry is not remembered for it.

Owns: sequences of resolved queries, what divergent components refuse behind them.
Does not own: the other kinds of carriers (`SeededText.Proofs.CarrierTies`).
-/

namespace SeededText.Vocabulary

open SeededText.Random

/-! ### Sequences of resolved queries -/

/-- A query that was resolved, and what came of it. -/
structure Resolution where
  query : Query
  outcome : Except SelectionFault Candidate

/-- Queries resolved from a fresh history on, the latest in front, and the history that they lead
to. Each may draw from a source of its own. -/
inductive Resolutions (lexicon : Lexicon) (rules : CarrierRules) :
    List Resolution → CarrierHistory → Prop where
  | fresh : Resolutions lexicon rules [] .fresh
  | answered {σ : Type} [IndexSource σ] {source rest : σ} {resolutions : List Resolution}
      {history next : CarrierHistory} {query : Query} {candidate : Candidate}
      (earlier : Resolutions lexicon rules resolutions history)
      (resolved : history.resolve lexicon rules query source = .ok (candidate, next, rest)) :
      Resolutions lexicon rules (⟨query, .ok candidate⟩ :: resolutions) next
  | failed {σ : Type} [IndexSource σ] {source : σ} {resolutions : List Resolution}
      {history : CarrierHistory} {query : Query} {fault : SelectionFault}
      (earlier : Resolutions lexicon rules resolutions history)
      (refused : history.resolve lexicon rules query source = .error fault) :
      Resolutions lexicon rules (⟨query, .error fault⟩ :: resolutions) history

/-- The pick of a query that was answered. -/
def Resolution.pick? (resolution : Resolution) : Option Pick :=
  match resolution.outcome with
  | .ok candidate => some ⟨resolution.query, candidate⟩
  | .error _ => none

/-- The picks of resolved queries, in the same order. -/
def answersOf (resolutions : List Resolution) : List Pick :=
  resolutions.filterMap Resolution.pick?

section Resolving

variable {lexicon : Lexicon} {rules : CarrierRules} {resolutions : List Resolution}
  {history : CarrierHistory}

theorem CarrierHistory.exists_select_of_resolve {σ : Type} [IndexSource σ] {source : σ}
    {query : Query} {result : Candidate × CarrierHistory × σ}
    (resolved : history.resolve lexicon rules query source = .ok result) :
    ∃ pool, lexicon.lookup query = .ok pool ∧
      history.select rules query pool source = .ok result := by
  unfold resolve at resolved
  cases looked : lexicon.lookup query with
  | error fault =>
      rw [looked] at resolved
      cases resolved
  | ok pool =>
      rw [looked] at resolved
      exact ⟨pool, rfl, resolved⟩

/-- Resolved queries are selections, as far as they could be looked up. -/
theorem Resolutions.exists_selections (made : Resolutions lexicon rules resolutions history) :
    ∃ selections, Selections rules selections history ∧
      picksOf selections = answersOf resolutions := by
  induction made with
  | fresh => exact ⟨[], .fresh, rfl⟩
  | answered _ resolved inductionHypothesis =>
      obtain ⟨selections, selected, picks⟩ := inductionHypothesis
      obtain ⟨pool, -, chosen⟩ := CarrierHistory.exists_select_of_resolve resolved
      exact ⟨_, .chosen selected chosen, congrArg (_ :: ·) picks⟩
  | failed _ _ inductionHypothesis => exact inductionHypothesis

end Resolving

/-! ### Divergent picks -/

/-- Two queries write the same form of the same table. -/
def Query.WritesForm (first second : Query) : Prop :=
  first.table = second.table ∧ first.subtype? = second.subtype?

/-- How picks under divergent names go together, of which the latest stands in front. -/
structure CarrierHistory.Diverges (rules : CarrierRules) (history : CarrierHistory)
    (picks : List Pick) : Prop where
  /-- Two picks under one name for a form that is written alike are different entries. -/
  differ : ∀ (later earlier : List Pick) (pick : Pick), picks = later ++ pick :: earlier →
    ∀ id, pick.carries (CarrierKind.groupsBy .divergent) id = true →
    ∀ other ∈ earlier, other.carries (CarrierKind.groupsBy .divergent) id = true →
      other.query.WritesForm pick.query → other.candidate.key ≠ pick.candidate.key
  /-- The next query is refused those entries, and for a form that is written in another way none of
  them. -/
  refuses : ∀ (query : Query) (pins : Bool) (id : String) (candidate : Candidate),
    history.allows rules query ⟨.grouping .divergent pins, id⟩ candidate = false ↔
      ∃ pick ∈ picks, pick.carries (CarrierKind.groupsBy .divergent) id = true ∧
        pick.query.WritesForm query ∧ pick.candidate.key = candidate.key

section Diverging

variable {rules : CarrierRules} {history : CarrierHistory} {picks : List Pick}
  {selections : List Selection}

/-- What a divergent component refuses is what was picked under its name for the form. -/
theorem CarrierHistory.Remembers.refuses (remembers : history.Remembers rules picks)
    (query : Query) (pins : Bool) (id : String) (candidate : Candidate) :
    history.allows rules query ⟨.grouping .divergent pins, id⟩ candidate = false ↔
      ∃ pick ∈ picks, pick.carries (CarrierKind.groupsBy .divergent) id = true ∧
        pick.query.WritesForm query ∧ pick.candidate.key = candidate.key := by
  rw [CarrierHistory.allows, remembers.divergences, Bool.not_eq_false', wasPicked,
    List.any_eq_true]
  simp only [List.mem_filter, decide_eq_true_eq, Bool.and_eq_true, Query.WritesForm]
  grind

/-- Every divergent pick differs from those before it for the form as it is written. -/
theorem differ_of_selections (made : Selections rules selections history)
    (later earlier : List Pick) (pick : Pick)
    (parts : picksOf selections = later ++ pick :: earlier) (id : String)
    (carries : pick.carries (CarrierKind.groupsBy .divergent) id = true) :
    ∀ other ∈ earlier, other.carries (CarrierKind.groupsBy .divergent) id = true →
      other.query.WritesForm pick.query → other.candidate.key ≠ pick.candidate.key := by
  intro other member tied alike same
  obtain ⟨before, remembers, admitted⟩ := made.exists_admitted parts
  obtain ⟨kind, groups, inCarrier⟩ := Pick.exists_component carries
  obtain ⟨pins, rfl⟩ := CarrierKind.exists_grouping groups
  have refused := (remembers.refuses _ pins id _).mpr ⟨other, member, tied, alike, same⟩
  rw [admitted _ inCarrier] at refused
  cases refused

end Diverging

/-- Whatever has been resolved before, under a divergent name no entry is taken twice for a form
that is written alike. -/
theorem diverges_of_resolutions {lexicon : Lexicon} {rules : CarrierRules}
    {resolutions : List Resolution} {history : CarrierHistory}
    (made : Resolutions lexicon rules resolutions history) :
    history.Diverges rules (answersOf resolutions) := by
  obtain ⟨selections, selected, picks⟩ := made.exists_selections
  rw [← picks]
  exact ⟨differ_of_selections selected, selected.remembers.refuses⟩

/-! ### One form written in three ways

The first form of a verb is asked for without a name, by its name and by its number, each time under
the same divergent name. The one entry is taken each time. -/

namespace ThreeSpellings

def verbs : Dictionary :=
  .ofTables [("verb", ⟨"verb", ["base", "past"],
    [⟨[⟨"sing", none, none⟩, ⟨"sang", none, none⟩], []⟩]⟩)]

def asking (subtype? : Option String) : Query :=
  { Query.all "verb" with subtype? := subtype?, carrier := [⟨.grouping .divergent false, "d"⟩] }

def sing : Candidate := ⟨⟨"verb", 0⟩, "sing", none, [], 2⟩

def afterOmitted : CarrierHistory :=
  CarrierHistory.fresh.recordAll .standard (asking none) sing

def afterNamed : CarrierHistory :=
  afterOmitted.recordAll .standard (asking (some "base")) sing

def afterNumbered : CarrierHistory :=
  afterNamed.recordAll .standard (asking (some "0")) sing

def resolutions : List Resolution :=
  [⟨asking (some "0"), .ok sing⟩, ⟨asking (some "base"), .ok sing⟩, ⟨asking none, .ok sing⟩]

theorem resolutions_made : Resolutions verbs.lexicon .standard resolutions afterNumbered := by
  have omitted : CarrierHistory.fresh.resolve verbs.lexicon .standard (asking none)
      Counterpart.Leftmost.mk = .ok (sing, afterOmitted, .mk) := rfl
  have named : afterOmitted.resolve verbs.lexicon .standard (asking (some "base"))
      Counterpart.Leftmost.mk = .ok (sing, afterNamed, .mk) := rfl
  have numbered : afterNamed.resolve verbs.lexicon .standard (asking (some "0"))
      Counterpart.Leftmost.mk = .ok (sing, afterNumbered, .mk) := rfl
  exact .answered (.answered (.answered .fresh omitted) named) numbered

theorem diverges_afterNumbered : afterNumbered.Diverges .standard (answersOf resolutions) :=
  diverges_of_resolutions resolutions_made

/-- Under a divergent name an entry can be taken twice for one form. -/
theorem form_is_repeated :
    ¬ ∀ (dictionary : Dictionary) (rules : CarrierRules) (resolutions : List Resolution)
      (history : CarrierHistory), Resolutions dictionary.lexicon rules resolutions history →
      ∀ (later earlier : List Pick) (pick other : Pick),
        answersOf resolutions = later ++ pick :: earlier → other ∈ earlier →
      ∀ id, pick.carries (CarrierKind.groupsBy .divergent) id = true →
        other.carries (CarrierKind.groupsBy .divergent) id = true →
      ∀ (table : WordTable) (form : Nat), other.query.table = pick.query.table →
        dictionary.table? pick.query.table = some table →
        table.formIndex other.query.subtype? = .ok form →
        table.formIndex pick.query.subtype? = .ok form →
        other.candidate.key ≠ pick.candidate.key := by
  intro never
  exact never verbs .standard resolutions afterNumbered resolutions_made
    [⟨asking (some "0"), sing⟩] [⟨asking none, sing⟩] ⟨asking (some "base"), sing⟩
    ⟨asking none, sing⟩ rfl List.mem_cons_self "d" rfl rfl _ 0 rfl rfl rfl rfl rfl

end ThreeSpellings

end SeededText.Vocabulary
