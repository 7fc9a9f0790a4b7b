import SeededText.Proofs.CarrierTies

/-!
Contract: a selection that fails changes nothing, and one that succeeds takes what is allowed.

A selection is said once more as a program that works on history and source of chance in place: it
filters, takes or draws, and records, each for one component after the other, and what it has
changed before it fails stays changed. Run from any history it comes to what `CarrierHistory.select`
gives, and where it fails it has changed nothing.

Owns: selections in place, when and by what fault a selection fails, what it leaves.
Does not own: which of the allowed candidates is taken (`SeededText.Proofs.CarrierTies`).
-/

namespace SeededText.Vocabulary

open SeededText.Random

/-! ### Faults -/

namespace CarrierHistory

section Faults

variable {history : CarrierHistory} {rules : CarrierRules} {query : Query}
  {components : List CarrierComponent} {pool : List Candidate}

theorem constrained_empty : history.constrained rules query components [] = [] := rfl

/-- The first component that leaves nothing. -/
def Empties (history : CarrierHistory) (rules : CarrierRules) (query : Query)
    (components : List CarrierComponent) (pool : List Candidate) (component : CarrierComponent) :
    Prop :=
  ∃ before after, components = before ++ component :: after ∧
    history.constrained rules query before pool ≠ [] ∧
    history.constrained rules query (before ++ [component]) pool = []

theorem empties_cons {first component : CarrierComponent}
    (left : (pool.filter fun candidate => history.allows rules query first candidate) ≠ []) :
    history.Empties rules query (first :: components) pool component ↔
      history.Empties rules query components
        (pool.filter fun candidate => history.allows rules query first candidate) component := by
  constructor
  · rintro ⟨before, after, parts, some, none⟩
    cases before with
    | nil =>
        obtain ⟨rfl, rfl⟩ := List.cons.inj parts
        rw [List.nil_append, constrained_cons, constrained_nil] at none
        exact absurd none left
    | cons head before =>
        obtain ⟨rfl, rfl⟩ := List.cons.inj parts
        rw [List.cons_append, constrained_cons] at none
        rw [constrained_cons] at some
        exact ⟨before, after, rfl, some, none⟩
  · rintro ⟨before, after, rfl, some, none⟩
    refine ⟨first :: before, after, rfl, ?_, ?_⟩
    · rwa [constrained_cons]
    · rwa [List.cons_append, constrained_cons]

theorem empties_cons_of_nil {first component : CarrierComponent} (some : pool ≠ [])
    (none : (pool.filter fun candidate => history.allows rules query first candidate) = []) :
    history.Empties rules query (first :: components) pool component ↔ component = first := by
  constructor
  · rintro ⟨before, after, parts, left, -⟩
    cases before with
    | nil => exact (List.cons.inj parts).1.symm
    | cons head before =>
        obtain ⟨rfl, rfl⟩ := List.cons.inj parts
        rw [constrained_cons, none] at left
        exact absurd constrained_empty left
  · rintro rfl
    refine ⟨[], components, rfl, ?_, ?_⟩
    · rwa [constrained_nil]
    · rwa [List.nil_append, constrained_cons, constrained_nil]

/-- Filtering by one component after the other fails at the first one that leaves nothing. -/
theorem constrain_eq_error_iff {fault : SelectionFault} (some : pool ≠ []) :
    history.constrain rules query components pool = .error fault ↔
      ∃ component, history.Empties rules query components pool component ∧
        fault = .exhausted query.table component := by
  induction components generalizing pool with
  | nil => simp [constrain, Empties]
  | cons first components inductionHypothesis =>
      rw [constrain]
      by_cases none : (pool.filter fun candidate =>
          history.allows rules query first candidate) = []
      · rw [if_pos (by simpa using none)]
        simp only [empties_cons_of_nil some none, exists_eq_left, Except.error.injEq]
        exact eq_comm
      · rw [if_neg (by simpa using none), inductionHypothesis none]
        simp only [empties_cons none]

/-- What is left of several candidates is not empty. -/
theorem ne_nil_of_constrain {allowed : List Candidate} (some : pool ≠ [])
    (constrains : history.constrain rules query components pool = .ok allowed) : allowed ≠ [] := by
  induction components generalizing pool with
  | nil =>
      cases constrains
      exact some
  | cons first components inductionHypothesis =>
      rw [constrain] at constrains
      split at constrains
      · cases constrains
      · next left => exact inductionHypothesis (by simpa using left) constrains

/-- Some component leaves nothing exactly if no candidate is allowed by all of them. -/
theorem exists_empties_iff (some : pool ≠ []) :
    (∃ component, history.Empties rules query components pool component) ↔
      history.constrained rules query components pool = [] := by
  constructor
  · rintro ⟨component, empties⟩
    refine Classical.byContradiction fun left => ?_
    have refused := (constrain_eq_error_iff some).mpr ⟨component, empties, rfl⟩
    rw [constrain_eq left] at refused
    cases refused
  · intro none
    cases constrains : history.constrain rules query components pool with
    | error fault =>
        obtain ⟨component, empties, -⟩ := (constrain_eq_error_iff some).mp constrains
        exact ⟨component, empties⟩
    | ok allowed =>
        exact absurd ((eq_of_constrain constrains).trans none) (ne_nil_of_constrain some constrains)

/-- When a selection fails, and by what fault. -/
theorem select_eq_error_iff {σ : Type} [IndexSource σ] {source : σ} {fault : SelectionFault} :
    history.select rules query pool source = .error fault ↔
      pool = [] ∧ fault = .noMatch query.table ∨
        pool ≠ [] ∧ ∃ component, history.Empties rules query query.carrier pool component ∧
          fault = .exhausted query.table component := by
  by_cases none : pool = []
  · subst none
    simp [select, eq_comm]
  · rw [← constrain_eq_error_iff none]
    simp only [none, false_and, not_false_eq_true, true_and, false_or, ne_eq]
    by_cases left : history.constrained rules query query.carrier pool = []
    · obtain ⟨component, empties⟩ := (exists_empties_iff none).mpr left
      have refused := (constrain_eq_error_iff none).mpr ⟨component, empties, rfl⟩
      rw [select, if_neg (by simpa using none), refused]
      simp [bind, Except.bind]
    · obtain ⟨candidate, rest, selected, -⟩ := exists_select source left
      simp [selected, constrain_eq left]

end Faults

end CarrierHistory

/-! ### Selections in place -/

/-- Programs that change a history and a source of chance in place and may fail. What they have
changed before they fail stays changed. -/
abbrev Selecting (σ : Type) := ExceptT SelectionFault (StateM (CarrierHistory × σ))

namespace Selecting

variable {σ : Type}

/-- What a program comes to, and the history and source that it leaves. -/
def runFrom {α : Type} (program : Selecting σ α) (history : CarrierHistory) (source : σ) :
    Except SelectionFault α × CarrierHistory × σ :=
  program.run.run (history, source)

/-- Reduces a pool to the candidates that one component allows. -/
def narrowBy (rules : CarrierRules) (query : Query) (pool : List Candidate)
    (component : CarrierComponent) : Selecting σ (List Candidate) := do
  let (history, _) ← get
  let allowed := pool.filter fun candidate => history.allows rules query component candidate
  if allowed.isEmpty then throw (.exhausted query.table component) else return allowed

/-- Draws one of several candidates. -/
def draw [IndexSource σ] (query : Query) (pool : List Candidate) : Selecting σ Candidate := do
  let (history, source) ← get
  let (index, rest) := IndexSource.chooseBelow source pool.length
  set (history, rest)
  match pool[index]? with
  | some candidate => return candidate
  | none => throw (.noMatch query.table)

/-- Takes the candidate that is pinned, or draws one. -/
def pick [IndexSource σ] (query : Query) (pool : List Candidate) : Selecting σ Candidate := do
  let (history, _) ← get
  match history.pinned? query.carrier pool with
  | some candidate => return candidate
  | none => draw query pool

/-- Records a choice under one component. -/
def recordUnder (rules : CarrierRules) (query : Query) (candidate : Candidate)
    (component : CarrierComponent) : Selecting σ PUnit :=
  modify fun (history, source) => (history.record rules query component candidate, source)

/-- Chooses one candidate of a pool under the carrier of a query. -/
def select [IndexSource σ] (rules : CarrierRules) (query : Query) (pool : List Candidate) :
    Selecting σ Candidate := do
  if pool.isEmpty then throw (.noMatch query.table)
  let allowed ← query.carrier.foldlM (narrowBy rules query) pool
  let candidate ← pick query allowed
  forM query.carrier (recordUnder rules query candidate)
  return candidate

/-- Looks a query up and chooses one candidate. -/
def resolve [IndexSource σ] (lexicon : Lexicon) (rules : CarrierRules) (query : Query) :
    Selecting σ Candidate :=
  match lexicon.lookup query with
  | .error fault => throw (.lookup fault)
  | .ok pool => select rules query pool

section Running

variable {α β : Type} {history : CarrierHistory} {rules : CarrierRules} {query : Query} {source : σ}

@[simp] theorem runFrom_pure (value : α) :
    (pure value : Selecting σ α).runFrom history source = (.ok value, history, source) := rfl

@[simp] theorem runFrom_throw (fault : SelectionFault) :
    (throw fault : Selecting σ α).runFrom history source = (.error fault, history, source) := rfl

/-- What follows a program is run from what the program leaves, unless it fails. -/
theorem runFrom_bind (program : Selecting σ α) (after : α → Selecting σ β) :
    (program >>= after).runFrom history source =
      match program.runFrom history source with
      | (.ok value, next, rest) => (after value).runFrom next rest
      | (.error fault, next, rest) => (.error fault, next, rest) := by
  show ExceptT.bindCont after (program.runFrom history source).1
    (program.runFrom history source).2 = _
  generalize program.runFrom history source = left
  obtain ⟨fault | value, next, rest⟩ := left <;> rfl

theorem runFrom_narrowBy (pool : List Candidate) (component : CarrierComponent) :
    (narrowBy rules query pool component).runFrom history source =
      let allowed := pool.filter fun candidate => history.allows rules query component candidate
      (if allowed.isEmpty then .error (.exhausted query.table component) else .ok allowed,
        history, source) := by
  show (if _ then throw _ else pure _ : Selecting σ _).runFrom history source = _
  split <;> simp [*]

/-- Nothing changes while the candidates are reduced. -/
theorem runFrom_narrow (components : List CarrierComponent) (pool : List Candidate) :
    (components.foldlM (narrowBy rules query) pool : Selecting σ _).runFrom history source =
      (history.constrain rules query components pool, history, source) := by
  induction components generalizing pool with
  | nil => rfl
  | cons component components inductionHypothesis =>
      rw [List.foldlM_cons, runFrom_bind, runFrom_narrowBy, CarrierHistory.constrain]
      by_cases none : (pool.filter fun candidate =>
        history.allows rules query component candidate).isEmpty
      · simp only [none, if_true]
      · simp only [none, Bool.false_eq_true, if_false, inductionHypothesis]

theorem runFrom_record (candidate : Candidate) :
    (forM query.carrier (recordUnder rules query candidate) : Selecting σ _).runFrom history
        source =
      (.ok ⟨⟩, history.recordAll rules query candidate, source) := by
  unfold CarrierHistory.recordAll
  generalize query.carrier = components
  induction components generalizing history with
  | nil => rfl
  | cons component components inductionHypothesis =>
      rw [List.forM_cons, runFrom_bind]
      exact inductionHypothesis

variable [IndexSource σ] {pool : List Candidate}

theorem runFrom_draw {candidate : Candidate}
    (drawn : pool[(IndexSource.chooseBelow source pool.length).1]? = some candidate) :
    (draw query pool).runFrom history source =
      (.ok candidate, history, (IndexSource.chooseBelow source pool.length).2) := by
  show (match pool[(IndexSource.chooseBelow source pool.length).1]? with
    | some candidate => (pure candidate : Selecting σ Candidate)
    | none => throw (SelectionFault.noMatch query.table)).runFrom history _ = _
  rw [drawn]
  rfl

/-- Of several candidates one is taken or drawn. -/
theorem exists_runFrom_pick (history : CarrierHistory) (query : Query) (source : σ)
    (some : pool ≠ []) :
    ∃ candidate rest, history.pick query pool source = (.some candidate, rest) ∧
      (pick query pool).runFrom history source = (.ok candidate, history, rest) := by
  obtain ⟨candidate, rest, picked, -⟩ := history.exists_chooses query source some
  refine ⟨candidate, rest, picked, ?_⟩
  show (match history.pinned? query.carrier pool with
    | .some candidate => (pure candidate : Selecting σ Candidate)
    | none => draw query pool).runFrom history source = _
  cases pinned : history.pinned? query.carrier pool with
  | some pin =>
      simp only [CarrierHistory.pick, pinned] at picked
      cases picked
      exact runFrom_pure candidate
  | none =>
      simp only [CarrierHistory.pick, pinned] at picked
      obtain ⟨drawn, rfl⟩ := Prod.mk.inj picked
      exact runFrom_draw drawn

/-- What a selection leaves: history and source as they were if it has failed. -/
def leaving (history : CarrierHistory) (source : σ) :
    Except SelectionFault (Candidate × CarrierHistory × σ) →
      Except SelectionFault Candidate × CarrierHistory × σ
  | .ok (candidate, next, rest) => (.ok candidate, next, rest)
  | .error fault => (.error fault, history, source)

/-- A selection in place comes to what `CarrierHistory.select` gives. -/
theorem runFrom_select (rules : CarrierRules) (query : Query) (pool : List Candidate) :
    (select rules query pool).runFrom history source =
      leaving history source (history.select rules query pool source) := by
  unfold select
  by_cases none : pool.isEmpty
  · rw [if_pos none, CarrierHistory.select, if_pos none]
    rfl
  · rw [if_neg none]
    show (_ >>= _ : Selecting σ Candidate).runFrom history source = _
    rw [runFrom_bind, runFrom_narrow]
    cases constrains : history.constrain rules query query.carrier pool with
    | error fault =>
        rw [CarrierHistory.select, if_neg none, constrains]
        rfl
    | ok allowed =>
        have left : allowed ≠ [] :=
          CarrierHistory.ne_nil_of_constrain (by simpa using none) constrains
        obtain rfl := CarrierHistory.eq_of_constrain constrains
        obtain ⟨candidate, rest, picked, ran⟩ := exists_runFrom_pick history query source left
        rw [CarrierHistory.select_of_pick left picked]
        show (pick query _ >>= fun candidate =>
            forM query.carrier (recordUnder rules query candidate) >>= fun _ =>
              (pure candidate : Selecting σ Candidate)).runFrom history source = _
        rw [runFrom_bind, ran]
        show (_ >>= _ : Selecting σ Candidate).runFrom history rest = _
        rw [runFrom_bind, runFrom_record]
        rfl

/-- A resolution in place comes to what `CarrierHistory.resolve` gives. -/
theorem runFrom_resolve (lexicon : Lexicon) (rules : CarrierRules) (query : Query) :
    (resolve lexicon rules query).runFrom history source =
      leaving history source (history.resolve lexicon rules query source) := by
  unfold resolve CarrierHistory.resolve
  cases looked : lexicon.lookup query with
  | error fault => rfl
  | ok pool => exact runFrom_select rules query pool

end Running

end Selecting

/-! ### Atomicity -/

namespace CarrierHistory

variable {σ : Type}

/-- What a selection from a history came to, and what it left. -/
structure Answers (history : CarrierHistory) (rules : CarrierRules) (query : Query)
    (pool : List Candidate) (source : σ)
    (after : Except SelectionFault Candidate × CarrierHistory × σ) : Prop where
  noMatch : ∀ table, after.1 = .error (.noMatch table) ↔ pool = [] ∧ table = query.table
  /-- The fault names the first component that leaves nothing of the pool. -/
  exhausted : ∀ table component, after.1 = .error (.exhausted table component) ↔
    pool ≠ [] ∧ table = query.table ∧ history.Empties rules query query.carrier pool component
  /-- That is so if each candidate is refused by some component, and only then. -/
  refused : (∃ table component, after.1 = .error (.exhausted table component)) ↔
    pool ≠ [] ∧ ∀ candidate ∈ pool, ∃ component ∈ query.carrier,
      history.allows rules query component candidate = false
  /-- A selection does not fail otherwise. -/
  known : ∀ fault, after.1 ≠ .error (.lookup fault)
  unchanged : ∀ fault, after.1 = .error fault → after.2 = (history, source)
  allowed : ∀ candidate, after.1 = .ok candidate → candidate ∈ pool ∧
    ∀ component ∈ query.carrier, history.allows rules query component candidate = true

variable {history : CarrierHistory} {rules : CarrierRules} {query : Query}
  {pool : List Candidate}

theorem constrained_eq_nil_iff :
    history.constrained rules query query.carrier pool = [] ↔
      ∀ candidate ∈ pool, ∃ component ∈ query.carrier,
        history.allows rules query component candidate = false := by
  simp [constrained]

theorem answers_leaving [IndexSource σ] (history : CarrierHistory) (rules : CarrierRules)
    (query : Query) (pool : List Candidate) (source : σ) :
    history.Answers rules query pool source
      (Selecting.leaving history source (history.select rules query pool source)) := by
  have failure (fault : SelectionFault) :
      (Selecting.leaving history source (history.select rules query pool source)).1 =
          .error fault ↔
        history.select rules query pool source = .error fault := by
    cases history.select rules query pool source <;> simp [Selecting.leaving]
  constructor
  · intro table
    rw [failure, select_eq_error_iff]
    simp
  · intro table component
    rw [failure, select_eq_error_iff]
    simp only [reduceCtorEq, and_false, false_or, SelectionFault.exhausted.injEq]
    grind
  · simp only [failure, select_eq_error_iff]
    rw [← constrained_eq_nil_iff]
    constructor
    · rintro ⟨table, component, ⟨-, impossible⟩ | ⟨some, other, empties, -⟩⟩
      · cases impossible
      · exact ⟨some, (exists_empties_iff some).mp ⟨other, empties⟩⟩
    · rintro ⟨some, none⟩
      obtain ⟨component, empties⟩ := (exists_empties_iff some).mpr none
      exact ⟨query.table, component, .inr ⟨some, component, empties, rfl⟩⟩
  · intro fault
    rw [ne_eq, failure, select_eq_error_iff]
    simp
  · intro fault failed
    rw [failure] at failed
    rw [failed]
    rfl
  · intro candidate chosen
    cases selected : history.select rules query pool source with
    | error fault =>
        rw [selected] at chosen
        cases chosen
    | ok result =>
        obtain ⟨other, next, rest⟩ := result
        rw [selected] at chosen
        cases chosen
        have member := (of_select selected).1
        exact ⟨(List.mem_filter.mp member).1, allows_of_mem_constrained member⟩

/-- Selections and resolutions of a query, from a history and a source of chance on. -/
structure Atomic [IndexSource σ] (history : CarrierHistory) (rules : CarrierRules) (query : Query)
    (source : σ) : Prop where
  answers : ∀ pool, history.Answers rules query pool source
    ((Selecting.select rules query pool).runFrom history source)
  /-- A query that cannot be looked up changes nothing either. -/
  unknown : ∀ (lexicon : Lexicon) (fault : LookupFault), lexicon.lookup query = .error fault →
    (Selecting.resolve lexicon rules query).runFrom history source =
      (.error (.lookup fault), history, source)
  /-- Otherwise one of the candidates that are found is selected. -/
  known : ∀ (lexicon : Lexicon) (pool : List Candidate), lexicon.lookup query = .ok pool →
    (Selecting.resolve lexicon rules query).runFrom history source =
      (Selecting.select rules query pool).runFrom history source
  /-- In place or not, the same comes of it. -/
  selects : ∀ pool, (Selecting.select rules query pool).runFrom history source =
    Selecting.leaving history source (history.select rules query pool source)
  resolves : ∀ lexicon : Lexicon, (Selecting.resolve lexicon rules query).runFrom history source =
    Selecting.leaving history source (history.resolve lexicon rules query source)

/-- Selections fail exactly if no candidate is allowed, and then they change nothing. -/
theorem selecting_is_atomic [IndexSource σ] (history : CarrierHistory) (rules : CarrierRules)
    (query : Query) (source : σ) : history.Atomic rules query source where
  answers pool := by
    rw [Selecting.runFrom_select]
    exact answers_leaving history rules query pool source
  unknown lexicon fault looked := by
    rw [Selecting.resolve, looked]
    rfl
  known lexicon pool looked := by
    rw [Selecting.resolve, looked]
  selects pool := Selecting.runFrom_select rules query pool
  resolves lexicon := Selecting.runFrom_resolve lexicon rules query

end CarrierHistory

end SeededText.Vocabulary
