import SeededText.Proofs.SelectionsInPlace

/-!
Contract: the order of a carrier's components makes no difference.

What one component allows does not depend on the others, and choices recorded under two components
are the same in either order: the same values under the same keys, the same entries in the same
sets. Only which of several pins decides, and which of several components a fault names, hang on the
order.

Owns: histories that are the same as maps and sets, carriers that differ in the order of their
components.
Does not own: what a selection comes to (`SeededText.Proofs.SelectionsInPlace`).
-/

namespace SeededText.Vocabulary

open SeededText.Random

/-! ### Histories as maps and sets -/

/-- The same sets of entries under the same keys. -/
structure PickedEntries.Same {κ : Type} [DecidableEq κ] (first second : PickedEntries κ) :
    Prop where
  keys : ∀ key, (first.find? key).isSome = (second.find? key).isSome
  entries : ∀ key entry, first.has key entry = second.has key entry

/-- The same values and sets of entries under the same keys. -/
structure CarrierHistory.Same (first second : CarrierHistory) : Prop where
  pins : ∀ component, first.pin? component = second.pin? component
  uniques : first.uniques.Same second.uniques
  matchUniques : first.matchUniques.Same second.matchUniques
  rhymes : ∀ id, first.rhymes.find? id = second.rhymes.find? id
  groupKeys : ∀ id, first.groupKeys.find? id = second.groupKeys.find? id
  relations : ∀ id, first.relations.find? id = second.relations.find? id
  divergences : first.divergences.Same second.divergences

section Sets

variable {κ : Type} [DecidableEq κ]

theorem PickedEntries.Same.refl (picked : PickedEntries κ) : picked.Same picked :=
  ⟨fun _ => rfl, fun _ _ => rfl⟩

theorem PickedEntries.Same.trans {first second third : PickedEntries κ}
    (left : first.Same second) (right : second.Same third) : first.Same third :=
  ⟨fun key => (left.keys key).trans (right.keys key),
    fun key entry => (left.entries key entry).trans (right.entries key entry)⟩

/-- A key has a set of entries once an entry was picked under it. -/
theorem PickedEntries.isSome_find?_add (picked : PickedEntries κ) (key other : κ)
    (entry : EntryKey) :
    ((picked.add key entry).find? other).isSome =
      (decide (key = other) || (picked.find? other).isSome) := by
  unfold add
  split
  · next known =>
      by_cases same : key = other
      · subst same
        have present : (picked.find? key).isSome := by
          rw [Option.isSome_iff_ne_none]
          intro missing
          simp [has, Table.findD, missing] at known
        simp [present]
      · simp [same]
  · by_cases same : key = other <;> simp [Table.find?_insert, same]

end Sets

namespace CarrierHistory

theorem Same.refl (history : CarrierHistory) : history.Same history :=
  ⟨fun _ => rfl, .refl _, .refl _, fun _ => rfl, fun _ => rfl, fun _ => rfl, .refl _⟩

theorem Same.trans {first second third : CarrierHistory} (left : first.Same second)
    (right : second.Same third) : first.Same third where
  pins component := (left.pins component).trans (right.pins component)
  uniques := left.uniques.trans right.uniques
  matchUniques := left.matchUniques.trans right.matchUniques
  rhymes id := (left.rhymes id).trans (right.rhymes id)
  groupKeys id := (left.groupKeys id).trans (right.groupKeys id)
  relations id := (left.relations id).trans (right.relations id)
  divergences := left.divergences.trans right.divergences

section Recording

variable (history : CarrierHistory) (rules : CarrierRules) (query : Query)
  (component : CarrierComponent) (candidate : Candidate)

theorem isSome_uniques_record (id : String) :
    ((history.record rules query component candidate).uniques.find? id).isSome =
      (CarrierKind.unique.is component.kind && decide (component.id = id) ||
        (history.uniques.find? id).isSome) := by
  unfold record
  rw [recordPin_eq]
  split <;> simp [*, CarrierKind.is, PickedEntries.isSome_find?_add]

theorem isSome_matchUniques_record (id : String) :
    ((history.record rules query component candidate).matchUniques.find? id).isSome =
      (CarrierKind.matchUnique.is component.kind && decide (component.id = id) ||
        (history.matchUniques.find? id).isSome) := by
  unfold record
  rw [recordPin_eq]
  split <;> simp [*, CarrierKind.is, PickedEntries.isSome_find?_add]

theorem isSome_divergences_record (form : FormKey) :
    ((history.record rules query component candidate).divergences.find? form).isSome =
      (CarrierKind.groupsBy .divergent component.kind &&
        decide ((⟨component.id, query.table, query.subtype?⟩ : FormKey) = form) ||
        (history.divergences.find? form).isSome) := by
  unfold record
  rw [recordPin_eq]
  split <;> simp [*, CarrierKind.groupsBy, PickedEntries.isSome_find?_add]

variable {history rules query component candidate} {other : CarrierHistory}

/-- Choices recorded in the same history make the same history. -/
theorem Same.record (same : history.Same other) :
    (history.record rules query component candidate).Same
      (other.record rules query component candidate) where
  pins sought := by rw [pin?_record, pin?_record, same.pins]
  uniques := by
    constructor
    · intro id
      rw [isSome_uniques_record, isSome_uniques_record, same.uniques.keys]
    · intro id key
      rw [has_uniques_record, has_uniques_record, same.uniques.entries]
  matchUniques := by
    constructor
    · intro id
      rw [isSome_matchUniques_record, isSome_matchUniques_record, same.matchUniques.keys]
    · intro id key
      rw [has_matchUniques_record, has_matchUniques_record, same.matchUniques.entries]
  rhymes id := by rw [find?_rhymes_record, find?_rhymes_record, same.rhymes]
  groupKeys id := by rw [find?_groupKeys_record, find?_groupKeys_record, same.groupKeys]
  relations id := by rw [find?_relations_record, find?_relations_record, same.relations]
  divergences := by
    constructor
    · intro form
      rw [isSome_divergences_record, isSome_divergences_record, same.divergences.keys]
    · intro form key
      rw [has_divergences_record, has_divergences_record, same.divergences.entries]

variable (history rules query candidate)

/-- A choice is recorded under two components in either order. -/
theorem same_record_record (first second : CarrierComponent) :
    ((history.record rules query first candidate).record rules query second candidate).Same
      ((history.record rules query second candidate).record rules query first candidate) where
  pins sought := by
    simp only [pin?_record]
    split <;> split <;> rfl
  uniques := by
    constructor
    · intro id
      simp only [isSome_uniques_record]
      exact Bool.or_left_comm _ _ _
    · intro id key
      simp only [has_uniques_record]
      exact Bool.or_left_comm _ _ _
  matchUniques := by
    constructor
    · intro id
      simp only [isSome_matchUniques_record]
      exact Bool.or_left_comm _ _ _
    · intro id key
      simp only [has_matchUniques_record]
      exact Bool.or_left_comm _ _ _
  rhymes id := by
    simp only [find?_rhymes_record, Option.or_assoc]
    split <;> split <;> rfl
  groupKeys id := by
    simp only [find?_groupKeys_record, Option.or_assoc]
    split <;> split <;> rfl
  relations id := by
    simp only [find?_relations_record, Option.or_assoc]
    split <;> split <;> rfl
  divergences := by
    constructor
    · intro form
      simp only [isSome_divergences_record]
      exact Bool.or_left_comm _ _ _
    · intro form key
      simp only [has_divergences_record]
      exact Bool.or_left_comm _ _ _

/-- The history after a choice under several components. -/
def recordEach (components : List CarrierComponent) : CarrierHistory :=
  components.foldl (fun history component => history.record rules query component candidate)
    history

variable {history rules query candidate}

theorem Same.recordEach (same : history.Same other) (components : List CarrierComponent) :
    (history.recordEach rules query candidate components).Same
      (other.recordEach rules query candidate components) := by
  induction components generalizing history other with
  | nil => exact same
  | cons component components inductionHypothesis => exact inductionHypothesis same.record

/-- In whatever order the components stand, the same is recorded. -/
theorem same_recordEach_of_perm {components permuted : List CarrierComponent}
    (permutation : components.Perm permuted) :
    (history.recordEach rules query candidate components).Same
      (history.recordEach rules query candidate permuted) := by
  induction permutation generalizing history with
  | nil => exact .refl history
  | cons component _ inductionHypothesis => exact inductionHypothesis
  | swap first second rest =>
      exact (same_record_record history rules query candidate second first).recordEach rest
  | trans _ _ first second => exact first.trans second

end Recording

/-! ### What histories answer -/

section Answering

variable {history other : CarrierHistory} {rules : CarrierRules} {query : Query}

theorem Same.allows (same : history.Same other) (component : CarrierComponent)
    (candidate : Candidate) :
    history.allows rules query component candidate =
      other.allows rules query component candidate := by
  simp only [CarrierHistory.allows, same.pins, same.uniques.entries, same.matchUniques.entries,
    same.rhymes, same.groupKeys, same.relations, same.divergences.entries]

theorem Same.constrain (same : history.Same other) (components : List CarrierComponent)
    (pool : List Candidate) :
    history.constrain rules query components pool =
      other.constrain rules query components pool := by
  induction components generalizing pool with
  | nil => rfl
  | cons component components inductionHypothesis =>
      simp only [CarrierHistory.constrain, same.allows, inductionHypothesis]

theorem Same.pick {σ : Type} [IndexSource σ] (same : history.Same other) (pool : List Candidate)
    (source : σ) : history.pick query pool source = other.pick query pool source := by
  have pins : history.pin? = other.pin? := funext same.pins
  unfold CarrierHistory.pick pinned?
  rw [pins]

end Answering

/-! ### Carriers in another order -/

section Permuting

variable {history : CarrierHistory} {rules : CarrierRules}
  {query : Query} {carrier : List CarrierComponent} {pool : List Candidate}

theorem constrained_of_perm (permutation : carrier.Perm query.carrier) :
    history.constrained rules { query with carrier := carrier } carrier pool =
      history.constrained rules query query.carrier pool :=
  congrArg (List.filter · pool) (funext fun _ => permutation.all_eq)

/-- A single pin decides wherever it stands. -/
theorem pinned?_of_perm (permutation : carrier.Perm query.carrier)
    (single : (query.carrier.filter fun component => component.kind.pinsEntry).length ≤ 1) :
    history.pinned? carrier pool = history.pinned? query.carrier pool := by
  have pins := permutation.filter fun component => component.kind.pinsEntry
  have same : (carrier.filter fun component => component.kind.pinsEntry) =
      query.carrier.filter fun component => component.kind.pinsEntry := by
    generalize (query.carrier.filter fun component => component.kind.pinsEntry) = those at *
    match those with
    | [] => exact List.perm_nil.mp pins
    | [component] => exact List.perm_singleton.mp pins
    | _ :: _ :: _ => simp at single
  unfold pinned?
  rw [same]

end Permuting

end CarrierHistory

namespace Selecting

variable {σ : Type}

/-- Two selections come to the same, but for the component that a fault names. -/
inductive Alike : Except SelectionFault Candidate × CarrierHistory × σ →
    Except SelectionFault Candidate × CarrierHistory × σ → Prop where
  /-- The histories that they leave are the same as maps and sets. -/
  | chosen {first second : CarrierHistory} (candidate : Candidate) (same : first.Same second)
      (source : σ) : Alike (.ok candidate, first, source) (.ok candidate, second, source)
  | unmatched (table : String) (history : CarrierHistory) (source : σ) :
      Alike (.error (.noMatch table), history, source) (.error (.noMatch table), history, source)
  | exhausted (table : String) (first second : CarrierComponent) (history : CarrierHistory)
      (source : σ) :
      Alike (.error (.exhausted table first), history, source)
        (.error (.exhausted table second), history, source)

open CarrierHistory

/-- Of a history only the values and sets under its keys count: another one that has the same makes
the same choice, and is the same behind it. -/
theorem runFrom_select_of_same [IndexSource σ] {history other : CarrierHistory}
    (same : history.Same other) (rules : CarrierRules) (query : Query) (pool : List Candidate)
    (source : σ) :
    ∃ outcome first second rest, first.Same second ∧
      (select rules query pool).runFrom history source = (outcome, first, rest) ∧
      (select rules query pool).runFrom other source = (outcome, second, rest) := by
  rw [runFrom_select, runFrom_select]
  unfold CarrierHistory.select
  by_cases none : pool.isEmpty
  · rw [if_pos none, if_pos none]
    exact ⟨_, history, other, source, same, rfl, rfl⟩
  · rw [if_neg none, if_neg none, ← same.constrain]
    cases history.constrain rules query query.carrier pool with
    | error fault => exact ⟨_, history, other, source, same, rfl, rfl⟩
    | ok allowed =>
        simp only [bind, Except.bind, same.pick]
        obtain ⟨candidate | _, rest⟩ := other.pick query allowed source
        · exact ⟨_, history, other, source, same, rfl, rfl⟩
        · exact ⟨_, _, _, rest, same.recordEach query.carrier, rfl, rfl⟩

/-- The components of a carrier may stand in any order, if at most one of them pins. -/
theorem alike_of_perm [IndexSource σ] (history : CarrierHistory) (rules : CarrierRules)
    (query : Query) (pool : List Candidate) (source : σ) {carrier : List CarrierComponent}
    (permutation : carrier.Perm query.carrier)
    (single : (query.carrier.filter fun component => component.kind.pinsEntry).length ≤ 1) :
    Alike ((select rules query pool).runFrom history source)
      ((select rules { query with carrier := carrier } pool).runFrom history source) := by
  rw [runFrom_select, runFrom_select]
  have admitted : history.constrained rules { query with carrier := carrier } carrier pool =
      history.constrained rules query query.carrier pool := constrained_of_perm permutation
  by_cases none : pool = []
  · subst none
    exact .unmatched query.table history source
  by_cases left : history.constrained rules query query.carrier pool = []
  · obtain ⟨first, empties⟩ := (exists_empties_iff none).mpr left
    obtain ⟨second, emptiesToo⟩ := (exists_empties_iff none).mpr (admitted.trans left)
    have refused : history.select rules query pool source =
        .error (.exhausted query.table first) :=
      select_eq_error_iff.mpr (.inr ⟨none, first, empties, rfl⟩)
    have refusedToo : history.select rules { query with carrier := carrier } pool source =
        .error (.exhausted query.table second) :=
      select_eq_error_iff.mpr (.inr ⟨none, second, emptiesToo, rfl⟩)
    rw [refused, refusedToo]
    exact .exhausted query.table first second history source
  · obtain ⟨candidate, rest, picked, -⟩ := history.exists_chooses query source left
    have pickedToo : history.pick { query with carrier := carrier }
        (history.constrained rules { query with carrier := carrier } carrier pool) source =
          (some candidate, rest) := by
      rw [admitted, ← picked]
      unfold CarrierHistory.pick
      rw [pinned?_of_perm permutation single]
    rw [select_of_pick left picked,
      select_of_pick (fun nil => left (admitted.symm.trans nil)) pickedToo]
    exact .chosen candidate (same_recordEach_of_perm permutation.symm) rest

end Selecting

/-! ### Three components of one name

A word other than the matching one is asked for, of the same group, and pinned. -/

namespace Counterpart

def tied : List CarrierComponent :=
  [⟨.grouping .associative true, "pet"⟩, ⟨.matchUnique, "pet"⟩, ⟨.unique, "pet"⟩]

def requesting (carrier : List CarrierComponent) : Query :=
  { Query.all "noun" with carrier := carrier }

theorem alike_reversed :
    tied.reverse.Perm tied ∧
      (tied.filter fun component => component.kind.pinsEntry).length ≤ 1 ∧
      Selecting.Alike
        ((Selecting.select .standard (requesting tied) [cat, dog]).runFrom matched Leftmost.mk)
        ((Selecting.select .standard (requesting tied.reverse) [cat, dog]).runFrom matched
          Leftmost.mk) :=
  ⟨by decide, by decide,
    Selecting.alike_of_perm matched .standard (requesting tied) [cat, dog] Leftmost.mk (by decide)
      (by decide)⟩

end Counterpart

end SeededText.Vocabulary
