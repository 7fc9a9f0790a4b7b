import Mathlib.Data.List.Nodup
import Mathlib.Data.List.Perm.Subperm
import SeededText.Proofs.CarrierTies

/-!
Contract: requests under a unique name use a pool up.

Of the requests under a unique name on one pool, as many succeed as the pool has entries, and they
take each entry once, in whatever order chance has it. Later ones fail. What is selected in between
under other names or kinds makes no difference, nor does a selection that fails.

Owns: requests under a unique name, what they have taken.
Does not own: what a history remembers (`SeededText.Proofs.Selections`), what a single pick owes to
the picks before it (`SeededText.Proofs.CarrierTies`).
-/

namespace SeededText.Vocabulary

open SeededText.Random

/-! ### Requests under a unique name -/

/-- Whether a selection asks for an entry that was not picked before under a name. -/
def Selection.asksUnique (id : String) (selection : Selection) : Bool :=
  selection.query.carrier.any fun component => component = ⟨.unique, id⟩

/-- How requests under a unique name on one pool come out, the first of them in front. -/
structure UsesUp (id : String) (pool : List Candidate) (requests : List Selection) : Prop where
  /-- As many succeed as there are entries. No entry is taken twice, and in the end all are. -/
  taken : ∃ picks : List Candidate,
    (requests.take pool.length).map Selection.outcome = picks.map .ok ∧ picks.Subperm pool ∧
      (pool.length ≤ requests.length → picks.Perm pool)
  /-- Later ones fail, and tell by what component. -/
  refused : ∀ request ∈ requests.drop pool.length,
    request.outcome = .error (.exhausted request.query.table ⟨.unique, id⟩)
  /-- How a component of this kind is written. -/
  text : (CarrierComponent.mk .unique id).text = "!" ++ id

section Requests

variable {rules : CarrierRules} {history : CarrierHistory} {query : Query} {id : String}
  {pool : List Candidate} {candidate : Candidate} {selections : List Selection}

theorem carries_unique (query : Query) (candidate : Candidate) :
    Pick.carries CarrierKind.unique.is id ⟨query, candidate⟩ =
      query.carrier.any fun component => component = ⟨.unique, id⟩ := by
  unfold Pick.carries
  refine congrArg query.carrier.any (funext fun component => ?_)
  obtain ⟨kind, name⟩ := component
  simp [CarrierKind.is]

/-- A carrier that only asks for new entries under a name allows those that were not picked. -/
theorem mem_constrained_unique (tied : query.carrier ≠ [])
    (unique : ∀ component ∈ query.carrier, component = ⟨.unique, id⟩) :
    candidate ∈ history.constrained rules query query.carrier pool ↔
      candidate ∈ pool ∧ history.uniques.has id candidate.key = false := by
  obtain ⟨component, member⟩ := List.exists_mem_of_ne_nil query.carrier tied
  rw [CarrierHistory.constrained, List.mem_filter, List.all_eq_true]
  refine and_congr_right fun _ => ⟨fun admitted => ?_, fun free other inside => ?_⟩
  · have allows := admitted component member
    rw [unique component member] at allows
    simpa [CarrierHistory.allows] using allows
  · rw [unique other inside]
    simp [CarrierHistory.allows, free]

/-- If all entries of a pool were picked under a name, asking for a new one fails. -/
theorem select_unique_error {σ : Type} [IndexSource σ] {source : σ} {fault : SelectionFault}
    (tied : query.carrier ≠ [])
    (unique : ∀ component ∈ query.carrier, component = ⟨.unique, id⟩) (some : pool ≠ [])
    (usedUp : history.constrained rules query query.carrier pool = [])
    (refused : history.select rules query pool source = .error fault) :
    fault = .exhausted query.table ⟨.unique, id⟩ := by
  obtain ⟨component, components, carrier⟩ := List.exists_cons_of_ne_nil tied
  obtain rfl : component = ⟨.unique, id⟩ := unique component (carrier ▸ List.mem_cons_self)
  have none : (pool.filter fun candidate => history.allows rules query ⟨.unique, id⟩ candidate) =
      [] := by
    rw [List.filter_eq_nil_iff]
    intro candidate member allows
    have inside : candidate ∈ history.constrained rules query query.carrier pool :=
      (mem_constrained_unique tied unique).mpr
        ⟨member, by simpa [CarrierHistory.allows] using allows⟩
    rw [usedUp] at inside
    cases inside
  rw [CarrierHistory.select, if_neg (by simpa using some), carrier, CarrierHistory.constrain,
    if_pos (by simp [none])] at refused
  exact (Except.error.inj refused).symm

/-- What requests under a unique name have taken, and which of them found nothing left. The latest
stands in front, as it does in `selections`. -/
structure Taken (id : String) (pool : List Candidate) (selections : List Selection)
    (refused chosen : List Selection) (picks : List Candidate) : Prop where
  requests : selections.filter (Selection.asksUnique id) = refused ++ chosen
  outcomes : chosen.map Selection.outcome = picks.map .ok
  distinct : (picks.map Candidate.key).Nodup
  inside : picks ⊆ pool
  /-- Only what these requests take counts as picked under the name. -/
  known : ∀ key, wasPicked CarrierKind.unique.is id key (picksOf selections) = true ↔
    key ∈ picks.map Candidate.key
  usedUp : refused ≠ [] → pool.length ≤ picks.length
  faults : ∀ request ∈ refused,
    request.outcome = .error (.exhausted request.query.table ⟨.unique, id⟩)

namespace Taken

theorem nothing (id : String) (pool : List Candidate) : Taken id pool [] [] [] [] where
  requests := rfl
  outcomes := rfl
  distinct := List.nodup_nil
  inside := List.nil_subset pool
  known key := by simp [picksOf, wasPicked]
  usedUp none := absurd rfl none
  faults := by simp

variable {refused chosen : List Selection} {picks : List Candidate}

theorem subperm (taken : Taken id pool selections refused chosen picks) : picks.Subperm pool :=
  List.subperm_of_subset (List.Nodup.of_map Candidate.key taken.distinct) taken.inside

/-- Not all entries are taken as long as there is one whose key no pick has. -/
theorem length_lt (taken : Taken id pool selections refused chosen picks)
    (member : candidate ∈ pool) (free : candidate.key ∉ picks.map Candidate.key) :
    picks.length < pool.length := by
  by_contra full
  have perm := taken.subperm.perm_of_length_le (Nat.le_of_not_lt full)
  exact free (List.mem_map_of_mem (perm.mem_iff.mpr member))

/-- A request takes an entry that no request before it took. -/
theorem take (taken : Taken id pool selections refused chosen picks)
    (asks : Selection.asksUnique id ⟨query, pool, .ok candidate⟩ = true)
    (member : candidate ∈ pool) (free : candidate.key ∉ picks.map Candidate.key) :
    Taken id pool (⟨query, pool, .ok candidate⟩ :: selections) []
      (⟨query, pool, .ok candidate⟩ :: chosen) (candidate :: picks) := by
  have left := taken.length_lt member free
  have early : refused = [] := by
    by_contra late
    exact absurd (taken.usedUp late) (Nat.not_le_of_lt left)
  subst early
  refine ⟨?_, ?_, ?_, List.cons_subset.mpr ⟨member, taken.inside⟩, ?_, by simp, by simp⟩
  · rw [List.filter_cons, if_pos asks, taken.requests]
    rfl
  · rw [List.map_cons, List.map_cons, taken.outcomes]
  · exact List.nodup_cons.mpr ⟨free, taken.distinct⟩
  · intro key
    have carries : Pick.carries CarrierKind.unique.is id ⟨query, candidate⟩ = true :=
      (carries_unique query candidate).trans asks
    show wasPicked CarrierKind.unique.is id key
      (⟨query, candidate⟩ :: picksOf selections) = true ↔ _
    rw [wasPicked_cons, carries, Bool.true_and, Bool.or_eq_true, decide_eq_true_iff, taken.known,
      List.map_cons, List.mem_cons, eq_comm]

/-- A request that finds all entries taken is refused. -/
theorem refuse (taken : Taken id pool selections refused chosen picks)
    (asks : Selection.asksUnique id
      ⟨query, pool, .error (.exhausted query.table ⟨.unique, id⟩)⟩ = true)
    (usedUp : pool.length ≤ picks.length) :
    Taken id pool (⟨query, pool, .error (.exhausted query.table ⟨.unique, id⟩)⟩ :: selections)
      (⟨query, pool, .error (.exhausted query.table ⟨.unique, id⟩)⟩ :: refused) chosen picks where
  requests := by
    rw [List.filter_cons, if_pos asks, taken.requests]
    rfl
  outcomes := taken.outcomes
  distinct := taken.distinct
  inside := taken.inside
  known := taken.known
  usedUp _ := usedUp
  faults := List.forall_mem_cons.mpr ⟨rfl, taken.faults⟩

/-- A selection that asks for nothing under the name takes nothing. -/
theorem other (taken : Taken id pool selections refused chosen picks) {selection : Selection}
    (others : selection.asksUnique id = false) :
    Taken id pool (selection :: selections) refused chosen picks where
  requests := by
    rw [List.filter_cons, others]
    exact taken.requests
  outcomes := taken.outcomes
  distinct := taken.distinct
  inside := taken.inside
  known key := by
    obtain ⟨query, pool, fault | candidate⟩ := selection
    · exact taken.known key
    · have carries : Pick.carries CarrierKind.unique.is id ⟨query, candidate⟩ = false :=
        (carries_unique query candidate).trans others
      show wasPicked CarrierKind.unique.is id key (⟨query, candidate⟩ :: picksOf selections) =
        true ↔ _
      rw [wasPicked_cons, carries, Bool.false_and, Bool.false_or, taken.known]
  usedUp := taken.usedUp
  faults := taken.faults

/-- Seen from the first request on, a pool is used up. -/
theorem usesUp (taken : Taken id pool selections refused chosen picks) :
    UsesUp id pool (selections.filter (Selection.asksUnique id)).reverse := by
  have few : picks.length ≤ pool.length := taken.subperm.length_le
  have count : chosen.length = picks.length := by
    simpa using congrArg List.length taken.outcomes
  have outcomes : chosen.reverse.map Selection.outcome = picks.reverse.map .ok := by
    rw [List.map_reverse, taken.outcomes, List.map_reverse]
  have whole : pool.length ≤ picks.length → picks.reverse.Perm pool := fun full =>
    (List.reverse_perm picks).trans (taken.subperm.perm_of_length_le full)
  rw [taken.requests, List.reverse_append]
  by_cases full : pool.length ≤ picks.length
  · have same : chosen.reverse.length = pool.length := by
      rw [List.length_reverse]
      omega
    refine ⟨⟨picks.reverse, ?_, (whole full).subperm, fun _ => whole full⟩, ?_, rfl⟩
    · rw [← same, List.take_left, outcomes]
    · rw [← same, List.drop_left]
      exact fun request member => taken.faults request (List.mem_reverse.mp member)
  · have early : refused = [] := by
      by_contra late
      exact full (taken.usedUp late)
    subst early
    rw [List.reverse_nil, List.append_nil]
    refine ⟨⟨picks.reverse, ?_, (List.reverse_perm picks).subperm.trans taken.subperm, ?_⟩, ?_,
      rfl⟩
    · rw [List.take_of_length_le (by rw [List.length_reverse]; omega), outcomes]
    · intro many
      rw [List.length_reverse] at many
      omega
    · rw [List.drop_eq_nil_of_le (by rw [List.length_reverse]; omega)]
      simp

end Taken

/-- A request is refused only if all entries are taken. -/
theorem Taken.length_le_of_refused {σ : Type} [IndexSource σ] {source : σ} {fault : SelectionFault}
    {refused chosen : List Selection} {picks : List Candidate}
    (taken : Taken id pool selections refused chosen picks)
    (made : Selections rules selections history) (distinct : (pool.map Candidate.key).Nodup)
    (tied : query.carrier ≠ [])
    (unique : ∀ component ∈ query.carrier, component = ⟨.unique, id⟩)
    (refuses : history.select rules query pool source = .error fault) :
    history.constrained rules query query.carrier pool = [] ∧ pool.length ≤ picks.length := by
  have usedUp : history.constrained rules query query.carrier pool = [] := by
    by_contra left
    obtain ⟨candidate, rest, selected, -⟩ := CarrierHistory.exists_select source left
    rw [selected] at refuses
    cases refuses
  refine ⟨usedUp, ?_⟩
  have covered : pool.map Candidate.key ⊆ picks.map Candidate.key := by
    intro key member
    obtain ⟨candidate, inside, rfl⟩ := List.mem_map.mp member
    by_contra free
    have admitted : candidate ∈ history.constrained rules query query.carrier pool := by
      refine (mem_constrained_unique tied unique).mpr ⟨inside, ?_⟩
      rwa [made.remembers.uniques, ← Bool.not_eq_true, taken.known]
    rw [usedUp] at admitted
    cases admitted
  simpa using (List.subperm_of_subset distinct covered).length_le

/-- What requests under a unique name have taken, whatever else has been selected. -/
theorem exists_taken (made : Selections rules selections history) (some : pool ≠ [])
    (distinct : (pool.map Candidate.key).Nodup)
    (alone : ∀ selection ∈ selections, selection.asksUnique id = true →
      selection.pool = pool ∧ ∀ component ∈ selection.query.carrier, component = ⟨.unique, id⟩) :
    ∃ refused chosen picks, Taken id pool selections refused chosen picks := by
  have tied {query : Query} {outcome : Except SelectionFault Candidate}
      (asks : Selection.asksUnique id ⟨query, pool, outcome⟩ = true) : query.carrier ≠ [] :=
    fun untied => by simp [Selection.asksUnique, untied] at asks
  induction made with
  | fresh => exact ⟨[], [], [], .nothing id pool⟩
  | @chosen σ _ source rest selections history next query offered candidate made selected
      inductionHypothesis =>
      obtain ⟨refused, chosen, picks, taken⟩ := inductionHypothesis
        fun selection member => alone selection (List.mem_cons_of_mem _ member)
      cases asks : Selection.asksUnique id ⟨query, offered, .ok candidate⟩ with
      | false => exact ⟨refused, chosen, picks, taken.other asks⟩
      | true =>
          obtain ⟨rfl, unique⟩ := alone _ List.mem_cons_self asks
          obtain ⟨member, free⟩ := (mem_constrained_unique (tied asks) unique).mp
            (CarrierHistory.of_select selected).1
          rw [made.remembers.uniques, ← Bool.not_eq_true, taken.known] at free
          exact ⟨[], _, _, taken.take asks member free⟩
  | @failed σ _ source selections history query offered fault made refuses
      inductionHypothesis =>
      obtain ⟨refused, chosen, picks, taken⟩ := inductionHypothesis
        fun selection member => alone selection (List.mem_cons_of_mem _ member)
      cases asks : Selection.asksUnique id ⟨query, offered, .error fault⟩ with
      | false => exact ⟨refused, chosen, picks, taken.other asks⟩
      | true =>
          obtain ⟨rfl, unique⟩ := alone _ List.mem_cons_self asks
          obtain ⟨usedUp, full⟩ :=
            taken.length_le_of_refused made distinct (tied asks) unique refuses
          obtain rfl := select_unique_error (tied asks) unique some usedUp refuses
          exact ⟨_, chosen, picks, taken.refuse asks full⟩

/-- Requests under a unique name on one pool take each of its entries once and then fail, if all
others ask for nothing under that name. -/
theorem usesUp_of_selections (made : Selections rules selections history) (some : pool ≠ [])
    (distinct : (pool.map Candidate.key).Nodup)
    (alone : ∀ selection ∈ selections, selection.asksUnique id = true →
      selection.pool = pool ∧ ∀ component ∈ selection.query.carrier, component = ⟨.unique, id⟩) :
    UsesUp id pool (selections.filter (Selection.asksUnique id)).reverse := by
  obtain ⟨refused, chosen, picks, taken⟩ := exists_taken made some distinct alone
  exact taken.usesUp

end Requests

/-! ### Two animals

Both are taken under a unique name, and a third request fails. In between one of them is matched
under the same name. -/

namespace Counterpart

def first : CarrierHistory :=
  CarrierHistory.fresh.recordAll .standard (asking .unique) cat

def between : CarrierHistory :=
  first.recordAll .standard (asking .matching) cat

def last : CarrierHistory :=
  between.recordAll .standard (asking .unique) dog

def requests : List Selection :=
  [⟨asking .unique, [cat, dog], .error (.exhausted "noun" ⟨.unique, "pet"⟩)⟩,
    ⟨asking .unique, [cat, dog], .ok dog⟩, ⟨asking .matching, [cat, dog], .ok cat⟩,
    ⟨asking .unique, [cat, dog], .ok cat⟩]

theorem requests_made : Selections .standard requests last := by
  have taken : CarrierHistory.fresh.select .standard (asking .unique) [cat, dog] Leftmost.mk =
      .ok (cat, first, .mk) := rfl
  have matched : first.select .standard (asking .matching) [cat, dog] Leftmost.mk =
      .ok (cat, between, .mk) := rfl
  have second : between.select .standard (asking .unique) [cat, dog] Leftmost.mk =
      .ok (dog, last, .mk) := rfl
  have refused : last.select .standard (asking .unique) [cat, dog] Leftmost.mk =
      .error (.exhausted "noun" ⟨.unique, "pet"⟩) := rfl
  exact .failed (.chosen (.chosen (.chosen .fresh taken) matched) second) refused

theorem usesUp_requests :
    UsesUp "pet" [cat, dog] (requests.filter (Selection.asksUnique "pet")).reverse := by
  refine usesUp_of_selections requests_made (by simp) (by decide) ?_
  intro selection member asks
  simp only [requests, List.mem_cons, List.not_mem_nil, or_false] at member
  rcases member with rfl | rfl | rfl | rfl
  · exact ⟨rfl, by decide⟩
  · exact ⟨rfl, by decide⟩
  · cases asks
  · exact ⟨rfl, by decide⟩

end Counterpart

end SeededText.Vocabulary
