import SeededText.Random.Generator
import SeededText.Table
import SeededText.Vocabulary.Dictionary

/-!
Contract: choosing candidates so that they fit earlier choices.

A run keeps a history of its choices by the names in carriers. A query's candidates are reduced to
those that every component of its carrier allows; an entry that the query pins is taken again, else
one is drawn; the choice is recorded. A query that fails leaves history and source of chance as they
were.

Owns: the history, what each kind of component allows and records, selection, resolution of queries.
Does not own: which words rhyme and belong together, which `CarrierRules` say.
-/

namespace SeededText.Vocabulary

open SeededText.Random

/-- Relations between candidates that carriers rest on. -/
structure CarrierRules where
  rhymes : Candidate → Candidate → Bool
  groupKey : Candidate → String
  related : Candidate → Candidate → Bool

/-- Words rhyme by their tails, belong together if they have the same classes, and are related if
they have equally many terms. -/
def CarrierRules.standard : CarrierRules where
  rhymes first second :=
    let sound (candidate : Candidate) := rhymeTail (candidate.pronunciation?.getD candidate.text)
    sound first == sound second
  groupKey candidate :=
    String.intercalate ","
      (candidate.classes.mergeSort fun first second => first ≤ second).eraseDups
  related first second := first.termCount == second.termCount

inductive SelectionFault where
  | lookup (fault : LookupFault)
  | noMatch (table : String)
  | exhausted (table : String) (component : CarrierComponent)
deriving DecidableEq, Repr

def SelectionFault.message : SelectionFault → String
  | .lookup fault => fault.message
  | .noMatch table => s!"no entries in '{table}' match the query"
  | .exhausted table component =>
      s!"no entries in '{table}' satisfy carrier '{component.text}'"

/-- Entries that were picked, by name. -/
abbrev PickedEntries (κ : Type) := Table κ (List EntryKey)

def PickedEntries.has {κ : Type} [DecidableEq κ] (picked : PickedEntries κ) (key : κ)
    (entry : EntryKey) : Bool :=
  (picked.findD key []).contains entry

def PickedEntries.add {κ : Type} [DecidableEq κ] (picked : PickedEntries κ) (key : κ)
    (entry : EntryKey) : PickedEntries κ :=
  if picked.has key entry then picked else picked.insert key (entry :: picked.findD key [])

theorem PickedEntries.has_add {κ : Type} [DecidableEq κ] (picked : PickedEntries κ)
    (key other : κ) (entry sought : EntryKey) :
    (picked.add key entry).has other sought =
      (picked.has other sought || decide (key = other ∧ entry = sought)) := by
  unfold add
  split
  · next known =>
      by_cases same : key = other ∧ entry = sought
      · obtain ⟨rfl, rfl⟩ := same
        simp [known]
      · simp [same]
  · by_cases same : key = other
    · subst same
      simp [has, Table.findD, Table.find?_insert, Bool.or_comm, eq_comm (a := sought)]
    · simp [has, Table.findD, Table.find?_insert, same]

/-- A form as a query writes it, under the name of a divergent component. -/
structure FormKey where
  id : String
  table : String
  subtype? : Option String
deriving DecidableEq, Repr

/-- What carriers remember of earlier choices. -/
structure CarrierHistory where
  /-- The last choice for each component that pins. -/
  pins : Table CarrierComponent Candidate
  uniques : PickedEntries String
  matchUniques : PickedEntries String
  /-- The first choice of each rhyme. -/
  rhymes : Table String Candidate
  /-- The group key of the first choice, for associative and dissociative components alike. -/
  groupKeys : Table String String
  /-- The first choice of each relation. -/
  relations : Table String Candidate
  divergences : PickedEntries FormKey

namespace CarrierHistory

def fresh : CarrierHistory :=
  ⟨.empty, .empty, .empty, .empty, .empty, .empty, .empty⟩

instance : Inhabited CarrierHistory := ⟨fresh⟩

def pin? (history : CarrierHistory) (component : CarrierComponent) : Option Candidate :=
  history.pins.find? component

/-- Whether a component allows a candidate. -/
def allows (history : CarrierHistory) (rules : CarrierRules) (query : Query)
    (component : CarrierComponent) (candidate : Candidate) : Bool :=
  let id := component.id
  match component.kind with
  | .matching => true
  | .unique => !history.uniques.has id candidate.key
  | .matchUnique =>
      ((history.pin? ⟨.matching, id⟩).all fun pinned => pinned.key != candidate.key) &&
        !history.matchUniques.has id candidate.key
  | .rhyme => (history.rhymes.find? id).all fun first => rules.rhymes first candidate
  | .grouping .associative _ =>
      (history.groupKeys.find? id).all fun key => key == rules.groupKey candidate
  | .grouping .dissociative _ =>
      (history.groupKeys.find? id).all fun key => key != rules.groupKey candidate
  | .grouping .divergent _ =>
      !history.divergences.has ⟨id, query.table, query.subtype?⟩ candidate.key
  | .grouping .relational _ =>
      (history.relations.find? id).all fun first => rules.related first candidate

/-- The history after a choice, as far as its pin is concerned. -/
def recordPin (history : CarrierHistory) (component : CarrierComponent) (candidate : Candidate) :
    CarrierHistory :=
  if component.kind.pinsEntry then
    { history with pins := history.pins.insert component candidate }
  else history

/-- The history after a choice under a component. -/
def record (history : CarrierHistory) (rules : CarrierRules) (query : Query)
    (component : CarrierComponent) (candidate : Candidate) : CarrierHistory :=
  let id := component.id
  let pinned := history.recordPin component candidate
  match component.kind with
  | .matching => pinned
  | .unique => { pinned with uniques := pinned.uniques.add id candidate.key }
  | .matchUnique => { pinned with matchUniques := pinned.matchUniques.add id candidate.key }
  | .rhyme => { pinned with rhymes := pinned.rhymes.insertIfNew id candidate }
  | .grouping .associative _ | .grouping .dissociative _ =>
      { pinned with groupKeys := pinned.groupKeys.insertIfNew id (rules.groupKey candidate) }
  | .grouping .divergent _ =>
      { pinned with
        divergences :=
          pinned.divergences.add ⟨id, query.table, query.subtype?⟩ candidate.key }
  | .grouping .relational _ =>
      { pinned with relations := pinned.relations.insertIfNew id candidate }

/-- Candidates that all components allow. A component that leaves none is the fault. -/
def constrain (history : CarrierHistory) (rules : CarrierRules) (query : Query) :
    List CarrierComponent → List Candidate → Except SelectionFault (List Candidate)
  | [], pool => .ok pool
  | component :: components, pool =>
      let allowed := pool.filter fun candidate => history.allows rules query component candidate
      if allowed.isEmpty then .error (.exhausted query.table component)
      else constrain history rules query components allowed

/-- The candidate that the first pin to be among them pins. -/
def pinned? (history : CarrierHistory) (components : List CarrierComponent)
    (pool : List Candidate) : Option Candidate :=
  ((components.filter fun component => component.kind.pinsEntry).filterMap history.pin?).findSome?
    fun pin => pool.find? fun candidate => candidate.key = pin.key

/-- The history after a choice under all components of a query. -/
def recordAll (history : CarrierHistory) (rules : CarrierRules) (query : Query)
    (candidate : Candidate) : CarrierHistory :=
  query.carrier.foldl (fun history component => history.record rules query component candidate)
    history

/-- One of the candidates, by a pin or else by chance. -/
def pick {σ : Type} [IndexSource σ] (history : CarrierHistory) (query : Query)
    (pool : List Candidate) (source : σ) : Option Candidate × σ :=
  match history.pinned? query.carrier pool with
  | some candidate => (some candidate, source)
  | none =>
      let (index, source) := IndexSource.chooseBelow source pool.length
      (pool[index]?, source)

/-- Chooses one candidate of a pool under the carrier of a query. -/
def select {σ : Type} [IndexSource σ] (history : CarrierHistory) (rules : CarrierRules)
    (query : Query) (pool : List Candidate) (source : σ) :
    Except SelectionFault (Candidate × CarrierHistory × σ) :=
  if pool.isEmpty then .error (.noMatch query.table)
  else do
    let allowed ← history.constrain rules query query.carrier pool
    match history.pick query allowed source with
    | (some candidate, source) =>
        return (candidate, history.recordAll rules query candidate, source)
    | (none, _) => .error (.noMatch query.table)

/-- Looks a query up and chooses one candidate. -/
def resolve {σ : Type} [IndexSource σ] (history : CarrierHistory) (lexicon : Lexicon)
    (rules : CarrierRules) (query : Query) (source : σ) :
    Except SelectionFault (Candidate × CarrierHistory × σ) := do
  let pool ← (lexicon.lookup query).mapError SelectionFault.lookup
  history.select rules query pool source

end CarrierHistory

end SeededText.Vocabulary
