import SeededText.Vocabulary.Dictionary

/-!
Contract: merging dictionaries adds entries behind those that are there.

A dictionary is known by its tables, so merging is known table by table: the tables of the first,
each with the entries of the second behind its own, and the other tables of the second. Hence it
does not matter which of several neighbours are merged first, entries keep their keys, and a look-up
finds what it found and then what the second has in the same form.

Owns: tables of a merged dictionary, what a look-up finds in it.
Does not own: the texts of dictionaries (`SeededText.Vocabulary.Dictionary`).
-/

namespace SeededText.Vocabulary

namespace Dictionary

/-! ### Tables of a merged dictionary -/

section Tables

variable {combine : WordTable → WordTable → WordTable} {name other : String} {table : WordTable}
  {tables : List (String × WordTable)}

theorem tableIn_eq_none (below : ∀ entry ∈ tables, name < entry.1) :
    tableIn name tables = none := by
  induction tables with
  | nil => rfl
  | cons head rest inductionHypothesis =>
      obtain ⟨before, belowRest⟩ := List.forall_mem_cons.mp below
      have different : head.1 ≠ name := fun same => String.lt_irrefl name (same ▸ before)
      rw [tableIn, if_neg different, inductionHypothesis belowRest]

/-- Tables are in order, so nothing that comes before the first one is there. -/
theorem tableIn_eq_none_of_lt {entry : String × WordTable} {rest : List (String × WordTable)}
    (ordered : (entry :: rest).Pairwise fun first second => first.1 < second.1)
    (before : name < entry.1) : tableIn name (entry :: rest) = none := by
  refine tableIn_eq_none (List.forall_mem_cons.mpr ⟨before, fun other member => ?_⟩)
  exact String.lt_trans before ((List.pairwise_cons.mp ordered).1 other member)

theorem tableIn_self (rest : List (String × WordTable)) :
    tableIn name ((name, table) :: rest) = some table := by
  rw [tableIn, if_pos rfl]

theorem tableIn_insertTable (ordered : tables.Pairwise fun first second => first.1 < second.1) :
    tableIn other (insertTable combine name table tables) =
      if name = other then (tableIn name tables).merge combine (some table)
      else tableIn other tables := by
  induction tables with
  | nil => rfl
  | cons head rest inductionHypothesis =>
      obtain ⟨headName, present⟩ := head
      unfold insertTable
      by_cases same : headName = name
      · subst same
        by_cases sought : headName = other <;> simp [tableIn, sought]
      · by_cases before : name < headName
        · rw [if_neg same, if_pos before, tableIn_eq_none_of_lt ordered before]
          rfl
        · rw [if_neg same, if_neg before, tableIn, inductionHypothesis ordered.of_cons]
          by_cases sought : headName = other
          · subst sought
            simp [tableIn, Ne.symm same]
          · simp [tableIn, same, sought]

/-- A dictionary is known by its tables. -/
theorem ext_tableIn {first second : List (String × WordTable)}
    (firstOrdered : first.Pairwise fun left right => left.1 < right.1)
    (secondOrdered : second.Pairwise fun left right => left.1 < right.1)
    (same : ∀ name, tableIn name first = tableIn name second) : first = second := by
  induction first generalizing second with
  | nil =>
      cases second with
      | nil => rfl
      | cons head rest => exact nomatch (same head.1).trans (tableIn_self rest)
  | cons head rest inductionHypothesis =>
      obtain ⟨name, table⟩ := head
      have found := (same name).symm.trans (tableIn_self rest)
      cases second with
      | nil => cases found
      | cons head' rest' =>
          obtain ⟨name', table'⟩ := head'
          have found' := (same name').trans (tableIn_self rest')
          obtain rfl : name = name' := by
            rcases Std.lt_trichotomy name name' with less | equal | more
            · exact nomatch found.symm.trans (tableIn_eq_none_of_lt secondOrdered less)
            · exact equal
            · exact nomatch found'.symm.trans (tableIn_eq_none_of_lt firstOrdered more)
          obtain rfl : table = table' :=
            Option.some.inj (found.symm.trans (tableIn_self rest'))
          obtain ⟨below, restOrdered⟩ := List.pairwise_cons.mp firstOrdered
          obtain ⟨below', restOrdered'⟩ := List.pairwise_cons.mp secondOrdered
          rw [inductionHypothesis restOrdered restOrdered' fun other => ?_]
          by_cases sought : name = other
          · subst sought
            rw [tableIn_eq_none below, tableIn_eq_none below']
          · simpa [tableIn, sought] using same other

end Tables

theorem ext_table? {first second : Dictionary}
    (same : ∀ name, first.table? name = second.table? name) : first = second := by
  obtain ⟨tables, ordered⟩ := first
  obtain ⟨tables', ordered'⟩ := second
  obtain rfl : tables = tables' := ext_tableIn ordered ordered' same
  rfl

theorem table?_insert (dictionary : Dictionary) (combine : WordTable → WordTable → WordTable)
    (name other : String) (table : WordTable) :
    (dictionary.insert combine name table).table? other =
      if name = other then (dictionary.table? name).merge combine (some table)
      else dictionary.table? other :=
  tableIn_insertTable dictionary.ordered

/-- A table of a merged dictionary has the entries of the first, then those of the second. -/
theorem table?_merge (first second : Dictionary) (name : String) :
    (first.merge second).table? name =
      (first.table? name).merge appendEntries (second.table? name) := by
  obtain ⟨tables, ordered⟩ := second
  unfold merge
  show _ = (first.table? name).merge appendEntries (tableIn name tables)
  induction tables generalizing first with
  | nil =>
      exact Option.merge_none_right.symm
  | cons head rest inductionHypothesis =>
      obtain ⟨below, orderedRest⟩ := List.pairwise_cons.mp ordered
      show (List.foldl _ (first.insert appendEntries head.1 head.2) rest).table? name = _
      rw [inductionHypothesis _ orderedRest, table?_insert, tableIn]
      by_cases same : head.1 = name
      · subst same
        rw [if_pos rfl, if_pos rfl, tableIn_eq_none below, Option.merge_none_right]
      · rw [if_neg same, if_neg same]

theorem merge_assoc (first second third : Dictionary) :
    (first.merge second).merge third = first.merge (second.merge third) := by
  refine ext_table? fun name => ?_
  simp only [table?_merge]
  cases first.table? name <;> cases second.table? name <;> cases third.table? name <;>
    simp [appendEntries]

end Dictionary

/-! ### Candidates -/

/-- An entry has a term for a form and passes the filters of a query. -/
structure Query.Finds (query : Query) (form : Nat) (entry : Entry) (term : Term) : Prop where
  hasForm : entry.terms[form]? = some term
  classes : query.classFilter.accepts entry.classes query.exclusive = true
  regexes : ∀ filter ∈ query.regexFilters, filter.accepts term.value = true
  syllables : ∀ range, query.syllables? = some range → range.contains term.syllableCount = true

/-- The candidates of a query among entries of a table that follow `start` others: one for each
entry that the query finds, in their order. -/
structure Query.FindsAmong (query : Query) (table : String) (form start : Nat)
    (entries : List Entry) (found : List Candidate) : Prop where
  mem_iff : ∀ candidate, candidate ∈ found ↔
    ∃ index entry term, entries[index]? = some entry ∧ query.Finds form entry term ∧
      candidate = ⟨⟨table, start + index⟩, term.value, term.pronunciation?, entry.classes,
        entry.terms.length⟩
  ordered : found.Pairwise fun first second => first.key.index < second.key.index

section Candidates

variable {query : Query} {table : String} {form start : Nat} {entry : Entry}
  {entries : List Entry} {candidate : Candidate}

theorem finds_iff {term : Term} :
    query.Finds form entry term ↔
      entry.terms[form]? = some term ∧ query.accepts entry term = true := by
  constructor
  · rintro ⟨hasForm, classes, regexes, syllables⟩
    refine ⟨hasForm, ?_⟩
    simpa [Query.accepts, classes, Option.all_eq_true] using ⟨regexes, syllables⟩
  · rintro ⟨hasForm, accepts⟩
    simp only [Query.accepts, Bool.and_eq_true, List.all_eq_true, Option.all_eq_true] at accepts
    exact ⟨hasForm, accepts.1.1, accepts.1.2, accepts.2⟩

theorem candidate?_eq_some_iff {index : Nat} :
    query.candidate? table form index entry = some candidate ↔
      ∃ term, query.Finds form entry term ∧
        candidate = ⟨⟨table, index⟩, term.value, term.pronunciation?, entry.classes,
          entry.terms.length⟩ := by
  unfold Query.candidate?
  simp only [finds_iff]
  cases entry.terms[form]? with
  | none => simp
  | some term =>
      rw [eq_comm]
      cases query.accepts entry term <;> grind

theorem candidatesFrom_append (first second : List Entry) :
    query.candidatesFrom table form start (first ++ second) =
      query.candidatesFrom table form start first ++
        query.candidatesFrom table form (start + first.length) second := by
  induction first generalizing start with
  | nil => rfl
  | cons entry entries inductionHypothesis =>
      have behind : start + 1 + entries.length = start + (entry :: entries).length := by
        rw [List.length_cons, Nat.add_right_comm, Nat.add_assoc]
      rw [List.cons_append, Query.candidatesFrom, Query.candidatesFrom, inductionHypothesis, behind,
        List.append_assoc]

theorem mem_candidatesFrom :
    candidate ∈ query.candidatesFrom table form start entries ↔
      ∃ index entry, entries[index]? = some entry ∧
        query.candidate? table form (start + index) entry = some candidate := by
  induction entries generalizing start with
  | nil => simp [Query.candidatesFrom]
  | cons entry entries inductionHypothesis =>
      rw [Query.candidatesFrom, List.mem_append, Option.mem_toList, inductionHypothesis]
      constructor
      · rintro (here | ⟨index, later, found, gives⟩)
        · exact ⟨0, entry, rfl, here⟩
        · exact ⟨index + 1, later, found, by rwa [Nat.add_assoc, Nat.add_comm 1] at gives⟩
      · rintro ⟨index, later, found, gives⟩
        cases index with
        | zero =>
            cases found
            exact .inl gives
        | succ index =>
            exact .inr ⟨index, later, found, by rwa [Nat.add_assoc, Nat.add_comm 1]⟩

/-- Candidates stand in the order of their entries. -/
theorem ordered_candidatesFrom :
    (query.candidatesFrom table form start entries).Pairwise fun first second =>
      first.key.index < second.key.index := by
  induction entries generalizing start with
  | nil => exact .nil
  | cons entry entries inductionHypothesis =>
      rw [Query.candidatesFrom]
      refine List.pairwise_append.mpr ⟨?_, inductionHypothesis, ?_⟩
      · cases query.candidate? table form start entry <;> simp
      · intro first here second later
        obtain ⟨term, -, rfl⟩ := candidate?_eq_some_iff.mp (Option.mem_toList.mp here)
        obtain ⟨index, entry, -, gives⟩ := mem_candidatesFrom.mp later
        obtain ⟨other, -, rfl⟩ := candidate?_eq_some_iff.mp gives
        show start < start + 1 + index
        omega

theorem findsAmong_candidatesFrom (query : Query) (table : String) (form start : Nat)
    (entries : List Entry) :
    query.FindsAmong table form start entries
      (query.candidatesFrom table form start entries) where
  mem_iff candidate := by
    simp only [mem_candidatesFrom, candidate?_eq_some_iff]
    grind
  ordered := ordered_candidatesFrom

end Candidates

/-! ### Look-ups -/

namespace Dictionary

/-- What a look-up finds in a merged dictionary, seen from its two parts. -/
structure Extends (first second : Dictionary) (query : Query) : Prop where
  /-- What was found in the first is found unchanged, then what the second has in that form. -/
  kept : ∀ pool, first.lookup query = .ok pool → ∃ table form added,
    first.table? query.table = some table ∧ table.formIndex query.subtype? = .ok form ∧
      (first.merge second).lookup query = .ok (pool ++ added) ∧
      query.FindsAmong table.name form table.entries.length
        ((second.table? query.table).elim [] WordTable.entries) added
  /-- An entry stays where its key says. -/
  keys : ∀ (name : String) (table : WordTable), first.table? name = some table →
    ∃ merged, (first.merge second).table? name = some merged ∧ merged.name = table.name ∧
      ∀ (index : Nat) (entry : Entry), table.entries[index]? = some entry →
        merged.entries[index]? = some entry
  /-- A table that only the second has is looked up as there. -/
  added : first.table? query.table = none →
    (first.merge second).lookup query = second.lookup query

section Lookups

variable {first second : Dictionary} {query : Query}

theorem lookup_of_table? {dictionary : Dictionary} {table : WordTable}
    (found : dictionary.table? query.table = some table) :
    dictionary.lookup query = (table.formIndex query.subtype?).map fun form =>
      query.candidatesFrom table.name form 0 table.entries := by
  rw [lookup, found]
  rfl

theorem lookup_congr (same : first.table? query.table = second.table? query.table) :
    first.lookup query = second.lookup query := by
  rw [lookup, same]
  rfl

/-- A table that both have is looked up in the forms of the first. -/
theorem lookup_merge {table : WordTable} {form : Nat}
    (found : first.table? query.table = some table)
    (selects : table.formIndex query.subtype? = .ok form) :
    (first.merge second).lookup query =
      .ok (query.candidatesFrom table.name form 0 table.entries ++
        query.candidatesFrom table.name form table.entries.length
          ((second.table? query.table).elim [] WordTable.entries)) := by
  cases other : second.table? query.table with
  | none =>
      have same : (first.merge second).table? query.table = some table := by
        rw [table?_merge, found, other]
        rfl
      rw [lookup_of_table? same, selects]
      simp [Query.candidatesFrom, Except.map]
  | some added =>
      have same : (first.merge second).table? query.table = some (appendEntries table added) := by
        rw [table?_merge, found, other]
        rfl
      have selectsToo : (appendEntries table added).formIndex query.subtype? = .ok form := selects
      rw [lookup_of_table? same, selectsToo]
      show Except.ok (query.candidatesFrom table.name form 0 (table.entries ++ added.entries)) = _
      rw [candidatesFrom_append, Nat.zero_add]
      rfl

theorem extends_merge (first second : Dictionary) (query : Query) : first.Extends second query where
  kept pool looked := by
    cases found : first.table? query.table with
    | none =>
        rw [lookup, found] at looked
        cases looked
    | some table =>
        rw [lookup_of_table? found] at looked
        cases selects : table.formIndex query.subtype? with
        | error fault =>
            rw [selects] at looked
            cases looked
        | ok form =>
            rw [selects] at looked
            cases looked
            exact ⟨table, form, _, rfl, selects, lookup_merge found selects,
              findsAmong_candidatesFrom _ _ _ _ _⟩
  keys name table found := by
    rw [table?_merge, found]
    cases second.table? name with
    | none => exact ⟨table, rfl, rfl, fun _ _ => id⟩
    | some added =>
        refine ⟨appendEntries table added, rfl, rfl, fun index entry here => ?_⟩
        have inside := (List.getElem?_eq_some_iff.mp here).1
        exact (List.getElem?_append_left inside).trans here
  added missing := by
    refine lookup_congr ?_
    rw [table?_merge, missing, Option.merge_none_left]

end Lookups

/-- Merging keeps what was there and adds behind it; it does not matter which of several
dictionaries are merged first. -/
theorem merging_adds_behind (first second third : Dictionary) (query : Query) :
    (first.merge second).merge third = first.merge (second.merge third) ∧
      first.Extends second query :=
  ⟨merge_assoc first second third, extends_merge first second query⟩

/-! ### Nouns with and without plurals

Of the entries that are added only one has the second form that the first dictionary names. -/

namespace Plurals

def noun (terms : List String) : Entry :=
  ⟨terms.map fun value => ⟨value, none, none⟩, []⟩

def nouns : Dictionary :=
  ofTables [("noun", ⟨"noun", ["singular", "plural"], [noun ["cat", "cats"]]⟩)]

def furtherNouns : Dictionary :=
  ofTables [("noun", ⟨"noun", [], [noun ["fox"], noun ["ox", "oxen"]]⟩)]

def plural : Query :=
  { Query.all "noun" with subtype? := some "plural" }

theorem extends_nouns :
    nouns.lookup plural = .ok [⟨⟨"noun", 0⟩, "cats", none, [], 2⟩] ∧
      (nouns.merge furtherNouns).lookup plural =
        .ok [⟨⟨"noun", 0⟩, "cats", none, [], 2⟩, ⟨⟨"noun", 2⟩, "oxen", none, [], 2⟩] ∧
      nouns.Extends furtherNouns plural :=
  ⟨rfl, rfl, (merging_adds_behind nouns furtherNouns .empty plural).2⟩

end Plurals

end Dictionary

end SeededText.Vocabulary
