import SeededText.Data.Reader
import SeededText.Number.Numeral
import SeededText.Vocabulary.Query
import SeededText.Vocabulary.Sound

/-!
Contract: word tables and looking up in them.

A table has entries, each of which has a term for every form of the table. A dictionary is a set of
tables in the order of the names that queries ask for. Merging appends entries, so an entry keeps
its index.

Owns: dictionaries and their order, their texts, merging, look-up; lexicons as anything that answers
queries.
Does not own: choosing one of several candidates (`SeededText.Vocabulary.Carrier`).
-/

namespace SeededText.Vocabulary

structure Term where
  value : String
  pronunciation? : Option String
  syllables? : Option Nat
deriving DecidableEq, Repr

/-- The syllables that are given, else an estimate. -/
def Term.syllableCount (term : Term) : Nat :=
  term.syllables?.getD (estimateSyllables term.value)

structure Entry where
  terms : List Term
  classes : List String
deriving DecidableEq, Repr

structure WordTable where
  /-- The name that its entries are known by. -/
  name : String
  /-- Names of the forms. -/
  subtypes : List String
  entries : List Entry
deriving DecidableEq, Repr

/-- Tables by the names that queries ask for, in the order of these names. -/
structure Dictionary where
  tables : List (String × WordTable)
  ordered : tables.Pairwise fun first second => first.1 < second.1
deriving DecidableEq, Repr

inductive LookupFault where
  | unknownTable (table : String)
  | unknownSubtype (table subtype : String)
deriving DecidableEq, Repr

def LookupFault.message : LookupFault → String
  | .unknownTable table => s!"no table named '{table}'"
  | .unknownSubtype table subtype => s!"table '{table}' has no subtype '{subtype}'"

/-- Identity of an entry. -/
structure EntryKey where
  table : String
  index : Nat
deriving DecidableEq, Repr

/-- An entry in the form that a query asks for. -/
structure Candidate where
  key : EntryKey
  text : String
  pronunciation? : Option String
  classes : List String
  /-- Number of terms that the entry has. -/
  termCount : Nat
deriving DecidableEq, Repr

/-- Anything that answers queries, with candidates in a fixed order. -/
structure Lexicon where
  lookup : Query → Except LookupFault (List Candidate)

/-- Index of the form that a query asks for: the first one, one by name, or one by number. -/
def WordTable.formIndex (table : WordTable) (subtype? : Option String) : Except LookupFault Nat :=
  match subtype? with
  | none => .ok 0
  | some subtype =>
      match table.subtypes.findIdx? (· = subtype) with
      | some index => .ok index
      | none =>
          match Number.readCount? subtype.toList with
          | some index =>
              if index < max table.subtypes.length 1 then .ok index
              else .error (.unknownSubtype table.name subtype)
          | none => .error (.unknownSubtype table.name subtype)

/-- Whether an entry passes the filters of a query in a form. -/
def Query.accepts (query : Query) (entry : Entry) (term : Term) : Bool :=
  query.classFilter.accepts entry.classes query.exclusive &&
    (query.regexFilters.all fun filter => filter.accepts term.value) &&
    query.syllables?.all fun range => range.contains term.syllableCount

/-- The candidate that an entry is in a form, if the entry has the form and passes. -/
def Query.candidate? (query : Query) (table : String) (form index : Nat) (entry : Entry) :
    Option Candidate :=
  match entry.terms[form]? with
  | none => none
  | some term =>
      if query.accepts entry term then
        some ⟨⟨table, index⟩, term.value, term.pronunciation?, entry.classes, entry.terms.length⟩
      else none

/-- Candidates among entries of a table, of which the first has the index `start`. -/
def Query.candidatesFrom (query : Query) (table : String) (form : Nat) :
    Nat → List Entry → List Candidate
  | _, [] => []
  | start, entry :: entries =>
      (query.candidate? table form start entry).toList ++
        query.candidatesFrom table form (start + 1) entries

namespace Dictionary

def empty : Dictionary := ⟨[], .nil⟩

def tableIn (name : String) : List (String × WordTable) → Option WordTable
  | [] => none
  | (other, table) :: rest => if other = name then some table else tableIn name rest

def table? (dictionary : Dictionary) (name : String) : Option WordTable :=
  tableIn name dictionary.tables

/-- Puts a table at its place; what becomes of a table that is there is for `combine` to say. -/
def insertTable (combine : WordTable → WordTable → WordTable) (name : String) (table : WordTable) :
    List (String × WordTable) → List (String × WordTable)
  | [] => [(name, table)]
  | (other, present) :: rest =>
      if other = name then (name, combine present table) :: rest
      else if name < other then (name, table) :: (other, present) :: rest
      else (other, present) :: insertTable combine name table rest

theorem lt_of_mem_insertTable {combine : WordTable → WordTable → WordTable} {least name : String}
    {table : WordTable} {tables : List (String × WordTable)} (below : least < name)
    (belowAll : ∀ entry ∈ tables, least < entry.1) :
    ∀ entry ∈ insertTable combine name table tables, least < entry.1 := by
  induction tables with
  | nil => simpa [insertTable] using below
  | cons head rest inductionHypothesis =>
      obtain ⟨belowHead, belowRest⟩ := List.forall_mem_cons.mp belowAll
      unfold insertTable
      split
      · exact List.forall_mem_cons.mpr ⟨below, belowRest⟩
      · split
        · exact List.forall_mem_cons.mpr ⟨below, belowAll⟩
        · exact List.forall_mem_cons.mpr ⟨belowHead, inductionHypothesis belowRest⟩

theorem ordered_insertTable {combine : WordTable → WordTable → WordTable} {name : String}
    {table : WordTable} {tables : List (String × WordTable)}
    (ordered : tables.Pairwise fun first second => first.1 < second.1) :
    (insertTable combine name table tables).Pairwise fun first second => first.1 < second.1 := by
  induction tables with
  | nil => simp [insertTable]
  | cons head rest inductionHypothesis =>
      obtain ⟨belowRest, ordered⟩ := List.pairwise_cons.mp ordered
      unfold insertTable
      split
      · next same => exact List.pairwise_cons.mpr ⟨same ▸ belowRest, ordered⟩
      · next different =>
          split
          · next before =>
              refine List.pairwise_cons.mpr ⟨?_, List.pairwise_cons.mpr ⟨belowRest, ordered⟩⟩
              exact List.forall_mem_cons.mpr
                ⟨before, fun entry member => String.lt_trans before (belowRest entry member)⟩
          · next notBefore =>
              have behind : head.1 < name := by
                rcases Std.lt_trichotomy head.1 name with less | same | more
                · exact less
                · exact absurd same different
                · exact absurd more notBefore
              exact List.pairwise_cons.mpr
                ⟨lt_of_mem_insertTable behind belowRest, inductionHypothesis ordered⟩

/-- The dictionary with one table more. -/
def insert (dictionary : Dictionary) (combine : WordTable → WordTable → WordTable)
    (name : String) (table : WordTable) : Dictionary :=
  ⟨insertTable combine name table dictionary.tables, ordered_insertTable dictionary.ordered⟩

/-- The first table with the entries of the second; it keeps its name and its forms. -/
def appendEntries (first second : WordTable) : WordTable :=
  { first with entries := first.entries ++ second.entries }

/-- The tables of both dictionaries; where both have one, the second's entries follow. -/
def merge (first second : Dictionary) : Dictionary :=
  second.tables.foldl (fun merged entry => merged.insert appendEntries entry.1 entry.2) first

/-- Every entry that matches a query, in order. -/
def lookup (dictionary : Dictionary) (query : Query) : Except LookupFault (List Candidate) :=
  match dictionary.table? query.table with
  | none => .error (.unknownTable query.table)
  | some table => do
      let form ← table.formIndex query.subtype?
      return query.candidatesFrom table.name form 0 table.entries

/-- The tables as something that answers queries. -/
def lexicon (dictionary : Dictionary) : Lexicon := ⟨dictionary.lookup⟩

end Dictionary

/-- What is wrong with an entry of a table. -/
inductive EntryProblem where
  | noTerms
  | missingForms (terms subtypes : Nat)
  | pronunciationCount (terms pronunciations : Nat)
  | syllableCount (terms counts : Nat)
deriving DecidableEq, Repr

def EntryProblem.message : EntryProblem → String
  | .noTerms => "entry has no terms"
  | .missingForms terms subtypes => s!"{terms} terms but the table has {subtypes} subtypes"
  | .pronunciationCount terms pronunciations =>
      s!"{terms} terms but {pronunciations} pronunciations"
  | .syllableCount terms counts => s!"{terms} terms but {counts} syllable counts"

inductive DictionaryFault where
  | unreadable (fault : Data.Fault)
  | invalidEntry (table : String) (index : Nat) (problem : EntryProblem)
deriving DecidableEq, Repr

/-- An entry as dictionary texts write it: terms, pronunciations and syllables in parallel. -/
structure WrittenEntry where
  terms : List String
  pronunciations : List String
  syllables : List Nat
  classes : List String
deriving DecidableEq, Repr

structure WrittenTable where
  subtypes : List String
  entries : List WrittenEntry
deriving DecidableEq, Repr

def WrittenEntry.problem? (entry : WrittenEntry) (subtypes : Nat) : Option EntryProblem :=
  let count := entry.terms.length
  if count = 0 then some .noTerms
  else if count < subtypes then some (.missingForms count subtypes)
  else if entry.pronunciations ≠ [] ∧ entry.pronunciations.length ≠ count then
    some (.pronunciationCount count entry.pronunciations.length)
  else if entry.syllables ≠ [] ∧ entry.syllables.length ≠ count then
    some (.syllableCount count entry.syllables.length)
  else none

/-- Terms with their pronunciations and syllables, as far as these are given. -/
def zipTerms : List String → List String → List Nat → List Term
  | [], _, _ => []
  | value :: values, pronunciations, syllables =>
      ⟨value, pronunciations.head?, syllables.head?⟩ ::
        zipTerms values pronunciations.tail syllables.tail

def WrittenEntry.toEntry (entry : WrittenEntry) : Entry :=
  ⟨zipTerms entry.terms entry.pronunciations entry.syllables, entry.classes⟩

/-- Entries of a table, of which the first has the index `start`. -/
def entriesFrom (table : String) (subtypes : Nat) :
    Nat → List WrittenEntry → Except DictionaryFault (List Entry)
  | _, [] => .ok []
  | start, entry :: entries =>
      match entry.problem? subtypes with
      | some problem => .error (.invalidEntry table start problem)
      | none => do
          let others ← entriesFrom table subtypes (start + 1) entries
          return entry.toEntry :: others

def WrittenTable.toTable (name : String) (table : WrittenTable) :
    Except DictionaryFault WordTable := do
  let entries ← entriesFrom name table.subtypes.length 0 table.entries
  return ⟨name, table.subtypes, entries⟩

namespace Dictionary

open Data

def readTexts (fields : List (String × Value)) (name : String) : Except Fault (List String) :=
  optionalField fields name [] Value.asTexts

/-- Largest syllable count of a dictionary text. -/
def syllableLimit : Nat := UInt32.size - 1

def readEntry (value : Value) : Except Fault WrittenEntry := do
  let fields ← value.asRecord "RonEntry" ["terms", "pron", "syllables", "classes"]
  return {
    terms := ← requiredField fields "terms" Value.asTexts
    pronunciations := ← readTexts fields "pron"
    syllables := ← optionalField fields "syllables" [] fun value => do
      (← value.asList).mapM (Value.asCount syllableLimit)
    classes := ← readTexts fields "classes" }

def readTable (value : Value) : Except Fault WrittenTable := do
  let fields ← value.asRecord "Table" ["subtypes", "entries"]
  return {
    subtypes := ← readTexts fields "subtypes"
    entries := ← requiredField fields "entries" fun value => do
      (← value.asList).mapM readEntry }

/-- The tables that a text writes, in its order. -/
def readTables (text : String) : Except Fault (List (String × WrittenTable)) := do
  (← (← read text).value.asMap).mapM fun (name, table) => do
    return (← name.asText, ← readTable table)

/-- Of several tables with one name only the last counts; the others are not looked at. -/
def lastOfEach {α : Type} : List (String × α) → List (String × α)
  | [] => []
  | (name, value) :: rest =>
      if rest.any fun other => other.1 = name then lastOfEach rest
      else (name, value) :: lastOfEach rest

/-- Tables at their places by name. -/
def sortTables {α : Type} (tables : List (String × α)) : List (String × α) :=
  tables.mergeSort fun first second => first.1 ≤ second.1

/-- The dictionary that has the tables; of several under one name the last. -/
def ofTables (tables : List (String × WordTable)) : Dictionary :=
  tables.foldl
    (fun dictionary entry => dictionary.insert (fun _ latest => latest) entry.1 entry.2) .empty

/-- The dictionary that a text writes. -/
def parse (text : String) : Except DictionaryFault Dictionary := do
  let written ← (readTables text).mapError DictionaryFault.unreadable
  let tables ← (sortTables (lastOfEach written)).mapM fun (name, table) => do
    return (name, ← table.toTable name)
  return ofTables tables

end Dictionary

/-- What is said of a dictionary whose entries are invalid. -/
def invalidEntryMessage (table : String) (index : Nat) (problem : EntryProblem) : String :=
  s!"{table}[{index}]: {problem.message}"

end SeededText.Vocabulary
