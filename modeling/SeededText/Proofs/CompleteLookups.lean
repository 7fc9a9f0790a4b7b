import Mathlib.Data.List.Nodup
import SeededText.Engine.Build
import SeededText.Proofs.MergedDictionaries
import SeededText.Proofs.SelectionsInPlace
import SeededText.Tools.DictionaryLint

/-!
Contract: where the linter finds no error, look-ups leave no entry out.

A written entry may have more terms than its table has forms, and merging may append entries that
have fewer. The linter asks for one term per form exactly, so what passes it has every form of every
table in every entry.

Owns: the forms that queries can ask a table for, tables of dictionaries that were loaded one after
the other, look-ups without filters.
Does not own: what merging does to a look-up (`SeededText.Proofs.MergedDictionaries`), names of
tables (`SeededText.Proofs.TableNames`).
-/

namespace SeededText.Vocabulary

open Machine (bind_eq_ok)
open SeededText.Random

/-! ### Forms -/

/-- The form of a table that a query asks for: the first if the query names none, the first of a
declared name, or a form by its number. A table that declares no names has one form. -/
inductive WordTable.Selects (table : WordTable) : Option String → Nat → Prop where
  | unnamed : Selects table none 0
  | named {subtype : String} {form : Nat} (here : table.subtypes[form]? = some subtype)
      (first : ∀ earlier < form, table.subtypes[earlier]? ≠ some subtype) :
      Selects table (some subtype) form
  | numbered {subtype : String} {form : Nat} (undeclared : subtype ∉ table.subtypes)
      (reads : Number.readCount? subtype.toList = some form)
      (inside : form < max table.subtypes.length 1) : Selects table (some subtype) form

namespace WordTable

variable {table : WordTable} {subtype : String} {subtype? : Option String} {form : Nat}

theorem findIdx?_eq_some_iff :
    table.subtypes.findIdx? (· = subtype) = some form ↔
      table.subtypes[form]? = some subtype ∧
        ∀ earlier < form, table.subtypes[earlier]? ≠ some subtype := by
  rw [List.findIdx?_eq_some_iff_getElem]
  constructor
  · rintro ⟨inside, here, first⟩
    refine ⟨List.getElem?_eq_some_iff.mpr ⟨inside, of_decide_eq_true here⟩, ?_⟩
    intro earlier before found
    obtain ⟨_, same⟩ := List.getElem?_eq_some_iff.mp found
    exact first earlier before (decide_eq_true same)
  · rintro ⟨here, first⟩
    obtain ⟨inside, same⟩ := List.getElem?_eq_some_iff.mp here
    refine ⟨inside, decide_eq_true same, ?_⟩
    intro earlier before found
    exact first earlier before
      (List.getElem?_eq_some_iff.mpr ⟨Nat.lt_trans before inside, of_decide_eq_true found⟩)

theorem formIndex_eq_ok_iff :
    table.formIndex subtype? = .ok form ↔ table.Selects subtype? form := by
  cases subtype? with
  | none =>
      constructor
      · rintro ⟨⟩
        exact .unnamed
      · rintro ⟨⟩
        rfl
  | some subtype =>
      cases found : table.subtypes.findIdx? (· = subtype) with
      | some index =>
          simp only [formIndex, found, Except.ok.injEq]
          constructor
          · rintro rfl
            exact .named (findIdx?_eq_some_iff.mp found).1 (findIdx?_eq_some_iff.mp found).2
          · rintro (_ | ⟨here, first⟩ | ⟨undeclared⟩)
            · exact Option.some.inj (found.symm.trans (findIdx?_eq_some_iff.mpr ⟨here, first⟩))
            · exact absurd (List.mem_of_getElem? (findIdx?_eq_some_iff.mp found).1) undeclared
      | none =>
          have undeclared : subtype ∉ table.subtypes := by
            intro member
            simpa using List.findIdx?_eq_none_iff.mp found subtype member
          have numbered : table.formIndex (some subtype) = .ok form ↔
              Number.readCount? subtype.toList = some form ∧
                form < max table.subtypes.length 1 := by
            simp only [formIndex, found]
            grind
          rw [numbered]
          constructor
          · rintro ⟨reads, inside⟩
            exact .numbered undeclared reads inside
          · rintro (_ | ⟨here⟩ | ⟨-, reads, inside⟩)
            · exact absurd (List.mem_of_getElem? here) undeclared
            · exact ⟨reads, inside⟩

/-- A declared name selects a form. -/
theorem exists_selects (declared : subtype ∈ table.subtypes) :
    ∃ form, table.Selects (some subtype) form := by
  cases found : table.subtypes.findIdx? (· = subtype) with
  | some index => exact ⟨index, formIndex_eq_ok_iff.mp (by rw [formIndex, found])⟩
  | none => simpa using List.findIdx?_eq_none_iff.mp found subtype declared

theorem Selects.lt (selects : table.Selects subtype? form) :
    form < max table.subtypes.length 1 := by
  cases selects with
  | unnamed => exact Nat.lt_of_lt_of_le Nat.one_pos (Nat.le_max_right _ _)
  | named here =>
      exact Nat.lt_of_lt_of_le (List.getElem?_eq_some_iff.mp here).1 (Nat.le_max_left _ _)
  | numbered _ _ inside => exact inside

end WordTable

/-! ### Look-ups without filters -/

/-- A query that any entry answers; it may ask for a form and have a carrier. -/
structure Query.IsUnfiltered (query : Query) : Prop where
  notExclusive : query.exclusive = false
  classes : query.classFilter = []
  regexes : query.regexFilters = []
  syllables : query.syllables? = none

/-- One candidate for each entry of a table, in order, and one at least. -/
structure CoversEntries (table : String) (form : Nat) (entries : List Entry)
    (pool : List Candidate) : Prop where
  length : pool.length = entries.length
  each : ∀ (index : Nat) (entry : Entry), entries[index]? = some entry →
    ∃ term, entry.terms[form]? = some term ∧ pool[index]? =
      some ⟨⟨table, index⟩, term.value, term.pronunciation?, entry.classes, entry.terms.length⟩
  distinct : (pool.map Candidate.key).Nodup
  nonempty : pool ≠ []

section Candidates

variable {query : Query} {table : String} {form : Nat} {entry : Entry}
  {entries : List Entry} {term : Term}

theorem Query.IsUnfiltered.finds (unfiltered : query.IsUnfiltered)
    (hasForm : entry.terms[form]? = some term) : query.Finds form entry term where
  hasForm := hasForm
  classes := by simp [unfiltered.classes, unfiltered.notExclusive, ClassFilter.accepts]
  regexes := by simp [unfiltered.regexes]
  syllables := by simp [unfiltered.syllables]

theorem Query.IsUnfiltered.candidate? (unfiltered : query.IsUnfiltered) (index : Nat)
    (hasForm : entry.terms[form]? = some term) :
    query.candidate? table form index entry = some
      ⟨⟨table, index⟩, term.value, term.pronunciation?, entry.classes, entry.terms.length⟩ :=
  candidate?_eq_some_iff.mpr ⟨term, unfiltered.finds hasForm, rfl⟩

theorem Query.IsUnfiltered.candidatesFrom (unfiltered : query.IsUnfiltered) (table : String)
    (start : Nat) (haveForm : ∀ entry ∈ entries, ∃ term, entry.terms[form]? = some term) :
    (query.candidatesFrom table form start entries).length = entries.length ∧
      ∀ (index : Nat) (entry : Entry), entries[index]? = some entry →
        ∃ term, entry.terms[form]? = some term ∧
          (query.candidatesFrom table form start entries)[index]? =
            some ⟨⟨table, start + index⟩, term.value, term.pronunciation?, entry.classes,
              entry.terms.length⟩ := by
  induction entries generalizing start with
  | nil => exact ⟨rfl, nofun⟩
  | cons first entries inductionHypothesis =>
      obtain ⟨⟨term, hasForm⟩, others⟩ := List.forall_mem_cons.mp haveForm
      obtain ⟨length, each⟩ := inductionHypothesis (start + 1) others
      rw [Query.candidatesFrom, unfiltered.candidate? start hasForm]
      refine ⟨by simp [length], fun index entry here => ?_⟩
      cases index with
      | zero =>
          cases here
          exact ⟨term, hasForm, rfl⟩
      | succ index =>
          obtain ⟨term, hasForm, found⟩ := each index entry here
          have place : start + (index + 1) = start + 1 + index := by omega
          rw [place]
          exact ⟨term, hasForm, found⟩

theorem Query.IsUnfiltered.coversEntries (unfiltered : query.IsUnfiltered) (nonempty : entries ≠ [])
    (haveForm : ∀ entry ∈ entries, ∃ term, entry.terms[form]? = some term) :
    CoversEntries table form entries (query.candidatesFrom table form 0 entries) := by
  obtain ⟨length, each⟩ := unfiltered.candidatesFrom table 0 haveForm
  simp only [Nat.zero_add] at each
  refine ⟨length, each, ?_, ?_⟩
  · rw [List.nodup_iff_pairwise_ne, List.pairwise_map]
    exact ordered_candidatesFrom.imp fun before same => Nat.ne_of_lt before (congrArg _ same)
  · intro none
    rw [none] at length
    exact nonempty (List.eq_nil_of_length_eq_zero length.symm)

end Candidates

/-! ### Loaded dictionaries -/

namespace Dictionary

variable {dictionary : Dictionary} {name : String} {table : WordTable}

theorem mem_of_tableIn {tables : List (String × WordTable)}
    (found : tableIn name tables = some table) : (name, table) ∈ tables := by
  induction tables with
  | nil => cases found
  | cons head rest inductionHypothesis =>
      rw [tableIn] at found
      split at found
      · next same =>
          cases found
          rw [← same]
          exact List.mem_cons_self
      · exact List.mem_cons_of_mem _ (inductionHypothesis found)

/-- Every table has the name that queries ask for. -/
def HasOwnNames (dictionary : Dictionary) : Prop :=
  ∀ name table, dictionary.table? name = some table → table.name = name

theorem hasOwnNames_empty : empty.HasOwnNames := nofun

theorem HasOwnNames.insert {combine : WordTable → WordTable → WordTable}
    (own : dictionary.HasOwnNames) (named : table.name = name)
    (combined : ∀ present, present.name = name → (combine present table).name = name) :
    (dictionary.insert combine name table).HasOwnNames := by
  intro other found there
  rw [table?_insert] at there
  split at there
  · next same =>
      subst same
      cases present : dictionary.table? name with
      | none =>
          rw [present] at there
          cases there
          exact named
      | some first =>
          rw [present] at there
          cases there
          exact combined first (own name first present)
  · exact own other found there

theorem HasOwnNames.merge {second : Dictionary} (own : dictionary.HasOwnNames)
    (ownSecond : second.HasOwnNames) : (dictionary.merge second).HasOwnNames := by
  intro name table there
  rw [table?_merge] at there
  cases first : dictionary.table? name with
  | none =>
      rw [first, Option.merge_none_left] at there
      exact ownSecond name table there
  | some present =>
      have named := own name present first
      rw [first] at there
      cases added : second.table? name with
      | none =>
          rw [added] at there
          cases there
          exact named
      | some behind =>
          rw [added] at there
          cases there
          exact named

theorem hasOwnNames_ofTables {tables : List (String × WordTable)}
    (named : ∀ entry ∈ tables, entry.2.name = entry.1) : (ofTables tables).HasOwnNames := by
  -- Tables are inserted one by one, so the induction starts from any dictionary.
  have further (start : Dictionary) (own : start.HasOwnNames) :
      (tables.foldl (fun dictionary entry =>
        dictionary.insert (fun _ latest => latest) entry.1 entry.2) start).HasOwnNames := by
    induction tables generalizing start with
    | nil => exact own
    | cons head rest inductionHypothesis =>
        obtain ⟨headNamed, restNamed⟩ := List.forall_mem_cons.mp named
        exact inductionHypothesis restNamed _ (own.insert headNamed fun _ _ => headNamed)
  exact further empty hasOwnNames_empty

theorem forall_mem_of_mapM {ε α β : Type} {action : α → Except ε β} {holds : β → Prop}
    {inputs : List α} {outputs : List β}
    (each : ∀ input output, action input = .ok output → holds output)
    (mapped : inputs.mapM action = .ok outputs) : ∀ output ∈ outputs, holds output := by
  induction inputs generalizing outputs with
  | nil =>
      cases mapped
      exact nofun
  | cons input inputs inductionHypothesis =>
      rw [List.mapM_cons] at mapped
      obtain ⟨first, made, mapped⟩ := bind_eq_ok.mp mapped
      obtain ⟨others, madeOthers, same⟩ := bind_eq_ok.mp mapped
      cases same
      exact List.forall_mem_cons.mpr ⟨each input first made, inductionHypothesis madeOthers⟩

theorem hasOwnNames_parse {text : String} (parsed : parse text = .ok dictionary) :
    dictionary.HasOwnNames := by
  obtain ⟨written, -, parsed⟩ := bind_eq_ok.mp parsed
  obtain ⟨tables, made, same⟩ := bind_eq_ok.mp parsed
  cases same
  refine hasOwnNames_ofTables (forall_mem_of_mapM ?_ made)
  rintro ⟨name, writtenTable⟩ entry madeEntry
  obtain ⟨table, madeTable, same⟩ := bind_eq_ok.mp madeEntry
  cases same
  obtain ⟨entries, -, same⟩ := bind_eq_ok.mp madeTable
  cases same
  rfl

/-- The entries that a dictionary has under a name. -/
def entriesUnder (dictionary : Dictionary) (name : String) : List Entry :=
  (dictionary.table? name).elim [] WordTable.entries

theorem entriesUnder_merge (first second : Dictionary) (name : String) :
    (first.merge second).entriesUnder name =
      first.entriesUnder name ++ second.entriesUnder name := by
  unfold entriesUnder
  rw [table?_merge]
  cases first.table? name <;> cases second.table? name <;> simp [appendEntries]

end Dictionary

theorem parse_of_loadDictionary {text : String} {dictionary : Dictionary}
    (loaded : loadDictionary text = .ok dictionary) : Dictionary.parse text = .ok dictionary := by
  unfold loadDictionary at loaded
  split at loaded
  · next parsed =>
      cases loaded
      exact parsed
  · cases loaded
  · cases loaded

/-- Texts are loaded one by one, each dictionary behind those before it. -/
theorem exists_loaded {texts : List String} {start dictionary : Dictionary}
    (loaded : texts.foldlM (fun dictionary text => do
      return dictionary.merge (← loadDictionary text)) start = .ok dictionary) :
    ∃ parts, texts.mapM loadDictionary = .ok parts ∧
      parts.foldl Dictionary.merge start = dictionary := by
  induction texts generalizing start with
  | nil =>
      cases loaded
      exact ⟨[], rfl, rfl⟩
  | cons text texts inductionHypothesis =>
      rw [List.foldlM_cons] at loaded
      obtain ⟨merged, first, others⟩ := bind_eq_ok.mp loaded
      obtain ⟨part, loadedPart, same⟩ := bind_eq_ok.mp first
      cases same
      obtain ⟨parts, loadedParts, together⟩ := inductionHypothesis others
      refine ⟨part :: parts, ?_, together⟩
      rw [List.mapM_cons, loadedPart, loadedParts]
      rfl

namespace Dictionary

variable {dictionary : Dictionary} {name : String} {table : WordTable}

theorem hasOwnNames_foldl_merge {parts : List Dictionary} {start : Dictionary}
    (own : start.HasOwnNames) (ownParts : ∀ part ∈ parts, part.HasOwnNames) :
    (parts.foldl merge start).HasOwnNames := by
  induction parts generalizing start with
  | nil => exact own
  | cons part parts inductionHypothesis =>
      obtain ⟨ownPart, ownOthers⟩ := List.forall_mem_cons.mp ownParts
      exact inductionHypothesis (own.merge ownPart) ownOthers

theorem entriesUnder_foldl_merge (parts : List Dictionary) (start : Dictionary) (name : String) :
    (parts.foldl merge start).entriesUnder name =
      start.entriesUnder name ++ parts.flatMap fun part => part.entriesUnder name := by
  induction parts generalizing start with
  | nil => simp
  | cons part parts inductionHypothesis =>
      rw [List.foldl_cons, inductionHypothesis, entriesUnder_merge, List.append_assoc,
        List.flatMap_cons]

/-! ### Dictionaries without errors -/

theorem terms_of_termCountErrors {expected index : Nat} {entries : List Entry}
    (clean : Tools.termCountErrors name expected index entries = []) :
    ∀ entry ∈ entries, entry.terms.length = expected := by
  induction entries generalizing index with
  | nil => exact nofun
  | cons entry entries inductionHypothesis =>
      rw [Tools.termCountErrors] at clean
      dsimp only at clean
      split at clean
      · next count => exact List.forall_mem_cons.mpr ⟨count, inductionHypothesis clean⟩
      · cases clean

/-- A table without errors has entries, and each of them has every form. -/
theorem forms_of_tableErrors (clean : Tools.tableErrors name table = []) :
    table.entries ≠ [] ∧ ∀ subtype? form, table.Selects subtype? form →
      ∀ entry ∈ table.entries, ∃ term, entry.terms[form]? = some term := by
  obtain ⟨-, contents⟩ := List.append_eq_nil_iff.mp clean
  split at contents
  · cases contents
  · next nonempty =>
      refine ⟨fun none => nonempty (List.isEmpty_iff.mpr none), ?_⟩
      intro subtype? form selects entry member
      have count := terms_of_termCountErrors contents entry member
      exact ⟨_, List.getElem?_eq_getElem (count ▸ selects.lt)⟩

/-- A table can be looked up in each of its forms; without filters, a look-up has a candidate for
each of its entries, and no query without filters is left without a match. -/
structure AnswersInFull (dictionary : Dictionary) (name : String) (table : WordTable) : Prop where
  declared : ∀ subtype ∈ table.subtypes, ∃ form, table.Selects (some subtype) form
  accepted : ∀ query : Query, query.table = name →
    ((∃ pool, dictionary.lookup query = .ok pool) ↔ ∃ form, table.Selects query.subtype? form)
  covered : ∀ query : Query, query.table = name → query.IsUnfiltered →
    ∀ form, table.Selects query.subtype? form →
      ∃ pool, dictionary.lookup query = .ok pool ∧ CoversEntries name form table.entries pool
  matched : ∀ query : Query, query.table = name → query.IsUnfiltered →
    ∀ {σ : Type} [IndexSource σ] (history : CarrierHistory) (rules : CarrierRules) (source : σ)
      (other : String),
      history.resolve dictionary.lexicon rules query source ≠ .error (.noMatch other)

/-- Only a query that finds nothing is left without a match. -/
theorem resolve_ne_noMatch {lexicon : Lexicon} {query : Query}
    (nonempty : ∀ pool, lexicon.lookup query = .ok pool → pool ≠ []) {σ : Type} [IndexSource σ]
    (history : CarrierHistory) (rules : CarrierRules) (source : σ) (other : String) :
    history.resolve lexicon rules query source ≠ .error (.noMatch other) := by
  intro failed
  unfold CarrierHistory.resolve at failed
  cases looked : lexicon.lookup query with
  | error fault =>
      rw [looked] at failed
      cases failed
  | ok pool =>
      rw [looked] at failed
      rcases CarrierHistory.select_eq_error_iff.mp failed with ⟨none, -⟩ | ⟨-, _, -, same⟩
      · exact nonempty pool looked none
      · cases same

theorem answersInFull (own : dictionary.HasOwnNames)
    (clean : Tools.dictionaryErrors dictionary = [])
    (found : dictionary.table? name = some table) : dictionary.AnswersInFull name table := by
  have named := own name table found
  obtain ⟨nonempty, haveForms⟩ := forms_of_tableErrors
    (List.flatMap_eq_nil_iff.mp clean (name, table) (mem_of_tableIn found))
  have looked (query : Query) (asks : query.table = name) : dictionary.lookup query =
      (table.formIndex query.subtype?).map fun form =>
        query.candidatesFrom name form 0 table.entries := by
    rw [lookup_of_table? (asks ▸ found), named]
  have covered (query : Query) (asks : query.table = name) (unfiltered : query.IsUnfiltered)
      (form : Nat) (selects : table.Selects query.subtype? form) :
      ∃ pool, dictionary.lookup query = .ok pool ∧
        CoversEntries name form table.entries pool := by
    refine ⟨_, ?_, unfiltered.coversEntries nonempty (haveForms _ form selects)⟩
    rw [looked query asks, WordTable.formIndex_eq_ok_iff.mpr selects]
    rfl
  have accepted (query : Query) (asks : query.table = name) :
      (∃ pool, dictionary.lookup query = .ok pool) ↔ ∃ form, table.Selects query.subtype? form := by
    rw [looked query asks]
    simp only [Machine.map_eq_ok, WordTable.formIndex_eq_ok_iff]
    grind
  refine ⟨fun _ => WordTable.exists_selects, accepted, covered, ?_⟩
  intro query asks unfiltered _ _
  apply resolve_ne_noMatch
  intro pool lookedUp
  obtain ⟨form, selects⟩ := (accepted query asks).mp ⟨pool, lookedUp⟩
  obtain ⟨other, same, covers⟩ := covered query asks unfiltered form selects
  cases lookedUp.symm.trans same
  exact covers.nonempty

/-- Dictionaries are loaded one after the other, and the linter finds no error in what they come to.
Then every table has all entries that were loaded for it, and look-ups leave none of them out. -/
theorem clean_answers_in_full {texts : List String}
    (loaded : loadDictionaries texts = .ok dictionary)
    (clean : Tools.dictionaryErrors dictionary = []) :
    ∃ parts, texts.mapM loadDictionary = .ok parts ∧
      ∀ name table, dictionary.table? name = some table →
        table.entries = parts.flatMap (fun part => part.entriesUnder name) ∧
          dictionary.AnswersInFull name table := by
  obtain ⟨parts, loadedParts, rfl⟩ := exists_loaded loaded
  have ownParts : ∀ part ∈ parts, part.HasOwnNames :=
    forall_mem_of_mapM (fun _ _ part => hasOwnNames_parse (parse_of_loadDictionary part))
      loadedParts
  refine ⟨parts, loadedParts, fun name table found => ⟨?_, ?_⟩⟩
  · have entries := entriesUnder_foldl_merge parts .empty name
    rwa [entriesUnder, found] at entries
  · exact answersInFull (hasOwnNames_foldl_merge hasOwnNames_empty ownParts) clean found

/-! ### Words that were written with forms and without

The second text declares no forms for its nouns, but writes one term more than it would need. -/

namespace MixedForms

def nounText : String :=
  "\x7b\"noun\":(subtypes:[\"singular\",\"plural\"],entries:[(terms:[\"cat\",\"cats\"])])\x7d"

def furtherText : String :=
  "\x7b\"inn\":(entries:[(terms:[\"Crown\"])])," ++
    "\"noun\":(entries:[(terms:[\"ox\",\"oxen\"])])\x7d"

def writtenNoun (terms : List String) : WrittenEntry :=
  ⟨terms, [], [], []⟩

def noun (terms : List String) : Entry :=
  (writtenNoun terms).toEntry

def nouns : Dictionary :=
  ofTables [("noun", ⟨"noun", ["singular", "plural"], [noun ["cat", "cats"]]⟩)]

def further : Dictionary :=
  ofTables [("inn", ⟨"inn", [], [noun ["Crown"]]⟩), ("noun", ⟨"noun", [], [noun ["ox", "oxen"]]⟩)]

theorem parse_of_ordered {text : String} (written : List (String × WrittenTable))
    {tables : List (String × WordTable)} (read : readTables text = .ok written)
    (ordered : (lastOfEach written).Pairwise fun first second => decide (first.1 ≤ second.1))
    (made : (lastOfEach written).mapM (fun ((name, table) : String × WrittenTable) => do
      return (name, ← table.toTable name)) = .ok tables) : parse text = .ok (ofTables tables) := by
  rw [parse, read]
  show (do
    let tables ← (sortTables (lastOfEach written)).mapM
      fun ((name, table) : String × WrittenTable) => do return (name, ← table.toTable name)
    return ofTables tables) = _
  rw [sortTables, List.mergeSort_of_pairwise ordered, made]
  rfl

theorem loadDictionaries_texts :
    loadDictionaries [nounText, furtherText] = .ok (nouns.merge further) := by
  have first : parse nounText = .ok nouns :=
    parse_of_ordered
      [("noun", ⟨["singular", "plural"], [writtenNoun ["cat", "cats"]]⟩)]
      (by decide +kernel) (by decide) rfl
  have second : parse furtherText = .ok further :=
    parse_of_ordered [("inn", ⟨[], [writtenNoun ["Crown"]]⟩),
      ("noun", ⟨[], [writtenNoun ["ox", "oxen"]]⟩)] (by decide +kernel) (by decide +kernel) rfl
  simp only [loadDictionaries, List.foldlM_cons, loadDictionary, first, second]
  rfl

theorem answers_in_full_nouns :
    loadDictionaries [nounText, furtherText] = .ok (nouns.merge further) ∧
      Tools.dictionaryErrors (nouns.merge further) = [] ∧
      ∃ parts, [nounText, furtherText].mapM loadDictionary = .ok parts ∧
        ∀ name table, (nouns.merge further).table? name = some table →
          table.entries = parts.flatMap (fun part => part.entriesUnder name) ∧
            (nouns.merge further).AnswersInFull name table :=
  have clean : Tools.dictionaryErrors (nouns.merge further) = [] := by decide +kernel
  ⟨loadDictionaries_texts, clean, clean_answers_in_full loadDictionaries_texts clean⟩

end MixedForms

end Dictionary

end SeededText.Vocabulary
