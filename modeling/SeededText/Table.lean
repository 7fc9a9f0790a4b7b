/-!
Contract: finite maps in order of first insertion.

Owns: look-up, insertion, and their law: looking up after an insertion.
Does not own: maps whose order has a meaning of its own (`SeededText.Vocabulary.Dictionary`).
-/

namespace SeededText

/-- Pairs of keys and values; of several pairs with one key the first counts. -/
structure Table (κ α : Type) where
  entries : List (κ × α)
deriving Repr

namespace Table

variable {κ α : Type} [DecidableEq κ]

def empty : Table κ α := ⟨[]⟩

instance : Inhabited (Table κ α) := ⟨⟨[]⟩⟩

def findIn (key : κ) : List (κ × α) → Option α
  | [] => none
  | (other, value) :: rest => if other = key then some value else findIn key rest

/-- Value of a key. -/
def find? (table : Table κ α) (key : κ) : Option α :=
  findIn key table.entries

def insertIn (key : κ) (value : α) : List (κ × α) → List (κ × α)
  | [] => [(key, value)]
  | (other, previous) :: rest =>
      if other = key then (key, value) :: rest else (other, previous) :: insertIn key value rest

/-- The table with a value for `key`; a new key goes to the end. -/
def insert (table : Table κ α) (key : κ) (value : α) : Table κ α :=
  ⟨insertIn key value table.entries⟩

/-- The value of `key`, or a value to start from. -/
def findD (table : Table κ α) (key : κ) (initial : α) : α :=
  (table.find? key).getD initial

/-- Keeps a value that `key` has already. -/
def insertIfNew (table : Table κ α) (key : κ) (value : α) : Table κ α :=
  if (table.find? key).isSome then table else table.insert key value

def size (table : Table κ α) : Nat :=
  table.entries.length

omit [DecidableEq κ] in
@[simp] theorem entries_empty : (empty : Table κ α).entries = [] := rfl

@[simp] theorem find?_empty (key : κ) : (empty : Table κ α).find? key = none := rfl

theorem findIn_insertIn (key other : κ) (value : α) (entries : List (κ × α)) :
    findIn other (insertIn key value entries) =
      if key = other then some value else findIn other entries := by
  induction entries with
  | nil => simp [insertIn, findIn]
  | cons head tail inductionHypothesis =>
      obtain ⟨present, previous⟩ := head
      by_cases same : present = key
      · subst same
        by_cases sought : present = other <;> simp [insertIn, findIn, sought]
      · by_cases sought : present = other
        · subst sought
          simp [insertIn, findIn, same, Ne.symm same]
        · simp [insertIn, findIn, same, sought, inductionHypothesis]

theorem find?_insert (table : Table κ α) (key other : κ) (value : α) :
    (table.insert key value).find? other =
      if key = other then some value else table.find? other :=
  findIn_insertIn key other value table.entries

theorem find?_insertIfNew (table : Table κ α) (key other : κ) (value : α) :
    (table.insertIfNew key value).find? other =
      (table.find? other).or (if key = other then some value else none) := by
  unfold insertIfNew
  split
  · next known =>
      by_cases same : key = other
      · subst same
        obtain ⟨present, found⟩ := Option.isSome_iff_exists.mp known
        simp [found]
      · simp [same]
  · next unknown =>
      rw [find?_insert]
      by_cases same : key = other
      · subst same
        simp only [Option.not_isSome_iff_eq_none] at unknown
        simp [unknown]
      · simp [same]

theorem mem_of_findIn {key : κ} {value : α} {entries : List (κ × α)}
    (found : findIn key entries = some value) : (key, value) ∈ entries := by
  induction entries with
  | nil => cases found
  | cons head tail inductionHypothesis =>
      obtain ⟨other, previous⟩ := head
      simp only [findIn] at found
      split at found
      · next same =>
          cases found
          exact same ▸ List.mem_cons_self
      · exact List.mem_cons_of_mem _ (inductionHypothesis found)

theorem mem_entries_of_find? {table : Table κ α} {key : κ} {value : α}
    (found : table.find? key = some value) : (key, value) ∈ table.entries :=
  mem_of_findIn found

theorem insertIn_subset (key : κ) (value : α) (entries : List (κ × α)) :
    insertIn key value entries ⊆ (key, value) :: entries := by
  induction entries with
  | nil => exact List.Subset.refl _
  | cons head tail inductionHypothesis =>
      simp only [insertIn]
      split
      · exact List.cons_subset_cons _ (List.subset_cons_self _ _)
      · intro entry member
        rcases List.mem_cons.mp member with same | later
        · exact List.mem_cons_of_mem _ (same ▸ List.mem_cons_self)
        · have inside := inductionHypothesis later
          simp only [List.mem_cons] at inside ⊢
          exact inside.imp_right .inr

theorem entries_insert_subset (table : Table κ α) (key : κ) (value : α) :
    (table.insert key value).entries ⊆ (key, value) :: table.entries :=
  insertIn_subset key value table.entries

end Table

end SeededText
