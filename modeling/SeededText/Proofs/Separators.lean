import SeededText.Text.Unicode.Classes

/-!
Contract: where the separators of a text stand.

Pieces that begin and end with characters of a class, joined by a separator that none of them
contains, are a text in which every separator stands between two characters of the class: none is
at an end of the text, and no two stand beside each other.

Owns: separators between characters of a class, joined pieces.
Does not own: which pieces a text is joined from.
-/

namespace SeededText.Text

variable {isEdge : Char → Bool} {separator : Char} {first text : List Char}

/-- Wherever the separator stands, a character of the class is right before it and another right
behind it. -/
def StandsBetween (isEdge : Char → Bool) (separator : Char) (text : List Char) : Prop :=
  ∀ before after, text = before ++ separator :: after →
    before.getLast?.any isEdge ∧ after.head?.any isEdge

/-- The piece begins and ends with characters of the class, and has no separator in it. -/
def isSolid (isEdge : Char → Bool) (separator : Char) (piece : List Char) : Bool :=
  !piece.contains separator && piece.head?.any isEdge && piece.getLast?.any isEdge

theorem isSolid_iff {piece : List Char} :
    isSolid isEdge separator piece = true ↔
      separator ∉ piece ∧ piece.head?.any isEdge ∧ piece.getLast?.any isEdge := by
  simp [isSolid, and_assoc]

theorem standsBetween_of_notMem (free : separator ∉ text) :
    StandsBetween isEdge separator text := by
  rintro before after rfl
  simp at free

/-- What a text ends with does not hang on what stands in front. -/
theorem any_getLast?_append {front back : List Char} (ends : back.getLast?.any isEdge) :
    (front ++ back).getLast?.any isEdge := by
  rw [List.getLast?_append]
  cases last : back.getLast? with
  | none => simp [last] at ends
  | some character => simpa [last] using ends

/-- Characters other than the separator may stand in front. -/
theorem StandsBetween.behind {front : List Char} (others : StandsBetween isEdge separator text)
    (free : separator ∉ front) : StandsBetween isEdge separator (front ++ text) := by
  intro before after cut
  rcases List.append_eq_append_iff.mp cut with ⟨inside, rfl, rest⟩ | ⟨inside, rfl, rest⟩
  · obtain ⟨last, next⟩ := others inside after rest
    exact ⟨any_getLast?_append last, next⟩
  · cases inside with
    | nil =>
        obtain ⟨last, -⟩ := others [] after (by simpa using rest.symm)
        simp at last
    | cons character inside =>
        obtain ⟨rfl, -⟩ := List.cons.inj rest
        simp at free

/-- A solid piece may be joined in front of a text that begins with a character of the class. -/
theorem StandsBetween.join (others : StandsBetween isEdge separator text)
    (solid : isSolid isEdge separator first = true) (begins : text.head?.any isEdge) :
    StandsBetween isEdge separator (first ++ separator :: text) := by
  obtain ⟨free, -, ends⟩ := isSolid_iff.mp solid
  intro before after cut
  rcases List.append_eq_append_iff.mp cut with ⟨inside, rfl, rest⟩ | ⟨inside, rfl, rest⟩
  · cases inside with
    | nil =>
        obtain rfl := (List.cons.inj rest).2
        exact ⟨by simpa using ends, begins⟩
    | cons character inside =>
        -- The separator is one of those behind the first piece.
        obtain ⟨last, next⟩ := others inside after (List.cons.inj rest).2
        have further : ([character] ++ inside).getLast?.any isEdge := any_getLast?_append last
        exact ⟨any_getLast?_append further, next⟩
  · cases inside with
    | nil =>
        obtain rfl := (List.cons.inj rest).2
        exact ⟨by simpa using ends, begins⟩
    | cons character inside =>
        -- The separator would be in the first piece.
        obtain ⟨rfl, -⟩ := List.cons.inj rest
        simp at free

theorem head?_intercalate {pieces : List (List Char)}
    (solid : ∀ piece ∈ first :: pieces, isSolid isEdge separator piece = true) :
    ([separator].intercalate (first :: pieces)).head?.any isEdge := by
  obtain ⟨-, begins, -⟩ := isSolid_iff.mp (solid first List.mem_cons_self)
  cases first with
  | nil => simp at begins
  | cons character rest => cases pieces <;> simpa using begins

/-- In a text of solid pieces each separator stands between two of them. -/
theorem standsBetween_intercalate {pieces : List (List Char)}
    (solid : ∀ piece ∈ pieces, isSolid isEdge separator piece = true) :
    StandsBetween isEdge separator ([separator].intercalate pieces) := by
  induction pieces with
  | nil => exact standsBetween_of_notMem List.not_mem_nil
  | cons first pieces inductionHypothesis =>
      obtain ⟨firstSolid, others⟩ := List.forall_mem_cons.mp solid
      cases pieces with
      | nil =>
          rw [List.intercalate_singleton]
          exact standsBetween_of_notMem (isSolid_iff.mp firstSolid).1
      | cons second pieces =>
          rw [List.intercalate_cons_cons, List.append_assoc, List.singleton_append]
          exact (inductionHypothesis others).join firstSolid (head?_intercalate others)

end SeededText.Text
