import SeededText.Proofs.WritePaths

/-!
Contract: to write is the same as to write apart and merge.

A new sink records what is written to it. Its capitalizer changes nothing, and texts that follow
each other are joined. A joined text is written like its parts one after the other, since a
capitalizer only carries on from character to character. So it does not matter to a sink whether
something is written to it, or to a new sink that it then takes over.

Owns: texts written in parts, what a new sink records, merging a new sink.
Does not own: which channels a write changes (`SeededText.Proofs.WritePaths`), what a capitalizer
does to a text (`SeededText.Output.Capitalization`).
-/

namespace SeededText.Output

/-! ### Texts in parts -/

namespace Channel

variable {channel record : Channel}

/-- Text is put to a text at the end, or else comes behind the segments. -/
theorem appendText_cases (segments : Array Segment) :
    (∃ (before : Array Segment) (content : String), segments = before.push (.text content) ∧
      ∀ text, appendText segments text = before.push (.text (content ++ text))) ∨
    ∀ text, appendText segments text = segments.push (.text text) := by
  unfold appendText
  split
  · next content last =>
      obtain ⟨before, rfl⟩ := Array.back?_eq_some_iff.mp last
      exact .inl ⟨before, content, rfl, fun text => by rw [Array.pop_push]⟩
  · exact .inr fun _ => rfl

theorem appendText_appendText (segments : Array Segment) (first second : String) :
    appendText (appendText segments first) second = appendText segments (first ++ second) := by
  have joins (before : Array Segment) (content text : String) :
      appendText (before.push (.text content)) text = before.push (.text (content ++ text)) := by
    simp [appendText]
  obtain ⟨before, content, -, appends⟩ | appends := appendText_cases segments
  · rw [appends, appends, joins, String.append_assoc]
  · rw [appends, appends, joins]

/-- A text may be written in two parts. -/
theorem write_write (channel : Channel) (first second : String) :
    (channel.write first).write second = channel.write (first ++ second) := by
  simp only [write, String.toList_append, Capitalizer.apply_append, appendText_appendText,
    List.length_append, Nat.add_assoc, String.ofList_append]

theorem replay_replay (channel : Channel) (first second : String) :
    (channel.replay (.text first)).replay (.text second) =
      channel.replay (.text (first ++ second)) := by
  by_cases noFirst : first = ""
  · simp [replay, noFirst]
  · by_cases noSecond : second = ""
    · simp [replay, noSecond]
    · simp [replay, noFirst, noSecond, write_write]

/-! ### Records -/

/-- What the channel holds are the writes to it, so that they can be repeated elsewhere. -/
structure Records (record : Channel) (writes : List Segment) : Prop where
  plain : record.capitalizer.mode = .asWritten
  repeats : ∀ channel : Channel,
    record.segments.foldl replay channel = writes.foldl replay channel

/-- Text at the end of segments is written behind them. -/
theorem foldl_appendText (segments : Array Segment) (text : String) :
    (appendText segments text).foldl replay channel =
      (segments.foldl replay channel).replay (.text text) := by
  obtain ⟨before, content, rfl, appends⟩ | appends := appendText_cases segments
  · rw [appends, Array.foldl_push, Array.foldl_push, replay_replay]
  · rw [appends, Array.foldl_push]

theorem records_fresh (name : String) (visibility : Visibility) :
    (fresh name visibility).Records [] :=
  ⟨rfl, fun _ => rfl⟩

/-- One more write is recorded. -/
theorem Records.replay {writes : List Segment} (records : record.Records writes)
    (segment : Segment) : (record.replay segment).Records (writes ++ [segment]) := by
  cases segment with
  | target name =>
      refine ⟨records.plain, fun channel => ?_⟩
      rw [List.foldl_append, ← records.repeats channel]
      exact Array.foldl_push
  | text content =>
      by_cases empty : content = ""
      · subst empty
        refine ⟨records.plain, fun channel => ?_⟩
        rw [List.foldl_append, ← records.repeats channel]
        rfl
      · obtain ⟨image, mode⟩ := Capitalizer.apply_asWritten records.plain content.toList
        have written : record.replay (.text content) = record.write content := by
          simp [Channel.replay, empty]
        have segments : (record.write content).segments = appendText record.segments content := by
          simp only [write, image, String.ofList_toList]
        rw [written]
        refine ⟨mode, fun channel => ?_⟩
        rw [segments, foldl_appendText, List.foldl_append, records.repeats channel]
        rfl

theorem Records.foldl {writes : List Segment} (records : record.Records writes)
    (segments : List Segment) :
    (segments.foldl Channel.replay record).Records (writes ++ segments) := by
  induction segments generalizing record writes with
  | nil => rwa [List.append_nil]
  | cons segment segments inductionHypothesis =>
      have further := inductionHypothesis (records.replay segment)
      rwa [List.append_assoc] at further

end Channel

namespace Sink

/-! ### Merging a new sink -/

/-- The operation writes a text or places a target. -/
def Operation.IsWriting : Operation → Prop
  | .write _ | .placeTarget _ => True
  | _ => False

theorem exists_segments {operations : List Operation}
    (writing : ∀ operation ∈ operations, operation.IsWriting) :
    ∃ segments : List Segment, ∀ sink : Sink,
      sink.applyAll operations = segments.foldl replay sink := by
  induction operations with
  | nil => exact ⟨[], fun _ => rfl⟩
  | cons operation operations inductionHypothesis =>
      obtain ⟨first, others⟩ := List.forall_mem_cons.mp writing
      obtain ⟨segments, same⟩ := inductionHypothesis others
      cases operation with
      | write text => exact ⟨.text text :: segments, fun sink => same (sink.write text)⟩
      | placeTarget target =>
          exact ⟨.target target :: segments, fun sink => same (sink.placeTarget target)⟩
      | push | pop | setCapitalization | merge => exact first.elim

/-- A new sink holds but the record of what is written to it. -/
theorem foldl_replay_fresh (segments : List Segment) :
    segments.foldl replay fresh =
      ⟨#[segments.foldl Channel.replay (.fresh mainChannel .shared)], [0]⟩ := by
  rw [foldl_replay]
  rfl

theorem mergeInto_foldl_replay (parent : Sink) (segments : List Segment) :
    (segments.foldl replay fresh).mergeInto parent = segments.foldl replay parent := by
  have records := (Channel.records_fresh mainChannel .shared).foldl segments
  have taken : (segments.foldl replay fresh).replayMain parent = segments.foldl replay parent := by
    rw [foldl_replay_fresh, replayMain_eq, foldl_replay]
    exact congrArg parent.onPath (funext records.repeats)
  rw [mergeInto_eq, taken, foldl_replay_fresh]
  rfl

theorem write_write (sink : Sink) (first second : String) :
    (sink.write first).write second = sink.write (first ++ second) := by
  simp only [write_eq_replay, replay_eq, onPath_onPath (keepsVisibility_replay _)]
  exact congrArg sink.onPath (funext fun channel => channel.replay_replay first second)

/-- Texts and targets that are written to a new sink, which is then merged into another, leave that
one as if they had been written to it: whatever is open there and however it capitalizes, all its
channels are the same, with their texts and places of targets, their counts and their capitalizers.
It makes no difference either how a text is cut into parts that are written one by one. -/
theorem merging_is_writing (parent : Sink) {operations : List Operation}
    (writing : ∀ operation ∈ operations, operation.IsWriting) :
    (fresh.applyAll operations).mergeInto parent = parent.applyAll operations ∧
      ∀ texts : List String,
        parent.applyAll (texts.map .write) = parent.write (String.join texts) := by
  constructor
  · obtain ⟨segments, same⟩ := exists_segments writing
    rw [same, same, mergeInto_foldl_replay]
  · intro texts
    induction texts generalizing parent with
    | nil => simp [applyAll, write]
    | cons text texts inductionHypothesis =>
        rw [String.join_cons, ← write_write]
        exact inductionHypothesis (parent.write text)

/-! ### A parent with two channels, one of which capitalizes words -/

namespace WordsApart

def parent : Sink :=
  (fresh.push "echo" .shared).setCapitalization .word

/-- A word and the blanks around it are cut, once by the place of a target. -/
def operations : List Operation :=
  [.write "the ", .write "old m", .write "an's", .placeTarget "here", .write " boat"]

theorem isWriting_operations : ∀ operation ∈ operations, operation.IsWriting := by
  simp [operations, Operation.IsWriting]

theorem merge_operations :
    (∀ operation ∈ operations, operation.IsWriting) ∧
      (fresh.applyAll operations).mergeInto parent = parent.applyAll operations :=
  ⟨isWriting_operations, (merging_is_writing parent isWriting_operations).1⟩

example : (fresh.applyAll operations).channels.map Channel.segments =
    #[#[.text "the old man's", .target "here", .text " boat"]] := by cbv

end WordsApart

end Sink

end SeededText.Output
