import SeededText.Proofs.ChannelScopes
import SeededText.Proofs.Growth

/-!
Contract: which channels a write changes.

A write goes down the stack to the first slot whose channel is not shared. Every channel with a slot
on that way is written to once, however many slots it has there; all others stay as they are. The
way does not depend on what is written, so a list of writes changes each channel by itself.

Owns: the way of a write, what writes and the main channel of another sink do to each channel.
Does not own: what operations make of stack and visibilities (`SeededText.Proofs.ChannelScopes`),
the content of channels (`SeededText.Proofs.Growth`).
-/

namespace SeededText.Output

/-! ### What is written to a channel -/

/-- Writes a text, if it is not empty, or places a target. -/
def Channel.replay (channel : Channel) : Segment → Channel
  | .text content => if content.isEmpty then channel else channel.write content
  | .target name => channel.placeTarget name

/-- A channel has got a text: behind what it held there stands, once, what its capitalizer makes of
the text, and as many characters have been counted. -/
structure Channel.Gets (channel : Channel) (text : String) (later : Channel) : Prop where
  content : later.content =
    channel.content ++ (channel.capitalizer.apply text.toList).1.map .character
  written : later.written =
    channel.written + (channel.capitalizer.apply text.toList).1.length
  capitalizer : later.capitalizer = (channel.capitalizer.apply text.toList).2

/-- A channel has got the place of a target, and nothing else has changed. -/
structure Channel.Marks (channel : Channel) (target : String) (later : Channel) : Prop where
  content : later.content = channel.content ++ [.target target]
  written : later.written = channel.written
  capitalizer : later.capitalizer = channel.capitalizer

theorem Channel.gets_write (channel : Channel) (text : String) :
    channel.Gets text (channel.write text) where
  content := by
    simp only [write, Channel.content]
    rw [contentOf_appendText, String.toList_ofList]
  written := rfl
  capitalizer := rfl

theorem Channel.marks_placeTarget (channel : Channel) (target : String) :
    channel.Marks target (channel.placeTarget target) where
  content := contentOf_push _
  written := rfl
  capitalizer := rfl

namespace Sink

/-- The main channel of `child` written to `parent`. -/
def replayMain (child parent : Sink) : Sink :=
  (child.channels.getD 0 default).segments.foldl replay parent

/-- Taking over a sink is writing its main channel, and then appending the other channels. -/
theorem mergeInto_eq (child parent : Sink) :
    child.mergeInto parent =
      (child.channels.toList.drop 1).foldl absorb (child.replayMain parent) := rfl

/-! ### Slots

They are counted from the top of the stack. -/

/-- The channel at a slot is shared. -/
def IsShared (sink : Sink) (slot : Nat) : Prop :=
  ∀ index, sink.stack[slot]? = some index →
    (sink.channels.getD index default).visibility = .shared

/-- The channel at a slot is not shared, so that writes go no further. -/
def IsBarrier (sink : Sink) (slot : Nat) : Prop :=
  ∃ index channel, sink.stack[slot]? = some index ∧ sink.channels[index]? = some channel ∧
    channel.visibility ≠ .shared

/-- All slots of a channel, if it has any, lie beneath the given one. -/
def LiesBeneath (sink : Sink) (index slot : Nat) : Prop :=
  ∀ other, sink.stack[other]? = some index → slot < other

/-- A slot of the channel has no barrier above it. -/
def IsInReach (sink : Sink) (index : Nat) : Prop :=
  ∃ slot, sink.stack[slot]? = some index ∧ ∀ above < slot, ¬ sink.IsBarrier above

/-- Nothing that is written to the sink changes anything of the channel. -/
structure Spares (sink : Sink) (index : Nat) : Prop where
  write : ∀ text, (sink.write text).channels[index]? = sink.channels[index]?
  placeTarget : ∀ target, (sink.placeTarget target).channels[index]? = sink.channels[index]?
  replayMain : ∀ child : Sink, (child.replayMain sink).channels[index]? = sink.channels[index]?

/-- All that is written to the sink is written to the channel, once. -/
structure Receives (sink : Sink) (index : Nat) (channel : Channel) : Prop where
  found : sink.channels[index]? = some channel
  write : ∀ text, text ≠ "" → (sink.write text).channels[index]? = some (channel.write text)
  gets : ∀ text, channel.Gets text (channel.write text)
  placeTarget : ∀ target,
    (sink.placeTarget target).channels[index]? = some (channel.placeTarget target)
  marks : ∀ target, channel.Marks target (channel.placeTarget target)
  replayMain : ∀ child : Sink, (child.replayMain sink).channels[index]? =
    some ((child.channels.getD 0 default).segments.foldl Channel.replay channel)

/-! ### The way of a write -/

section Paths

variable {sink : Sink} {channels others : Array Channel} {stack reached : List Nat} {index : Nat}

/-- What is reached has been reached before, or has a slot above which all channels are shared. -/
theorem mem_pathFrom :
    index ∈ pathFrom channels stack reached ↔ index ∈ reached ∨
      ∃ slot : Nat, stack[slot]? = some index ∧ ∀ above < slot, ∀ other : Nat,
        stack[above]? = some other → (channels.getD other default).visibility = .shared := by
  induction stack generalizing reached with
  | nil => simp [pathFrom]
  | cons top beneath inductionHypothesis =>
      have known : index ∈ (if reached.contains top then reached else top :: reached) ↔
          index ∈ reached ∨ index = top := by
        split
        · next seen =>
            have before : top ∈ reached := List.contains_iff_mem.mp seen
            exact ⟨.inl, fun either => either.elim id (· ▸ before)⟩
        · rw [List.mem_cons, or_comm]
      rw [pathFrom]
      split
      · next shared =>
          rw [inductionHypothesis, known, or_assoc]
          refine or_congr_right ⟨?_, ?_⟩
          · rintro (rfl | ⟨slot, found, sharedAbove⟩)
            · exact ⟨0, rfl, fun above lower => absurd lower (Nat.not_lt_zero above)⟩
            · refine ⟨slot + 1, found, fun above lower other at_ => ?_⟩
              cases above with
              | zero => exact Option.some.inj at_ ▸ shared
              | succ above => exact sharedAbove above (by omega) other at_
          · rintro ⟨slot, found, sharedAbove⟩
            cases slot with
            | zero => exact .inl (Option.some.inj found).symm
            | succ slot =>
                exact .inr ⟨slot, found, fun above lower => sharedAbove (above + 1) (by omega)⟩
      · next notShared =>
          rw [List.mem_reverse, known]
          refine or_congr_right ⟨?_, ?_⟩
          · rintro rfl
            exact ⟨0, rfl, fun above lower => absurd lower (Nat.not_lt_zero above)⟩
          · rintro ⟨slot, found, sharedAbove⟩
            cases slot with
            | zero => exact (Option.some.inj found).symm
            | succ slot => exact absurd (sharedAbove 0 (by omega) top rfl) notShared

theorem nodup_pathFrom (distinct : reached.Nodup) : (pathFrom channels stack reached).Nodup := by
  induction stack generalizing reached with
  | nil => exact List.nodup_reverse.mpr distinct
  | cons top beneath inductionHypothesis =>
      have further : (if reached.contains top then reached else top :: reached).Nodup := by
        split
        · exact distinct
        · next unseen =>
            exact List.nodup_cons.mpr ⟨mt List.contains_iff_mem.mpr unseen, distinct⟩
      rw [pathFrom]
      split
      · exact inductionHypothesis further
      · exact List.nodup_reverse.mpr further

theorem pathFrom_congr (same : ∀ index, (others.getD index default).visibility =
    (channels.getD index default).visibility) :
    pathFrom others stack reached = pathFrom channels stack reached := by
  induction stack generalizing reached with
  | nil => rfl
  | cons top beneath inductionHypothesis =>
      rw [pathFrom, pathFrom, same]
      split
      · exact inductionHypothesis
      · rfl

theorem mem_writePath :
    index ∈ sink.writePath ↔ ∃ slot, sink.stack[slot]? = some index ∧
      ∀ above < slot, sink.IsShared above := by
  rw [writePath, mem_pathFrom]
  simp [IsShared]

theorem nodup_writePath (sink : Sink) : sink.writePath.Nodup :=
  nodup_pathFrom List.nodup_nil

/-- A slot is a barrier, or its channel is shared. -/
theorem Reachable.isShared_iff (reachable : sink.Reachable) (slot : Nat) :
    sink.IsShared slot ↔ ¬ sink.IsBarrier slot := by
  have visibility {index : Nat} {channel : Channel} (found : sink.channels[index]? = some channel) :
      (sink.channels.getD index default).visibility = channel.visibility := by
    rw [Array.getD_eq_getD_getElem?, found]
    rfl
  constructor
  · rintro shared ⟨index, channel, onStack, found, notShared⟩
    exact notShared (visibility found ▸ shared index onStack)
  · intro free index onStack
    obtain ⟨channel, found⟩ := reachable.formed.exists_channel (List.mem_of_getElem? onStack)
    rw [visibility found]
    exact Classical.byContradiction fun notShared =>
      free ⟨index, channel, onStack, found, notShared⟩

end Paths

/-! ### Changes along the way -/

section Changes

variable {sink : Sink} {change next : Channel → Channel} {index : Nat}

/-- A change that leaves alone where writes go. -/
def KeepsVisibility (change : Channel → Channel) : Prop :=
  ∀ channel, (change channel).visibility = channel.visibility

/-- Each channel on the way is changed once. -/
theorem getElem?_onPath (sink : Sink) (change : Channel → Channel) (index : Nat) :
    (sink.onPath change).channels[index]? =
      if index ∈ sink.writePath then sink.channels[index]?.map change
      else sink.channels[index]? := by
  have along (indices : List Nat) (channels : Array Channel) (distinct : indices.Nodup) :
      (indices.foldl (fun channels index => channels.modify index change) channels)[index]? =
        if index ∈ indices then channels[index]?.map change else channels[index]? := by
    induction indices generalizing channels with
    | nil => rfl
    | cons first indices inductionHypothesis =>
        obtain ⟨once, distinct⟩ := List.nodup_cons.mp distinct
        rw [List.foldl_cons, inductionHypothesis _ distinct, Array.getElem?_modify]
        by_cases same : first = index
        · subst same
          simp [once]
        · simp [same, Ne.symm same]
  exact along sink.writePath sink.channels sink.nodup_writePath

theorem writePath_onPath (keeps : KeepsVisibility change) :
    (sink.onPath change).writePath = sink.writePath := by
  refine pathFrom_congr fun index => ?_
  rw [Array.getD_eq_getD_getElem?, Array.getD_eq_getD_getElem?, getElem?_onPath]
  split
  · cases sink.channels[index]? with
    | none => rfl
    | some channel => exact keeps channel
  · rfl

theorem ext_channels {first second : Sink} (stack : first.stack = second.stack)
    (channels : ∀ index : Nat, first.channels[index]? = second.channels[index]?) :
    first = second := by
  obtain ⟨_, _⟩ := first
  obtain ⟨_, _⟩ := second
  obtain rfl := Array.ext_getElem? channels
  obtain rfl := stack
  rfl

/-- Two changes along the way are one change along it. -/
theorem onPath_onPath (keeps : KeepsVisibility change) :
    (sink.onPath change).onPath next = sink.onPath (next ∘ change) := by
  refine ext_channels rfl fun index => ?_
  rw [getElem?_onPath, writePath_onPath keeps, getElem?_onPath, getElem?_onPath]
  split
  · exact Option.map_map next change _
  · rfl

theorem onPath_id (sink : Sink) : sink.onPath id = sink := by
  refine ext_channels rfl fun index => ?_
  rw [getElem?_onPath]
  split
  · exact Option.map_id_apply
  · rfl

end Changes

/-! ### Writing -/

section Writing

variable {sink : Sink} {index : Nat}

theorem keepsVisibility_replay (segment : Segment) :
    KeepsVisibility fun channel => channel.replay segment := by
  intro channel
  cases segment with
  | text content =>
      unfold Channel.replay
      dsimp only
      split <;> rfl
  | target name => rfl

theorem replay_eq (sink : Sink) (segment : Segment) :
    sink.replay segment = sink.onPath fun channel => channel.replay segment := by
  cases segment with
  | target name => rfl
  | text content =>
      by_cases empty : content.isEmpty
      · simp only [replay, write, Channel.replay, if_pos empty]
        exact sink.onPath_id.symm
      · simp only [replay, write, Channel.replay, if_neg empty]

/-- A list of writes changes each channel on the way by itself. -/
theorem foldl_replay (sink : Sink) (segments : List Segment) :
    segments.foldl replay sink =
      sink.onPath fun channel => segments.foldl Channel.replay channel := by
  induction segments generalizing sink with
  | nil => exact sink.onPath_id.symm
  | cons segment segments inductionHypothesis =>
      rw [List.foldl_cons, inductionHypothesis, replay_eq,
        onPath_onPath (keepsVisibility_replay segment)]
      rfl

theorem replayMain_eq (child parent : Sink) :
    child.replayMain parent = parent.onPath fun channel =>
      (child.channels.getD 0 default).segments.foldl Channel.replay channel := by
  simp only [replayMain, ← Array.foldl_toList]
  exact foldl_replay parent _

theorem write_eq_replay (sink : Sink) (text : String) :
    sink.write text = sink.replay (.text text) :=
  rfl

/-- What is not on the way of a write is spared. -/
theorem spares_of_notMem (off : index ∉ sink.writePath) : sink.Spares index where
  write text := by rw [write_eq_replay, replay_eq, getElem?_onPath, if_neg off]
  placeTarget target := by rw [placeTarget, getElem?_onPath, if_neg off]
  replayMain child := by rw [replayMain_eq, getElem?_onPath, if_neg off]

/-- What is on the way of a write is written to once. -/
theorem receives_of_mem {channel : Channel} (found : sink.channels[index]? = some channel)
    (on : index ∈ sink.writePath) : sink.Receives index channel where
  found := found
  write text some := by
    rw [write_eq_replay, replay_eq, getElem?_onPath, if_pos on, found]
    simp [Channel.replay, some]
  gets := channel.gets_write
  placeTarget target := by
    rw [placeTarget, getElem?_onPath, if_pos on, found]
    rfl
  marks := channel.marks_placeTarget
  replayMain child := by
    rw [replayMain_eq, getElem?_onPath, if_pos on, found]
    rfl

end Writing

/-- A channel that is not shared keeps what is written from all channels whose slots lie beneath it.
Each channel with a slot that has no such channel above it gets all that is written, and gets it
once. -/
theorem Reachable.writes_stop_at_barriers {sink : Sink} (reachable : sink.Reachable) :
    (∀ slot index, sink.IsBarrier slot → sink.LiesBeneath index slot → sink.Spares index) ∧
      ∀ index, sink.IsInReach index → ∃ channel, sink.Receives index channel := by
  refine ⟨fun slot index barrier beneath => spares_of_notMem ?_, ?_⟩
  · rw [mem_writePath]
    rintro ⟨other, onStack, shared⟩
    exact (reachable.isShared_iff slot).mp (shared slot (beneath other onStack)) barrier
  · rintro index ⟨slot, onStack, free⟩
    obtain ⟨channel, found⟩ := reachable.formed.exists_channel (List.mem_of_getElem? onStack)
    refine ⟨channel, receives_of_mem found (mem_writePath.mpr ⟨slot, onStack, ?_⟩)⟩
    exact fun above lower => (reachable.isShared_iff above).mpr (free above lower)

/-! ### A channel above and beneath a barrier -/

namespace OpenAround

/-- Writes reach `echo` and `draft`, and nothing beneath: neither `main` nor `echo` once more. -/
def sink : Sink :=
  ((fresh.push "echo" .shared).push "draft" .hidden).push "echo" .shared

theorem reachable_sink : sink.Reachable :=
  .apply (.push "echo" .shared) (.apply (.push "draft" .hidden) (.apply (.push "echo" .shared)
    .fresh))

theorem stack_sink : sink.stack = [1, 2, 1, 0] := by cbv

theorem isBarrier_draft : sink.IsBarrier 1 :=
  ⟨2, .fresh "draft" .hidden, by cbv, by cbv, nofun⟩

theorem main_liesBeneath : sink.LiesBeneath 0 1 := by
  intro other onStack
  rw [stack_sink] at onStack
  match other, onStack with
  | 3, _ => decide

theorem echo_isInReach : sink.IsInReach 1 :=
  ⟨0, by cbv, nofun⟩

theorem writes_stop_at_draft :
    sink.Reachable ∧ sink.IsBarrier 1 ∧ sink.LiesBeneath 0 1 ∧ sink.Spares 0 ∧
      sink.IsInReach 1 ∧ ∃ channel, sink.Receives 1 channel := by
  obtain ⟨spares, receives⟩ := reachable_sink.writes_stop_at_barriers
  exact ⟨reachable_sink, isBarrier_draft, main_liesBeneath,
    spares 1 0 isBarrier_draft main_liesBeneath, echo_isInReach, receives 1 echo_isInReach⟩

example : ((sink.write "a").placeTarget "t").channels.map Channel.segments =
    #[#[], #[.text "a", .target "t"], #[.text "a", .target "t"]] := by cbv

end OpenAround

end Sink

end SeededText.Output
