import SeededText.Machine.Construct
import SeededText.Proofs.Requests

/-!
Contract: sinks only grow.

What a channel holds is a sequence of characters and of places where the text of a target will
stand. Whatever code does to the sink that it writes to, every channel stays in its place, and more
is only put behind what it holds.

Owns: the content of channels, what operations of sinks, tags and constructs add to it.
Does not own: the sinks of a run (`SeededText.Proofs.WrittenOutput`).
-/

namespace SeededText

namespace Output

/-! ### What channels hold -/

/-- A character, or the place of a target, whose text is filled in at the end. -/
inductive Piece where
  | character (written : Char)
  | target (name : String)
deriving DecidableEq, Repr

def Piece.render (targets : Targets) : Piece → List Char
  | .character written => [written]
  | .target name => (targets.findD name "").toList

def Segment.pieces : Segment → List Piece
  | .text content => content.toList.map .character
  | .target name => [.target name]

/-- What segments hold, piece by piece. -/
def contentOf (segments : Array Segment) : List Piece :=
  segments.toList.flatMap Segment.pieces

def Channel.content (channel : Channel) : List Piece :=
  contentOf channel.segments

/-- It is the same channel, and what it held comes first in what it holds later. -/
structure Channel.GrowsTo (earlier later : Channel) : Prop where
  name : later.name = earlier.name
  content : earlier.content <+: later.content

/-- Every channel is still in its place, and has only grown. -/
def ChannelsGrow (earlier later : Array Channel) : Prop :=
  ∀ (index : Nat) (channel : Channel), earlier[index]? = some channel →
    ∃ grown, later[index]? = some grown ∧ channel.GrowsTo grown

def Sink.GrowsTo (earlier later : Sink) : Prop :=
  ChannelsGrow earlier.channels later.channels

section Content

variable {targets : Targets} {segments : Array Segment} {channel : Channel}

theorem contentOf_push (segment : Segment) :
    contentOf (segments.push segment) = contentOf segments ++ segment.pieces := by
  simp [contentOf]

theorem contentOf_append (more : Array Segment) :
    contentOf (segments ++ more) = contentOf segments ++ contentOf more := by
  simp [contentOf]

/-- Text at the end is added to the content, whether or not it joins the last segment. -/
theorem contentOf_appendText (text : String) :
    contentOf (Channel.appendText segments text) =
      contentOf segments ++ text.toList.map .character := by
  unfold Channel.appendText
  split
  · next content last =>
      obtain ⟨before, rfl⟩ := Array.back?_eq_some_iff.mp last
      rw [Array.pop_push, contentOf_push, contentOf_push]
      simp [Segment.pieces]
  · exact contentOf_push _

theorem toList_render_segment (segment : Segment) :
    (segment.render targets).toList = segment.pieces.flatMap (Piece.render targets) := by
  cases segment with
  | target name => simp [Segment.render, Segment.pieces, Piece.render]
  | text content => simp [Segment.render, Segment.pieces, Piece.render, List.flatMap_map]

/-- A channel is rendered piece by piece. -/
theorem Channel.toList_render (channel : Channel) (targets : Targets) :
    (channel.render targets).toList = channel.content.flatMap (Piece.render targets) := by
  have rendered (segments : List Segment) (text : String) :
      (segments.foldl (fun text segment => text ++ segment.render targets) text).toList =
        text.toList ++ (segments.flatMap Segment.pieces).flatMap (Piece.render targets) := by
    induction segments generalizing text with
    | nil => simp
    | cons segment segments inductionHypothesis =>
        rw [List.foldl_cons, inductionHypothesis, String.toList_append, toList_render_segment,
          List.flatMap_cons, List.flatMap_append, List.append_assoc]
  rw [Channel.render, ← Array.foldl_toList, rendered]
  rfl

end Content

/-! ### Channels -/

namespace Channel

variable {earlier channel later : Channel}

theorem GrowsTo.refl (channel : Channel) : channel.GrowsTo channel :=
  ⟨rfl, List.prefix_refl _⟩

theorem GrowsTo.trans (first : earlier.GrowsTo channel) (second : channel.GrowsTo later) :
    earlier.GrowsTo later :=
  ⟨second.name.trans first.name, first.content.trans second.content⟩

theorem growsTo_write (channel : Channel) (text : String) : channel.GrowsTo (channel.write text) :=
  ⟨rfl, ⟨_, (contentOf_appendText _).symm⟩⟩

theorem growsTo_placeTarget (channel : Channel) (target : String) :
    channel.GrowsTo (channel.placeTarget target) :=
  ⟨rfl, ⟨_, (contentOf_push _).symm⟩⟩

/-- What a channel held is rendered in front of what it got later. -/
theorem GrowsTo.render (grows : earlier.GrowsTo later) (targets : Targets) :
    (earlier.render targets).toList <+: (later.render targets).toList := by
  obtain ⟨more, content⟩ := grows.content
  rw [toList_render, toList_render, ← content, List.flatMap_append]
  exact List.prefix_append _ _

end Channel

/-! ### Sinks -/

namespace ChannelsGrow

variable {earlier channels later : Array Channel}

theorem refl (channels : Array Channel) : ChannelsGrow channels channels :=
  fun _ channel found => ⟨channel, found, .refl channel⟩

theorem trans (first : ChannelsGrow earlier channels) (second : ChannelsGrow channels later) :
    ChannelsGrow earlier later := by
  intro index channel found
  obtain ⟨grown, found, grows⟩ := first index channel found
  obtain ⟨last, found, further⟩ := second index grown found
  exact ⟨last, found, grows.trans further⟩

theorem modify (channels : Array Channel) (index : Nat) {change : Channel → Channel}
    (grows : ∀ channel : Channel, channel.GrowsTo (change channel)) :
    ChannelsGrow channels (channels.modify index change) := by
  intro place channel found
  rw [Array.getElem?_modify, found]
  by_cases same : index = place
  · exact ⟨change channel, by simp [same], grows channel⟩
  · exact ⟨channel, by simp [same], .refl channel⟩

theorem push (channels : Array Channel) (added : Channel) :
    ChannelsGrow channels (channels.push added) := by
  intro index channel found
  have inside : index < channels.size := (Array.getElem?_eq_some_iff.mp found).1
  exact ⟨channel, by rw [Array.getElem?_push_lt inside, ← found, Array.getElem?_eq_getElem inside],
    .refl channel⟩

end ChannelsGrow

namespace Sink

variable {earlier sink later : Sink}

@[simp] theorem GrowsTo.refl (sink : Sink) : sink.GrowsTo sink :=
  ChannelsGrow.refl sink.channels

theorem GrowsTo.trans (first : earlier.GrowsTo sink) (second : sink.GrowsTo later) :
    earlier.GrowsTo later :=
  ChannelsGrow.trans first second

theorem growsTo_onPath (sink : Sink) {change : Channel → Channel}
    (grows : ∀ channel : Channel, channel.GrowsTo (change channel)) :
    sink.GrowsTo (sink.onPath change) := by
  have path (indices : List Nat) (channels : Array Channel) :
      ChannelsGrow channels
        (indices.foldl (fun channels index => channels.modify index change) channels) := by
    induction indices generalizing channels with
    | nil => exact .refl channels
    | cons index indices inductionHypothesis =>
        exact (ChannelsGrow.modify channels index grows).trans (inductionHypothesis _)
  exact path sink.writePath sink.channels

@[simp] theorem growsTo_write (sink : Sink) (text : String) : sink.GrowsTo (sink.write text) := by
  unfold write
  split
  · exact .refl sink
  · exact sink.growsTo_onPath fun channel => channel.growsTo_write text

@[simp] theorem growsTo_placeTarget (sink : Sink) (target : String) :
    sink.GrowsTo (sink.placeTarget target) :=
  sink.growsTo_onPath fun channel => channel.growsTo_placeTarget target

@[simp] theorem growsTo_push (sink : Sink) (name : String) (visibility : Visibility) :
    sink.GrowsTo (sink.push name visibility) := by
  unfold push
  split
  · split
    · exact ChannelsGrow.refl sink.channels
    · exact ChannelsGrow.modify sink.channels _ fun channel => ⟨rfl, List.prefix_refl _⟩
  · exact ChannelsGrow.push sink.channels _

@[simp] theorem growsTo_pop (sink : Sink) (name : String) :
    sink.GrowsTo ((sink.pop? name).getD sink) := by
  unfold pop?
  cases removeSlot? sink.channels name sink.stack <;> exact ChannelsGrow.refl sink.channels

@[simp] theorem growsTo_setCapitalization (sink : Sink) (mode : Capitalization) :
    sink.GrowsTo (sink.setCapitalization mode) :=
  ChannelsGrow.modify sink.channels _ fun _ => ⟨rfl, List.prefix_refl _⟩

theorem growsTo_replay (sink : Sink) (segment : Segment) : sink.GrowsTo (sink.replay segment) := by
  cases segment with
  | text content => exact sink.growsTo_write content
  | target name => exact sink.growsTo_placeTarget name

theorem growsTo_absorb (sink : Sink) (channel : Channel) : sink.GrowsTo (sink.absorb channel) := by
  unfold absorb
  split
  · refine ChannelsGrow.modify sink.channels _ fun own => ⟨rfl, ?_⟩
    exact ⟨_, (contentOf_append channel.segments).symm⟩
  · exact ChannelsGrow.push sink.channels _

/-- Folding over operations that let a sink grow lets it grow. -/
theorem growsTo_foldl {α : Type} {change : Sink → α → Sink}
    (grows : ∀ (sink : Sink) (item : α), sink.GrowsTo (change sink item)) (items : List α)
    (sink : Sink) : sink.GrowsTo (items.foldl change sink) := by
  induction items generalizing sink with
  | nil => exact .refl sink
  | cons item items inductionHypothesis => exact (grows sink item).trans (inductionHypothesis _)

/-- A sink only grows by taking another one over. -/
theorem growsTo_mergeInto (child parent : Sink) : parent.GrowsTo (child.mergeInto parent) := by
  unfold mergeInto
  rw [← Array.foldl_toList]
  exact (growsTo_foldl growsTo_replay _ parent).trans (growsTo_foldl growsTo_absorb _ _)

end Sink

end Output

namespace Machine

open Output

/-! ### Tags and constructs -/

@[simp] theorem Workspace.growsTo_write (workspace : Workspace) (text : String) :
    workspace.sink.GrowsTo (workspace.write text).sink := by
  unfold write
  split
  · exact .refl _
  · exact workspace.sink.growsTo_write text

/-- The sink has not changed before the text is written. -/
theorem Workspace.growsTo_write_of_eq {earlier later : Workspace} (same : later.sink = earlier.sink)
    (text : String) : earlier.sink.GrowsTo (later.write text).sink :=
  same ▸ later.growsTo_write text

section Tags

variable (invocation : Invocation) (workspace : Workspace)

/-- Whatever a tag does to its sink lets it grow. -/
theorem Invocation.growsTo_perform (operation : TagOperation) :
    Yields (fun outcome => workspace.sink.GrowsTo outcome.workspace.sink)
      (invocation.perform workspace operation) := by
  cases operation <;>
    simp only [perform, randomNumber, synchronize, controlSynchronizer, reseedSynchronizer,
      whenTurn, whenNth, alternative, matchedText, capturedGroup, argument, setNumberFormat,
      setCapitalization, inferCapitalization, openChannel, closeChannel, placeTarget,
      changeTarget, setMarker, distance, randomCharacters, setFlags, whenFlag, otherwise,
      compareTexts, whenCompared, leaveBlock, callHook]
  all_goals
    repeat' first | refine yields_bind fun value => ?_ | split
  all_goals
    simp [stay, ask, runIf, write, Invocation.writeInteger, Workspace.writeInteger, onSink,
      Workspace.onSink]
  all_goals
    refine Workspace.growsTo_write_of_eq ?_ _
    rfl

end Tags

section Constructs

variable (context : Context) (workspace : Workspace)

/-- Reading a construct leaves its sink with all that it held. -/
def Reading.Grows (workspace : Workspace) (reading : Reading) : Prop :=
  workspace.sink.GrowsTo reading.1.sink

namespace Context

theorem grows_readBlock (items : Array Pattern.Span) :
    (context.readBlock workspace items).Grows workspace := by
  have same : (context.readBlock workspace items).1.sink = workspace.sink := by
    unfold readBlock
    dsimp only
    split
    · rfl
    · split <;> split <;> rfl
  rw [Reading.Grows, same]
  exact .refl _

theorem grows_writeEntry (position : Pattern.Position) (query : Vocabulary.Query) :
    Yields (Reading.Grows workspace) (context.writeEntry workspace position query) := by
  unfold writeEntry
  split
  · exact yields_error _
  · split
    · refine (yields_ok _).mpr (Workspace.growsTo_write_of_eq ?_ _)
      rfl
    · exact yields_error _
    · exact yields_error _

theorem grows_readQuery (opener : Pattern.Token) (opening close : Nat) :
    Yields (Reading.Grows workspace) (context.readQuery workspace opener opening close) := by
  simp only [readQuery]
  split
  · exact yields_error _
  · split
    · exact context.grows_writeEntry workspace _ _
    · refine (yields_ok _).mpr ?_
      split <;> exact Sink.GrowsTo.refl _
    · split
      · exact context.grows_writeEntry workspace _ _
      · exact yields_error _

theorem grows_readEscape (token : Pattern.Token) :
    Yields (Reading.Grows workspace) (context.readEscape workspace token) := by
  simp only [readEscape]
  split
  · exact yields_error _
  · split
    · exact yields_error _
    · split
      · exact yields_error _
      · refine (yields_ok _).mpr (Workspace.growsTo_write_of_eq ?_ _)
        rfl

/-- Tags write nothing before their arguments are there. -/
theorem grows_readTag (opener : Pattern.Token) (opening close : Nat) :
    Yields (Reading.Grows workspace) (context.readTag workspace opener opening close) := by
  simp only [readTag, replace, readSubroutine, callTag, callSubroutine, defineSubroutine]
  repeat' first | refine yields_bind fun value => ?_ | split
  all_goals first | exact yields_error _ | exact (yields_ok _).mpr (Sink.GrowsTo.refl _)

theorem grows_readConstruct (index stop : Nat) (token : Pattern.Token) :
    Yields (Reading.Grows workspace) (context.readConstruct workspace index stop token) := by
  simp only [readConstruct]
  split
  · exact (yields_ok _).mpr (context.grows_readBlock workspace _)
  · exact context.grows_readTag workspace _ _ _
  · exact (yields_ok _).mpr (Sink.GrowsTo.refl _)
  · exact context.grows_readQuery workspace _ _ _
  · exact yields_error _
  · exact context.grows_readEscape workspace _
  · exact (yields_ok _).mpr (workspace.growsTo_write _)
  · exact (yields_ok _).mpr (workspace.growsTo_write _)

end Context

end Constructs

end Machine

end SeededText
