import SeededText.Proofs.Growth
import SeededText.Proofs.WritePaths

/-!
Contract: what holds of every sink that operations make of a new one.

The first channel is `main`, which is shared; no name belongs to two channels; what is open exists,
and `main` lies at the bottom of the stack. The count of a channel is the number of characters that
it holds, places of targets left out, also behind merges, as long as the sinks that are merged were
made in the same way. So the output lists every channel that is not hidden once, `main` first, and
two markers that are set while one channel is on top are as far apart as there are characters
between them.

Owns: counts of channels, the sinks that are made by operations alone, their outputs, markers.
Does not own: labels and stack (`SeededText.Proofs.ChannelScopes`), that channels only grow
(`SeededText.Proofs.Growth`).
-/

namespace SeededText

namespace Output

/-! ### Characters -/

def Piece.isCharacter : Piece → Bool
  | .character _ => true
  | .target _ => false

/-- How many characters there are, places of targets left out. -/
def countCharacters (content : List Piece) : Nat :=
  content.countP Piece.isCharacter

/-- The count of the channel is the number of characters that it holds. -/
def Channel.IsCounted (channel : Channel) : Prop :=
  channel.written = countCharacters channel.content

namespace Sink

/-- Sinks that operations make of a new one, if those that are merged were made like that too. -/
inductive Built : Sink → Prop
  | fresh : Built fresh
  | apply {sink : Sink} (operation : Operation) (built : Built sink)
      (merged : ∀ child, operation = .merge child → Built child) : Built (sink.apply operation)

/-- Whatever is merged is built. -/
def MergesBuilt (operations : List Operation) : Prop :=
  ∀ child, .merge child ∈ operations → Built child

/-- The invariant of sinks. -/
structure Sound (sink : Sink) : Prop extends sink.Formed where
  bottom : sink.stack.getLast? = some 0
  counted : ∀ channel ∈ sink.channels, channel.IsCounted

/-- An output has each channel of a sink that is not hidden once, in order of creation, `main`
first. -/
structure IsListedBy (sink : Sink) (targets : Targets) (output : List ChannelOutput) : Prop where
  main : output.head? = some ⟨mainChannel, .shared, sink.mainText targets⟩
  order : (output.map ChannelOutput.name).Sublist sink.names
  once : (output.map ChannelOutput.name).Nodup
  shown : ∀ channel ∈ sink.channels,
    channel.visibility ≠ .hidden ↔
      ⟨channel.name, channel.visibility, channel.render targets⟩ ∈ output

end Sink

section Counting

variable {channel other : Channel}

theorem countCharacters_append (first second : List Piece) :
    countCharacters (first ++ second) = countCharacters first + countCharacters second :=
  List.countP_append

theorem countCharacters_text (text : List Char) :
    countCharacters (text.map .character) = text.length := by
  rw [countCharacters, List.countP_map]
  exact List.countP_eq_length.mpr fun _ _ => rfl

namespace Channel

theorem isCounted_fresh (name : String) (visibility : Visibility) :
    (fresh name visibility).IsCounted := rfl

/-- What is counted is the text as it has been capitalized, which may be longer or shorter. -/
theorem IsCounted.write (counted : channel.IsCounted) (text : String) :
    (channel.write text).IsCounted := by
  unfold IsCounted at counted ⊢
  simp only [Channel.write, content] at counted ⊢
  rw [contentOf_appendText, countCharacters_append, counted, String.toList_ofList,
    countCharacters_text]

theorem IsCounted.placeTarget (counted : channel.IsCounted) (target : String) :
    (channel.placeTarget target).IsCounted := by
  unfold IsCounted at counted ⊢
  simp only [Channel.placeTarget, content] at counted ⊢
  rw [contentOf_push, countCharacters_append, counted]
  rfl

/-- A channel behind another one: the counts add up. -/
theorem IsCounted.append (counted : channel.IsCounted) (otherCounted : other.IsCounted) :
    IsCounted { channel with
      written := channel.written + other.written
      segments := channel.segments ++ other.segments } := by
  unfold IsCounted at *
  simp only [content] at *
  rw [contentOf_append, countCharacters_append, counted, otherCounted]

end Channel

end Counting

/-! ### Operations -/

namespace Sink

section Operations

variable {sink : Sink}

/-- All channels are counted. -/
def Counted (sink : Sink) : Prop :=
  ∀ channel ∈ sink.channels, channel.IsCounted

/-- Changes of channels that keep them counted. -/
def KeepsCount (change : Channel → Channel) : Prop :=
  ∀ channel : Channel, channel.IsCounted → (change channel).IsCounted

theorem counted_modify {channels : Array Channel}
    (counted : ∀ channel ∈ channels, channel.IsCounted) (index : Nat)
    {change : Channel → Channel} (keeps : KeepsCount change) :
    ∀ channel ∈ channels.modify index change, channel.IsCounted := by
  intro channel there
  obtain ⟨place, inside, rfl⟩ := Array.mem_iff_getElem.mp there
  rw [Array.getElem_modify]
  split
  · exact keeps _ (counted _ (Array.getElem_mem _))
  · exact counted _ (Array.getElem_mem _)

theorem Counted.onPath (counted : sink.Counted) {change : Channel → Channel}
    (keeps : KeepsCount change) : (sink.onPath change).Counted := by
  intro channel there
  obtain ⟨index, found⟩ := Array.mem_iff_getElem?.mp there
  rw [getElem?_onPath] at found
  split at found
  · obtain ⟨before, present, rfl⟩ := Option.map_eq_some_iff.mp found
    exact keeps before (counted before (Array.mem_of_getElem? present))
  · exact counted channel (Array.mem_of_getElem? found)

theorem Counted.write (counted : sink.Counted) (text : String) : (sink.write text).Counted := by
  unfold Sink.write
  split
  · exact counted
  · exact counted.onPath fun _ counted => counted.write text

theorem Counted.placeTarget (counted : sink.Counted) (target : String) :
    (sink.placeTarget target).Counted :=
  counted.onPath fun _ counted => counted.placeTarget target

theorem Counted.replay (counted : sink.Counted) (segment : Segment) :
    (sink.replay segment).Counted := by
  cases segment with
  | text content => exact counted.write content
  | target name => exact counted.placeTarget name

theorem Counted.create (counted : sink.Counted) {channel : Channel} (new : channel.IsCounted)
    (stack : List Nat) : Counted ⟨sink.channels.push channel, stack⟩ := by
  intro other there
  rcases Array.mem_push.mp there with before | rfl
  · exact counted other before
  · exact new

theorem Counted.push (counted : sink.Counted) (name : String) (visibility : Visibility) :
    (sink.push name visibility).Counted := by
  unfold Sink.push
  split
  · split
    · exact counted
    · have keeps : KeepsCount fun channel => { channel with visibility := visibility } :=
        fun _ => id
      exact counted_modify counted _ keeps
  · exact counted.create (Channel.isCounted_fresh name visibility) _

theorem Counted.absorb (counted : sink.Counted) {channel : Channel} (other : channel.IsCounted) :
    (sink.absorb channel).Counted := by
  unfold Sink.absorb
  split
  · exact counted_modify counted _ fun _ own => own.append other
  · exact counted.create ((Channel.isCounted_fresh _ _).append other) _

theorem Counted.mergeInto {child parent : Sink} (counted : parent.Counted)
    (childCounted : child.Counted) : (child.mergeInto parent).Counted := by
  have replayed (segments : List Segment) {sink : Sink} (counted : sink.Counted) :
      (segments.foldl Sink.replay sink).Counted := by
    induction segments generalizing sink with
    | nil => exact counted
    | cons segment segments inductionHypothesis =>
        exact inductionHypothesis (counted.replay segment)
  have absorbed (channels : List Channel) (all : ∀ channel ∈ channels, channel.IsCounted)
      {sink : Sink} (counted : sink.Counted) : (channels.foldl Sink.absorb sink).Counted := by
    induction channels generalizing sink with
    | nil => exact counted
    | cons channel channels inductionHypothesis =>
        obtain ⟨first, others⟩ := List.forall_mem_cons.mp all
        exact inductionHypothesis others (counted.absorb first)
  unfold Sink.mergeInto
  rw [← Array.foldl_toList]
  refine absorbed _ (fun channel there => ?_) (replayed _ counted)
  exact childCounted channel (Array.mem_toList_iff.mp (List.mem_of_mem_drop there))

theorem Counted.apply (counted : sink.Counted) {operation : Operation}
    (merged : ∀ child, operation = .merge child → child.Counted) :
    (sink.apply operation).Counted := by
  cases operation with
  | write text => exact counted.write text
  | placeTarget target => exact counted.placeTarget target
  | push name visibility => exact counted.push name visibility
  | pop name => rwa [Counted, channels_pop]
  | setCapitalization mode =>
      have keeps : KeepsCount fun channel =>
          { channel with capitalizer := { channel.capitalizer with mode := mode } } := fun _ => id
      exact counted_modify counted _ keeps
  | merge child => exact counted.mergeInto (merged child rfl)

/-! ### The bottom of the stack -/

theorem getLast?_removeSlot {channels : Array Channel} {name : String} {stack rest : List Nat}
    (removed : removeSlot? channels name stack = some rest) : rest.getLast? = stack.getLast? := by
  induction stack generalizing rest with
  | nil => cases removed
  | cons index beneath inductionHypothesis =>
      by_cases bottom : beneath = []
      · subst bottom
        cases removed
      · have last : (index :: beneath).getLast? = beneath.getLast? :=
          List.getLast?_cons_of_ne_nil bottom
        rw [removeSlot_cons channels index bottom] at removed
        split at removed
        · cases removed
          exact last.symm
        · obtain ⟨left, further, rfl⟩ := Option.map_eq_some_iff.mp removed
          rw [last, ← inductionHypothesis further]
          exact List.getLast?_cons_of_ne_nil (of_removeSlot further).2

/-- What lies at the bottom of the stack stays there. -/
theorem getLast?_apply (someOpen : sink.stack ≠ []) (operation : Operation) :
    (sink.apply operation).stack.getLast? = sink.stack.getLast? := by
  cases operation with
  | push name visibility =>
      simp only [Sink.apply, Sink.push]
      split <;> exact List.getLast?_cons_of_ne_nil someOpen
  | pop name =>
      simp only [Sink.apply, pop?]
      cases removed : removeSlot? sink.channels name sink.stack with
      | none => rfl
      | some rest => exact getLast?_removeSlot removed
  | _ => exact congrArg List.getLast? (sink.keeps_apply (by trivial)).stack

end Operations

/-! ### Sinks that are built -/

section Building

variable {sink : Sink}

theorem Sound.apply (sound : sink.Sound) {operation : Operation}
    (merged : ∀ child, operation = .merge child → child.Sound) : (sink.apply operation).Sound where
  toFormed := sound.toFormed.apply operation
  bottom := (getLast?_apply sound.someOpen operation).trans sound.bottom
  counted := Counted.apply sound.counted fun child same => (merged child same).counted

theorem Built.sound (built : sink.Built) : sink.Sound := by
  induction built with
  | fresh => exact ⟨formed_fresh, rfl, by simp [Sink.fresh, Channel.isCounted_fresh]⟩
  | apply operation _ _ sound merged => exact sound.apply merged

theorem Built.applyAll (built : sink.Built) {operations : List Operation}
    (merges : MergesBuilt operations) : (sink.applyAll operations).Built := by
  induction operations generalizing sink with
  | nil => exact built
  | cons operation later inductionHypothesis =>
      have first : (sink.apply operation).Built :=
        .apply operation built fun child same => merges child (same ▸ List.mem_cons_self)
      exact inductionHypothesis first fun child there =>
        merges child (List.mem_cons_of_mem operation there)

/-! ### Outputs -/

theorem Formed.exists_main (formed : sink.Formed) :
    ∃ channel others, sink.channels.toList = channel :: others ∧
      channel.label = ⟨mainChannel, .shared⟩ := by
  obtain ⟨channel, found, label⟩ := exists_of_label formed.main
  rw [← Array.getElem?_toList] at found
  cases channels : sink.channels.toList with
  | nil =>
      rw [channels] at found
      cases found
  | cons first others =>
      rw [channels] at found
      exact ⟨first, others, rfl, Option.some.inj found ▸ label⟩

theorem names_eq (sink : Sink) : sink.names = sink.channels.toList.map Channel.name := by
  rw [names, labels, List.map_map]
  rfl

theorem Formed.isListedBy (formed : sink.Formed) (targets : Targets) :
    sink.IsListedBy targets (sink.output targets) := by
  have order : ((sink.output targets).map ChannelOutput.name).Sublist sink.names := by
    rw [output, List.map_map, names_eq]
    exact List.filter_sublist.map Channel.name
  refine ⟨?_, order, order.nodup formed.distinct, fun channel there => ⟨fun shown => ?_, ?_⟩⟩
  · obtain ⟨main, others, channels, label⟩ := formed.exists_main
    obtain ⟨named, shared⟩ := Label.mk.inj label
    have found : sink.channels.getD 0 default = main := by
      rw [Array.getD_eq_getD_getElem?, ← Array.getElem?_toList, channels]
      rfl
    simp [output, mainText, channels, found, named, shared]
  · refine List.mem_map.mpr ⟨channel, List.mem_filter.mpr ⟨?_, decide_eq_true shown⟩, rfl⟩
    exact Array.mem_toList_iff.mpr there
  · intro listed
    obtain ⟨other, kept, same⟩ := List.mem_map.mp listed
    obtain ⟨-, visibility, -⟩ := ChannelOutput.mk.inj same
    rw [← visibility]
    exact of_decide_eq_true (List.mem_filter.mp kept).2

/-! ### Distances -/

theorem growsTo_applyAll (sink : Sink) (operations : List Operation) :
    sink.GrowsTo (sink.applyAll operations) := by
  have apply (sink : Sink) (operation : Operation) : sink.GrowsTo (sink.apply operation) := by
    cases operation with
    | merge child => exact growsTo_mergeInto child sink
    | _ => simp [Sink.apply]
  exact growsTo_foldl apply operations sink

theorem Formed.getElem?_active (formed : sink.Formed) :
    sink.channels[sink.activeIndex]? = some sink.active := by
  obtain ⟨top, beneath, stack⟩ := List.exists_cons_of_ne_nil formed.someOpen
  have isOpen : sink.activeIndex ∈ sink.stack := by simp [activeIndex, stack]
  obtain ⟨channel, found⟩ := formed.exists_channel isOpen
  rw [active, Array.getD_eq_getD_getElem?, found]
  rfl

theorem Sound.position_eq (sound : sink.Sound) :
    sink.position = countCharacters sink.active.content :=
  sound.counted _ (Array.mem_of_getElem? sound.getElem?_active)

/-- While one channel is on top, its count grows by what is written to it. -/
theorem Built.exists_added (built : sink.Built) {operations : List Operation}
    (merges : MergesBuilt operations)
    (same : (sink.applyAll operations).activeIndex = sink.activeIndex) :
    ∃ added, (sink.applyAll operations).active.content = sink.active.content ++ added ∧
      (sink.applyAll operations).position = sink.position + countCharacters added := by
  have sound := built.sound
  have later := (built.applyAll merges).sound
  obtain ⟨grown, found, grows⟩ :=
    sink.growsTo_applyAll operations sink.activeIndex sink.active sound.getElem?_active
  rw [← same, later.getElem?_active] at found
  obtain rfl := Option.some.inj found
  obtain ⟨added, content⟩ := grows.content
  refine ⟨added, content.symm, ?_⟩
  rw [later.position_eq, sound.position_eq, ← content, countCharacters_append]

end Building

end Sink

end Output

namespace Machine

open Output Output.Sink

/-- A marker has the value that a tag gave it which set it while `marked` was written to. -/
def Workspace.HasMark (workspace : Workspace) (name : String) (marked : Sink) : Prop :=
  ∃ (invocation : Invocation) (before : Workspace) (outcome : Outcome),
    before.sink = marked ∧ invocation.trimmedText 0 = name ∧
      invocation.perform before .setMarker = .ok outcome ∧
      workspace.markers.find? name = outcome.workspace.markers.find? name

theorem Workspace.HasMark.find? {workspace : Workspace} {name : String} {marked : Sink}
    (hasMark : workspace.HasMark name marked) :
    workspace.markers.find? name = some marked.position := by
  obtain ⟨invocation, before, outcome, rfl, rfl, performed, same⟩ := hasMark
  obtain ⟨given, named, performed⟩ := bind_eq_ok.mp performed
  cases performed
  have named : given = invocation.trimmedText 0 := by
    unfold Invocation.name at named
    dsimp only at named
    split at named
    · exact (Except.ok.inj named).symm
    · cases named
  subst named
  rw [same]
  exact (Table.find?_insert _ _ _ _).trans (if_pos rfl)

theorem Invocation.perform_distance {invocation : Invocation} {workspace : Workspace}
    {first second : Nat}
    (atFirst : workspace.markers.find? (invocation.trimmedText 0) = some first)
    (atSecond : workspace.markers.find? (invocation.trimmedText 1) = some second) :
    invocation.perform workspace .distance =
      .ok (invocation.writeInteger workspace ((second : Int) - first)) := by
  simp only [perform, distance, marker, require, atFirst, atSecond]
  rfl

/-- What operations make of a new sink has `main` first, which is shared, no two channels of one
name, `main` at the bottom of its stack and counts that are right. So its output lists each channel
that is not hidden, and the tag for distances writes how many characters a channel has got between
two markers. -/
theorem built_sink_is_sound {sink : Sink} (built : sink.Built) :
    sink.Sound ∧ (∀ targets, sink.IsListedBy targets (sink.output targets)) ∧
      ∀ operations, MergesBuilt operations →
        (sink.applyAll operations).activeIndex = sink.activeIndex →
        ∃ added, (sink.applyAll operations).active.content = sink.active.content ++ added ∧
          ∀ (invocation : Invocation) (workspace : Workspace),
            workspace.HasMark (invocation.trimmedText 0) sink →
            workspace.HasMark (invocation.trimmedText 1) (sink.applyAll operations) →
            invocation.perform workspace .distance =
              .ok (invocation.writeInteger workspace (countCharacters added)) := by
  refine ⟨built.sound, built.sound.isListedBy, fun operations merges same => ?_⟩
  obtain ⟨added, content, position⟩ := built.exists_added merges same
  refine ⟨added, content, fun invocation workspace first second => ?_⟩
  rw [Invocation.perform_distance first.find? second.find?, position]
  congr 2
  omega

/-! ### Two markers

Between them the channel gets a text, the place of a target, and what another sink holds. -/

namespace TwoMarkers

def child : Sink :=
  (fresh.write "e").push "side" .confined

def sink : Sink :=
  fresh.write "ab"

def operations : List Operation :=
  [.write "cd", .placeTarget "t", .merge child]

theorem built_sink : sink.Built :=
  .apply (.write "ab") .fresh nofun

theorem mergesBuilt_operations : MergesBuilt operations := by
  have built : child.Built :=
    .apply (.push "side" .confined) (.apply (.write "e") .fresh nofun) nofun
  intro other merged
  obtain rfl : other = child := by simpa [operations] using merged
  exact built

def invocation (texts : List String) : Invocation :=
  .mk ⟨.standard, ⟨"p", "", #[]⟩, .outermost, false⟩ .start (texts.map .value)

/-- Where both markers have been set. -/
def workspace : Workspace :=
  { Workspace.fresh .standard 0 with markers := ⟨[("a", 2), ("b", 5)]⟩ }

theorem hasMark_first : workspace.HasMark "a" sink :=
  ⟨invocation ["a"], { Workspace.fresh .standard 0 with sink := sink },
    ⟨{ Workspace.fresh .standard 0 with sink := sink, markers := ⟨[("a", 2)]⟩ }, .nothing, false⟩,
    rfl, by decide, rfl, by decide⟩

theorem hasMark_second : workspace.HasMark "b" (sink.applyAll operations) := by
  have position : (sink.applyAll operations).position = 5 := by decide +kernel
  refine ⟨invocation ["b"], { Workspace.fresh .standard 0 with sink := sink.applyAll operations },
    ⟨{ Workspace.fresh .standard 0 with
        sink := sink.applyAll operations
        markers := Table.empty.insert "b" (sink.applyAll operations).position }, .nothing, false⟩,
    rfl, by decide, rfl, ?_⟩
  show workspace.markers.find? "b" = (Table.empty.insert "b" _).find? "b"
  rw [position]
  decide

theorem distance_is_three :
    sink.Built ∧ MergesBuilt operations ∧
      (sink.applyAll operations).activeIndex = sink.activeIndex ∧
      workspace.HasMark "a" sink ∧ workspace.HasMark "b" (sink.applyAll operations) ∧
      (invocation ["a", "b"]).perform workspace .distance =
        .ok ((invocation ["a", "b"]).writeInteger workspace 3) := by
  have same : (sink.applyAll operations).activeIndex = sink.activeIndex := by decide +kernel
  have first : (invocation ["a", "b"]).trimmedText 0 = "a" := by decide
  have second : (invocation ["a", "b"]).trimmedText 1 = "b" := by decide
  obtain ⟨-, -, distances⟩ := built_sink_is_sound built_sink
  obtain ⟨added, content, distance⟩ := distances operations mergesBuilt_operations same
  have holds : (sink.applyAll operations).active.content =
      sink.active.content ++ [.character 'c', .character 'd', .target "t", .character 'e'] := by
    decide +kernel
  obtain rfl := List.append_cancel_left (content.symm.trans holds)
  exact ⟨built_sink, mergesBuilt_operations, same, hasMark_first, hasMark_second,
    distance (invocation ["a", "b"]) workspace (first ▸ hasMark_first) (second ▸ hasMark_second)⟩

end TwoMarkers

end Machine

end SeededText
