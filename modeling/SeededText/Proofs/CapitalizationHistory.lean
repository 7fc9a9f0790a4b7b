import SeededText.Proofs.ChannelCounts

/-!
Contract: the capitalization of a character is what the whole history of its channel says.

A channel is given characters, and modes are set in between. A capitalizer keeps of all that a mode
and two flags, and its mode changes by itself. They are summaries of the history: which mode was set
last, what has been given since, and which characters came before, in whatever mode. How the
characters were cut into texts is no part of the history.

Owns: histories, what they say of the next character, that capitalizers, channels and sinks follow
them.
Does not own: the capitalizer (`SeededText.Output.Capitalization`), which channels a write reaches
(`SeededText.Proofs.WritePaths`).
-/

namespace SeededText.Output

open Text

/-! ### Histories -/

/-- What a channel is given. -/
inductive Event where
  | character (given : Char)
  | setting (mode : Capitalization)
deriving DecidableEq, Repr

/-- What a channel has been given so far, the latest first. -/
abbrev History := List Event

def Event.character? : Event → Option Char
  | .character given => some given
  | .setting _ => none

namespace History

/-- All characters, in whatever mode, the latest first. -/
def characters (history : History) : List Char :=
  history.filterMap Event.character?

/-- The mode that was set last. -/
def setting : History → Capitalization
  | [] => .asWritten
  | .setting mode :: _ => mode
  | .character _ :: earlier => setting earlier

/-- The characters since a mode was set, the latest first. -/
def charactersSince : History → List Char
  | .character given :: earlier => given :: charactersSince earlier
  | _ => []

/-- A letter has been given since a mode was set. -/
def hasLetter (history : History) : Bool :=
  history.charactersSince.any isAlphabetic

/-- The mode in force: `first` is over behind a letter. -/
def mode (history : History) : Capitalization :=
  if history.setting = .first ∧ history.hasLetter then .asWritten else history.setting

/-- The last character, if there is one, is no part of a word. -/
def startsWord (history : History) : Bool :=
  history.characters.head?.all fun last => !isAlphanumeric last && last != '\''

/-- What stands behind the last sentence, the latest character first. -/
def sinceSentence (history : History) : List Char :=
  history.characters.takeWhile fun character => !endsSentence character

/-- Nothing that starts a sentence stands behind the last one. -/
def startsSentence (history : History) : Bool :=
  history.sinceSentence.all keepsSentenceStart

/-- Whether the next character is written in upper case. -/
def raises (history : History) (next : Char) : Bool :=
  match history.setting with
  | .asWritten | .lower => false
  | .upper => true
  | .first => isAlphabetic next && !history.hasLetter
  | .word => isAlphabetic next && history.startsWord
  | .sentence => isAlphabetic next && history.startsSentence

/-- What is written for the next character. -/
def image (history : History) (next : Char) : List Char :=
  if history.raises next then upperImage next
  else if history.setting = .lower then lowerImage next
  else [next]

/-- What is written for events that come behind a history. -/
def written (history : History) : List Event → List Char
  | [] => []
  | .character given :: later =>
      history.image given ++ written (.character given :: history) later
  | .setting mode :: later => written (.setting mode :: history) later

/-- What is written for a whole history. -/
def text (history : History) : List Char :=
  written [] history.reverse

end History

/-- What a capitalizer is to be behind a history. -/
def Capitalizer.behind (history : History) : Capitalizer :=
  ⟨history.mode, history.startsWord, history.startsSentence⟩

/-! ### Capitalizers -/

section Capitalizers

variable {history : History} {given : Char} {chosen : Capitalization}

namespace History

@[simp] theorem characters_character :
    characters (.character given :: history) = given :: history.characters := rfl

@[simp] theorem characters_setting :
    characters (.setting chosen :: history) = history.characters := rfl

@[simp] theorem setting_character :
    setting (.character given :: history) = history.setting := rfl

@[simp] theorem hasLetter_character :
    hasLetter (.character given :: history) = (isAlphabetic given || history.hasLetter) := rfl

/-- The mode `first` is over behind the letter that it raises. -/
theorem mode_character : mode (.character given :: history) =
    if history.mode = .first ∧ history.raises given then .asWritten else history.mode := by
  -- No other mode changes by itself, and `first` only at the first letter.
  cases set : history.setting with
  | first =>
      cases past : history.hasLetter <;> simp [mode, raises, set, past]
  | _ => simp [mode, set]

theorem startsWord_character : startsWord (.character given :: history) =
    (!isAlphanumeric given && given != '\'') := rfl

theorem startsSentence_character : startsSentence (.character given :: history) =
    (endsSentence given || (history.startsSentence && keepsSentenceStart given)) := by
  cases ends : endsSentence given <;>
    simp [startsSentence, sinceSentence, ends, Bool.and_comm]

theorem written_append (history : History) (first second : List Event) :
    history.written (first ++ second) =
      history.written first ++ written (first.reverse ++ history) second := by
  induction first generalizing history with
  | nil => rfl
  | cons event first inductionHypothesis =>
      cases event <;> simp [written, inductionHypothesis]

/-- What is written for more events comes behind what has been written. -/
theorem text_append (events : List Event) :
    text (events.reverse ++ history) = history.text ++ history.written events := by
  rw [text, List.reverse_append, List.reverse_reverse, written_append, List.reverse_reverse,
    List.append_nil, text]

end History

namespace Capitalizer

theorem behind_nil : behind [] = fresh := rfl

theorem behind_setting (history : History) (mode : Capitalization) :
    behind (.setting mode :: history) = { behind history with mode := mode } := by
  simp [behind, History.mode, History.setting, History.hasLetter, History.charactersSince,
    History.startsWord, History.startsSentence, History.sinceSentence]

theorem raises_behind (history : History) (next : Char) :
    (behind history).raises next = history.raises next := by
  cases set : history.setting with
  | first =>
      cases past : history.hasLetter <;>
        simp [raises, behind, History.mode, History.raises, set, past]
  | _ => simp [raises, behind, History.mode, History.raises, set, Bool.and_comm]

theorem image_behind (history : History) (next : Char) :
    (behind history).image next = history.image next := by
  have lower : history.mode = .lower ↔ history.setting = .lower := by
    unfold History.mode
    split
    · next ended => simp [ended.1]
    · rfl
  simp only [image, History.image, raises_behind]
  simp only [behind, lower]

theorem after_behind (history : History) (given : Char) :
    (behind history).after given = behind (.character given :: history) := by
  simp only [after, raises_behind]
  rw [behind, behind, History.mode_character, History.startsWord_character,
    History.startsSentence_character]

/-- A capitalizer goes on with its history. -/
theorem apply_behind (history : History) (given : List Char) :
    (behind history).apply given =
      (history.written (given.map .character),
        behind ((given.map Event.character).reverse ++ history)) := by
  induction given generalizing history with
  | nil => rfl
  | cons first given inductionHypothesis =>
      simp [apply, image_behind, after_behind, inductionHypothesis, History.written]

end Capitalizer

end Capitalizers

/-! ### Channels -/

/-- Sets the mode of a channel. -/
def Channel.setMode (channel : Channel) (mode : Capitalization) : Channel :=
  { channel with capitalizer := { channel.capitalizer with mode := mode } }

/-- What is done with one channel. -/
inductive Channel.Use where
  | write (text : String)
  | setMode (mode : Capitalization)
deriving DecidableEq, Repr

def Channel.Use.events : Use → List Event
  | .write text => text.toList.map .character
  | .setMode mode => [.setting mode]

/-- What a segment gives to the channel that it is written to. -/
def Segment.events : Segment → List Event
  | .text content => content.toList.map .character
  | .target _ => []

def Piece.character? : Piece → Option Char
  | .character written => some written
  | .target _ => none

namespace Channel

def use (channel : Channel) : Use → Channel
  | .write text => channel.write text
  | .setMode mode => channel.setMode mode

def useAll (channel : Channel) (uses : List Use) : Channel :=
  uses.foldl use channel

/-- The history of a new channel behind its uses. -/
def historyOf (uses : List Use) : History :=
  (uses.flatMap Use.events).reverse

/-- What a channel holds, places of targets left out. -/
def characters (channel : Channel) : List Char :=
  channel.content.filterMap Piece.character?

/-- A channel goes on as its history says, and holds what is written for it. -/
structure Follows (channel : Channel) (history : History) : Prop where
  capitalizer : channel.capitalizer = .behind history
  characters : channel.characters = history.text

section Uses

variable {channel : Channel} {history : History}

theorem content_write (follows : channel.capitalizer = .behind history) (text : String) :
    (channel.write text).content =
      channel.content ++ (history.written (text.toList.map .character)).map .character := by
  simp only [write, content, follows, Capitalizer.apply_behind]
  rw [contentOf_appendText, String.toList_ofList]

theorem capitalizer_write (follows : channel.capitalizer = .behind history) (text : String) :
    (channel.write text).capitalizer =
      .behind ((text.toList.map Event.character).reverse ++ history) := by
  simp only [write, follows, Capitalizer.apply_behind]

theorem capitalizer_setMode (follows : channel.capitalizer = .behind history)
    (mode : Capitalization) :
    (channel.setMode mode).capitalizer = .behind (.setting mode :: history) := by
  rw [setMode, follows, Capitalizer.behind_setting]

/-- A use adds what is written for its events. -/
theorem use_behind (follows : channel.capitalizer = .behind history) (use : Use) :
    (channel.use use).capitalizer = .behind (use.events.reverse ++ history) ∧
      (channel.use use).content =
        channel.content ++ (history.written use.events).map .character := by
  cases use with
  | write text => exact ⟨capitalizer_write follows text, content_write follows text⟩
  | setMode mode => exact ⟨capitalizer_setMode follows mode, (List.append_nil _).symm⟩

theorem useAll_behind (follows : channel.capitalizer = .behind history) (uses : List Use) :
    (channel.useAll uses).capitalizer = .behind (historyOf uses ++ history) ∧
      (channel.useAll uses).content =
        channel.content ++ (history.written (uses.flatMap Use.events)).map .character := by
  induction uses generalizing channel history with
  | nil => exact ⟨follows, (List.append_nil _).symm⟩
  | cons use uses inductionHypothesis =>
      obtain ⟨capitalizer, content⟩ := use_behind follows use
      obtain ⟨later, added⟩ := inductionHypothesis capitalizer
      refine ⟨?_, ?_⟩
      · rw [historyOf, List.flatMap_cons, List.reverse_append, List.append_assoc]
        exact later
      · rw [List.flatMap_cons, History.written_append, List.map_append, ← List.append_assoc,
          ← content]
        exact added

/-- A new channel holds what is written for the history of its uses. -/
theorem useAll_fresh (name : String) (visibility : Visibility) (uses : List Use) :
    ((fresh name visibility).useAll uses).capitalizer = .behind (historyOf uses) ∧
      ((fresh name visibility).useAll uses).content = (historyOf uses).text.map .character := by
  have new : (fresh name visibility).capitalizer = .behind [] := Capitalizer.behind_nil.symm
  obtain ⟨capitalizer, content⟩ := useAll_behind new uses
  refine ⟨(List.append_nil (historyOf uses)) ▸ capitalizer, ?_⟩
  rw [History.text, historyOf, List.reverse_reverse]
  exact content

theorem follows_fresh (name : String) (visibility : Visibility) :
    (fresh name visibility).Follows [] :=
  ⟨Capitalizer.behind_nil.symm, rfl⟩

theorem Follows.write (follows : channel.Follows history) (text : String) :
    (channel.write text).Follows ((text.toList.map Event.character).reverse ++ history) where
  capitalizer := capitalizer_write follows.capitalizer text
  characters := by
    have shown (written : List Char) :
        (written.map Piece.character).filterMap Piece.character? = written := by
      rw [List.filterMap_map]
      exact List.filterMap_some
    rw [Channel.characters, content_write follows.capitalizer, List.filterMap_append, shown,
      History.text_append, ← follows.characters]
    rfl

theorem Follows.placeTarget (follows : channel.Follows history) (target : String) :
    (channel.placeTarget target).Follows history where
  capitalizer := follows.capitalizer
  characters := by
    rw [Channel.characters, content, Channel.placeTarget, contentOf_push, List.filterMap_append]
    exact (List.append_nil _).trans follows.characters

theorem Follows.setMode (follows : channel.Follows history) (mode : Capitalization) :
    (channel.setMode mode).Follows (.setting mode :: history) where
  capitalizer := capitalizer_setMode follows.capitalizer mode
  characters := by
    rw [← List.singleton_append, ← List.reverse_singleton, History.text_append]
    exact follows.characters.trans (List.append_nil _).symm

theorem Follows.replay (follows : channel.Follows history) (segment : Segment) :
    (channel.replay segment).Follows (segment.events.reverse ++ history) := by
  cases segment with
  | target name => exact follows.placeTarget name
  | text content =>
      rw [Channel.replay]
      split
      · next empty =>
          rw [String.isEmpty_iff] at empty
          subst empty
          exact follows
      · exact follows.write content

theorem Follows.replayAll (follows : channel.Follows history) (segments : List Segment) :
    (segments.foldl Channel.replay channel).Follows
      ((segments.flatMap Segment.events).reverse ++ history) := by
  induction segments generalizing channel history with
  | nil => exact follows
  | cons segment segments inductionHypothesis =>
      simpa using inductionHypothesis (follows.replay segment)

end Uses

end Channel

/-! ### Sinks -/

namespace Sink

/-- What an operation writes to the channels that writes reach. -/
def Operation.segments : Operation → List Segment
  | .write text => [.text text]
  | .placeTarget target => [.target target]
  | .merge child => (child.channels.getD 0 default).segments.toList
  | _ => []

/-- The operation also appends to the channel `name`, past its capitalizer. -/
def Operation.Appends (name : String) : Operation → Prop
  | .merge child => ∃ channel ∈ child.channels.toList.drop 1, channel.name = name
  | _ => False

/-- What an operation gives to the channel at an index. -/
def given (sink : Sink) (index : Nat) : Operation → List Event
  | .setCapitalization mode => if index = sink.activeIndex then [.setting mode] else []
  | operation =>
      if index ∈ sink.writePath then operation.segments.flatMap Segment.events else []

/-- The history of the channel at an index behind operations. -/
def historyFrom (sink : Sink) (index : Nat) (history : History) : List Operation → History
  | [] => history
  | operation :: later =>
      (sink.apply operation).historyFrom index ((sink.given index operation).reverse ++ history)
        later

/-- The channel at an index, if its name is `name`, follows a history. -/
structure Tracks (sink : Sink) (name : String) (index : Nat) (history : History) : Prop where
  follows : ∀ channel, sink.channels[index]? = some channel → channel.name = name →
    channel.Follows history
  untouched : sink.channels[index]? = none → history = []

section Tracking

variable {sink : Sink} {name : String} {index : Nat} {history : History}

theorem tracks_fresh (name : String) (index : Nat) : fresh.Tracks name index [] where
  follows channel found _ := by
    obtain rfl := Array.mem_singleton.mp (Array.mem_of_getElem? found)
    exact Channel.follows_fresh _ _
  untouched _ := rfl

/-- A channel that writes reach, or that is on top, is there. -/
theorem Formed.ne_none (formed : sink.Formed) (isOpen : index ∈ sink.stack) :
    sink.channels[index]? ≠ none := by
  obtain ⟨channel, found⟩ := formed.exists_channel isOpen
  simp [found]

theorem mem_stack_of_mem_writePath (on : index ∈ sink.writePath) : index ∈ sink.stack := by
  obtain ⟨slot, onStack, -⟩ := mem_writePath.mp on
  exact List.mem_of_getElem? onStack

theorem name_replayAll (channel : Channel) (segments : List Segment) :
    (segments.foldl Channel.replay channel).name = channel.name := by
  induction segments generalizing channel with
  | nil => rfl
  | cons segment segments inductionHypothesis =>
      refine (inductionHypothesis _).trans ?_
      cases segment with
      | target name => rfl
      | text content =>
          rw [Channel.replay]
          split <;> rfl

/-- Segments are given to the channels that writes reach. -/
theorem Tracks.replayAll (tracks : sink.Tracks name index history) (formed : sink.Formed)
    (segments : List Segment) :
    (segments.foldl Sink.replay sink).Tracks name index
      ((if index ∈ sink.writePath then segments.flatMap Segment.events else []).reverse ++
        history) := by
  rw [foldl_replay]
  constructor
  · intro channel found named
    rw [getElem?_onPath] at found
    split at found
    · next on =>
        obtain ⟨before, present, rfl⟩ := Option.map_eq_some_iff.mp found
        rw [name_replayAll] at named
        rw [if_pos on]
        exact (tracks.follows before present named).replayAll segments
    · next off =>
        rw [if_neg off]
        exact tracks.follows channel found named
  · intro none
    have before : sink.channels[index]? = Option.none := by
      rw [getElem?_onPath] at none
      split at none
      · exact Option.map_eq_none_iff.mp none
      · exact none
    have off : index ∉ sink.writePath := fun on =>
      formed.ne_none (mem_stack_of_mem_writePath on) before
    rw [if_neg off, tracks.untouched before]
    rfl

theorem Tracks.of_channels {later : Sink} (tracks : sink.Tracks name index history)
    (same : later.channels = sink.channels) : later.Tracks name index history :=
  ⟨same ▸ tracks.follows, same ▸ tracks.untouched⟩

/-- Changing a channel leaves the histories of all others. -/
theorem Tracks.modify (tracks : sink.Tracks name index history) (stack : List Nat) (place : Nat)
    {change : Channel → Channel}
    (changed : ∀ channel, sink.channels[place]? = some channel → place = index →
      (change channel).name = name → (change channel).Follows history) :
    Tracks ⟨sink.channels.modify place change, stack⟩ name index history where
  follows channel found named := by
    rw [Array.getElem?_modify] at found
    split at found
    · next same =>
        obtain ⟨before, present, rfl⟩ := Option.map_eq_some_iff.mp found
        exact changed before (same ▸ present) same named
    · exact tracks.follows channel found named
  untouched none := by
    rw [Array.getElem?_modify] at none
    split at none
    · exact tracks.untouched (Option.map_eq_none_iff.mp none)
    · exact tracks.untouched none

/-- A new channel has no history. -/
theorem Tracks.create (tracks : sink.Tracks name index history) (stack : List Nat)
    {created : Channel} (new : created.name = name → created.Follows []) :
    Tracks ⟨sink.channels.push created, stack⟩ name index history where
  follows channel found named := by
    rw [Array.getElem?_push] at found
    split at found
    · next last =>
        cases found
        rw [tracks.untouched (by simp [last])]
        exact new named
    · exact tracks.follows channel found named
  untouched none := by
    rw [Array.getElem?_push] at none
    split at none
    · cases none
    · exact tracks.untouched none

/-- What is appended to a channel of a different name is not appended to this one. -/
theorem Tracks.absorb (tracks : sink.Tracks name index history) {other : Channel}
    (differs : other.name ≠ name) : (sink.absorb other).Tracks name index history := by
  unfold Sink.absorb
  split
  · next place at_ =>
      obtain ⟨inside, named, -⟩ := Array.findIdx?_eq_some_iff_getElem.mp at_
      have named : sink.channels[place].name = other.name := of_decide_eq_true named
      refine tracks.modify sink.stack place fun channel found _ same => ?_
      rw [Array.getElem?_eq_getElem inside] at found
      cases found
      exact absurd (named.symm.trans same) differs
  · exact tracks.create sink.stack fun same => absurd same differs

theorem Tracks.absorbAll {channels : List Channel} (tracks : sink.Tracks name index history)
    (differ : ∀ channel ∈ channels, channel.name ≠ name) :
    (channels.foldl Sink.absorb sink).Tracks name index history := by
  induction channels generalizing sink with
  | nil => exact tracks
  | cons channel channels inductionHypothesis =>
      obtain ⟨first, others⟩ := List.forall_mem_cons.mp differ
      exact inductionHypothesis (tracks.absorb first) others

theorem Tracks.push (tracks : sink.Tracks name index history) (opened : String)
    (visibility : Visibility) : (sink.push opened visibility).Tracks name index history := by
  unfold Sink.push
  split
  · next place at_ =>
      split
      · exact tracks.of_channels rfl
      · refine tracks.modify _ place fun channel found same named => ?_
        obtain ⟨capitalizer, characters⟩ := tracks.follows channel (same ▸ found) named
        exact ⟨capitalizer, characters⟩
  · exact tracks.create _ fun _ => Channel.follows_fresh opened visibility

theorem Tracks.setCapitalization (tracks : sink.Tracks name index history) (formed : sink.Formed)
    (mode : Capitalization) :
    (sink.setCapitalization mode).Tracks name index
      ((if index = sink.activeIndex then [Event.setting mode] else []).reverse ++ history) := by
  split
  · next onTop =>
      subst onTop
      have active := formed.getElem?_active
      have changed : (sink.setCapitalization mode).channels[sink.activeIndex]? =
          some (sink.active.setMode mode) := by
        rw [Sink.setCapitalization, Array.getElem?_modify, if_pos rfl, active]
        rfl
      refine ⟨fun channel found named => ?_, fun none => ?_⟩
      · obtain rfl := Option.some.inj (changed.symm.trans found)
        exact (tracks.follows sink.active active named).setMode mode
      · rw [changed] at none
        cases none
  · next other => exact tracks.modify _ _ fun _ _ same => absurd same.symm other

/-- An operation gives its events to the channel at each index. -/
theorem Tracks.apply (tracks : sink.Tracks name index history) (formed : sink.Formed)
    {operation : Operation} (apart : ¬ operation.Appends name) :
    (sink.apply operation).Tracks name index ((sink.given index operation).reverse ++ history) := by
  cases operation with
  | write text => exact tracks.replayAll formed [.text text]
  | placeTarget target => exact tracks.replayAll formed [.target target]
  | merge child =>
      -- The main channel of the child is written; the others are appended, to other channels.
      rw [Sink.apply, mergeInto_eq, replayMain, ← Array.foldl_toList]
      refine (tracks.replayAll formed _).absorbAll fun channel there named => ?_
      exact apart ⟨channel, there, named⟩
  | setCapitalization mode => exact tracks.setCapitalization formed mode
  | push opened visibility =>
      have none : sink.given index (.push opened visibility) = [] := by
        simp [given, Operation.segments]
      rw [none]
      exact tracks.push opened visibility
  | pop closed =>
      have none : sink.given index (.pop closed) = [] := by simp [given, Operation.segments]
      rw [none]
      exact tracks.of_channels (sink.channels_pop closed)

theorem Tracks.applyAll (tracks : sink.Tracks name index history) (formed : sink.Formed)
    {operations : List Operation} (apart : ∀ operation ∈ operations, ¬ operation.Appends name) :
    (sink.applyAll operations).Tracks name index (sink.historyFrom index history operations) := by
  induction operations generalizing sink history with
  | nil => exact tracks
  | cons operation later inductionHypothesis =>
      obtain ⟨first, others⟩ := List.forall_mem_cons.mp apart
      exact inductionHypothesis (tracks.apply formed first) (formed.apply operation) others

end Tracking

end Sink

/-- What a channel holds and the mode that is in force are what the history of the channel says, so
that it makes no difference how its characters were cut into texts. It is the same with every
channel of a sink, whatever is done with the sink in between, as long as nothing is appended to the
channel past its capitalizer. -/
theorem written_by_history :
    (∀ (name : String) (visibility : Visibility) (uses : List Channel.Use),
      ((Channel.fresh name visibility).useAll uses).capitalizer =
          .behind (Channel.historyOf uses) ∧
        ((Channel.fresh name visibility).useAll uses).content =
          (Channel.historyOf uses).text.map .character) ∧
      (∀ (name : String) (visibility : Visibility) (uses others : List Channel.Use),
        Channel.historyOf uses = Channel.historyOf others →
        ((Channel.fresh name visibility).useAll uses).capitalizer =
            ((Channel.fresh name visibility).useAll others).capitalizer ∧
          ((Channel.fresh name visibility).useAll uses).content =
            ((Channel.fresh name visibility).useAll others).content) ∧
      ∀ (operations : List Sink.Operation) (index : Nat) (channel : Channel),
        (Sink.fresh.applyAll operations).channels[index]? = some channel →
        (∀ operation ∈ operations, ¬ operation.Appends channel.name) →
        channel.Follows (Sink.fresh.historyFrom index [] operations) := by
  refine ⟨Channel.useAll_fresh, fun name visibility uses others same => ?_,
    fun operations index channel found apart => ?_⟩
  · obtain ⟨capitalizer, content⟩ := Channel.useAll_fresh name visibility uses
    obtain ⟨capitalizer', content'⟩ := Channel.useAll_fresh name visibility others
    rw [capitalizer, content, capitalizer', content', same]
    exact ⟨rfl, rfl⟩
  · have tracks := (Sink.tracks_fresh channel.name index).applyAll Sink.formed_fresh apart
    exact tracks.follows channel found rfl

/-! ### A word in two texts -/

namespace CutWord

/-- The word `old` is cut, and something else is written in between, to another channel. -/
def operations : List Sink.Operation :=
  [.setCapitalization .word, .write "o", .push "aside" .confined, .write "so", .pop "aside",
    .write "ld men", .setCapitalization .first, .write "-yes"]

def channel : Channel :=
  ⟨"main", .shared, #[.text "Old Men-Yes"], ⟨.asWritten, false, false⟩, 11⟩

theorem found_channel : (Sink.fresh.applyAll operations).channels[0]? = some channel := by
  decide +kernel

theorem not_appends (name : String) : ∀ operation ∈ operations, ¬ operation.Appends name := by
  simp [operations, Sink.Operation.Appends]

theorem follows_channel :
    (Sink.fresh.applyAll operations).channels[0]? = some channel ∧
      channel.characters = "Old Men-Yes".toList ∧
      channel.Follows (Sink.fresh.historyFrom 0 [] operations) ∧
      Channel.historyOf [.write "ol", .write "d"] = Channel.historyOf [.write "o", .write "ld"] ∧
      ((Channel.fresh "main" .shared).useAll [.write "ol", .write "d"]).content =
        ((Channel.fresh "main" .shared).useAll [.write "o", .write "ld"]).content :=
  ⟨found_channel, rfl,
    written_by_history.2.2 operations 0 channel found_channel (not_appends channel.name), rfl,
    (written_by_history.2.1 "main" .shared [.write "ol", .write "d"] [.write "o", .write "ld"]
      rfl).2⟩

end CutWord

end SeededText.Output
