import SeededText.Output.Capitalization
import SeededText.Table

/-!
Contract: where written text goes.

A sink has named channels, the first of which is `main`, and a stack of open ones. What is written
reaches the channel on top and goes on to the channels beneath it as long as the channel just
reached is public. A channel also holds placeholders of targets, whose text is filled in at the end.

Owns: channels, the path of a write, opening and closing, merging a sink into another, rendering.
Does not own: the targets' texts, which all sinks of a run share.
-/

namespace SeededText.Output

inductive Visibility where
  /-- Writes go on to the channel beneath. -/
  | shared
  /-- Writes stop here; the channel is part of the output. -/
  | confined
  /-- Writes stop here; the channel is not part of the output. -/
  | hidden
deriving DecidableEq, Repr, Inhabited

def Visibility.ofName? (name : String) : Option Visibility :=
  match Text.lowerAscii (Text.trim name) with
  | "public" => some .shared
  | "private" => some .confined
  | "internal" => some .hidden
  | _ => none

/-- Name of a visibility, as patterns write it. -/
def Visibility.name : Visibility → String
  | .shared => "public"
  | .confined => "private"
  | .hidden => "internal"

/-- Texts of targets by name. -/
abbrev Targets := Table String String

inductive Segment where
  | text (content : String)
  | target (name : String)
deriving DecidableEq, Repr

def Segment.render (targets : Targets) : Segment → String
  | .text content => content
  | .target name => targets.findD name ""

structure Channel where
  name : String
  visibility : Visibility
  segments : Array Segment
  capitalizer : Capitalizer
  /-- Number of characters written, those of targets not counted. -/
  written : Nat
deriving DecidableEq, Repr, Inhabited

namespace Channel

def fresh (name : String) (visibility : Visibility) : Channel :=
  ⟨name, visibility, #[], .fresh, 0⟩

/-- The segments with text behind them; it joins a text at the end. -/
def appendText (segments : Array Segment) (text : String) : Array Segment :=
  match segments.back? with
  | some (.text content) => segments.pop.push (.text (content ++ text))
  | _ => segments.push (.text text)

def write (channel : Channel) (text : String) : Channel :=
  let (image, capitalizer) := channel.capitalizer.apply text.toList
  { channel with
    segments := appendText channel.segments (String.ofList image)
    capitalizer := capitalizer
    written := channel.written + image.length }

def placeTarget (channel : Channel) (target : String) : Channel :=
  { channel with segments := channel.segments.push (.target target) }

def render (channel : Channel) (targets : Targets) : String :=
  channel.segments.foldl (fun text segment => text ++ segment.render targets) ""

end Channel

/-- Name of the first channel of every sink. -/
def mainChannel : String := "main"

structure Sink where
  /-- In order of creation. -/
  channels : Array Channel
  /-- Indices of the open channels, the top first; the last is that of `main`. -/
  stack : List Nat
deriving DecidableEq, Repr

/-- One channel as part of the output. -/
structure ChannelOutput where
  name : String
  visibility : Visibility
  text : String
deriving DecidableEq, Repr

namespace Sink

def fresh : Sink :=
  ⟨#[.fresh mainChannel .shared], [0]⟩

instance : Inhabited Sink := ⟨fresh⟩

def activeIndex (sink : Sink) : Nat :=
  sink.stack.headD 0

def active (sink : Sink) : Channel :=
  sink.channels.getD sink.activeIndex default

/-- Indices that a write reaches below the indices of `reached`, which is in reverse. -/
def pathFrom (channels : Array Channel) : List Nat → List Nat → List Nat
  | [], reached => reached.reverse
  | index :: beneath, reached =>
      let reached := if reached.contains index then reached else index :: reached
      if (channels.getD index default).visibility = .shared then pathFrom channels beneath reached
      else reached.reverse

/-- Indices of the channels that a write reaches, the top first, each once. -/
def writePath (sink : Sink) : List Nat :=
  pathFrom sink.channels sink.stack []

/-- Changes every channel that a write reaches. -/
def onPath (sink : Sink) (change : Channel → Channel) : Sink :=
  { sink with
    channels := sink.writePath.foldl (fun channels index => channels.modify index change)
      sink.channels }

def write (sink : Sink) (text : String) : Sink :=
  if text.isEmpty then sink else sink.onPath (·.write text)

def placeTarget (sink : Sink) (target : String) : Sink :=
  sink.onPath (·.placeTarget target)

def indexOf? (sink : Sink) (name : String) : Option Nat :=
  sink.channels.findIdx? fun channel => channel.name = name

/-- Opens a channel, which it creates if there is none of that name. An existing channel takes the
new visibility, except `main`. -/
def push (sink : Sink) (name : String) (visibility : Visibility) : Sink :=
  match sink.indexOf? name with
  | some index =>
      { channels :=
          if index = 0 then sink.channels
          else sink.channels.modify index fun channel => { channel with visibility := visibility }
        stack := index :: sink.stack }
  | none =>
      { channels := sink.channels.push (.fresh name visibility)
        stack := sink.channels.size :: sink.stack }

/-- The stack without the topmost slot of a channel called `name`; the bottom slot stays. -/
def removeSlot? (channels : Array Channel) (name : String) : List Nat → Option (List Nat)
  | [] => none
  | [_] => none
  | index :: beneath =>
      if (channels.getD index default).name = name then some beneath
      else (removeSlot? channels name beneath).map (index :: ·)

/-- Closes the channel `name` that was opened last, if it is open. -/
def pop? (sink : Sink) (name : String) : Option Sink :=
  (removeSlot? sink.channels name sink.stack).map fun stack => { sink with stack := stack }

def setCapitalization (sink : Sink) (mode : Capitalization) : Sink :=
  { sink with
    channels := sink.channels.modify sink.activeIndex fun channel =>
      { channel with capitalizer := { channel.capitalizer with mode := mode } } }

def capitalization (sink : Sink) : Capitalization :=
  sink.active.capitalizer.mode

/-- Number of characters written to the channel on top. -/
def position (sink : Sink) : Nat :=
  sink.active.written

/-- Text of the channel `main`. -/
def mainText (sink : Sink) (targets : Targets) : String :=
  (sink.channels.getD 0 default).render targets

def replay (sink : Sink) : Segment → Sink
  | .text content => sink.write content
  | .target name => sink.placeTarget name

/-- Appends a channel to the channel of the same name, which is created if there is none. -/
def absorb (sink : Sink) (channel : Channel) : Sink :=
  let append (own : Channel) : Channel :=
    { own with
      written := own.written + channel.written
      segments := own.segments ++ channel.segments }
  match sink.indexOf? channel.name with
  | some index => { sink with channels := sink.channels.modify index append }
  | none =>
      { sink with
        channels := sink.channels.push (append (.fresh channel.name channel.visibility)) }

/-- Writes the channel `main` of `child` to `parent`, whose capitalization and visibilities apply,
and appends its other channels to those of the same names. -/
def mergeInto (child parent : Sink) : Sink :=
  let replayed := (child.channels.getD 0 default).segments.foldl replay parent
  (child.channels.toList.drop 1).foldl absorb replayed

/-- Every channel that is not hidden, in order of creation. -/
def output (sink : Sink) (targets : Targets) : List ChannelOutput :=
  (sink.channels.toList.filter fun channel => channel.visibility ≠ .hidden).map fun channel =>
    ⟨channel.name, channel.visibility, channel.render targets⟩

end Sink

/-- Text of the channel `main` of an output. -/
def mainOutput (channels : List ChannelOutput) : String :=
  ((channels.find? fun channel => channel.name = mainChannel).map ChannelOutput.text).getD ""

end SeededText.Output
