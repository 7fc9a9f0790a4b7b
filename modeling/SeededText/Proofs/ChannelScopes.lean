import Mathlib.Data.List.Nodup
import SeededText.Output.Sink

/-!
Contract: what closing a channel restores.

Between the opening of a channel and its closing a sink may be written to, and other channels may be
opened and closed, each inside the one before. Behind the closing the stack is the one before the
opening. Visibilities belong to the channels and not to the stack: a channel that was opened once
more keeps the visibility it was opened with last.

Owns: the operations of sinks, what they make of stack and visibilities, which channels the writes
behind a closing reach.
Does not own: the content of channels (`SeededText.Proofs.Growth`).
-/

namespace SeededText.Output

/-! ### Operations -/

/-- What a sink can be asked to do. -/
inductive Sink.Operation where
  | write (text : String)
  | placeTarget (target : String)
  | push (name : String) (visibility : Visibility)
  /-- Changes nothing if the channel is not open. -/
  | pop (name : String)
  | setCapitalization (mode : Capitalization)
  | merge (child : Sink)

/-- What a write sees of a channel. -/
structure Label where
  name : String
  visibility : Visibility
deriving DecidableEq, Repr

def Channel.label (channel : Channel) : Label :=
  ⟨channel.name, channel.visibility⟩

namespace Sink

def apply (sink : Sink) : Operation → Sink
  | .write text => sink.write text
  | .placeTarget target => sink.placeTarget target
  | .push name visibility => sink.push name visibility
  | .pop name => (sink.pop? name).getD sink
  | .setCapitalization mode => sink.setCapitalization mode
  | .merge child => child.mergeInto sink

def applyAll (sink : Sink) (operations : List Operation) : Sink :=
  operations.foldl apply sink

/-- Sinks that operations make of a new one. -/
inductive Reachable : Sink → Prop
  | fresh : Reachable fresh
  | apply {sink : Sink} (operation : Operation) (reachable : Reachable sink) :
      Reachable (sink.apply operation)

/-- Labels of all channels, in order of creation. -/
def labels (sink : Sink) : List Label :=
  sink.channels.toList.map Channel.label

/-- Labels of the open channels, the top first. -/
def opened (sink : Sink) : List Label :=
  sink.stack.map fun index => (sink.channels.getD index default).label

/-- Names of the channels that a write reaches, the top first. -/
def reached (sink : Sink) : List String :=
  sink.writePath.map fun index => (sink.channels.getD index default).name

/-- Writing and the like, which neither opens nor closes. -/
def Operation.IsStill : Operation → Prop
  | .push .. | .pop .. => False
  | _ => True

/-- The visibility that an operation opens the channel `name` with. -/
def Operation.opening? (name : String) : Operation → Option Visibility
  | .push other visibility => if other = name then some visibility else none
  | _ => none

/-- The visibility that the channel `name` is opened with last. -/
def lastOpening? (name : String) (operations : List Operation) : Option Visibility :=
  (operations.filterMap (Operation.opening? name)).getLast?

/-- Operations that close what they open, the last first. -/
inductive Nested : List Operation → Prop
  | nil : Nested []
  | still {operation : Operation} {rest : List Operation} (still : operation.IsStill) :
      Nested rest → Nested (operation :: rest)
  | scope (name : String) (visibility : Visibility) {inside rest : List Operation} :
      Nested inside → Nested rest → Nested (.push name visibility :: (inside ++ .pop name :: rest))

end Sink

open Sink (Operation lastOpening?)

namespace Label

/-- The visibility of `main` never changes. -/
def reopened (label : Label) (opening : Option Visibility) : Label :=
  if label.name = mainChannel then label else ⟨label.name, opening.getD label.visibility⟩

def after (label : Label) (operation : Operation) : Label :=
  label.reopened (operation.opening? label.name)

def afterAll (label : Label) (operations : List Operation) : Label :=
  operations.foldl after label

@[simp] theorem name_reopened (label : Label) (opening : Option Visibility) :
    (label.reopened opening).name = label.name := by
  unfold reopened
  split <;> rfl

@[simp] theorem reopened_none (label : Label) : label.reopened none = label := by
  unfold reopened
  split <;> rfl

@[simp] theorem name_after (label : Label) (operation : Operation) :
    (label.after operation).name = label.name :=
  label.name_reopened _

theorem after_of_main {label : Label} (main : label.name = mainChannel) (operation : Operation) :
    label.after operation = label :=
  if_pos main

theorem after_push_of_ne {label : Label} {name : String} {visibility : Visibility}
    (other : label.name ≠ name) : label.after (.push name visibility) = label := by
  simp [after, Operation.opening?, Ne.symm other]

theorem after_push_of_eq {label : Label} (notMain : label.name ≠ mainChannel)
    (visibility : Visibility) :
    label.after (.push label.name visibility) = ⟨label.name, visibility⟩ := by
  simp [after, Operation.opening?, reopened, notMain]

/-- Of all openings the last one counts. -/
theorem afterAll_eq (label : Label) (operations : List Operation) :
    label.afterAll operations = label.reopened (lastOpening? label.name operations) := by
  induction operations generalizing label with
  | nil => exact label.reopened_none.symm
  | cons operation later inductionHypothesis =>
      rw [afterAll, List.foldl_cons, ← afterAll, inductionHypothesis, name_after]
      by_cases main : label.name = mainChannel
      · simp [reopened, after, main]
      · cases opening : operation.opening? label.name <;>
          simp [lastOpening?, opening, after, reopened, main, List.getLast?_cons]

end Label

/-! ### What operations do to labels and stack -/

namespace Sink

def names (sink : Sink) : List String :=
  sink.labels.map Label.name

/-- The first channel is `main`, no name belongs to two channels, and what is open exists. -/
structure Formed (sink : Sink) : Prop where
  main : sink.labels[0]? = some ⟨mainChannel, .shared⟩
  distinct : sink.names.Nodup
  inside : ∀ index ∈ sink.stack, ∃ label, sink.labels[index]? = some label
  someOpen : sink.stack ≠ []

/-- The same channels are open, and channels that were there have kept their labels. -/
structure Keeps (earlier later : Sink) : Prop where
  stack : later.stack = earlier.stack
  labels : ∀ (index : Nat) (label : Label),
    earlier.labels[index]? = some label → later.labels[index]? = some label
  distinct : earlier.names.Nodup → later.names.Nodup

section Kept

variable {sink earlier later : Sink}

theorem Keeps.refl (sink : Sink) : sink.Keeps sink :=
  ⟨rfl, fun _ _ => id, id⟩

theorem Keeps.trans (first : earlier.Keeps sink) (second : sink.Keeps later) :
    earlier.Keeps later :=
  ⟨second.stack.trans first.stack,
    fun index label there => second.labels index label (first.labels index label there),
    fun distinct => second.distinct (first.distinct distinct)⟩

theorem Keeps.of_labels (stack : later.stack = earlier.stack)
    (labels : later.labels = earlier.labels) : earlier.Keeps later :=
  ⟨stack, fun _ _ there => by rwa [labels], fun distinct => by rwa [names, labels]⟩

theorem Keeps.foldl {α : Type} {change : Sink → α → Sink}
    (keeps : ∀ (sink : Sink) (item : α), sink.Keeps (change sink item)) (items : List α)
    (sink : Sink) : sink.Keeps (items.foldl change sink) := by
  induction items generalizing sink with
  | nil => exact .refl sink
  | cons item items inductionHypothesis => exact (keeps sink item).trans (inductionHypothesis _)

theorem getElem?_labels (sink : Sink) (index : Nat) :
    sink.labels[index]? = sink.channels[index]?.map Channel.label := by
  simp [labels]

theorem exists_of_label {index : Nat} {label : Label} (there : sink.labels[index]? = some label) :
    ∃ channel, sink.channels[index]? = some channel ∧ channel.label = label :=
  Option.map_eq_some_iff.mp ((sink.getElem?_labels index).symm.trans there)

/-- What is open is there. -/
theorem Formed.exists_channel (formed : sink.Formed) {index : Nat} (isOpen : index ∈ sink.stack) :
    ∃ channel, sink.channels[index]? = some channel := by
  obtain ⟨label, there⟩ := formed.inside index isOpen
  obtain ⟨channel, found, -⟩ := exists_of_label there
  exact ⟨channel, found⟩

theorem labels_modify {channels : Array Channel} (index : Nat) {change : Channel → Channel}
    (same : ∀ channel : Channel, (change channel).label = channel.label) :
    (channels.modify index change).toList.map Channel.label =
      channels.toList.map Channel.label := by
  refine List.ext_getElem? fun place => ?_
  simp only [List.getElem?_map, Array.getElem?_toList, Array.getElem?_modify]
  split
  · cases channels[place]? <;> simp [same]
  · rfl

theorem keeps_onPath (sink : Sink) {change : Channel → Channel}
    (same : ∀ channel : Channel, (change channel).label = channel.label) :
    sink.Keeps (sink.onPath change) := by
  have along (indices : List Nat) (channels : Array Channel) :
      (indices.foldl (fun channels index => channels.modify index change) channels).toList.map
          Channel.label = channels.toList.map Channel.label := by
    induction indices generalizing channels with
    | nil => rfl
    | cons index indices inductionHypothesis =>
        exact (inductionHypothesis _).trans (labels_modify index same)
  exact .of_labels rfl (along sink.writePath sink.channels)

theorem keeps_write (sink : Sink) (text : String) : sink.Keeps (sink.write text) := by
  unfold write
  split
  · exact .refl sink
  · exact sink.keeps_onPath fun _ => rfl

theorem keeps_placeTarget (sink : Sink) (target : String) : sink.Keeps (sink.placeTarget target) :=
  sink.keeps_onPath fun _ => rfl

theorem keeps_setCapitalization (sink : Sink) (mode : Capitalization) :
    sink.Keeps (sink.setCapitalization mode) :=
  .of_labels rfl (labels_modify _ fun _ => rfl)

theorem keeps_replay (sink : Sink) (segment : Segment) : sink.Keeps (sink.replay segment) := by
  cases segment with
  | text content => exact sink.keeps_write content
  | target name => exact sink.keeps_placeTarget name

/-- The channel that a name stands for. -/
theorem label_of_indexOf {name : String} {index : Nat} (found : sink.indexOf? name = some index) :
    ∃ visibility, sink.labels[index]? = some ⟨name, visibility⟩ := by
  obtain ⟨inside, named, -⟩ := Array.findIdx?_eq_some_iff_getElem.mp found
  refine ⟨sink.channels[index].visibility, ?_⟩
  rw [getElem?_labels, Array.getElem?_eq_getElem inside]
  simpa [Channel.label] using of_decide_eq_true named

theorem notMem_names {name : String} (none : sink.indexOf? name = none) : name ∉ sink.names := by
  have others := Array.findIdx?_eq_none_iff.mp none
  simp only [names, labels, List.map_map, List.mem_map, not_exists, not_and]
  intro channel there named
  exact absurd named (of_decide_eq_false (others channel (Array.mem_toList_iff.mp there)))

/-- A channel of a new name comes behind those that are there. -/
theorem labels_create (sink : Sink) (channel : Channel) (stack : List Nat) :
    labels ⟨sink.channels.push channel, stack⟩ = sink.labels ++ [channel.label] := by
  simp [labels]

theorem names_create (sink : Sink) (channel : Channel) (stack : List Nat) :
    names ⟨sink.channels.push channel, stack⟩ = sink.names.concat channel.name := by
  simp [names, labels_create, Channel.label]

theorem getElem?_labels_create {index : Nat} {label : Label} {channel : Channel} {stack : List Nat}
    (there : sink.labels[index]? = some label) :
    (labels ⟨sink.channels.push channel, stack⟩)[index]? = some label := by
  obtain ⟨inside, -⟩ := List.getElem?_eq_some_iff.mp there
  rw [labels_create, List.getElem?_append_left inside, there]

theorem keeps_create {channel : Channel} (new : channel.name ∉ sink.names) :
    sink.Keeps { sink with channels := sink.channels.push channel } where
  stack := rfl
  labels _ _ there := getElem?_labels_create there
  distinct distinct := names_create sink channel sink.stack ▸ distinct.concat new

theorem keeps_absorb (sink : Sink) (channel : Channel) : sink.Keeps (sink.absorb channel) := by
  unfold absorb
  split
  · exact .of_labels rfl (labels_modify _ fun _ => rfl)
  · next none => exact keeps_create (notMem_names none)

/-- Taking over another sink leaves stack and labels. -/
theorem keeps_mergeInto (child parent : Sink) : parent.Keeps (child.mergeInto parent) := by
  unfold mergeInto
  rw [← Array.foldl_toList]
  exact (Keeps.foldl keeps_replay _ parent).trans (Keeps.foldl keeps_absorb _ _)

theorem keeps_apply (sink : Sink) {operation : Operation} (still : operation.IsStill) :
    sink.Keeps (sink.apply operation) := by
  cases operation with
  | write text => exact sink.keeps_write text
  | placeTarget target => exact sink.keeps_placeTarget target
  | push | pop => exact still.elim
  | setCapitalization mode => exact sink.keeps_setCapitalization mode
  | merge child => exact keeps_mergeInto child sink

end Kept

section Formed

variable {sink : Sink} {name : String} {visibility : Visibility}

/-- A name stands for one channel. -/
theorem Formed.index_unique (formed : sink.Formed) {first second : Nat} {label other : Label}
    (atFirst : sink.labels[first]? = some label) (atSecond : sink.labels[second]? = some other)
    (same : label.name = other.name) : first = second := by
  obtain ⟨inside, -⟩ := List.getElem?_eq_some_iff.mp atFirst
  refine (List.getElem?_inj (by simpa [names] using inside) formed.distinct).mp ?_
  rw [names, List.getElem?_map, List.getElem?_map, atFirst, atSecond]
  exact congrArg some same

theorem Formed.of_keeps {later : Sink} (formed : sink.Formed) (keeps : sink.Keeps later) :
    later.Formed where
  main := keeps.labels _ _ formed.main
  distinct := keeps.distinct formed.distinct
  inside index onStack := by
    obtain ⟨label, there⟩ := formed.inside index (keeps.stack ▸ onStack)
    exact ⟨label, keeps.labels _ _ there⟩
  someOpen := keeps.stack ▸ formed.someOpen

/-- A name that stands for `main` stands for the first channel. -/
theorem Formed.main_iff (formed : sink.Formed) {index : Nat} {label : Label}
    (there : sink.labels[index]? = some label) : label.name = mainChannel ↔ index = 0 := by
  constructor
  · intro named
    exact formed.index_unique there formed.main named
  · rintro rfl
    rw [formed.main] at there
    cases there
    rfl

/-- What an opening makes of the labels that were there. -/
structure Opens (name : String) (visibility : Visibility) (earlier later : Sink) (top : Nat) :
    Prop where
  stack : later.stack = top :: earlier.stack
  opened : later.labels[top]? =
    some ⟨name, if name = mainChannel then .shared else visibility⟩
  labels : ∀ (index : Nat) (label : Label), earlier.labels[index]? = some label →
    later.labels[index]? = some (label.after (.push name visibility))
  distinct : earlier.names.Nodup → later.names.Nodup

/-- An opening of a channel that is there changes the label of that channel only. -/
theorem Formed.labels_reopen (formed : sink.Formed) {index : Nat}
    (found : sink.indexOf? name = some index) (visibility : Visibility) (stack : List Nat) :
    labels ⟨if index = 0 then sink.channels else
        sink.channels.modify index fun channel => { channel with visibility := visibility },
          stack⟩ =
      sink.labels.map (·.after (.push name visibility)) := by
  obtain ⟨previous, opened⟩ := label_of_indexOf found
  have first : name = mainChannel ↔ index = 0 := formed.main_iff opened
  refine List.ext_getElem? fun place => ?_
  rw [List.getElem?_map]
  rcases there : sink.labels[place]? with _ | label
  · rw [getElem?_labels] at there ⊢
    split <;> simp [Array.getElem?_modify, Option.map_eq_none_iff.mp there]
  · by_cases same : label.name = name
    · subst same
      obtain rfl := formed.index_unique there opened rfl
      rw [getElem?_labels, Option.map_some]
      obtain ⟨channel, atIndex, labelled⟩ := exists_of_label there
      split
      · next isFirst =>
          rw [Label.after_of_main (first.mpr isFirst), ← labelled]
          exact congrArg _ atIndex
      · next notFirst =>
          rw [Label.after_push_of_eq (mt first.mp notFirst), ← labelled]
          simp [Array.getElem?_modify, atIndex, Channel.label]
    · have other : index ≠ place := by
        rintro rfl
        exact same (by simpa [opened] using congrArg (Option.map Label.name) there.symm)
      rw [Option.map_some, Label.after_push_of_ne same, ← there, getElem?_labels, getElem?_labels]
      split
      · rfl
      · rw [Array.getElem?_modify, if_neg other]

theorem Formed.opens_push (formed : sink.Formed) (name : String) (visibility : Visibility) :
    ∃ top, sink.Opens name visibility (sink.push name visibility) top := by
  unfold push
  split
  · next index found =>
      obtain ⟨previous, there⟩ := label_of_indexOf found
      have same := formed.labels_reopen found visibility (index :: sink.stack)
      refine ⟨index, rfl, ?_, fun place label there => ?_, fun distinct => ?_⟩
      · rw [same, List.getElem?_map, there]
        split
        · next main =>
            subst main
            obtain rfl := (formed.main_iff there).mp rfl
            rw [formed.main] at there
            cases there
            rfl
        · next notMain => exact congrArg some (Label.after_push_of_eq notMain visibility)
      · rw [same, List.getElem?_map, there, Option.map_some]
      · rw [names, same]
        simpa [names, Function.comp_def] using distinct
  · next none =>
      have new : name ∉ sink.names := notMem_names none
      have notMain : name ≠ mainChannel := by
        rintro rfl
        exact new (List.mem_map.mpr ⟨_, List.mem_of_getElem? formed.main, rfl⟩)
      refine ⟨sink.channels.size, rfl, ?_, fun index label there => ?_, fun distinct => ?_⟩
      · rw [labels_create, if_neg notMain]
        simp [labels, Channel.label, Channel.fresh]
      · rw [Label.after_push_of_ne fun same => new (List.mem_map.mpr
          ⟨_, List.mem_of_getElem? there, same⟩)]
        exact getElem?_labels_create there
      · rw [names_create]
        exact distinct.concat new

theorem Opens.formed {later : Sink} {top : Nat} (formed : sink.Formed)
    (opens : sink.Opens name visibility later top) : later.Formed where
  main := by
    rw [opens.labels _ _ formed.main, Label.after_of_main rfl]
  distinct := opens.distinct formed.distinct
  inside index onStack := by
    rw [opens.stack] at onStack
    rcases List.mem_cons.mp onStack with rfl | beneath
    · exact ⟨_, opens.opened⟩
    · obtain ⟨label, there⟩ := formed.inside index beneath
      exact ⟨_, opens.labels index label there⟩
  someOpen := by simp [opens.stack]

end Formed

/-! ### Closing -/

section Closing

variable {sink : Sink} {name : String} {stack : List Nat}

theorem removeSlot_cons (channels : Array Channel) (index : Nat) (beneath : stack ≠ []) :
    removeSlot? channels name (index :: stack) =
      if (channels.getD index default).name = name then some stack
      else (removeSlot? channels name stack).map (index :: ·) := by
  obtain ⟨next, further, rfl⟩ := List.exists_cons_of_ne_nil beneath
  rfl

/-- What is left of a stack was on it, and something is left. -/
theorem of_removeSlot {channels : Array Channel} {rest : List Nat}
    (removed : removeSlot? channels name stack = some rest) :
    (∀ index ∈ rest, index ∈ stack) ∧ rest ≠ [] := by
  induction stack generalizing rest with
  | nil => cases removed
  | cons index beneath inductionHypothesis =>
      by_cases bottom : beneath = []
      · subst bottom
        cases removed
      · rw [removeSlot_cons channels index bottom] at removed
        split at removed
        · cases removed
          exact ⟨fun _ => List.mem_cons_of_mem _, bottom⟩
        · obtain ⟨left, further, rfl⟩ := Option.map_eq_some_iff.mp removed
          obtain ⟨inside, -⟩ := inductionHypothesis further
          refine ⟨fun other there => ?_, List.cons_ne_nil _ _⟩
          rcases List.mem_cons.mp there with rfl | there
          · exact List.mem_cons_self
          · exact List.mem_cons_of_mem _ (inside other there)

theorem Formed.pop {closed : Sink} (formed : sink.Formed) (popped : sink.pop? name = some closed) :
    closed.Formed := by
  obtain ⟨rest, removed, rfl⟩ := Option.map_eq_some_iff.mp popped
  obtain ⟨inside, someOpen⟩ := of_removeSlot removed
  exact ⟨formed.main, formed.distinct, fun index onStack => formed.inside index (inside _ onStack),
    someOpen⟩

theorem getD_label {index : Nat} {label : Label} (there : sink.labels[index]? = some label) :
    (sink.channels.getD index default).label = label := by
  obtain ⟨channel, found, rfl⟩ := exists_of_label there
  rw [Array.getD_eq_getD_getElem?, found]
  rfl

/-- A channel on top of another one is closed by its name. -/
theorem pop_of_top {top : Nat} {label : Label} (onTop : sink.stack = top :: stack)
    (beneath : stack ≠ []) (there : sink.labels[top]? = some label) :
    sink.pop? label.name = some { sink with stack := stack } := by
  rw [pop?, onTop, removeSlot_cons _ _ beneath, ← getD_label there]
  exact congrArg (Option.map _) (if_pos rfl)

theorem Formed.apply (formed : sink.Formed) (operation : Operation) :
    (sink.apply operation).Formed := by
  cases operation with
  | push name visibility =>
      obtain ⟨top, opens⟩ := formed.opens_push name visibility
      exact opens.formed formed
  | pop name =>
      cases popped : sink.pop? name with
      | none => simpa [Sink.apply, popped] using formed
      | some closed => simpa [Sink.apply, popped] using formed.pop popped
  | _ => exact formed.of_keeps (sink.keeps_apply (by trivial))

theorem formed_fresh : fresh.Formed where
  main := rfl
  distinct := by simp [names, labels, fresh]
  inside index onStack := by
    obtain rfl := List.mem_singleton.mp onStack
    exact ⟨_, rfl⟩
  someOpen := List.cons_ne_nil _ _

theorem Reachable.formed (reachable : sink.Reachable) : sink.Formed := by
  induction reachable with
  | fresh => exact formed_fresh
  | apply operation _ inductionHypothesis => exact inductionHypothesis.apply operation

theorem Formed.applyAll (formed : sink.Formed) (operations : List Operation) :
    (sink.applyAll operations).Formed := by
  induction operations generalizing sink with
  | nil => exact formed
  | cons operation later inductionHypothesis => exact inductionHypothesis (formed.apply operation)

theorem channels_pop (sink : Sink) (name : String) :
    (sink.apply (.pop name)).channels = sink.channels := by
  rw [Sink.apply, pop?]
  cases removeSlot? sink.channels name sink.stack <;> rfl

/-- Labels change by openings only. -/
theorem Formed.labels_apply (formed : sink.Formed) (operation : Operation) {index : Nat}
    {label : Label} (there : sink.labels[index]? = some label) :
    (sink.apply operation).labels[index]? = some (label.after operation) := by
  cases operation with
  | push name visibility =>
      obtain ⟨top, opens⟩ := formed.opens_push name visibility
      exact opens.labels index label there
  | pop name =>
      rw [labels, channels_pop, ← labels, there]
      exact congrArg some label.reopened_none.symm
  | _ =>
      rw [(sink.keeps_apply (by trivial)).labels index label there]
      exact congrArg some label.reopened_none.symm

theorem Formed.labels_applyAll (formed : sink.Formed) (operations : List Operation) {index : Nat}
    {label : Label} (there : sink.labels[index]? = some label) :
    (sink.applyAll operations).labels[index]? = some (label.afterAll operations) := by
  induction operations generalizing sink label with
  | nil => exact there
  | cons operation later inductionHypothesis =>
      exact inductionHypothesis (formed.apply operation) (formed.labels_apply operation there)

theorem applyAll_append (sink : Sink) (first second : List Operation) :
    sink.applyAll (first ++ second) = (sink.applyAll first).applyAll second :=
  List.foldl_append

/-- A channel that is on top again is closed by its name, and what was open before is left. -/
theorem Formed.pop_scope (formed : sink.Formed) (name : String) (visibility : Visibility)
    {inside : List Operation}
    (same : ((sink.push name visibility).applyAll inside).stack =
      (sink.push name visibility).stack) :
    ((sink.push name visibility).applyAll inside).pop? name =
      some { (sink.push name visibility).applyAll inside with stack := sink.stack } := by
  obtain ⟨top, opens⟩ := formed.opens_push name visibility
  have there := (opens.formed formed).labels_applyAll inside opens.opened
  have closed := pop_of_top (same.trans opens.stack) formed.someOpen there
  rwa [Label.afterAll_eq, Label.name_reopened] at closed

end Closing

/-- What opens and closes in turn leaves the stack. -/
theorem Nested.stack_applyAll {operations : List Operation} (nested : Nested operations)
    {sink : Sink} (formed : sink.Formed) : (sink.applyAll operations).stack = sink.stack := by
  induction nested generalizing sink with
  | nil => rfl
  | still still _ inductionHypothesis =>
      exact (inductionHypothesis (formed.apply _)).trans (sink.keeps_apply still).stack
  | @scope name visibility inside rest _ _ stackInside stackBehind =>
      have opened := formed.apply (.push name visibility)
      have closed := formed.pop_scope name visibility (stackInside opened)
      have behind := (opened.applyAll inside).apply (.pop name)
      have apart : sink.applyAll (.push name visibility :: (inside ++ .pop name :: rest)) =
          ((((sink.apply (.push name visibility)).applyAll inside).apply (.pop name)).applyAll
            rest) :=
        Sink.applyAll_append (sink.apply (.push name visibility)) inside (.pop name :: rest)
      rw [apart, stackBehind behind]
      simp [Sink.apply, closed]

end Sink

/-! ### What writes reach -/

/-- The labels that are open without the topmost one called `name`; the last one stays. -/
def removeLabel? (name : String) : List Label → Option (List Label)
  | [] => none
  | [_] => none
  | label :: beneath =>
      if label.name = name then some beneath
      else (removeLabel? name beneath).map (label :: ·)

/-- The labels that are open behind an operation. -/
def openedAfter (opened : List Label) : Operation → List Label
  | .push name visibility =>
      ⟨name, if name = mainChannel then .shared else visibility⟩ ::
        opened.map (·.after (.push name visibility))
  | .pop name => (removeLabel? name opened).getD opened
  | _ => opened

/-- Names that a write reaches below those of `reached`, which is in reverse. -/
def namesFrom : List Label → List String → List String
  | [], reached => reached.reverse
  | label :: beneath, reached =>
      let reached := if reached.contains label.name then reached else label.name :: reached
      if label.visibility = .shared then namesFrom beneath reached else reached.reverse

namespace Sink

section Reached

variable {sink : Sink}

theorem removeLabel_map (channels : Array Channel) (name : String) (stack : List Nat) :
    removeLabel? name (stack.map fun index => (channels.getD index default).label) =
      (removeSlot? channels name stack).map
        (·.map fun index => (channels.getD index default).label) := by
  induction stack with
  | nil => rfl
  | cons index beneath inductionHypothesis =>
      cases beneath with
      | nil => rfl
      | cons next further =>
          rw [removeSlot_cons _ _ (List.cons_ne_nil _ _)]
          by_cases named : (channels.getD index default).name = name
          · rw [if_pos named]
            exact if_pos named
          · rw [if_neg named, Option.map_map]
            refine (if_neg named).trans ?_
            refine (congrArg (Option.map _) inductionHypothesis).trans ?_
            rw [Option.map_map]
            rfl

theorem opened_eq {earlier later : Sink} {change : Label → Label} {stack : List Nat}
    (inside : ∀ index ∈ stack, ∃ label, earlier.labels[index]? = some label)
    (labels : ∀ (index : Nat) (label : Label), earlier.labels[index]? = some label →
      later.labels[index]? = some (change label)) :
    (stack.map fun index => (later.channels.getD index default).label) =
      (stack.map fun index => (earlier.channels.getD index default).label).map change := by
  rw [List.map_map]
  refine List.map_congr_left fun index onStack => ?_
  obtain ⟨label, there⟩ := inside index onStack
  rw [getD_label (labels index label there), Function.comp_apply, getD_label there]

theorem Formed.opened_keeps (formed : sink.Formed) {later : Sink} (keeps : sink.Keeps later) :
    later.opened = sink.opened := by
  rw [opened, keeps.stack, opened_eq formed.inside keeps.labels]
  exact List.map_id _

/-- What is open behind an operation depends only on what was open before. -/
theorem Formed.opened_apply (formed : sink.Formed) (operation : Operation) :
    (sink.apply operation).opened = openedAfter sink.opened operation := by
  cases operation with
  | push name visibility =>
      obtain ⟨top, opens⟩ := formed.opens_push name visibility
      rw [opened, Sink.apply, opens.stack, List.map_cons, getD_label opens.opened,
        opened_eq formed.inside opens.labels]
      rfl
  | pop name =>
      rw [opened, channels_pop, openedAfter, opened, removeLabel_map]
      simp only [Sink.apply, pop?]
      cases removeSlot? sink.channels name sink.stack <;> rfl
  | _ => exact formed.opened_keeps (sink.keeps_apply (by trivial))

/-- A channel has been reached if and only if its name has. -/
theorem Formed.contains_name (formed : sink.Formed) {index : Nat} {reached : List Nat}
    (there : ∃ label, sink.labels[index]? = some label)
    (onPath : ∀ index ∈ reached, ∃ label, sink.labels[index]? = some label) :
    (reached.map fun index => (sink.channels.getD index default).name).contains
        (sink.channels.getD index default).name = reached.contains index := by
  rw [Bool.eq_iff_iff, List.contains_iff_mem, List.contains_iff_mem, List.mem_map]
  constructor
  · rintro ⟨other, before, same⟩
    obtain ⟨label, atIndex⟩ := there
    obtain ⟨otherLabel, atOther⟩ := onPath other before
    have names : otherLabel.name = label.name := by
      rw [← getD_label atIndex, ← getD_label atOther]
      exact same
    exact formed.index_unique atOther atIndex names ▸ before
  · exact fun before => ⟨index, before, rfl⟩

/-- A write goes over names as it goes over channels. -/
theorem Formed.namesFrom_opened (formed : sink.Formed) (stack reached : List Nat)
    (onStack : ∀ index ∈ stack, ∃ label, sink.labels[index]? = some label)
    (onPath : ∀ index ∈ reached, ∃ label, sink.labels[index]? = some label) :
    (pathFrom sink.channels stack reached).map
        (fun index => (sink.channels.getD index default).name) =
      namesFrom (stack.map fun index => (sink.channels.getD index default).label)
        (reached.map fun index => (sink.channels.getD index default).name) := by
  induction stack generalizing reached with
  | nil => exact List.map_reverse
  | cons index beneath inductionHypothesis =>
      obtain ⟨top, onBeneath⟩ := List.forall_mem_cons.mp onStack
      rw [pathFrom, List.map_cons, namesFrom, Channel.label, formed.contains_name top onPath]
      have both : ∀ other ∈ index :: reached, ∃ label, sink.labels[other]? = some label :=
        List.forall_mem_cons.mpr ⟨top, onPath⟩
      by_cases seen : reached.contains index
      · simp only [seen, if_true]
        split
        · exact inductionHypothesis reached onBeneath onPath
        · exact List.map_reverse
      · simp only [seen]
        split
        · exact inductionHypothesis (index :: reached) onBeneath both
        · exact List.map_reverse

/-- Which channels a write reaches depends only on what is open. -/
theorem Formed.reached_eq (formed : sink.Formed) : sink.reached = namesFrom sink.opened [] :=
  formed.namesFrom_opened sink.stack [] formed.inside (by simp)

/-- Sinks with the same labels open are written to alike, whatever is done to both. -/
theorem Formed.reached_applyAll {other : Sink} (formed : sink.Formed) (otherFormed : other.Formed)
    (same : other.opened = sink.opened) (operations : List Operation) :
    (other.applyAll operations).reached = (sink.applyAll operations).reached := by
  induction operations generalizing sink other with
  | nil =>
      change other.reached = sink.reached
      rw [formed.reached_eq, otherFormed.reached_eq, same]
  | cons operation later inductionHypothesis =>
      refine inductionHypothesis (formed.apply operation) (otherFormed.apply operation) ?_
      rw [formed.opened_apply, otherFormed.opened_apply, same]

/-- Behind the closing of a channel the channels are open that were open before its opening, and
every channel has the visibility of its last opening. Where that is what it was, every later write
reaches what it would have reached. -/
theorem Reachable.closing_restores (reachable : sink.Reachable) (name : String)
    (visibility : Visibility) {inside : List Operation} (nested : Nested inside) :
    ∃ closed, ((sink.push name visibility).applyAll inside).pop? name = some closed ∧
      closed.stack = sink.stack ∧
      (∀ (index : Nat) (label : Label), sink.labels[index]? = some label →
        closed.labels[index]? =
          some (label.reopened (lastOpening? label.name (.push name visibility :: inside)))) ∧
      ((∀ label ∈ sink.opened,
          label.reopened (lastOpening? label.name (.push name visibility :: inside)) = label) →
        ∀ later, (closed.applyAll later).reached = (sink.applyAll later).reached) := by
  have formed := reachable.formed
  have opened := formed.apply (.push name visibility)
  have popped := formed.pop_scope name visibility (nested.stack_applyAll opened)
  have labels (index : Nat) (label : Label) (there : sink.labels[index]? = some label) :=
    formed.labels_applyAll (.push name visibility :: inside) there
  refine ⟨_, popped, rfl, fun index label there => ?_, fun same later => ?_⟩
  · rw [← Label.afterAll_eq]
    exact labels index label there
  · refine formed.reached_applyAll ((opened.applyAll inside).pop popped) ?_ later
    refine (opened_eq formed.inside labels).trans ?_
    refine (List.map_congr_left fun label there => ?_).trans (List.map_id _)
    rw [Label.afterAll_eq]
    exact same label there

end Reached

/-! ### A channel that is open twice -/

namespace OpenTwice

/-- Writes reach `notes` and go on to `main`. -/
def sink : Sink :=
  fresh.push "notes" .shared

theorem reachable_sink : sink.Reachable :=
  .apply (.push "notes" .shared) .fresh

/-- Closing the channel does not give back the visibility that it had before it was opened again:
what is written behind no longer goes on to `main`. -/
theorem confined_behind :
    sink.Reachable ∧ Nested [] ∧
      sink.opened = [⟨"notes", .shared⟩, ⟨"main", .shared⟩] ∧ sink.reached = ["notes", "main"] ∧
      ∃ closed, (sink.push "notes" .confined).pop? "notes" = some closed ∧
        closed.opened = [⟨"notes", .confined⟩, ⟨"main", .shared⟩] ∧ closed.reached = ["notes"] := by
  refine ⟨reachable_sink, .nil, by cbv, by cbv,
    ⟨#[.fresh "main" .shared, .fresh "notes" .confined], [1, 0]⟩, by cbv, rfl, rfl⟩

/-- Another channel, inside of which `notes` is opened as it was, changes nothing. -/
def inside : List Operation :=
  [.write "x", .push "notes" .shared, .placeTarget "here", .pop "notes"]

theorem nested_inside : Nested inside := by
  have writes : Operation.IsStill (.write "x") := trivial
  have places : Operation.IsStill (.placeTarget "here") := trivial
  exact .still writes (.scope "notes" .shared (.still places .nil) .nil)

theorem restored_behind :
    ∃ closed, ((sink.push "draft" .hidden).applyAll inside).pop? "draft" = some closed ∧
      closed.stack = [1, 0] ∧ closed.labels[1]? = some ⟨"notes", .shared⟩ ∧
      ∀ later, (closed.applyAll later).reached = (sink.applyAll later).reached := by
  obtain ⟨closed, popped, stack, labels, reached⟩ :=
    reachable_sink.closing_restores "draft" .hidden nested_inside
  refine ⟨closed, popped, stack.trans (by cbv), labels 1 ⟨"notes", .shared⟩ (by cbv), ?_⟩
  exact reached (by decide +kernel)

end OpenTwice

end Sink

end SeededText.Output
