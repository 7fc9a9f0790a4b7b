import SeededText.Proofs.Captures
import SeededText.Proofs.Gathering
import SeededText.Proofs.Iteration
import SeededText.Proofs.Verbatim

/-!
Contract: a replacer prints its input with a text of its own in place of each match.

First the input is evaluated, then the replacement once for each match in it, from left to right.
Between two evaluations the activation of the replacer waits with what is left to be done: the
matches that are left, and what has been made of the text before them. While the replacement is
evaluated for a match, that match lies on the stack of matches, above those from before the
replacer. At any time what has been made, and behind it what is left with a text for each match, is
the text that will be printed. That is what the induction on the matches carries.

Owns: what a replacer does in a run, one match, all matches.
Does not own: the order of matches and putting the text together (`SeededText.Proofs.MatchRanges`),
what code learns of a match (`SeededText.Proofs.Captures`), evaluating code for its text
(`SeededText.Proofs.Gathering`).
-/

namespace SeededText

/-! ### The tag `[match]` -/

namespace Code

variable {code : Code}

/-- Code that is the tag `[match]`. -/
def IsMatchTag (code : Code) : Prop :=
  code.tokens.toList.map (fun token => (token.kind, token.value)) =
    [(.opens .square, "["), (.text, "match"), (.closes .square, "]")]

/-- The tokens of code are those at the indices from its start on. -/
theorem getElem?_tokens (code : Code) (index : Nat) :
    code.tokens[index]? = code.tokenAt? (code.span.start + index) := by
  unfold tokens Pattern.slice tokenAt?
  rw [Array.getElem?_extract]
  by_cases inside : code.span.start + index < code.span.stop
  · rw [if_pos inside]
    split
    · rfl
    · next outside => rw [Array.getElem?_eq_none (by omega)]
  · rw [if_neg inside, if_neg (by omega)]

theorem IsMatchTag.exists_tokens (isMatch : code.IsMatchTag) :
    ∃ first name closer, code.tokens = #[first, name, closer] ∧ first.kind = .opens .square ∧
      name.kind = .text ∧ name.value = "match" ∧ closer.kind = .closes .square := by
  obtain ⟨first, _, tokens, opens, rest⟩ := List.map_eq_cons_iff.mp isMatch
  obtain ⟨name, _, rfl, names, rest⟩ := List.map_eq_cons_iff.mp rest
  obtain ⟨closer, _, rfl, closes, rest⟩ := List.map_eq_cons_iff.mp rest
  obtain rfl := List.map_eq_nil_iff.mp rest
  exact ⟨first, name, closer, Array.toList_inj.mp tokens, congrArg Prod.fst opens,
    congrArg Prod.fst names, congrArg Prod.snd names, congrArg Prod.fst closes⟩

end Code

namespace Pattern

theorem scopeClose_match {pattern : Pattern} {start : Nat} {first name closer : Token}
    (opener : pattern.tokens[start]? = some first)
    (opens : first.kind = .opens .square) (second : pattern.tokens[start + 1]? = some name)
    (named : name.kind = .text) (last : pattern.tokens[start + 2]? = some closer)
    (closes : closer.kind = .closes .square) : pattern.scopeClose start = .ok (start + 2) := by
  obtain ⟨inside, second⟩ := Array.getElem?_eq_some_iff.mp second
  obtain ⟨further, last⟩ := Array.getElem?_eq_some_iff.mp last
  have found : pattern.closeFrom first [.square] (start + 2) = .ok (start + 2) := by
    rw [closeFrom, dif_pos further]
    simp [last, closes]
  have passed : pattern.closeFrom first [.square] (start + 1) = .ok (start + 2) := by
    rw [closeFrom, dif_pos inside]
    simp [second, named, found]
  simp only [scopeClose, opener, opens, passed]

end Pattern

namespace Machine

open Output SeededText.Machine.Configuration

section MatchTag

variable {pattern : Pattern} {start : Nat} {context : Context} {workspace : Workspace}
  {first name : Pattern.Token}

theorem Context.readConstruct_match (same : context.pattern = pattern)
    (opens : first.kind = .opens .square) (second : pattern.tokens[start + 1]? = some name)
    (named : name.kind = .text) (called : name.value = "match") :
    context.readConstruct workspace start (start + 2 + 1) first =
      .ok (workspace, .tag .matchedText first.position []) := by
  have notBlank : pattern.skipBlanks (start + 1) (start + 2) = start + 1 := by
    apply Pattern.skipBlanks_of_solid
    simp [Pattern.kindAt?_of_getElem? second, named]
  have isName : Pattern.isName "match" = true := by decide
  have spans : context.argumentSpans (start + 2) (start + 2) "match" = .ok [] :=
    context.argumentSpans_self (start + 2) _
  have inside : start + 1 < start + 2 := Nat.lt_succ_self _
  have tag : context.callTag workspace first.position (start + 1) name (start + 2) =
      .ok (workspace, .tag .matchedText first.position []) := by
    simp only [Context.callTag, called, isName, if_true, spans, bind, Except.bind]
    rfl
  simp only [Context.readConstruct, opens, Context.readTag, same, Nat.add_sub_cancel, notBlank,
    if_pos inside, second, named, tag]

end MatchTag

section Inserting

variable {engine : Engine} {store : Store} {top : Activation} {code : Code}
  {block : List Activation} {sinks : Array Sink} {matched : MatchData} {outer : List MatchData}
  {started : Configuration} {position : Pattern.Position}

/-- What is written goes to one sink. -/
theorem Store.sinks_write (store : Store) (sink : Nat) (text : String) :
    (store.absorb sink ((store.workspace sink).write text)).sinks =
      store.sinks.setIfInBounds sink ((store.sinkAt sink).write text) := by
  rw [Workspace.write_eq]
  rfl

theorem Store.sinks_write_fresh (store : Store) (opened : store.sinks = sinks.push .fresh)
    (text : String) :
    (store.absorb sinks.size ((store.workspace sinks.size).write text)).sinks =
      sinks.push (Sink.fresh.write text) := by
  have fresh : store.sinkAt sinks.size = .fresh := by
    simp [Store.sinkAt, opened]
  rw [store.sinks_write, fresh, opened]
  grind

/-- An activation that is not at a match lies directly on a block. -/
theorem Configuration.InMatch.of_resting {found : List MatchData}
    (resting : top.isReplacing = false) (beneath : store.matchStack = found) :
    InMatch block found ⟨store, top :: block⟩ := by
  refine ⟨[top], [], rfl, beneath, ?_⟩
  rw [countP_cons_eq_toNat_add, resting]
  rfl

/-- The task that the tag leaves. -/
def matchCall (position : Pattern.Position) : Task :=
  .callTag ⟨.matchedText, position, .start []⟩

/-- The tag is read in one step. -/
theorem Configuration.exists_steps_match (isMatch : top.code.IsMatchTag) (idle : top.tasks = [])
    (starts : top.cursor = top.code.span.start) :
    ∃ position, Steps engine ⟨store, top :: block⟩
        ⟨store, { top.busy (matchCall position) with cursor := top.cursor + 3 } :: block⟩ ∧
      ¬ top.IsAtEnd ∧ top.code.tokenAt? (top.cursor + 3) = none := by
  obtain ⟨first, name, closer, tokens, bracket, named, called, closes⟩ := isMatch.exists_tokens
  have token (index : Nat) : top.code.tokenAt? (top.cursor + index) =
      #[first, name, closer][index]? := by
    rw [← tokens, starts]
    exact (Code.getElem?_tokens top.code index).symm
  have second := (Code.read_of_tokenAt? (token 1)).2
  have scope : top.pattern.scopeClose top.cursor = .ok (top.cursor + 2) :=
    Pattern.scopeClose_match (Code.read_of_tokenAt? (token 0)).2 bracket second named
      (Code.read_of_tokenAt? (token 2)).2 closes
  have read : (top.context engine store).readConstruct (store.workspace top.sink) top.cursor
      (top.cursor + 2 + 1) first =
      .ok (store.workspace top.sink, .tag .matchedText first.position []) :=
    Context.readConstruct_match rfl bracket second named called
  have next : top.nextToken? = some first := token 0
  have unread : ¬ top.IsAtEnd := by
    rintro ⟨-, ended⟩
    rw [next] at ended
    cases ended
  refine ⟨first.position, ?_, unread, token 3⟩
  apply Steps.of_read idle next (Context.constructStop_of_close bracket scope) read
  rw [store.absorb_workspace]
  rfl

/-- The tag writes the text of the match on top. -/
theorem Configuration.steps_matchCall (tasks : top.tasks = [matchCall position])
    (found : store.matchStack = matched :: outer) :
    Steps engine ⟨store, top :: block⟩
      ⟨store.absorb top.sink ((store.workspace top.sink).write matched.text),
        top.idle top.elseArmed :: block⟩ := by
  have sees : (top.context engine store).scope.found? = some matched := by
    show store.matchStack.head? = some matched
    rw [found]
    rfl
  have performed : Invocation.perform (.mk (top.context engine store) position [])
      (store.workspace top.sink) .matchedText =
      .ok (Invocation.write (.mk (top.context engine store) position [])
        (store.workspace top.sink) matched.text) :=
    Invocation.perform_matchedText sees _
  have resumed : (top.context engine store).resume store top.sink (matchCall position) =
      .ok ⟨store.absorb top.sink ((store.workspace top.sink).write matched.text), .enter [],
        top.elseArmed, none⟩ := by
    show Except.map (store.follow top.sink) (Invocation.perform
      (.mk (top.context engine store) position []) (store.workspace top.sink) .matchedText) = _
    rw [performed]
    rfl
  exact .of_resume tasks resumed rfl

/-- The tag makes the text of the match. -/
theorem Configuration.exists_makesText_match (isMatch : code.IsMatchTag)
    (starts : started.stack = .enter (.apart code) sinks.size :: block)
    (opens : started.store.sinks = sinks.push .fresh)
    (found : started.store.matchStack = matched :: outer) :
    ∃ after, MakesText engine block sinks (matched :: outer) code matched.text started after := by
  obtain ⟨store, _⟩ := started
  obtain rfl : _ = .enter (.apart code) sinks.size :: block := starts
  let child : Activation := .enter (.apart code) sinks.size
  have tag : child.code.IsMatchTag := isMatch
  obtain ⟨position, ⟨reads⟩, unread, ended⟩ :
      ∃ position, Steps engine ⟨store, child :: block⟩
          ⟨store, { child.busy (matchCall position) with cursor := child.cursor + 3 } :: block⟩ ∧
        ¬ child.IsAtEnd ∧ child.code.tokenAt? (child.cursor + 3) = none :=
    exists_steps_match tag rfl rfl
  let caller : Activation :=
    { child.busy (matchCall position) with cursor := child.cursor + 3 }
  let later : Activation := caller.idle caller.elseArmed
  let written : Store := store.absorb sinks.size ((store.workspace sinks.size).write matched.text)
  obtain ⟨writes⟩ : Steps engine ⟨store, caller :: block⟩ ⟨written, later :: block⟩ :=
    steps_matchCall rfl found
  have first : InMatch block (matched :: outer) ⟨store, child :: block⟩ := .of_resting rfl found
  have called : InMatch block (matched :: outer) ⟨store, caller :: block⟩ := .of_resting rfl found
  have ends : InMatch block (matched :: outer) ⟨written, later :: block⟩ := .of_resting rfl found
  have path : ReachesInMatch engine block (matched :: outer) ⟨store, child :: block⟩
      ⟨written, later :: block⟩ := by
    have entered : StepsWith engine block.length ⟨store, child :: block⟩ ⟨store, caller :: block⟩ :=
      .intro reads (fun _ => unread) (Nat.lt_succ_self _)
    have performed : StepsWith engine block.length ⟨store, caller :: block⟩
        ⟨written, later :: block⟩ := .intro writes (fun _ => nofun) (Nat.lt_succ_self _)
    exact .tail (.single ⟨entered, called⟩) ⟨performed, ends⟩
  have pushed : written.sinks = sinks.push (Sink.fresh.write matched.text) :=
    store.sinks_write_fresh opens matched.text
  have rest : written.sinks.pop = sinks := by
    rw [pushed, Array.pop_push]
  have text : (written.sinkAt (written.sinks.size - 1)).mainText written.targets =
      matched.text := by
    have made : written.sinkAt (written.sinks.size - 1) = Sink.fresh.write matched.text := by
      simp [Store.sinkAt, pushed]
    rw [made, ((Sink.Holds.fresh written.targets).write matched.text).mainText,
      String.empty_append]
  have makes := makesText_of_isAtEnd rfl first path ends ⟨rfl, rfl, rfl, rfl⟩ ⟨rfl, ended⟩ rest
  rw [text] at makes
  exact ⟨_, makes⟩

end Inserting

/-! ### Replacers -/

/-- Tasks of replacers. -/
def Task.replaces : Task → Bool
  | .findMatches _ _ | .replaceMatches _ => true
  | _ => false

/-- A replacer that an activation on top of the stack is about to read, up to the bracket at
`close`, with the store at that moment. -/
structure Replacer where
  store : Store
  opener : Activation
  lower : List Activation
  close : Nat
  regex : Regex
  input : Code
  replacement : Code

namespace Replacer

/-- The run before the replacer. -/
def outside (replacer : Replacer) : Configuration :=
  ⟨replacer.store, replacer.opener :: replacer.lower⟩

/-- The stack with the activation of the replacer on top, which has a task. -/
def waiting (replacer : Replacer) (task : Task) : List Activation :=
  (replacer.opener.behind replacer.close).busy task :: replacer.lower

/-- The replacer waits for its input. -/
def awaitingInput (replacer : Replacer) : List Activation :=
  replacer.waiting (.findMatches replacer.regex replacer.replacement)

/-- The run when the replacer has been read, and its input been entered. -/
def inside (replacer : Replacer) : Configuration :=
  ⟨replacer.store.addSink .fresh,
    .enter (.apart replacer.input) replacer.store.sinks.size :: replacer.awaitingInput⟩

/-- What code sees of a match in a text. -/
def matched (replacer : Replacer) (text : String) (found : Regex.Match) : MatchData :=
  .ofMatch replacer.regex text.toList.toArray found

/-- The replacer is what is read next: an opening bracket, a regex, and two arguments before the
bracket at `close`. There is room for its input on the stack. -/
structure IsNext (engine : Engine) (replacer : Replacer) : Prop where
  idle : replacer.opener.tasks = []
  opens : ∃ token, replacer.opener.nextToken? = some token ∧ token.kind = .opens .square
  closes : replacer.opener.pattern.scopeClose replacer.opener.cursor = .ok replacer.close
  reads : ∃ index token input replacement,
    replacer.opener.pattern.skipBlanks (replacer.opener.cursor + 1) replacer.close = index ∧
    index < replacer.close ∧ replacer.opener.pattern.tokens[index]? = some token ∧
    token.kind = .regex ∧ Regex.compile token.value = .ok replacer.regex ∧
    (replacer.opener.context engine replacer.store).argumentSpans (index + 1) replacer.close
      "replacer" = .ok [input, replacement] ∧
    replacer.input = ⟨replacer.opener.pattern, input⟩ ∧
    replacer.replacement = ⟨replacer.opener.pattern, replacement⟩
  room : replacer.lower.length + 1 < engine.settings.maxStackDepth

/-- Steps throughout which the replacer is under way. -/
abbrev GoesOn (engine : Engine) (replacer : Replacer) : Configuration → Configuration → Prop :=
  Relation.ReflTransGen fun before after => Steps engine before after ∧
    ∃ task, task.replaces = true ∧ replacer.waiting task <:+ after.stack

/-- From a configuration on, as long as the replacer is under way, no step fails and none is a
`break` out of it. -/
structure Undisturbed (engine : Engine) (replacer : Replacer) (first : Configuration) : Prop where
  succeeds : ∀ configuration fault, replacer.GoesOn engine first configuration →
    ¬ configuration.Ends engine (some fault)
  stays : ∀ configuration task, replacer.GoesOn engine first configuration →
    task.replaces = true → configuration.IsDirectlyIn (replacer.waiting task) →
    ¬ configuration.IsAtBreak

/-- Matches in a text, each with the text that the replacement makes for it. While it does, code
learns of the match, unless a nested replacer is at a match of its own. -/
inductive ReplacesEach (engine : Engine) (replacer : Replacer) (text : String) :
    List (Regex.Match × String) → Configuration → Configuration → Prop where
  | done {configuration : Configuration} :
      ReplacesEach engine replacer text [] configuration configuration
  | next {found : Regex.Match} {made : String} {others : List (Regex.Match × String)}
      {left : Replacement} {before started after last : Configuration}
      (starts : Steps engine before started)
      (makes : MakesText engine (replacer.waiting (.replaceMatches left)) replacer.store.sinks
        (replacer.matched text found :: replacer.store.matchStack) replacer.replacement made
        started after)
      (tells : ∀ configuration : Configuration,
        configuration.InMatch (replacer.waiting (.replaceMatches left))
          (replacer.matched text found :: replacer.store.matchStack) →
        configuration.IsDirectlyAtMatch (replacer.waiting (.replaceMatches left)) →
        ∀ top : Activation, (top.context engine configuration.store).scope.TellsMatch
          replacer.regex text found)
      (rest : ReplacesEach engine replacer text others after last) :
      ReplacesEach engine replacer text ((found, made) :: others) before last

/-- Wherever the replacement is entered for a match, it makes a text that is accepted for it. -/
def MakesFor (engine : Engine) (replacer : Replacer) (text : String)
    (accepts : Regex.Match → String → Prop) : Prop :=
  ∀ found left started, replacer.GoesOn engine replacer.inside started →
    started.stack = .enter (.apart replacer.replacement) replacer.store.sinks.size ::
      replacer.waiting (.replaceMatches left) →
    started.store.sinks = replacer.store.sinks.push .fresh →
    started.store.matchStack = replacer.matched text found :: replacer.store.matchStack →
    ∃ made after, MakesText engine (replacer.waiting (.replaceMatches left)) replacer.store.sinks
      (replacer.matched text found :: replacer.store.matchStack) replacer.replacement made started
      after ∧ accepts found made

/-- The run behind the replacer, which has printed a text. -/
structure IsBehind (replacer : Replacer) (printed : String) (behind : Configuration) : Prop where
  stack : behind.stack = replacer.opener.behind replacer.close :: replacer.lower
  found : behind.store.matchStack = replacer.store.matchStack
  sinks : behind.store.sinks = replacer.store.sinks.setIfInBounds replacer.opener.sink
    ((replacer.store.sinkAt replacer.opener.sink).write printed)

/-- The input gives a text, each match in it another one, and the replacer prints them together. -/
structure Prints (engine : Engine) (replacer : Replacer) (text : String)
    (pairs : List (Regex.Match × String)) (printed : String) : Prop where
  runs : ∃ evaluated last behind,
    MakesText engine replacer.awaitingInput replacer.store.sinks replacer.store.matchStack
      replacer.input text replacer.inside evaluated ∧
    replacer.ReplacesEach engine text pairs evaluated last ∧
    Steps engine last behind ∧ replacer.IsBehind printed behind
  all : pairs.map Prod.fst = replacer.regex.allMatches text.toList
  /-- The first group of each is the match itself. -/
  groups : ∀ pair ∈ pairs, pair.1.IsWhole replacer.regex
  /-- The matches are ranges of the text, from left to right, that do not overlap. -/
  ordered : Regex.InOrder text.toList.length 0 (pairs.map Prod.fst)
  /-- What stands outside of them is printed as it is. -/
  replaced : Regex.Replaced 0 text.toList pairs printed.toList

/-- How a run carries out a replacer. -/
structure IsCarriedOut (engine : Engine) (replacer : Replacer) : Prop where
  steps : Steps engine replacer.outside replacer.inside
  replaces : replacer.Undisturbed engine replacer.inside →
    ∃ text pairs printed, replacer.Prints engine text pairs printed
  /-- The replacement `[match]` puts every match back where it was. -/
  inserts : replacer.replacement.IsMatchTag →
    RunsThrough engine replacer.awaitingInput replacer.inside →
    ∃ text pairs, replacer.Prints engine text pairs text

section Replacing

variable {engine : Engine} {replacer : Replacer} {text made buffer : String} {place : Nat}
  {found : Regex.Match} {ranges : List Regex.Match}
  {configuration started before after : Configuration}

/-! ### A replacer under way -/

theorem GoesOn.reaches (goesOn : replacer.GoesOn engine before after) :
    Reaches engine before after :=
  Relation.ReflTransGen.mono (fun _ _ steps => steps.1) _ _ goesOn

theorem goesOn_of_staysOpen {task : Task} (replaces : task.replaces = true)
    (staysOpen : StaysOpen engine (replacer.waiting task) before after) :
    replacer.GoesOn engine before after :=
  Relation.ReflTransGen.mono (fun _ _ steps => ⟨steps.1, task, replaces, steps.2⟩) _ _ staysOpen

/-- While a replacer is under way, a configuration is the first or lies behind the first step. -/
theorem GoesOn.cases_steps (steps : Steps engine before after)
    (goesOn : replacer.GoesOn engine before configuration) :
    configuration = before ∨ (∃ task, replacer.waiting task <:+ after.stack) ∧
      replacer.GoesOn engine after configuration := by
  rcases goesOn.cases_head with same | ⟨second, ⟨first, task, -, present⟩, rest⟩
  · exact .inl same.symm
  · obtain rfl := first.deterministic steps
    exact .inr ⟨⟨task, present⟩, rest⟩

namespace Undisturbed

/-- A replacer that the next step leaves is undisturbed. -/
theorem of_leaves (steps : Steps engine before after) (noBreak : ¬ before.IsAtBreak)
    (left : ∀ task, ¬ replacer.waiting task <:+ after.stack) :
    replacer.Undisturbed engine before where
  succeeds configuration fault goesOn := by
    rcases goesOn.cases_steps steps with rfl | ⟨⟨task, present⟩, -⟩
    · exact steps.succeeds
    · exact absurd present (left task)
  stays configuration _ goesOn _ _ := by
    rcases goesOn.cases_steps steps with rfl | ⟨⟨task, present⟩, -⟩
    · exact noBreak
    · exact absurd present (left task)

/-- A replacer is undisturbed, if the next step does not break out of it and it is undisturbed
behind. -/
theorem of_steps (steps : Steps engine before after) (noBreak : ¬ before.IsAtBreak)
    (undisturbed : replacer.Undisturbed engine after) : replacer.Undisturbed engine before where
  succeeds configuration fault goesOn := by
    rcases goesOn.cases_steps steps with rfl | ⟨-, rest⟩
    · exact steps.succeeds
    · exact undisturbed.succeeds configuration fault rest
  stays configuration task goesOn replaces direct := by
    rcases goesOn.cases_steps steps with rfl | ⟨-, rest⟩
    · exact noBreak
    · exact undisturbed.stays configuration task rest replaces direct

end Undisturbed

/-- Code that has been entered for an undisturbed replacer runs through. -/
theorem Undisturbed.runsThrough {task : Task}
    (undisturbed : replacer.Undisturbed engine replacer.inside)
    (goesOn : replacer.GoesOn engine replacer.inside started) (replaces : task.replaces = true) :
    RunsThrough engine (replacer.waiting task) started where
  succeeds configuration fault staysOpen :=
    undisturbed.succeeds configuration fault (goesOn.trans (goesOn_of_staysOpen replaces staysOpen))
  stays configuration staysOpen :=
    undisturbed.stays configuration task (goesOn.trans (goesOn_of_staysOpen replaces staysOpen))
      replaces

/-- What is left to be done when the matches in `ranges` come next, with the place in the text that
they are behind, and what has been made of the text before it. -/
def left (replacer : Replacer) (text : String) (place : Nat) (ranges : List Regex.Match)
    (buffer : String) : Replacement :=
  let parts := splitMatches replacer.regex text.toList.toArray place ranges
  ⟨replacer.replacement, parts.1, parts.2, buffer⟩

/-- The replacer takes up a text, and then goes on with the matches in `ranges`. -/
structure AwaitsMatch (engine : Engine) (replacer : Replacer) (text : String) (place : Nat)
    (ranges : List Regex.Match) (buffer : String) (configuration : Configuration) : Prop where
  goesOn : replacer.GoesOn engine replacer.inside configuration
  resumes : ∃ task held, configuration.stack = replacer.waiting task ∧
    held.sinks = replacer.store.sinks ∧ held.matchStack = replacer.store.matchStack ∧
    ∀ context : Context, context.resume configuration.store replacer.opener.sink task =
      .ok (context.replaceNext held replacer.opener.sink
        (replacer.left text place ranges buffer))

/-- When the input has been evaluated, all matches in it are left. -/
theorem awaitsMatch_input (goesOn : replacer.GoesOn engine replacer.inside after)
    (makes : MakesText engine replacer.awaitingInput replacer.store.sinks replacer.store.matchStack
      replacer.input text before after) :
    replacer.AwaitsMatch engine text 0 (replacer.regex.allMatches text.toList) "" after where
  goesOn := goesOn
  resumes := by
    refine ⟨_, after.store.dropResult, makes.stack, makes.sinks, makes.found, fun context => ?_⟩
    rw [← makes.text]
    rfl

/-- When the replacement has been evaluated for a match, those behind it are left. -/
theorem awaitsMatch_next (goesOn : replacer.GoesOn engine replacer.inside after)
    (makes : MakesText engine
      (replacer.waiting (.replaceMatches (replacer.left text place ranges buffer)))
      replacer.store.sinks (replacer.matched text found :: replacer.store.matchStack)
      replacer.replacement made before after) :
    replacer.AwaitsMatch engine text place ranges (buffer ++ made) after where
  goesOn := goesOn
  resumes := by
    let held : Store :=
      { after.store.dropResult with matchStack := after.store.matchStack.tail }
    have dropped : held.matchStack = replacer.store.matchStack := congrArg List.tail makes.found
    refine ⟨_, held, makes.stack, makes.sinks, dropped, fun context => ?_⟩
    rw [← makes.text]
    rfl

namespace AwaitsMatch

/-- The match that comes next is put on the stack, and the replacement is entered. -/
theorem exists_starts (room : replacer.lower.length + 1 < engine.settings.maxStackDepth)
    (awaits : replacer.AwaitsMatch engine text place (found :: ranges) buffer before) :
    ∃ started, Steps engine before started ∧
      started.stack = .enter (.apart replacer.replacement) replacer.store.sinks.size ::
        replacer.waiting (.replaceMatches (replacer.left text found.stop ranges (buffer ++
          MatchData.sliceText text.toList.toArray place found.start))) ∧
      started.store.sinks = replacer.store.sinks.push .fresh ∧
      started.store.matchStack = replacer.matched text found :: replacer.store.matchStack := by
  obtain ⟨store, _⟩ := before
  obtain ⟨-, task, held, stack, sinks, matchStack, resumed⟩ := awaits
  obtain rfl : _ = replacer.waiting task := stack
  let top : Activation := (replacer.opener.behind replacer.close).busy task
  let entering : Store :=
    { held with matchStack := replacer.matched text found :: held.matchStack }
  let next : Task := .replaceMatches (replacer.left text found.stop ranges (buffer ++
    MatchData.sliceText text.toList.toArray place found.start))
  have low : ¬ engine.settings.maxStackDepth ≤ replacer.lower.length + 1 := Nat.not_le.mpr room
  have steps : Steps engine ⟨store, replacer.waiting task⟩
      ⟨entering.addSink .fresh, .enter (.apart replacer.replacement) entering.sinks.size ::
        replacer.waiting next⟩ := by
    apply Steps.of_resume (rfl : top.tasks = [task]) (resumed (top.context engine store))
    simp only [settle, shift, Context.replaceNext, left, splitMatches, Context.gather,
      enterAll_singleton, enter, if_neg low]
    rfl
  have size : entering.sinks.size = replacer.store.sinks.size := congrArg Array.size sinks
  refine ⟨_, steps, ?_, ?_, ?_⟩
  · rw [size]
  · exact congrArg (·.push Sink.fresh) sinks
  · exact congrArg (replacer.matched text found :: ·) matchStack

/-- Behind the last match the text is printed. -/
theorem exists_behind (idle : replacer.opener.tasks = [])
    (awaits : replacer.AwaitsMatch engine text place [] buffer before) :
    ∃ behind, Steps engine before behind ∧
      replacer.IsBehind (buffer ++ spliced text.toList.toArray place []) behind := by
  obtain ⟨store, _⟩ := before
  obtain ⟨-, task, held, stack, sinks, matchStack, resumed⟩ := awaits
  obtain rfl : _ = replacer.waiting task := stack
  let top : Activation := (replacer.opener.behind replacer.close).busy task
  let printed : String := buffer ++ spliced text.toList.toArray place []
  let behind : Configuration :=
    ⟨held.absorb replacer.opener.sink ((held.workspace replacer.opener.sink).write printed),
      replacer.opener.behind replacer.close :: replacer.lower⟩
  have steps : Steps engine ⟨store, replacer.waiting task⟩ behind := by
    have same : (replacer.opener.behind replacer.close).idle replacer.opener.elseArmed =
        replacer.opener.behind replacer.close := Activation.idle_eq idle
    apply Steps.of_resume (rfl : top.tasks = [task]) (resumed (top.context engine store))
    show Except.ok _ = Except.ok (Configuration.mk _ (replacer.opener.behind _ :: _))
    rw [← same]
    rfl
  refine ⟨behind, steps, rfl, matchStack, ?_⟩
  show (held.absorb replacer.opener.sink _).sinks = _
  rw [held.sinks_write, Store.sinkAt, Store.sinkAt, sinks]

/-- Each match that is left is replaced, and then the text is printed. -/
theorem exists_replacesEach {accepts : Regex.Match → String → Prop}
    (differ : Regex.NamesDiffer replacer.regex.names) (idle : replacer.opener.tasks = [])
    (room : replacer.lower.length + 1 < engine.settings.maxStackDepth)
    (makesFor : replacer.MakesFor engine text accepts)
    (awaits : replacer.AwaitsMatch engine text place ranges buffer before) :
    ∃ pairs last behind, pairs.map Prod.fst = ranges ∧
      (∀ pair ∈ pairs, accepts pair.1 pair.2) ∧
      replacer.ReplacesEach engine text pairs before last ∧ Steps engine last behind ∧
      replacer.IsBehind (buffer ++ spliced text.toList.toArray place pairs) behind := by
  -- The induction is on the matches that are left; the buffer grows by a match and what is before.
  induction ranges generalizing place buffer before with
  | nil =>
      obtain ⟨behind, steps, isBehind⟩ := awaits.exists_behind idle
      exact ⟨[], before, behind, rfl, nofun, .done, steps, isBehind⟩
  | cons found ranges inductionHypothesis =>
      obtain ⟨started, starts, stack, sinks, matchStack⟩ := awaits.exists_starts room
      have goesOn : replacer.GoesOn engine replacer.inside started :=
        awaits.goesOn.tail ⟨starts, _, rfl, stack ▸ List.suffix_cons _ _⟩
      obtain ⟨made, after, makes, accepted⟩ :=
        makesFor found _ started goesOn stack sinks matchStack
      have behind := goesOn.trans (goesOn_of_staysOpen rfl makes.staysOpen)
      obtain ⟨pairs, last, behind, same, others, replaces, steps, isBehind⟩ :=
        inductionHypothesis (awaitsMatch_next behind makes)
      refine ⟨(found, made) :: pairs, last, behind, ?_, ?_, ?_, steps, ?_⟩
      · rw [List.map_cons, same]
      · exact List.forall_mem_cons.mpr ⟨accepted, others⟩
      · refine .next starts makes (fun _ inMatch direct _ => ?_) replaces
        exact Scope.tellsMatch (inMatch.found?_scope direct)
          (MatchData.shows_ofMatch differ text found)
      · rw [spliced, ← String.append_assoc, ← String.append_assoc]
        exact isBehind

end AwaitsMatch

/-! ### Whole replacers -/

/-- The replacer is read in one step, and its input is entered. -/
theorem IsNext.steps (next : replacer.IsNext engine) :
    Steps engine replacer.outside replacer.inside := by
  obtain ⟨idle, ⟨opening, found, bracket⟩, closes, ⟨index, token, input, replacement, first, inside,
    present, isRegex, compiled, spans, sameInput, sameReplacement⟩, room⟩ := next
  let context : Context := replacer.opener.context engine replacer.store
  have same : context.pattern = replacer.opener.pattern := rfl
  have replaces (workspace : Workspace) (position : Pattern.Position) :
      context.replace workspace position index token replacer.close =
        .ok (workspace, .replacer replacer.regex replacer.input replacer.replacement) := by
    rw [sameInput, sameReplacement]
    simp only [Context.replace, compiled, spans, bind, Except.bind, pure, Except.pure, context]
    rfl
  have reads (workspace : Workspace) : context.readConstruct workspace replacer.opener.cursor
      (replacer.close + 1) opening =
      .ok (workspace, .replacer replacer.regex replacer.input replacer.replacement) := by
    simp only [Context.readConstruct, bracket, Context.readTag, same, Nat.add_sub_cancel, first,
      if_pos inside, present, isRegex, replaces]
  have low : ¬ engine.settings.maxStackDepth ≤ replacer.lower.length + 1 := Nat.not_le.mpr room
  apply Steps.of_read idle found (Context.constructStop_of_close bracket closes) (reads _)
  rw [replacer.store.absorb_workspace]
  simp only [settle, shift, Context.begin, Context.gather, enterAll_singleton, enter, if_neg low]
  rfl

/-- The regex has been compiled, so its groups have different names. -/
theorem IsNext.namesDiffer (next : replacer.IsNext engine) :
    Regex.NamesDiffer replacer.regex.names := by
  obtain ⟨_, _, _, _, _, _, _, _, compiled, _⟩ := next.reads
  exact Regex.namesDiffer_of_compile compiled

/-- When the input has given a text, the matches in it are replaced by what is made for them. -/
theorem exists_prints {accepts : Regex.Match → String → Prop} (next : replacer.IsNext engine)
    (makes : MakesText engine replacer.awaitingInput replacer.store.sinks replacer.store.matchStack
      replacer.input text replacer.inside after)
    (makesFor : replacer.MakesFor engine text accepts) :
    ∃ pairs, (∀ pair ∈ pairs, accepts pair.1 pair.2) ∧
      replacer.Prints engine text pairs (spliced text.toList.toArray 0 pairs) := by
  have evaluated : replacer.GoesOn engine replacer.inside after :=
    goesOn_of_staysOpen rfl makes.staysOpen
  obtain ⟨pairs, last, behind, all, accepted, replaces, steps, isBehind⟩ :=
    (awaitsMatch_input evaluated makes).exists_replacesEach next.namesDiffer next.idle next.room
      makesFor
  rw [String.empty_append] at isBehind
  have ordered : Regex.InOrder text.toList.length 0 (pairs.map Prod.fst) :=
    all ▸ Regex.inOrder_allMatches replacer.regex text.toList
  have replaced : Regex.Replaced 0 (text.toList.toArray.toList.drop 0) pairs
      (spliced text.toList.toArray 0 pairs).toList := replaced_spliced ordered
  exact ⟨pairs, accepted, {
    runs := ⟨after, last, behind, makes, replaces, steps, isBehind⟩
    all := all
    groups := by
      intro pair member
      exact Regex.isWhole_of_mem_allMatches (all ▸ List.mem_map_of_mem member)
    ordered := ordered
    replaced := replaced }⟩

/-- The replacement of an undisturbed replacer makes a text for every match. -/
theorem Undisturbed.makesFor (undisturbed : replacer.Undisturbed engine replacer.inside)
    (wellStacked : WellStacked engine replacer.inside) :
    replacer.MakesFor engine text fun _ _ => True := by
  intro found left started goesOn stack sinks matchStack
  have runs : RunsThrough engine (replacer.waiting (.replaceMatches left)) started :=
    undisturbed.runsThrough goesOn rfl
  obtain ⟨made, after, makes⟩ :=
    exists_makesText (Reaches.wellStacked goesOn.reaches wellStacked) stack sinks matchStack runs
  exact ⟨made, after, makes, trivial⟩

/-- The replacement `[match]` makes the text of the match. -/
theorem makesFor_match (isMatch : replacer.replacement.IsMatchTag) :
    replacer.MakesFor engine text fun found made => made = (replacer.matched text found).text := by
  intro found left started _ stack sinks matchStack
  obtain ⟨after, makes⟩ := exists_makesText_match isMatch stack sinks matchStack
  exact ⟨_, after, makes, rfl⟩

/-- A replacer that a run comes to is carried out. -/
theorem isCarriedOut_of_reachable {pattern : Pattern} {seed : UInt64}
    (reachable : Reachable engine pattern seed replacer.outside) (next : replacer.IsNext engine) :
    replacer.IsCarriedOut engine := by
  have wellStacked : WellStacked engine replacer.inside :=
    Reachable.wellStacked (.tail reachable next.steps)
  have input (runs : RunsThrough engine replacer.awaitingInput replacer.inside) :
      ∃ text after, MakesText engine replacer.awaitingInput replacer.store.sinks
        replacer.store.matchStack replacer.input text replacer.inside after :=
    exists_makesText wellStacked rfl rfl rfl runs
  refine ⟨next.steps, fun undisturbed => ?replaces, fun isMatch runs => ?inserts⟩
  case replaces =>
    obtain ⟨text, after, makes⟩ := input (undisturbed.runsThrough .refl rfl)
    obtain ⟨pairs, -, prints⟩ := exists_prints next makes (undisturbed.makesFor wellStacked)
    exact ⟨text, pairs, _, prints⟩
  case inserts =>
    obtain ⟨text, after, makes⟩ := input runs
    obtain ⟨pairs, own, prints⟩ := exists_prints next makes (makesFor_match isMatch)
    have same : spliced text.toList.toArray 0 pairs = text :=
      String.toList_inj.mp (toList_spliced_own prints.ordered own)
    rw [same] at prints
    exact ⟨text, pairs, prints⟩

end Replacing

end Replacer

/-! ### The letter x put back in the text `axa` -/

namespace LetterPutBack

open Pattern

/-- The pattern `[//(?<letter>x)//:axa;[match]]`. -/
def pattern : Pattern where
  name := "letter"
  source := "[//(?<letter>x)//:axa;[match]]"
  tokens := #[⟨.opens .square, "[", .start⟩, ⟨.regex, "(?<letter>x)//", .start⟩,
    ⟨.colon, ":", .start⟩, ⟨.text, "axa", .start⟩, ⟨.semicolon, ";", .start⟩,
    ⟨.opens .square, "[", .start⟩, ⟨.text, "match", .start⟩, ⟨.closes .square, "]", .start⟩,
    ⟨.closes .square, "]", .start⟩]

/-- The pattern is the replacer. -/
def replacer : Replacer where
  store := .fresh .standard 0
  opener := .enter (.shared (.whole pattern)) 0
  lower := []
  close := 8
  regex := ⟨"(?<letter>x)", 3, #[.accept, .save 3 0, .consume (.single 'x') 1, .save 2 2], 1,
    [("letter", 1)]⟩
  input := ⟨pattern, ⟨3, 4⟩⟩
  replacement := ⟨pattern, ⟨5, 8⟩⟩

theorem isNext_replacer : replacer.IsNext .standard where
  idle := rfl
  opens := ⟨_, rfl, rfl⟩
  closes := by
    show pattern.scopeClose 0 = .ok 8
    simp [Pattern.scopeClose, Pattern.closeFrom, pattern]
  reads := by
    have first : pattern.skipBlanks 1 8 = 1 := by decide +kernel
    have colon : pattern.skipBlanks 2 8 = 2 := by decide +kernel
    have split : pattern.splitTrimmed ⟨3, 8⟩ .semicolon = [⟨3, 4⟩, ⟨5, 8⟩] := by decide +kernel
    have spans (context : Context) (same : context.pattern = pattern) :
        context.argumentSpans 2 8 "replacer" = .ok [⟨3, 4⟩, ⟨5, 8⟩] := by
      have token : pattern.tokens[2]? = some ⟨.colon, ":", .start⟩ := rfl
      simp only [Context.argumentSpans, same, colon, token, split]
      rfl
    exact ⟨1, ⟨.regex, "(?<letter>x)//", .start⟩, ⟨3, 4⟩, ⟨5, 8⟩, first, by decide, rfl, rfl, rfl,
      spans _ rfl, rfl, rfl⟩
  room := by decide

theorem isMatchTag_replacement : replacer.replacement.IsMatchTag := rfl

/-- The letter, which the regex finds in the text. -/
def found : Regex.Match :=
  ⟨1, 2, [some (1, 2), some (1, 2)]⟩

/-- What code sees of it. -/
def matched : MatchData :=
  ⟨"x", [some "x", some "x"], ⟨[("letter", "x")]⟩⟩

/-- What is left to be done behind the letter. -/
def left : Replacement :=
  ⟨replacer.replacement, [], "a", "a"⟩

/-- The store while code is evaluated for its text, with the matches that lie on the stack. -/
def opened (found : List MatchData) : Store :=
  { replacer.inside.store with matchStack := found }

/-- The same when the code has written its text. -/
def written (found : List MatchData) (text : String) : Store :=
  (opened found).absorb 1 (((opened found).workspace 1).write text)

/-- Code under way, before the token at `cursor`. -/
def under (code : Code) (task : Task) (store : Store) (cursor : Nat) (tasks : List Task) :
    Configuration :=
  ⟨store, { Activation.enter (.apart code) 1 with
    cursor := cursor
    tasks := tasks } :: replacer.waiting task⟩

/-- The replacer when code has given its text. -/
def evaluated (task : Task) (found : List MatchData) (text : String) : Configuration :=
  ⟨{ replacer.store with
      matchStack := found
      results := [Output.Sink.fresh.write text] }, replacer.waiting task⟩

/-- The run behind the replacer. -/
def behind : Configuration :=
  ⟨(Store.fresh .standard 0).absorb 0 ((Workspace.fresh .standard 0).write "axa"),
    [replacer.opener.behind 8]⟩

section Steps

/-- The replacer waits for its input. -/
abbrev awaitsInput : Task := .findMatches replacer.regex replacer.replacement

/-- The replacer waits for the replacement of the letter. -/
abbrev awaitsReplacement : Task := .replaceMatches left

theorem steps_input : Steps .standard replacer.inside
    (under replacer.input awaitsInput (written [] "axa") 4 []) :=
  ⟨rfl⟩

theorem steps_gathered :
    Steps .standard (under replacer.input awaitsInput (written [] "axa") 4 [])
      (evaluated awaitsInput [] "axa") :=
  ⟨rfl⟩

theorem steps_found : Steps .standard (evaluated awaitsInput [] "axa")
    (under replacer.replacement awaitsReplacement (opened [matched]) 5 []) :=
  ⟨rfl⟩

theorem steps_tag :
    Steps .standard (under replacer.replacement awaitsReplacement (opened [matched]) 5 [])
      (under replacer.replacement awaitsReplacement (opened [matched]) 8 [matchCall .start]) := by
  have closes : pattern.scopeClose 5 = .ok 7 := scopeClose_match rfl rfl rfl rfl rfl rfl
  exact .of_read rfl rfl (Context.constructStop_of_close rfl closes)
    (Context.readConstruct_match rfl rfl rfl rfl rfl) rfl

theorem steps_inserted :
    Steps .standard
      (under replacer.replacement awaitsReplacement (opened [matched]) 8 [matchCall .start])
      (under replacer.replacement awaitsReplacement (written [matched] "x") 8 []) :=
  ⟨rfl⟩

theorem steps_made :
    Steps .standard (under replacer.replacement awaitsReplacement (written [matched] "x") 8 [])
      (evaluated awaitsReplacement [matched] "x") :=
  ⟨rfl⟩

theorem steps_behind : Steps .standard (evaluated awaitsReplacement [matched] "x") behind :=
  ⟨rfl⟩

end Steps

theorem runsThrough_input : RunsThrough .standard replacer.awaitingInput replacer.inside := by
  have gone : ¬ replacer.awaitingInput <:+
      (under replacer.replacement awaitsReplacement (opened [matched]) 5 []).stack := by
    rintro ⟨above, stack⟩
    have split : above ++ replacer.awaitingInput =
        [.enter (.apart replacer.replacement) 1] ++ replacer.waiting awaitsReplacement := stack
    have same : replacer.awaitingInput = replacer.waiting awaitsReplacement :=
      (List.append_inj' split rfl).2
    cases same
  exact .of_steps steps_input (not_isAtBreak nofun) (.of_steps steps_gathered (not_isAtBreak nofun)
    (.of_leaves steps_found (not_isAtBreak nofun) gone))

theorem undisturbed_inside : replacer.Undisturbed .standard replacer.inside := by
  have gone (task : Task) : ¬ replacer.waiting task <:+ behind.stack := by
    intro present
    cases present.eq_of_length rfl
  have idle (code : Code) (task : Task) (store : Store) (cursor : Nat) :
      ¬ (under code task store cursor []).IsAtBreak := not_isAtBreak nofun
  have tag : ¬ (under replacer.replacement awaitsReplacement (opened [matched]) 8
      [matchCall .start]).IsAtBreak := by
    rintro ⟨_, _, _, same, tasks, isBreak, -⟩
    cases same
    cases tasks
    cases isBreak
  exact .of_steps steps_input (not_isAtBreak nofun) (.of_steps steps_gathered (idle _ _ _ _)
    (.of_steps steps_found (not_isAtBreak nofun) (.of_steps steps_tag (idle _ _ _ _)
      (.of_steps steps_inserted tag (.of_steps steps_made (idle _ _ _ _)
        (.of_leaves steps_behind (not_isAtBreak nofun) gone))))))

/-- The input makes the text it is. -/
theorem makesText_input : MakesText .standard replacer.awaitingInput replacer.store.sinks
    replacer.store.matchStack replacer.input "axa" replacer.inside
    (evaluated awaitsInput [] "axa") := by
  have begins : replacer.inside.InMatch replacer.awaitingInput replacer.store.matchStack :=
    .of_resting rfl rfl
  have ends : (under replacer.input awaitsInput (written [] "axa") 4 []).InMatch
      replacer.awaitingInput replacer.store.matchStack := .of_resting rfl rfl
  obtain ⟨stepped⟩ := steps_input
  have reads : StepsWith .standard replacer.awaitingInput.length replacer.inside
      (under replacer.input awaitsInput (written [] "axa") 4 []) :=
    .intro stepped (fun _ atEnd => nomatch atEnd.2) (by decide)
  exact {
    starts := rfl
    begins := begins
    runs := ⟨_, _, .single ⟨reads, ends⟩, rfl, ⟨rfl, rfl, rfl, rfl⟩, ⟨rfl, rfl⟩, rfl,
      steps_gathered⟩
    stack := rfl
    text := rfl
    sinks := rfl
    found := rfl }

/-- In what the input makes there is one match, the letter. -/
theorem exists_made {text printed : String} {pairs : List (Regex.Match × String)}
    (prints : replacer.Prints .standard text pairs printed) :
    text = "axa" ∧ ∃ made, pairs = [(found, made)] := by
  obtain ⟨_, _, _, makes, -⟩ := prints.runs
  obtain ⟨rfl, -⟩ := makes.unique makesText_input
  have lone : replacer.regex.allMatches "axa".toList = [found] := rfl
  obtain ⟨⟨_, made⟩, rfl, rfl⟩ := List.map_eq_singleton_iff.mp (prints.all.trans lone)
  exact ⟨rfl, made, rfl⟩

/-- Reading the pattern, a run replaces the letter by itself, and meanwhile code learns of it: of
its text, and of the group with a name. -/
theorem isCarriedOut_replacer :
    Reachable .standard pattern 0 replacer.outside ∧ replacer.IsNext .standard ∧
      replacer.IsCarriedOut .standard ∧
      (∃ made printed, replacer.Prints .standard "axa" [(found, made)] printed) ∧
      (∃ made, replacer.Prints .standard "axa" [(found, made)] "axa") ∧
      (∃ started : Configuration,
        started.store.scope.TellsMatch replacer.regex "axa" found) ∧
      replacer.regex.Gives "axa" found "letter" "x" := by
  have reachable : Reachable .standard pattern 0 replacer.outside := .refl
  have carried : replacer.IsCarriedOut .standard :=
    Replacer.isCarriedOut_of_reachable reachable isNext_replacer
  obtain ⟨text, pairs, printed, prints⟩ := carried.replaces undisturbed_inside
  obtain ⟨rfl, made, rfl⟩ := exists_made prints
  obtain ⟨own, ownPairs, inserts⟩ := carried.inserts isMatchTag_replacement runsThrough_input
  obtain ⟨rfl, ownMade, rfl⟩ := exists_made inserts
  obtain ⟨_, _, _, -, replaces, -⟩ := prints.runs
  have tells : ∃ started : Configuration,
      started.store.scope.TellsMatch replacer.regex "axa" found := by
    cases replaces with
    | @next _ _ _ _ _ started _ _ _ makes tells _ =>
        have direct : started.IsDirectlyAtMatch _ :=
          ⟨[_], makes.starts, List.forall_mem_singleton.mpr rfl⟩
        exact ⟨started, tells started makes.begins direct replacer.opener⟩
  have letter : Regex.between "axa" (1, 2) = "x" := rfl
  have gives : replacer.regex.Gives "axa" found "letter" "x" :=
    letter ▸ .name rfl (List.mem_singleton_self _) rfl
  exact ⟨reachable, isNext_replacer, carried, ⟨made, printed, prints⟩, ⟨ownMade, inserts⟩, tells,
    gives⟩

end LetterPutBack

end Machine

end SeededText
