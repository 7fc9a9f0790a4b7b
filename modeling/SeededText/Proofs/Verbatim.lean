import SeededText.Proofs.Evaluation

/-!
Contract: code whose tokens print their values.

Evaluating such code for its text gives the values of its tokens, one behind the other, and changes
nothing else. So a run need not evaluate it.

Owns: sinks that take text as it is, the evaluation of verbatim code.
Does not own: which tokens are verbatim (`SeededText.Pattern.Token`).
-/

namespace SeededText

open Pattern Output

/-! ### Sinks that take text as it is -/

/-- Text at the end of a channel's segments is rendered at the end. -/
theorem Output.Channel.render_appendText (targets : Targets) (segments : Array Segment)
    (text : String) :
    (appendText segments text).foldl (fun text segment => text ++ segment.render targets) "" =
      segments.foldl (fun text segment => text ++ segment.render targets) "" ++ text := by
  unfold appendText
  split
  · next content last =>
      obtain ⟨before, rfl⟩ := Array.back?_eq_some_iff.mp last
      simp only [Array.pop_push, Array.foldl_push, Segment.render, String.append_assoc]
  · rw [Array.foldl_push]
    rfl

/-- Only the channel `main` is open, takes text as it is written, and holds the given text. -/
structure Output.Sink.Holds (sink : Sink) (targets : Targets) (text : String) : Prop where
  stack : sink.stack = [0]
  only : ∃ channel, sink.channels = #[channel] ∧ channel.name = mainChannel ∧
    channel.visibility = .shared ∧ channel.capitalizer.mode = .asWritten ∧
    channel.render targets = text

namespace Output.Sink.Holds

variable {sink : Sink} {targets : Targets} {text : String}

theorem fresh (targets : Targets) : Sink.fresh.Holds targets "" :=
  ⟨rfl, _, rfl, rfl, rfl, rfl, rfl⟩

theorem mainText (holds : sink.Holds targets text) : sink.mainText targets = text := by
  obtain ⟨-, channel, channels, -, -, -, render⟩ := holds
  simp [Sink.mainText, channels, render]

theorem output (holds : sink.Holds targets text) :
    sink.output targets = [⟨mainChannel, .shared, text⟩] := by
  obtain ⟨-, channel, channels, name, visibility, -, render⟩ := holds
  simp [Sink.output, channels, name, visibility, render]

theorem write (holds : sink.Holds targets text) (more : String) :
    (sink.write more).Holds targets (text ++ more) := by
  obtain ⟨channels, stack⟩ := sink
  obtain ⟨stacked, channel, only, name, visibility, mode, render⟩ := holds
  simp only at stacked only
  subst stacked only
  unfold Sink.write
  split
  · next empty =>
      rw [String.isEmpty_iff.mp empty, String.append_empty]
      exact ⟨rfl, channel, rfl, name, visibility, mode, render⟩
  · obtain ⟨written, behind⟩ := Capitalizer.apply_asWritten mode more.toList
    have path : Sink.writePath ⟨#[channel], [0]⟩ = [0] := by
      simp [Sink.writePath, Sink.pathFrom, visibility]
    refine ⟨rfl, channel.write more, ?_, name, visibility, behind, ?_⟩
    · simp [Sink.onPath, path]
    · simp only [Channel.render, Channel.write, written, String.ofList_toList]
      rw [Channel.render_appendText]
      exact congrArg (· ++ more) render

end Output.Sink.Holds

/-! ### Texts of spans -/

namespace Pattern

variable {pattern : Pattern} {start stop : Nat}

theorem foldl_append_value (tokens : List Token) (text : String) :
    tokens.foldl (fun text token => text ++ token.value) text =
      text ++ tokens.foldl (fun text token => text ++ token.value) "" := by
  induction tokens generalizing text with
  | nil => simp
  | cons token tokens inductionHypothesis =>
      rw [List.foldl_cons, List.foldl_cons, inductionHypothesis, inductionHypothesis ("" ++ _),
        String.empty_append, String.append_assoc]

theorem spanText_eq (span : Span) :
    pattern.spanText span =
      (pattern.tokens.toList.extract span.start span.stop).foldl
        (fun text token => text ++ token.value) "" := by
  rw [spanText, slice, ← Array.foldl_toList, Array.toList_extract]

/-- The text of a span starts with the value of its first token. -/
theorem spanText_of_token {token : Token} (inside : start < stop)
    (found : pattern.tokens[start]? = some token) :
    pattern.spanText ⟨start, stop⟩ = token.value ++ pattern.spanText ⟨start + 1, stop⟩ := by
  obtain ⟨present, rfl⟩ := Array.getElem?_eq_some_iff.mp found
  have first : pattern.tokens.toList.drop start =
      pattern.tokens[start] :: pattern.tokens.toList.drop (start + 1) :=
    List.drop_eq_getElem_cons present
  have fewer : stop - start = stop - (start + 1) + 1 := by omega
  rw [spanText_eq, spanText_eq, List.extract_eq_take_drop, List.extract_eq_take_drop, first, fewer,
    List.take_succ_cons, List.foldl_cons, foldl_append_value, String.empty_append]

theorem spanText_of_end (ended : stop ≤ start ∨ pattern.tokens[start]? = none) :
    pattern.spanText ⟨start, stop⟩ = "" := by
  have none : pattern.tokens.toList.extract start stop = [] := by
    rw [List.extract_eq_take_drop]
    rcases ended with empty | absent
    · rw [Nat.sub_eq_zero_of_le empty, List.take_zero]
    · rw [List.drop_eq_nil_of_le (Array.getElem?_eq_none_iff.mp absent), List.take_nil]
  rw [spanText_eq, none, List.foldl_nil]

end Pattern

/-! ### Tokens of verbatim code -/

namespace Code

variable {code : Code} {index : Nat}

/-- Where code has no token, it is at its end or the pattern is. -/
theorem ended_of_tokenAt? (ended : code.tokenAt? index = none) :
    code.span.stop ≤ index ∨ code.pattern.tokens[index]? = none := by
  unfold tokenAt? at ended
  split at ended
  · exact .inr ended
  · exact .inl (by omega)

theorem isVerbatim_of_tokenAt? (verbatim : code.isVerbatim = true) {token : Token}
    (higher : code.span.start ≤ index) (found : code.tokenAt? index = some token) :
    token.kind.isVerbatim = true := by
  obtain ⟨inside, present⟩ := read_of_tokenAt? found
  obtain ⟨_, same⟩ := Array.getElem?_eq_some_iff.mp present
  have member : token ∈ code.pattern.tokens.extract code.span.start code.span.stop := by
    rw [Array.mem_extract_iff_getElem]
    refine ⟨index - code.span.start, by omega, ?_⟩
    simp only [Nat.add_sub_cancel' higher, same]
  exact Array.all_eq_true_iff_forall_mem.mp verbatim token member

end Code

namespace Machine

/-! ### Evaluating verbatim code -/

section Evaluating

variable {context : Context} {workspace : Workspace} {token : Token} {index stop : Nat}

theorem Context.constructStop_of_isVerbatim (verbatim : token.kind.isVerbatim = true) :
    context.constructStop index token = .ok (index + 1) := by
  unfold constructStop
  split
  · next opens =>
      rw [opens] at verbatim
      cases verbatim
  · rfl

theorem Context.readConstruct_of_isVerbatim (verbatim : token.kind.isVerbatim = true) :
    context.readConstruct workspace index stop token =
      .ok (workspace.write token.value, .nothing) := by
  unfold readConstruct
  cases kind : token.kind <;> simp_all [TokenKind.isVerbatim]

theorem Workspace.write_eq (workspace : Workspace) (text : String) :
    workspace.write text = { workspace with sink := workspace.sink.write text } := by
  unfold write onSink
  split
  · next empty => simp [Sink.write, empty]
  · rfl

/-- Each token adds its value to what the sink holds. -/
theorem Evaluator.codeFrom_of_isVerbatim (engine : Engine) (evaluate : Evaluator) (scope : Scope)
    (code : Code) (cursor : Nat) (elseArmed : Bool) {workspace : Workspace} {text : String}
    (verbatim : ∀ index token, cursor ≤ index → code.tokenAt? index = some token →
      token.kind.isVerbatim = true)
    (holds : workspace.sink.Holds workspace.targets text) :
    ∃ sink, codeFrom engine evaluate scope code cursor elseArmed workspace =
        some ({ workspace with sink := sink }, .ok ()) ∧
      sink.Holds workspace.targets (text ++ code.pattern.spanText ⟨cursor, code.span.stop⟩) := by
  cases next : code.tokenAt? cursor with
  | none =>
      rw [codeFrom_of_end next, Pattern.spanText_of_end (Code.ended_of_tokenAt? next),
        String.append_empty]
      exact ⟨workspace.sink, rfl, holds⟩
  | some token =>
      have plain := verbatim cursor token (Nat.le_refl cursor) next
      obtain ⟨inside, found⟩ := Code.read_of_tokenAt? next
      have written : (workspace.write token.value).sink.Holds (workspace.write token.value).targets
          (text ++ token.value) := by
        rw [Workspace.write_eq]
        exact holds.write token.value
      have others (index : Nat) (token : Token) (higher : cursor + 1 ≤ index) :=
        verbatim index token (Nat.le_of_succ_le higher)
      obtain ⟨sink, evaluated, held⟩ :=
        codeFrom_of_isVerbatim engine evaluate scope code (cursor + 1) elseArmed others written
      rw [Workspace.write_eq] at held evaluated
      refine ⟨sink, ?_, ?_⟩
      · rw [codeFrom_of_read next (Context.constructStop_of_isVerbatim plain)
          (Context.readConstruct_of_isVerbatim plain), Workspace.write_eq]
        exact (Evaluation.bind_of_ok rfl).trans evaluated
      · rw [Pattern.spanText_of_token inside found, ← String.append_assoc]
        exact held
termination_by code.span.stop - cursor

/-- Verbatim code gives its text. -/
theorem Evaluator.text_of_isVerbatim (engine : Engine) (depth : Nat) (scope : Scope) {code : Code}
    (workspace : Workspace) (verbatim : code.isVerbatim = true) :
    (nested engine (depth + 1) scope code).text workspace = some (workspace, .ok code.text) := by
  have tokens (index : Nat) (token : Token) (higher : code.span.start ≤ index)
      (found : code.tokenAt? index = some token) : token.kind.isVerbatim = true :=
    Code.isVerbatim_of_tokenAt? verbatim higher found
  have fresh : ({ workspace with sink := .fresh } : Workspace).sink.Holds workspace.targets "" :=
    Sink.Holds.fresh workspace.targets
  obtain ⟨sink, evaluated, holds⟩ := codeFrom_of_isVerbatim engine (nested engine depth) scope code
    code.span.start false tokens fresh
  have apart : (nested engine (depth + 1) scope code).apart workspace =
      some (workspace, .ok sink) := Evaluation.apart_of_ok evaluated
  rw [Evaluation.text, Evaluation.bind_of_ok apart]
  have text := holds.mainText
  rw [String.empty_append] at text
  exact congrArg (fun text => some (workspace, Except.ok text)) text

end Evaluating

end Machine

end SeededText
