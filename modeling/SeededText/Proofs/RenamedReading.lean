import SeededText.Proofs.Renaming

/-!
Contract: the constructs of a renamed pattern.

What a pattern reads depends on its tokens only; its name comes up where a fault names it and where
a query that it defines is kept.

Owns: reading each construct under another name.
Does not own: the operations of tags (`SeededText.Proofs.RenamedOperations`).
-/

namespace SeededText

open Pattern

variable (front : String)

/-! ### Tokens -/

namespace Pattern

variable (pattern : Pattern)

@[simp] theorem tokens_renamed : (pattern.renamed front).tokens = pattern.tokens := rfl

@[simp] theorem kindAt?_renamed (index : Nat) :
    (pattern.renamed front).kindAt? index = pattern.kindAt? index := rfl

@[simp] theorem positionAt_renamed (index : Nat) :
    (pattern.renamed front).positionAt index = pattern.positionAt index := rfl

@[simp] theorem slice_renamed (span : Span) :
    (pattern.renamed front).slice span = pattern.slice span := rfl

theorem closeFrom_renamed (opener : Token) (expected : List Bracket) (index : Nat) :
    (pattern.renamed front).closeFrom opener expected index =
      pattern.closeFrom opener expected index := by
  fun_induction pattern.closeFrom opener expected index with
  | case7 _ _ outside =>
      rw [closeFrom, dif_neg]
      exact outside
  | _ =>
      rw [closeFrom]
      simp_all +zetaDelta

@[simp] theorem scopeClose_renamed (opening : Nat) :
    (pattern.renamed front).scopeClose opening = pattern.scopeClose opening := by
  simp only [scopeClose, tokens_renamed, closeFrom_renamed]

theorem splitFrom_renamed (separator : TokenKind) (start index depth stop : Nat) :
    (pattern.renamed front).splitFrom separator start index depth stop =
      pattern.splitFrom separator start index depth stop := by
  fun_induction pattern.splitFrom separator start index depth stop with
  | case6 _ _ _ outside => rw [splitFrom, if_neg outside]
  | _ =>
      rw [splitFrom]
      simp_all

@[simp] theorem skipBlanks_renamed (index stop : Nat) :
    (pattern.renamed front).skipBlanks index stop = pattern.skipBlanks index stop := by
  fun_induction pattern.skipBlanks index stop with
  | case3 _ outside => rw [skipBlanks, if_neg outside]
  | _ =>
      rw [skipBlanks]
      simp_all

theorem trimStop_renamed (start stop : Nat) :
    (pattern.renamed front).trimStop start stop = pattern.trimStop start stop := by
  induction stop with
  | zero => rfl
  | succ last inductionHypothesis =>
      simp only [trimStop, kindAt?_renamed, inductionHypothesis]

@[simp] theorem trimSpan_renamed (span : Span) :
    (pattern.renamed front).trimSpan span = pattern.trimSpan span := by
  simp only [trimSpan, skipBlanks_renamed, trimStop_renamed]

@[simp] theorem splitTrimmed_renamed (span : Span) (separator : TokenKind) :
    (pattern.renamed front).splitTrimmed span separator = pattern.splitTrimmed span separator := by
  have trims : (pattern.renamed front).trimSpan = pattern.trimSpan :=
    funext (trimSpan_renamed front pattern)
  simp only [splitTrimmed, split, splitFrom_renamed, trims]

@[simp] theorem itemsBetween_renamed (opening close : Nat) :
    (pattern.renamed front).itemsBetween opening close = pattern.itemsBetween opening close := by
  simp only [itemsBetween, split, splitFrom_renamed, trimSpan_renamed]

end Pattern

namespace Machine

/-! ### Plans of calls -/

theorem ArgumentPlan.ofParameters_renamed (codes : List Code) (parameters : List Parameter) :
    ofParameters (codes.map (Code.renamed front)) parameters =
      (ofParameters codes parameters).map (PlannedArgument.renamed front) := by
  induction codes generalizing parameters with
  | nil => rfl
  | cons code codes inductionHypothesis =>
      simp only [List.map_cons, ofParameters, inductionHypothesis]
      rfl

theorem Subroutine.plan_renamed (subroutine : Subroutine) (codes : List Code) :
    (subroutine.renamed front).plan (codes.map (Code.renamed front)) =
      (subroutine.plan codes).map (PlannedArgument.renamed front) := by
  simp only [plan, List.zipWith_map_left, List.map_zipWith]
  rfl

theorem map_mk_renamed (pattern : Pattern) (spans : List Span) :
    spans.map (Code.mk (pattern.renamed front)) =
      (spans.map (Code.mk pattern)).map (Code.renamed front) := by
  rw [List.map_map]
  rfl

/-! ### Workspaces -/

section Workspaces

variable (workspace : Workspace)

@[simp] theorem Workspace.generator_renamed :
    (workspace.renamed front).generator = workspace.generator := rfl

@[simp] theorem Workspace.history_renamed :
    (workspace.renamed front).history = workspace.history := rfl

@[simp] theorem Workspace.write_renamed (text : String) :
    (workspace.renamed front).write text = (workspace.write text).renamed front := by
  unfold write
  split <;> rfl

theorem Workspace.define_renamed (subroutine : Subroutine) :
    { workspace.renamed front with
      subroutines := (workspace.renamed front).subroutines.define (subroutine.renamed front) } =
      { workspace with subroutines := workspace.subroutines.define subroutine }.renamed front :=
  congrArg (fun subroutines => { workspace.renamed front with subroutines := subroutines })
    (Table.insert_map (Subroutine.renamed front) Function.injective_id workspace.subroutines
      (subroutine.name, subroutine.parameters.length) subroutine)

/-- A query of a pattern is kept under the name of that pattern. -/
theorem Workspace.keep_renamed (pattern : Pattern) (name : String) (query : Vocabulary.Query) :
    { workspace.renamed front with
      localQueries := (workspace.renamed front).localQueries.insert
        ((pattern.renamed front).name, name) query } =
      { workspace with
        localQueries := workspace.localQueries.insert (pattern.name, name) query }.renamed front :=
  congrArg (fun queries => { workspace.renamed front with localQueries := queries })
    (Table.insert_map id (renamedKey_injective front) workspace.localQueries (pattern.name, name)
      query)

theorem Workspace.subroutine?_renamed (key : String × Nat) :
    (workspace.renamed front).subroutines.find? key =
      (workspace.subroutines.find? key).map (Subroutine.renamed front) :=
  Table.find?_map (Subroutine.renamed front) Function.injective_id workspace.subroutines key

theorem Context.namedQuery?_renamed (context : Context) (name : String) :
    (context.renamed front).namedQuery? (workspace.renamed front) name =
      context.namedQuery? workspace name := by
  have found := Table.find?_map id (renamedKey_injective front) workspace.localQueries
    (context.pattern.name, name)
  rw [Option.map_id] at found
  exact congrArg (fun query? => Option.orElse query? _) found

end Workspaces

/-! ### Constructs -/

section Readings

variable (workspace : Workspace)

theorem carries_written (text : String) :
    Carries front (Reading.renamed front) (.ok (workspace.write text, .nothing))
      (.ok ((workspace.renamed front).write text, .nothing)) := by
  rw [Workspace.write_renamed]
  exact .ok (_, Construct.nothing)

theorem carries_define (subroutine : Subroutine) :
    Carries front (Reading.renamed front)
      (.ok ({ workspace with subroutines := workspace.subroutines.define subroutine }, .nothing))
      (.ok ({ workspace.renamed front with
        subroutines := (workspace.renamed front).subroutines.define
          (subroutine.renamed front) }, .nothing)) := by
  rw [Workspace.define_renamed]
  exact .ok (_, Construct.nothing)

end Readings

namespace Context

variable (context : Context) (workspace : Workspace)

@[simp] theorem pattern_renamed :
    (context.renamed front).pattern = context.pattern.renamed front := rfl

@[simp] theorem engine_renamed : (context.renamed front).engine = context.engine := rfl

theorem carries_checkScope {α : Type} (result : Except (Located ScopeProblem) α) :
    Carries front id (context.checkScope result) ((context.renamed front).checkScope result) := by
  cases result with
  | ok value => exact .ok value
  | error problem => exact .error _

theorem carries_constructStop (index : Nat) (token : Token) :
    Carries front id (context.constructStop index token)
      ((context.renamed front).constructStop index token) := by
  unfold constructStop
  split
  · simp only [renamed, scopeClose_renamed]
    exact (context.carries_checkScope front _).bind fun _ => .ok _
  · exact .ok _

theorem carries_argumentSpans (index stop : Nat) (name : String) :
    Carries front id (context.argumentSpans index stop name)
      ((context.renamed front).argumentSpans index stop name) := by
  simp only [argumentSpans, renamed, skipBlanks_renamed, tokens_renamed, splitTrimmed_renamed]
  split
  · split
    · exact .ok _
    · split
      · exact .ok _
      · exact .ok _
      · exact .error _
  · exact .ok _

theorem readBlock_renamed (items : Array Span) :
    (context.renamed front).readBlock (workspace.renamed front) items =
      (context.readBlock workspace items).renamed front := by
  have turns : (Repeater.ofBlock (context.renamed front).pattern items
      (workspace.renamed front).attributes).count =
      (Repeater.ofBlock context.pattern items workspace.attributes).count := rfl
  have chance? : (workspace.renamed front).attributes.chance? = workspace.attributes.chance? := rfl
  have generator : (workspace.renamed front).generator = workspace.generator := rfl
  simp only [readBlock, turns, chance?, generator]
  split
  · rfl
  · cases workspace.attributes.chance? with
    | none =>
        dsimp only
        split <;> rfl
    | some chance =>
        dsimp only
        split <;> rfl

theorem carries_callTag (position : Position) (nameIndex : Nat) (name : Token) (close : Nat) :
    Carries front (Reading.renamed front)
      (context.callTag workspace position nameIndex name close)
      ((context.renamed front).callTag (workspace.renamed front) position nameIndex name
        close) := by
  unfold callTag
  split
  · refine (context.carries_argumentSpans front _ _ _).bind fun spans => ?_
    simp only [id]
    split
    · exact .error _
    · exact .error _
    · rw [pattern_renamed, map_mk_renamed, ArgumentPlan.ofParameters_renamed]
      exact .ok (workspace, Construct.tag _ position _)
  · exact .error _

theorem carries_replace (position : Position) (regexIndex : Nat) (regexToken : Token)
    (close : Nat) :
    Carries front (Reading.renamed front)
      (context.replace workspace position regexIndex regexToken close)
      ((context.renamed front).replace (workspace.renamed front) position regexIndex regexToken
        close) := by
  unfold replace
  cases Regex.compile regexToken.value with
  | error fault => exact .error _
  | ok regex =>
      refine (context.carries_argumentSpans front _ _ _).bind fun spans => ?_
      simp only [id]
      split
      · exact .ok (workspace, Construct.replacer regex _ _)
      · exact .error _

/-! ### Subroutines -/

theorem carries_callSubroutine (position : Position) (nameIndex : Nat) (name : Token)
    (close : Nat) :
    Carries front (Reading.renamed front)
      (context.callSubroutine workspace position nameIndex name close)
      ((context.renamed front).callSubroutine (workspace.renamed front) position nameIndex name
        close) := by
  refine (context.carries_argumentSpans front _ _ _).bind fun spans => ?_
  simp only [id, Workspace.subroutine?_renamed]
  cases workspace.subroutines.find? (name.value, spans.length) with
  | none => exact .error _
  | some subroutine =>
      simp only [Option.map_some, pattern_renamed, map_mk_renamed, Subroutine.plan_renamed]
      exact .ok (workspace, Construct.call subroutine position _)

theorem carries_readParameters (name : String) (spans : List Span) :
    Carries front id (context.readParameters name spans)
      ((context.renamed front).readParameters name spans) := by
  induction spans with
  | nil => exact .ok []
  | cons span spans inductionHypothesis =>
      simp only [readParameters, pattern_renamed, trimSpan_renamed, slice_renamed]
      split
      · exact inductionHypothesis.bind fun _ => .ok _
      · exact .error _

theorem carries_readSignature (index stop : Nat) :
    Carries front id (context.readSignature index stop)
      ((context.renamed front).readSignature index stop) := by
  simp only [readSignature, pattern_renamed, skipBlanks_renamed, tokens_renamed,
    positionAt_renamed]
  split
  · split
    · refine (context.carries_argumentSpans front _ _ _).bind fun spans => ?_
      exact (context.carries_readParameters front _ _).bind fun _ => .ok _
    · exact .error _
  · exact .error _

theorem carries_defineSubroutine (signatureIndex close : Nat) (isGenerated : Bool) :
    Carries front (Reading.renamed front)
      (context.defineSubroutine workspace signatureIndex close isGenerated)
      ((context.renamed front).defineSubroutine (workspace.renamed front) signatureIndex close
        isGenerated) := by
  simp only [defineSubroutine, pattern_renamed, scopeClose_renamed, skipBlanks_renamed,
    kindAt?_renamed, trimSpan_renamed, positionAt_renamed]
  refine (context.carries_checkScope front _).bind fun signatureClose => ?_
  refine (context.carries_readSignature front _ _).bind fun signature => ?_
  obtain ⟨name, parameters⟩ := signature
  simp only [id]
  split
  · split
    · exact .ok (workspace, Construct.definition name parameters _)
    · exact carries_define front workspace ⟨name, parameters, _⟩
  · exact .error _

theorem carries_readSubroutine (position : Position) (index close : Nat) :
    Carries front (Reading.renamed front)
      (context.readSubroutine workspace position index close)
      ((context.renamed front).readSubroutine (workspace.renamed front) position index close) := by
  simp only [readSubroutine, pattern_renamed, tokens_renamed, kindAt?_renamed]
  split
  · exact .error _
  · split
    · exact context.carries_callSubroutine front workspace _ _ _ _
    · split <;> split
      all_goals first
        | exact context.carries_defineSubroutine front workspace _ _ _
        | exact .error _

theorem carries_readTag (opener : Token) (opening close : Nat) :
    Carries front (Reading.renamed front) (context.readTag workspace opener opening close)
      ((context.renamed front).readTag (workspace.renamed front) opener opening close) := by
  simp only [readTag, pattern_renamed, tokens_renamed, skipBlanks_renamed, trimSpan_renamed]
  split
  · exact .error _
  · split
    · exact .ok (workspace, Construct.generated _)
    · exact context.carries_replace front workspace _ _ _ _
    · exact context.carries_readSubroutine front workspace _ _ _
    · exact context.carries_callTag front workspace _ _ _ _
    · exact .error _

/-! ### Arithmetic and queries -/

theorem readArithmetic_renamed (opener : Token) (opening close : Nat) :
    (context.renamed front).readArithmetic opener opening close =
      (context.readArithmetic opener opening close).renamed front := by
  simp only [readArithmetic, pattern_renamed, skipBlanks_renamed, kindAt?_renamed]
  rfl

theorem carries_writeEntry (position : Position) (query : Vocabulary.Query) :
    Carries front (Reading.renamed front) (context.writeEntry workspace position query)
      ((context.renamed front).writeEntry (workspace.renamed front) position query) := by
  simp only [writeEntry, engine_renamed, Workspace.history_renamed, Workspace.generator_renamed]
  cases context.engine.lexicon? with
  | none => exact .error _
  | some lexicon =>
      dsimp only
      split
      · next candidate history generator resolved =>
          exact carries_written front
            { workspace with history := history, generator := generator } candidate.text
      · exact .error _
      · exact .error _

theorem carries_readQuery (opener : Token) (opening close : Nat) :
    Carries front (Reading.renamed front) (context.readQuery workspace opener opening close)
      ((context.renamed front).readQuery (workspace.renamed front) opener opening close) := by
  simp only [readQuery, pattern_renamed, slice_renamed, positionAt_renamed, namedQuery?_renamed]
  split
  · exact .error _
  · split
    · exact context.carries_writeEntry front workspace _ _
    · next name isGlobal query form =>
        cases isGlobal with
        | true =>
            exact .ok ({ workspace with
              globalQueries := workspace.globalQueries.insert name query }, Construct.nothing)
        | false =>
            rw [if_neg nofun, if_neg nofun, Workspace.keep_renamed]
            exact .ok (_, Construct.nothing)
    · split
      · exact context.carries_writeEntry front workspace _ _
      · exact .error _

theorem carries_readEscape (token : Token) :
    Carries front (Reading.renamed front) (context.readEscape workspace token)
      ((context.renamed front).readEscape (workspace.renamed front) token) := by
  simp only [readEscape, engine_renamed, Workspace.generator_renamed]
  split
  · exact .error _
  · next count counted =>
      by_cases excessive : context.engine.settings.maxRepetitions < count
      · simp only [excessive, if_true]
        exact .error _
      · simp only [excessive, if_false]
        split
        · exact .error _
        · next text generator expanded =>
            exact carries_written front { workspace with generator := generator } text

theorem carries_readConstruct (index stop : Nat) (token : Token) :
    Carries front (Reading.renamed front) (context.readConstruct workspace index stop token)
      ((context.renamed front).readConstruct (workspace.renamed front) index stop token) := by
  simp only [readConstruct, pattern_renamed, itemsBetween_renamed, readBlock_renamed,
    readArithmetic_renamed, Workspace.write_renamed]
  split
  · exact .ok _
  · exact context.carries_readTag front workspace _ _ _
  · exact .ok (workspace, _)
  · exact context.carries_readQuery front workspace _ _ _
  · exact .error _
  · exact context.carries_readEscape front workspace _
  · exact .ok (_, Construct.nothing)
  · exact .ok (_, Construct.nothing)

end Context

end Machine

end SeededText
