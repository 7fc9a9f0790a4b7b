import SeededText.Proofs.PlainSources
import SeededText.Proofs.QueryReading
import SeededText.Proofs.Words

/-!
Contract: which names subroutines and query macros can have.

A name may have hyphens, but wherever it is written a hyphen is a token of its own. A name without
hyphens is a word, so that it is read as it was written: the subroutine of that name can be defined
and called, and the macro of that name defined and called. Of a name with hyphens only the front is
read as a name, and the hyphen behind it is a fault or a problem.

Owns: names in the sources that define and call them.
Does not own: words (`SeededText.Proofs.Words`), the names of tables
(`SeededText.Proofs.TableNames`).
-/

namespace SeededText

open Pattern

/-! ### Names with hyphens -/

namespace Pattern

/-- The front of a name, up to its first hyphen, is a name. -/
theorem exists_front_of_isName {name : String} (valid : isName name = true)
    (hyphenated : '-' ∈ name.toList) :
    ∃ (front : String) (behind : List Char), name.toList = front.toList ++ '-' :: behind ∧
      isName front = true ∧ '-' ∉ front.toList := by
  obtain ⟨first, rest, spelt, starts, characters⟩ := letters_of_isName valid
  obtain ⟨front, behind, parts, solid⟩ := List.eq_append_cons_of_mem hyphenated
  cases front with
  | nil =>
      obtain ⟨rfl, -⟩ := List.cons.inj (spelt.symm.trans parts)
      cases starts
  | cons letter front =>
      obtain ⟨rfl, -⟩ := List.cons.inj (spelt.symm.trans parts)
      have others : front.all isNameCharacter = true := by
        rw [List.all_eq_true]
        intro character member
        apply characters
        simp [parts, member]
      refine ⟨String.ofList (first :: front), behind, by simpa using parts, ?_,
        by simpa using solid⟩
      rw [isName, String.toList_ofList]
      exact Bool.and_eq_true_iff.mpr ⟨starts, others⟩

/-- No name begins with a number sign. -/
theorem head_ne_of_isName {name : String} (valid : isName name = true) :
    name.toList.head? ≠ some '#' := by
  obtain ⟨first, rest, spelt, starts, -⟩ := letters_of_isName valid
  rw [spelt]
  rintro ⟨⟩
  cases starts

/-- Tokens of known contents stand at some places. -/
theorem exists_places {tokens : List Token} {contents : List (TokenKind × List Char)}
    (same : tokens.map Token.content = contents) :
    ∃ places : Nat → Position, tokens = contents.mapIdx fun index content =>
      ⟨content.1, String.ofList content.2, places index⟩ := by
  refine ⟨fun index => (tokens[index]?.map Token.position).getD .start, ?_⟩
  subst same
  apply List.ext_getElem?
  intro index
  rw [List.getElem?_mapIdx, List.getElem?_map]
  cases found : tokens[index]? with
  | none => rfl
  | some token => simp [Token.content, found]

/-- The first token of known contents. -/
theorem exists_first (value : String) {tokens : List Token} {kind : TokenKind}
    {others : List (TokenKind × List Char)}
    (same : tokens.map Token.content = (kind, value.toList) :: others) :
    ∃ place rest, tokens = ⟨kind, value, place⟩ :: rest ∧ rest.map Token.content = others := by
  obtain ⟨⟨_, _, place⟩, rest, rfl, content, sameOthers⟩ := List.map_eq_cons_iff.mp same
  obtain ⟨rfl, sameValue⟩ := Prod.mk.inj content
  obtain rfl := String.toList_inj.mp sameValue
  exact ⟨place, rest, rfl, sameOthers⟩

end Pattern

/-! ### Macros -/

namespace Vocabulary

/-- A text is read as a query without a problem. -/
def ReadsAs (source : String) (form : QueryForm) : Prop :=
  ∃ tokens, tokenize source = .ok tokens ∧ ∀ stop, parseQuery tokens stop = ⟨form, []⟩

/-- A macro can be called by the name, and defined by it for one pattern or for all. -/
structure NamesMacros (name : String) : Prop where
  call : ReadsAs ("@" ++ name) (.call name)
  defineLocal : ReadsAs ("@" ++ name ++ ": t") (.define name false (.all "t"))
  defineGlobal : ReadsAs ("@" ++ name ++ " = t") (.define name true (.all "t"))

section Macros

variable {name : String} {behind : List Char} {others : List Lexeme}

/-- Behind the sign of a macro a word is read. -/
theorem reads_macro_iff {lexemes : List Lexeme} (isWord : IsWord name.toList)
    (ends : EndsWord behind) (visible : name.toList.head? ≠ some '#') :
    Reads true ('@' :: (name.toList ++ behind)) lexemes ↔ ∃ others,
      lexemes = signLexeme .atSign '@' :: wordLexeme name.toList :: others ∧
        Reads (name.toList.foldl lineBlankAfter false) behind others := by
  have known : punctuation? '@' = some .atSign := rfl
  rw [reads_sign_iff _ known (.inl (by decide))]
  constructor
  · rintro ⟨left, rfl, readsLeft⟩
    obtain ⟨others, rfl, readsOthers⟩ := (isWord.reads_iff ends visible).mp readsLeft
    exact ⟨others, rfl, readsOthers⟩
  · rintro ⟨others, rfl, readsOthers⟩
    exact ⟨_, rfl, (isWord.reads_iff ends visible).mpr ⟨others, rfl, readsOthers⟩⟩

/-- The name behind an at sign is that of a macro. -/
theorem macroName_of_isName (valid : isName name = true) (sign place : Position) :
    Grammar.MacroName [⟨.atSign, "@", sign⟩, ⟨.text, name, place⟩] name := by
  have begins : Grammar.Terminal .atSign [⟨.atSign, "@", sign⟩] _ := .single rfl
  have text : Grammar.Terminal .text [⟨.text, name, place⟩] _ := .single rfl
  have trimmed : Text.trim name = name := trim_of_isName valid
  have named := Grammar.MacroName.named begins text (by rwa [trimmed])
  rw [trimmed] at named
  exact named

/-- A name without hyphens is read as one token behind the sign. -/
theorem exists_tokens_macro (valid : isName name = true) (solid : '-' ∉ name.toList)
    (source : String) (parts : source.toList = '@' :: (name.toList ++ behind))
    (ends : EndsWord behind) (reads : ∀ lineBlank, Reads lineBlank behind others) :
    ∃ (sign place : Position) (rest : List Token),
      tokenize source = .ok (⟨.atSign, "@", sign⟩ :: ⟨.text, name, place⟩ :: rest) ∧
        rest.map Token.content = others.filterMap Lexeme.token? := by
  have whole : Reads true source.toList _ :=
    parts ▸ (reads_macro_iff (isWord_of_isName valid solid) ends (head_ne_of_isName valid)).mpr
      ⟨others, rfl, reads _⟩
  obtain ⟨tokens, lexes, contents⟩ := exists_tokenize_of_reads whole
  obtain ⟨sign, left, rfl, contentsLeft⟩ := exists_first "@" contents
  obtain ⟨place, rest, rfl, contentsRest⟩ := exists_first name contentsLeft
  exact ⟨sign, place, rest, lexes, contentsRest⟩

/-- The query for the table `t`, behind one blank. -/
theorem body_t (space place : Position) :
    Grammar.Body [⟨.blank, " ", space⟩, ⟨.text, "t", place⟩] (.all "t") := by
  have begins : Grammar.Terminal .text [⟨.blank, " ", space⟩, ⟨.text, "t", place⟩] _ :=
    .behindBlank rfl rfl
  have names : Grammar.TableName (Text.trimmed "t".toList) "t" none := by
    have trimmed : Text.trimmed "t".toList = ['t'] := by decide
    rw [trimmed]
    exact .plain (by decide)
  exact .query begins names .unmarked .nil .nothing

theorem namesMacros_of_isName (valid : isName name = true) (solid : '-' ∉ name.toList) :
    NamesMacros name where
  call := by
    have ends : EndsWord [] := nofun
    obtain ⟨sign, place, rest, lexes, contents⟩ :=
      exists_tokens_macro valid solid ("@" ++ name) (by simp) ends fun _ => .nil
    obtain rfl := List.map_eq_nil_iff.mp contents
    have form : Grammar.Form _ (.call name) := .call (macroName_of_isName valid sign place) .nil
    exact ⟨_, lexes, fun stop => Grammar.parseQuery_form form⟩
  defineLocal := by
    have ends : EndsWord [':', ' ', 't'] := .of_sign .colon rfl
    have reads (lineBlank : Bool) : Reads lineBlank [':', ' ', 't']
        [signLexeme .colon ':', layoutLexeme [' '], wordLexeme ['t']] :=
      .cons rfl rfl (.cons rfl rfl (.cons rfl rfl .nil))
    obtain ⟨sign, place, rest, lexes, contents⟩ :=
      exists_tokens_macro valid solid ("@" ++ name ++ ": t") (by simp) ends reads
    obtain ⟨places, rfl⟩ := exists_places contents
    have names := macroName_of_isName valid sign place
    have colon : Grammar.Terminal .colon [⟨.colon, ":", places 0⟩] _ := .single rfl
    have form : Grammar.Form _ (.define name false (.all "t")) :=
      .defineLocal names colon (body_t (places 1) (places 2)) .nil
    exact ⟨_, lexes, fun stop => Grammar.parseQuery_form form⟩
  defineGlobal := by
    have ends : EndsWord [' ', '=', ' ', 't'] := .of_cons (by decide)
    have reads (lineBlank : Bool) : Reads lineBlank [' ', '=', ' ', 't']
        [layoutLexeme [' '], signLexeme .equals '=', layoutLexeme [' '], wordLexeme ['t']] :=
      .cons rfl rfl (.cons rfl rfl (.cons rfl rfl (.cons rfl rfl .nil)))
    obtain ⟨sign, place, rest, lexes, contents⟩ :=
      exists_tokens_macro valid solid ("@" ++ name ++ " = t") (by simp) ends reads
    obtain ⟨places, rfl⟩ := exists_places contents
    have names := macroName_of_isName valid sign place
    have equals : Grammar.Terminal .equals [⟨.blank, " ", places 0⟩, ⟨.equals, "=", places 1⟩] _ :=
      .behindBlank rfl rfl
    have form : Grammar.Form _ (.define name true (.all "t")) :=
      .defineGlobal names equals (body_t (places 2) (places 3)) .nil
    exact ⟨_, lexes, fun stop => Grammar.parseQuery_form form⟩

/-- A hyphen behind the name of a macro is a problem. -/
theorem diagnostics_behind_hyphen {front rest tokens : List Token} {stop place : Position}
    (names : Grammar.MacroName front name)
    (parts : tokens = front ++ ⟨.hyphen, "-", place⟩ :: rest) :
    (parseQuery tokens stop).diagnostics ≠ [] := by
  have hyphen : skipBlankTokens (⟨.hyphen, "-", place⟩ :: rest) = ⟨.hyphen, "-", place⟩ :: rest :=
    rfl
  rw [parts, Grammar.parseQuery_of_macroName names, hyphen]
  exact List.cons_ne_nil _ _

/-- Behind a hyphen in its name a macro is neither called nor defined without a problem. -/
theorem diagnostics_of_hyphenated (valid : isName name = true) (hyphenated : '-' ∈ name.toList)
    {behind : String} {tokens : List Token} (stop : Position)
    (lexes : tokenize ("@" ++ name ++ behind) = .ok tokens) :
    (parseQuery tokens stop).diagnostics ≠ [] := by
  obtain ⟨front, left, parts, validFront, solid⟩ := exists_front_of_isName valid hyphenated
  have source : ("@" ++ name ++ behind).toList =
      '@' :: (front.toList ++ '-' :: (left ++ behind.toList)) := by simp [parts]
  have ends : EndsWord ('-' :: (left ++ behind.toList)) := .of_sign .hyphen rfl
  obtain ⟨lexemes, reads, contents⟩ := exists_reads_of_tokenize lexes
  rw [source, reads_macro_iff (isWord_of_isName validFront solid) ends
    (head_ne_of_isName validFront)] at reads
  obtain ⟨others, rfl, readsBehind⟩ := reads
  rw [reads_sign_iff .hyphen rfl (.inl (by decide))] at readsBehind
  obtain ⟨others, rfl, -⟩ := readsBehind
  obtain ⟨sign, named, rfl, sameNamed⟩ := exists_first "@" contents
  obtain ⟨place, cut, rfl, sameCut⟩ := exists_first front sameNamed
  obtain ⟨hyphen, tokens, rfl, -⟩ := exists_first "-" sameCut
  exact diagnostics_behind_hyphen (macroName_of_isName validFront sign place) rfl

end Macros

end Vocabulary

/-! ### Subroutines -/

namespace Pattern

/-- A source that defines a subroutine, whose body is a quoted text, and calls it. -/
def definingAndCalling (name text : String) : String :=
  "[$[" ++ name ++ "]:" ++ quoted text ++ "][$" ++ name ++ "]"

theorem toList_definingAndCalling (name text : String) :
    (definingAndCalling name text).toList =
      '[' :: '$' :: '[' :: (name.toList ++ ']' :: ':' :: '"' :: (doubleQuotes text.toList ++
        '"' :: ']' :: '[' :: '$' :: (name.toList ++ [']']))) := by
  simp [definingAndCalling, quoted, quote]

/-- The tokens of that source for a name without hyphens. -/
def callingTokens (name text : String) (places : Nat → Position) : List Token :=
  [⟨.opens .square, "[", places 0⟩, ⟨.dollar, "$", places 1⟩, ⟨.opens .square, "[", places 2⟩,
    ⟨.text, name, places 3⟩, ⟨.closes .square, "]", places 4⟩, ⟨.colon, ":", places 5⟩,
    ⟨.constant, text, places 6⟩, ⟨.closes .square, "]", places 7⟩,
    ⟨.opens .square, "[", places 8⟩, ⟨.dollar, "$", places 9⟩, ⟨.text, name, places 10⟩,
    ⟨.closes .square, "]", places 11⟩]

section Tokens

variable {name : String} {behind : List Char} {lexemes others : List Lexeme}

theorem ReadsAnywhere.constant {text : List Char} (ends : behind.head? ≠ some '"')
    (reads : ReadsAnywhere behind others) :
    ReadsAnywhere ('"' :: (doubleQuotes text ++ '"' :: behind))
      (⟨quote text, some (.constant, text)⟩ :: others) :=
  fun _ => .cons (readLexeme_quote text ends) (by simp [quote]) (reads _)

theorem exists_tokenize_definingAndCalling (valid : isName name = true) (solid : '-' ∉ name.toList)
    (text : String) : ∃ places,
      tokenize (definingAndCalling name text) = .ok (callingTokens name text places) := by
  have isWord := isWord_of_isName valid solid
  have visible := head_ne_of_isName valid
  have nameClosed {rest : List Char} {others : List Lexeme} (reads : ReadsAnywhere rest others) :
      ReadsAnywhere (name.toList ++ ']' :: rest)
        (wordLexeme name.toList :: signLexeme (.closes .square) ']' :: others) :=
    .word isWord (.of_sign (.closes .square) rfl) visible (.sign rfl (by decide) reads)
  have call : ReadsAnywhere ('[' :: '$' :: (name.toList ++ [']'])) _ :=
    .sign rfl (by decide) (.sign rfl (by decide) (nameClosed .nil))
  have body : ReadsAnywhere (':' :: '"' :: (doubleQuotes text.toList ++
      '"' :: ']' :: '[' :: '$' :: (name.toList ++ [']']))) _ :=
    .colon (by simp) (.constant (by simp) (.sign rfl (by decide) call))
  have whole : ReadsAnywhere ('[' :: '$' :: '[' :: _) _ :=
    .sign rfl (by decide) (.sign rfl (by decide) (.sign rfl (by decide) (nameClosed body)))
  rw [← toList_definingAndCalling] at whole
  obtain ⟨tokens, lexes, contents⟩ := exists_tokenize_of_reads (whole true)
  obtain ⟨places, rfl⟩ := exists_places contents
  refine ⟨places, ?_⟩
  rw [lexes]
  simp [callingTokens, wordLexeme, signLexeme]

/-- The first tokens of that source if only the front of the name is read as one. -/
def hyphenatedTokens (front : String) (places : Nat → Position) (rest : List Token) : List Token :=
  ⟨.opens .square, "[", places 0⟩ :: ⟨.dollar, "$", places 1⟩ ::
    ⟨.opens .square, "[", places 2⟩ :: ⟨.text, front, places 3⟩ :: ⟨.hyphen, "-", places 4⟩ :: rest

/-- The signature of a subroutine whose name has hyphens is cut at the first of them. -/
theorem exists_tokens_hyphenated (valid : isName name = true) (hyphenated : '-' ∈ name.toList)
    {text : String} {tokens : List Token}
    (lexes : tokenize (definingAndCalling name text) = .ok tokens) :
    ∃ front places rest, tokens = hyphenatedTokens front places rest := by
  obtain ⟨front, left, parts, validFront, solid⟩ := exists_front_of_isName valid hyphenated
  obtain ⟨lexemes, reads, contents⟩ := exists_reads_of_tokenize lexes
  rw [toList_definingAndCalling, parts, List.append_assoc, List.cons_append] at reads
  obtain ⟨_, rfl, readsDollar⟩ :=
    (reads_sign_iff (.opens .square) rfl (.inl (by decide))).mp reads
  obtain ⟨_, rfl, readsInner⟩ :=
    (reads_sign_iff .dollar rfl (.inl (by decide))).mp readsDollar
  obtain ⟨_, rfl, readsFront⟩ :=
    (reads_sign_iff (.opens .square) rfl (.inl (by decide))).mp readsInner
  obtain ⟨_, rfl, readsHyphen⟩ := ((isWord_of_isName validFront solid).reads_iff
    (.of_sign .hyphen rfl) (head_ne_of_isName validFront)).mp readsFront
  obtain ⟨_, rfl, -⟩ := (reads_sign_iff .hyphen rfl (.inl (by decide))).mp readsHyphen
  obtain ⟨first, _, rfl, sameDollar⟩ := exists_first "[" contents
  obtain ⟨second, _, rfl, sameInner⟩ := exists_first "$" sameDollar
  obtain ⟨third, _, rfl, sameFront⟩ := exists_first "[" sameInner
  obtain ⟨fourth, _, rfl, sameHyphen⟩ := exists_first front sameFront
  obtain ⟨fifth, rest, rfl, -⟩ := exists_first "-" sameHyphen
  exact ⟨front, fun index => [first, second, third, fourth, fifth].getD index .start, rest, rfl⟩

end Tokens

end Pattern

namespace Machine

open Output SeededText.Machine.Configuration

section Spans

variable {pattern : Pattern}

theorem kindAt?_ne_blank (solid : ∀ token ∈ pattern.tokens, token.kind ≠ .blank) (index : Nat) :
    pattern.kindAt? index ≠ some .blank := by
  intro found
  obtain ⟨token, there, isBlank⟩ := Option.map_eq_some_iff.mp found
  exact solid token (Array.mem_of_getElem? there) isBlank

theorem trimSpan_of_solid (solid : ∀ token ∈ pattern.tokens, token.kind ≠ .blank)
    (span : Pattern.Span) : pattern.trimSpan span = span := by
  obtain ⟨start, stop⟩ := span
  rw [Pattern.trimSpan, Pattern.skipBlanks_of_solid (kindAt?_ne_blank solid start)]
  cases stop with
  | zero => rfl
  | succ last => rw [Pattern.trimStop, if_neg fun both => kindAt?_ne_blank solid last both.2]

end Spans

section Readings

variable {context : Context} {workspace : Workspace} {subroutine : Subroutine} {token : Token}
  {index : Nat}

/-- A name on its own is the signature of a subroutine without parameters. -/
theorem readSignature_of_name (next : context.pattern.tokens[index]? = some token)
    (isText : token.kind = .text) (valid : isName token.value = true) :
    context.readSignature index (index + 1) = .ok (token.value, []) := by
  have noBlank : context.pattern.kindAt? index ≠ some .blank := by
    simp [Pattern.kindAt?, next, isText]
  have here :
      (if index < index + 1 then context.pattern.tokens[index]? else none) = some token := by
    rw [if_pos (Nat.lt_succ_self index), next]
  rw [Context.readSignature, Pattern.skipBlanks_of_solid noBlank]
  simp only [here, isText, valid, and_self, if_true, Machine.bind_eq_ok]
  exact ⟨token.value, rfl, [], context.argumentSpans_self (index + 1) token.value, [], rfl, rfl⟩

/-- A call without arguments. -/
theorem callSubroutine_bare (position : Position)
    (known : workspace.subroutines.find? (token.value, 0) = some subroutine) :
    context.callSubroutine workspace position index token (index + 1) =
      .ok (workspace, .call subroutine position []) := by
  rw [Context.callSubroutine, Context.argumentSpans_self, bind_eq_ok]
  refine ⟨[], rfl, ?_⟩
  rw [List.length_nil, known]
  simp [Subroutine.plan, pure, Except.pure]

end Readings

/-! #### Definition and call -/

/-- The pattern of the source that defines a subroutine and calls it. -/
def callingPattern (patternName name text : String) (places : Nat → Position) : Pattern :=
  ⟨patternName, definingAndCalling name text, (callingTokens name text places).toArray⟩

/-- The subroutine that the pattern defines. -/
def quotedSubroutine (pattern : Pattern) (name : String) : Subroutine :=
  ⟨name, [], ⟨pattern, ⟨6, 7⟩⟩⟩

section Calling

variable {patternName name text : String} {places : Nat → Position} {context : Context}
  {workspace : Workspace}

theorem solid_callingPattern : ∀ token ∈ (callingPattern patternName name text places).tokens,
    token.kind ≠ .blank := by
  simp [callingPattern, callingTokens]

theorem scopeClose_definition :
    (callingPattern patternName name text places).scopeClose 0 = .ok 7 := by
  simp [Pattern.scopeClose, Pattern.closeFrom, callingPattern, callingTokens]

theorem scopeClose_signature :
    (callingPattern patternName name text places).scopeClose 2 = .ok 4 := by
  simp [Pattern.scopeClose, Pattern.closeFrom, callingPattern, callingTokens]

theorem scopeClose_call :
    (callingPattern patternName name text places).scopeClose 8 = .ok 11 := by
  simp [Pattern.scopeClose, Pattern.closeFrom, callingPattern, callingTokens]

theorem defineSubroutine_calling (valid : isName name = true)
    (same : context.pattern = callingPattern patternName name text places) :
    context.defineSubroutine workspace 2 7 false = .ok ({ workspace with
      subroutines := workspace.subroutines.define (quotedSubroutine context.pattern name) },
      .nothing) := by
  have solid := same ▸ @solid_callingPattern patternName name text places
  have next : context.pattern.tokens[3]? = some ⟨.text, name, places 3⟩ := same ▸ rfl
  have colon : context.pattern.kindAt? 5 = some .colon := same ▸ rfl
  have signature : context.readSignature 3 4 = .ok (name, []) :=
    readSignature_of_name next rfl valid
  have close : context.checkScope (context.pattern.scopeClose 2) = .ok 4 :=
    same ▸ congrArg context.checkScope scopeClose_signature
  rw [Context.defineSubroutine, close]
  simp only [bind_eq_ok]
  refine ⟨4, rfl, (name, []), signature, ?_⟩
  rw [Pattern.skipBlanks_of_solid (kindAt?_ne_blank solid 5), trimSpan_of_solid solid,
    if_pos ⟨by decide, colon⟩]
  rfl

theorem readConstruct_definition (valid : isName name = true)
    (same : context.pattern = callingPattern patternName name text places) :
    context.readConstruct workspace 0 8 ⟨.opens .square, "[", places 0⟩ = .ok ({ workspace with
      subroutines := workspace.subroutines.define (quotedSubroutine context.pattern name) },
      .nothing) := by
  have defines : context.defineSubroutine workspace 2 7 false = _ :=
    defineSubroutine_calling valid same
  have first : context.pattern.skipBlanks 1 7 = 1 :=
    Pattern.skipBlanks_of_solid (kindAt?_ne_blank (same ▸ solid_callingPattern) 1) 7
  have dollar : context.pattern.tokens[1]? = some ⟨.dollar, "$", places 1⟩ := same ▸ rfl
  have opener : context.pattern.tokens[2]? = some ⟨.opens .square, "[", places 2⟩ := same ▸ rfl
  simp [Context.readConstruct, Context.readTag, first, dollar, Context.readSubroutine, opener,
    Pattern.kindAt?, defines]

theorem readConstruct_call {subroutine : Subroutine}
    (same : context.pattern = callingPattern patternName name text places)
    (known : workspace.subroutines.find? (name, 0) = some subroutine) :
    context.readConstruct workspace 8 12 ⟨.opens .square, "[", places 8⟩ =
      .ok (workspace, .call subroutine (places 8) []) := by
  have first : context.pattern.skipBlanks 9 11 = 9 :=
    Pattern.skipBlanks_of_solid (kindAt?_ne_blank (same ▸ solid_callingPattern) 9) 11
  have dollar : context.pattern.tokens[9]? = some ⟨.dollar, "$", places 9⟩ := same ▸ rfl
  have called : context.pattern.tokens[10]? = some ⟨.text, name, places 10⟩ := same ▸ rfl
  have calls : context.callSubroutine workspace (places 8) 10 ⟨.text, name, places 10⟩ 11 =
      .ok (workspace, .call subroutine (places 8) []) := callSubroutine_bare (places 8) known
  simp [Context.readConstruct, Context.readTag, first, dollar, Context.readSubroutine, called,
    calls]

end Calling

/-! #### The run -/

/-- A call without arguments of verbatim code runs it, and all that changes is that its text has
been written. -/
theorem Configuration.exists_reaches_call (engine : Engine) (store : Store) (top : Activation)
    (beneath : List Activation) {subroutine : Subroutine} {position : Position} {text : String}
    (tasks : top.tasks = [.callSubroutine ⟨subroutine, position, .start []⟩])
    (verbatim : subroutine.body.isVerbatim = true)
    (room : beneath.length + 1 < engine.settings.maxStackDepth)
    (inside : top.sink < store.sinks.size)
    (holds : (store.sinkAt top.sink).Holds store.targets text) :
    ∃ written,
      Reaches engine ⟨store, top :: beneath⟩
        ⟨store.absorb top.sink ⟨store.toMemory, written⟩, { top with tasks := [] } :: beneath⟩ ∧
      written.Holds store.targets (text ++ subroutine.body.text) := by
  -- The body is entered under its bindings, prints its text, and is left, which drops them.
  let bound : Store := { store with bindings := subroutine.bind [] :: store.bindings }
  let entry : Entry := ⟨subroutine.body, false, some .dropBindings⟩
  let caller : Activation := { top with tasks := [] }
  let callee : Activation := .enter entry top.sink
  have entered : Steps engine ⟨store, top :: beneath⟩ ⟨bound, callee :: caller :: beneath⟩ := by
    have low : ¬engine.settings.maxStackDepth ≤ beneath.length + 1 := Nat.not_le.mpr room
    have resumed : (top.context engine store).resume store top.sink
        (.callSubroutine ⟨subroutine, position, .start []⟩) =
        .ok ((top.context engine store).enter bound entry) := rfl
    apply Steps.of_resume tasks resumed
    simp only [settle, shift, Context.enter, enterAll_singleton, enter, if_neg low]
    rfl
  have tokens (index : Nat) (token : Token) (higher : callee.cursor ≤ index)
      (found : callee.code.tokenAt? index = some token) : token.kind.isVerbatim = true :=
    Code.isVerbatim_of_tokenAt? verbatim higher found
  obtain ⟨later, written, reaches, atEnd, continues, whole⟩ :=
    exists_reaches_of_isVerbatim engine bound callee (caller :: beneath) rfl tokens inside holds
  have shared : later.ownsSink = false := continues.ownsSink
  have idle : caller.tasks = [] := rfl
  have left := proceeds_leave engine (bound.absorb callee.sink ⟨bound.toMemory, written⟩) beneath
    atEnd continues.completion? idle
  rw [release_of_shared shared] at left
  exact ⟨written, .head entered (reaches.trans (left.stays rfl)), whole⟩

section Running

variable {engine : Engine} {seed : UInt64} {patternName name text : String}
  {places : Nat → Position}

/-- The store of a run that has defined one subroutine. -/
def Store.defining (engine : Engine) (seed : UInt64) (subroutine : Subroutine) : Store :=
  { Store.fresh engine seed with subroutines := engine.subroutines.define subroutine }

/-- The activation of a whole pattern that reads on at an index. -/
def Activation.readingOn (pattern : Pattern) (cursor : Nat) (tasks : List Task) : Activation :=
  { Activation.enter (.shared (.whole pattern)) 0 with cursor := cursor, tasks := tasks }

theorem steps_definition (valid : isName name = true) :
    let pattern := callingPattern patternName name text places
    Steps engine (.start engine pattern seed)
      ⟨.defining engine seed (quotedSubroutine pattern name), [.readingOn pattern 8 []]⟩ :=
  .of_read rfl rfl (Context.constructStop_of_close rfl scopeClose_definition)
    (readConstruct_definition valid rfl) rfl

theorem steps_call :
    let pattern := callingPattern patternName name text places
    let subroutine := quotedSubroutine pattern name
    Steps engine ⟨.defining engine seed subroutine, [.readingOn pattern 8 []]⟩
      ⟨.defining engine seed subroutine,
        [.readingOn pattern 12 [.callSubroutine ⟨subroutine, places 8, .start []⟩]]⟩ := by
  intro pattern subroutine
  let store : Store := .defining engine seed subroutine
  let top : Activation := .readingOn pattern 8 []
  have stopped : (top.context engine store).constructStop 8 ⟨.opens .square, "[", places 8⟩ =
      .ok 12 := Context.constructStop_of_close rfl scopeClose_call
  have known : (store.workspace top.sink).subroutines.find? (name, 0) = some subroutine :=
    (Table.find?_insert _ _ _ _).trans (if_pos rfl)
  apply Steps.of_read rfl rfl stopped (readConstruct_call rfl known)
  rw [store.absorb_workspace]
  rfl

theorem isVerbatim_quotedSubroutine :
    (quotedSubroutine (callingPattern patternName name text places) name).body.isVerbatim =
      true := by
  simp [quotedSubroutine, callingPattern, callingTokens, Code.isVerbatim, Code.tokens,
    Pattern.slice, TokenKind.isVerbatim]

theorem text_quotedSubroutine :
    (quotedSubroutine (callingPattern patternName name text places) name).body.text = text := by
  have constant : (callingPattern patternName name text places).tokens[6]? =
      some ⟨.constant, text, places 6⟩ := rfl
  rw [quotedSubroutine, Code.text, Pattern.spanText_of_token (by decide) constant,
    Pattern.spanText_of_end (.inl (Nat.le_refl 7)), String.append_empty]

/-- A name without hyphens is the name of a subroutine: it is defined, and then called. -/
theorem runSource_definingAndCalling (room : 1 < engine.settings.maxStackDepth)
    (valid : isName name = true) (solid : '-' ∉ name.toList) :
    engine.runSource patternName (definingAndCalling name text) seed =
      .ok [⟨mainChannel, .shared, text⟩] := by
  obtain ⟨places, lexes⟩ := exists_tokenize_definingAndCalling valid solid text
  let pattern := callingPattern patternName name text places
  let store : Store := .defining engine seed (quotedSubroutine pattern name)
  have compiles : compile patternName (definingAndCalling name text) = .ok pattern :=
    compile_of_tokenize patternName lexes
  have fresh : (store.sinkAt 0).Holds store.targets "" := .fresh _
  obtain ⟨written, reaches, holds⟩ :=
    exists_reaches_call engine store (.readingOn pattern 12 _) [] rfl isVerbatim_quotedSubroutine
      room Nat.one_pos fresh
  let last : Store := store.absorb 0 ⟨store.toMemory, written⟩
  have left : Reaches engine ⟨last, [.readingOn pattern 12 []]⟩ ⟨last, []⟩ :=
    reaches_leave_shared ⟨rfl, rfl⟩ ⟨rfl, rfl, rfl, rfl⟩
  have reachable : Reachable engine pattern seed ⟨last, []⟩ :=
    .head (steps_definition valid) (.head steps_call (reaches.trans left))
  have output : last.output = [⟨mainChannel, .shared, text⟩] := by
    rw [String.empty_append, text_quotedSubroutine] at holds
    exact holds.output
  rw [runSource_eq engine seed compiles, Engine.run, run_of_reaches reachable .finished]
  exact congrArg Except.ok output

end Running

/-! #### Hyphens in the name of a subroutine -/

section Hyphenated

variable {pattern : Pattern} {context : Context} {workspace : Workspace} {token other : Token}
  {index close : Nat}

theorem closeFrom_of_isVerbatim {opener : Token} {expected : List Bracket}
    (next : pattern.tokens[index]? = some token) (verbatim : token.kind.isVerbatim = true) :
    pattern.closeFrom opener expected index = pattern.closeFrom opener expected (index + 1) := by
  obtain ⟨inside, same⟩ := Array.getElem?_eq_some_iff.mp next
  rw [Pattern.closeFrom, dif_pos inside]
  dsimp only
  rw [same]
  split <;> simp_all [TokenKind.isVerbatim]

/-- A bracket with two verbatim tokens behind it does not close before the second. -/
theorem lt_of_scopeClose {opener : Token} {bracket : Bracket}
    (opens : pattern.tokens[index]? = some opener) (isOpener : opener.kind = .opens bracket)
    (first : pattern.tokens[index + 1]? = some token) (verbatim : token.kind.isVerbatim = true)
    (second : pattern.tokens[index + 2]? = some other) (verbatim' : other.kind.isVerbatim = true)
    (closes : pattern.scopeClose index = .ok close) : index + 2 < close := by
  simp only [Pattern.scopeClose, opens, isOpener] at closes
  rw [closeFrom_of_isVerbatim first verbatim, closeFrom_of_isVerbatim second verbatim'] at closes
  exact (Pattern.closeFrom_bounds closes).1

/-- A hyphen behind a name begins no arguments. -/
theorem readSignature_ne_ok {signature : String × List SubroutineParameter}
    (next : context.pattern.tokens[index]? = some token) (isText : token.kind = .text)
    (behind : context.pattern.tokens[index + 1]? = some other) (isHyphen : other.kind = .hyphen)
    (inside : index + 1 < close) : context.readSignature index close ≠ .ok signature := by
  have solid : context.pattern.kindAt? index ≠ some .blank := by
    simp [Pattern.kindAt?, next, isText]
  have solidBehind : context.pattern.kindAt? (index + 1) ≠ some .blank := by
    simp [Pattern.kindAt?, behind, isHyphen]
  have spans (name : String) : context.argumentSpans (index + 1) close name =
      context.reject other.position (.expectedArguments name other.value) := by
    simp [Context.argumentSpans, Pattern.skipBlanks_of_solid solidBehind, inside, behind, isHyphen]
  have here : (if index < close then context.pattern.tokens[index]? else none) = some token := by
    rw [if_pos (Nat.lt_of_succ_lt inside), next]
  intro read
  simp only [Context.readSignature, Pattern.skipBlanks_of_solid solid, here, spans] at read
  split at read <;> cases read

/-- A definition fails whose signature has a hyphen behind a name. -/
theorem defineSubroutine_ne_ok {isGenerated : Bool} {read : Reading} {opener : Token}
    (opens : context.pattern.tokens[index]? = some opener) (isOpener : opener.kind = .opens .square)
    (next : context.pattern.tokens[index + 1]? = some token) (isText : token.kind = .text)
    (behind : context.pattern.tokens[index + 2]? = some other) (isHyphen : other.kind = .hyphen) :
    context.defineSubroutine workspace index close isGenerated ≠ .ok read := by
  intro defined
  rw [Context.defineSubroutine, bind_eq_ok] at defined
  obtain ⟨signatureClose, closed, defined⟩ := defined
  obtain ⟨signature, signed, -⟩ := bind_eq_ok.mp defined
  cases closes : context.pattern.scopeClose index with
  | error problem =>
      rw [closes] at closed
      cases closed
  | ok found =>
      rw [closes] at closed
      cases closed
      have inside := lt_of_scopeClose opens isOpener next (by rw [isText]; rfl) behind
        (by rw [isHyphen]; rfl) closes
      exact readSignature_ne_ok next isText behind isHyphen inside signed

/-- A tag that defines such a subroutine fails. -/
theorem readTag_ne_ok {opener dollar signature : Token} {read : Reading}
    (sign : context.pattern.tokens[1]? = some dollar) (isDollar : dollar.kind = .dollar)
    (opens : context.pattern.tokens[2]? = some signature)
    (isOpener : signature.kind = .opens .square)
    (next : context.pattern.tokens[3]? = some token) (isText : token.kind = .text)
    (behind : context.pattern.tokens[4]? = some other) (isHyphen : other.kind = .hyphen) :
    context.readTag workspace opener 0 close ≠ .ok read := by
  have solid : context.pattern.kindAt? 1 ≠ some .blank := by
    simp [Pattern.kindAt?, sign, isDollar]
  have undefinable (isGenerated : Bool) :
      context.defineSubroutine workspace 2 close isGenerated ≠ .ok read :=
    defineSubroutine_ne_ok opens isOpener next isText behind isHyphen
  have noSubroutine : context.readSubroutine workspace opener.position 2 close ≠ .ok read := by
    by_cases inside : 2 < close
    · simpa [Context.readSubroutine, inside, opens, isOpener, Pattern.kindAt?] using
        undefinable false
    · simp [Context.readSubroutine, inside, Context.reject]
  by_cases inside : 1 < close
  · simpa [Context.readTag, Pattern.skipBlanks_of_solid solid, inside, sign, isDollar] using noSubroutine
  · simp [Context.readTag, Pattern.skipBlanks_of_solid solid, inside, Context.reject]

theorem exists_fault_of_hyphenated (engine : Engine) (patternName source front : String)
    (places : Nat → Position) (rest : List Token) (seed : UInt64) :
    let pattern : Pattern := ⟨patternName, source, (hyphenatedTokens front places rest).toArray⟩
    ∃ fault, step engine (.fresh engine seed) (.enter (.shared (.whole pattern)) 0) [] =
      .error fault := by
  intro pattern
  let top : Activation := .enter (.shared (.whole pattern)) 0
  cases stepped : step engine (.fresh engine seed) top [] with
  | error fault => exact ⟨fault, rfl⟩
  | ok reached =>
      have short : top.tasks.length ≤ 1 := Nat.zero_le 1
      cases stepped_of_step short stepped with
      | resume task progress tasks => cases tasks
      | leave idle ended => cases ended
      | read token stop workspace construct idle next stopped reading =>
          cases next
          exact absurd reading (readTag_ne_ok rfl rfl rfl rfl rfl rfl rfl rfl)

/-- A source that defines and calls a subroutine fails if there is a hyphen in the name. -/
theorem exists_failure_of_hyphenated {name : String} (engine : Engine) (valid : isName name = true)
    (hyphenated : '-' ∈ name.toList) (patternName text : String) (seed : UInt64) :
    ∃ failure, engine.runSource patternName (definingAndCalling name text) seed =
      .error failure := by
  cases lexes : tokenize (definingAndCalling name text) with
  | error problem =>
      rw [Engine.runSource, compile, Pattern.compile, lexes]
      exact ⟨_, rfl⟩
  | ok tokens =>
      obtain ⟨front, places, rest, rfl⟩ := exists_tokens_hyphenated valid hyphenated lexes
      obtain ⟨fault, failed⟩ := exists_fault_of_hyphenated engine patternName
        (definingAndCalling name text) front places rest seed
      rw [runSource_eq engine seed (compile_of_tokenize patternName lexes), Engine.run,
        run_of_reaches .refl (.failed failed)]
      exact ⟨_, rfl⟩

end Hyphenated

end Machine

/-! ### Names that can be used -/

open Machine Output Vocabulary

/-- A name without hyphens is the name of a subroutine, which prints what it is defined to print,
and of a macro. With a hyphen in its name no subroutine and no macro can be defined or called. -/
theorem Engine.uses_names {engine : Engine} {name : String} (valid : isName name = true)
    (room : 1 < engine.settings.maxStackDepth) :
    ('-' ∉ name.toList →
      (∀ patternName text seed, engine.runSource patternName (definingAndCalling name text) seed =
        .ok [⟨mainChannel, .shared, text⟩]) ∧
      NamesMacros name) ∧
    ('-' ∈ name.toList →
      (∀ patternName text seed, ∃ failure,
        engine.runSource patternName (definingAndCalling name text) seed = .error failure) ∧
      ∀ behind tokens stop, tokenize ("@" ++ name ++ behind) = .ok tokens →
        (parseQuery tokens stop).diagnostics ≠ []) := by
  constructor
  · intro solid
    exact ⟨fun _ _ _ => runSource_definingAndCalling room valid solid,
      namesMacros_of_isName valid solid⟩
  · intro hyphenated
    exact ⟨exists_failure_of_hyphenated engine valid hyphenated,
      fun _ _ stop => diagnostics_of_hyphenated valid hyphenated stop⟩

/-! ### A name with an underscore and one with a hyphen -/

namespace TwoWords

theorem uses_underscore : isName "a_b" = true ∧ 1 < Engine.standard.settings.maxStackDepth ∧
    Engine.standard.runSource "main" (definingAndCalling "a_b" "s") 0 =
      .ok [⟨mainChannel, .shared, "s"⟩] ∧
    NamesMacros "a_b" := by
  have valid : isName "a_b" = true := by decide
  have room : 1 < Engine.standard.settings.maxStackDepth := by decide
  obtain ⟨runs, macros⟩ := (Engine.uses_names valid room).1 (by decide)
  exact ⟨valid, room, runs "main" "s" 0, macros⟩

theorem hyphen_is_refused : isName "a-b" = true ∧
    (∃ failure, Engine.standard.runSource "main" (definingAndCalling "a-b" "s") 0 =
      .error failure) ∧
    ¬NamesMacros "a-b" := by
  have valid : isName "a-b" = true := by decide
  have hyphenated : '-' ∈ "a-b".toList := by decide
  refine ⟨valid, exists_failure_of_hyphenated .standard valid hyphenated "main" "s" 0, ?_⟩
  rintro ⟨⟨tokens, lexes, parses⟩, -, -⟩
  have bare : "@" ++ "a-b" = "@" ++ "a-b" ++ "" := rfl
  have split : tokenize ("@" ++ "a-b" ++ "") = .ok tokens := bare ▸ lexes
  apply diagnostics_of_hyphenated valid hyphenated .start split
  rw [parses]

end TwoWords

end SeededText
