import SeededText.Machine.Construct
import SeededText.Proofs.QueryPlaces

/-!
Contract: the faults of reading a construct.

A fault names the pattern that is read, and is placed at one of its tokens: at the opening bracket,
at the token that does not fit, or at the last token where one is missing.

Owns: places of a pattern, what is known of a result that fails, the faults of all constructs.
Does not own: the faults of tags and of whole runs (`SeededText.Proofs.FaultPlaces`).
-/

namespace SeededText

namespace Pattern

/-! ### Places -/

/-- A place that a pattern has: that of a token, or the start if there are no tokens. -/
def IsPlace (pattern : Pattern) (position : Position) : Prop :=
  (∃ token ∈ pattern.tokens, token.position = position) ∨
    pattern.tokens = #[] ∧ position = .start

section Places

variable {pattern : Pattern} {index : Nat} {token : Token}

theorem isPlace_of_mem (member : token ∈ pattern.tokens) : pattern.IsPlace token.position :=
  .inl ⟨token, member, rfl⟩

theorem isPlace_of_getElem? (found : pattern.tokens[index]? = some token) :
    pattern.IsPlace token.position :=
  isPlace_of_mem (Array.mem_of_getElem? found)

/-- Behind the last token stands the place of the last token. -/
theorem isPlace_positionAt (pattern : Pattern) (index : Nat) :
    pattern.IsPlace (pattern.positionAt index) := by
  unfold positionAt
  split
  · next found => exact isPlace_of_getElem? found
  · cases last : pattern.tokens.back? with
    | none => exact .inr ⟨Array.back?_eq_none_iff.mp last, rfl⟩
    | some token => exact isPlace_of_mem (Array.mem_of_back? last)

/-- A problem of brackets is at the opener, or at the closer that does not fit. -/
theorem isPlace_closeFrom {opener : Token} {expected : List Bracket}
    {located : Located ScopeProblem} (inside : opener ∈ pattern.tokens)
    (failed : closeFrom pattern opener expected index = .error located) :
    pattern.IsPlace located.position := by
  fun_induction closeFrom pattern opener expected index with
  | case1 _ _ _ _ _ _ inductionHypothesis | case3 _ _ _ _ _ _ _ inductionHypothesis
  | case6 _ _ _ _ _ _ inductionHypothesis => exact inductionHypothesis failed
  | case2 => cases failed
  | case4 | case5 =>
      cases failed
      exact isPlace_of_mem (Array.getElem_mem _)
  | case7 =>
      cases failed
      exact isPlace_of_mem inside

theorem isPlace_scopeClose {located : Located ScopeProblem}
    (found : pattern.tokens[index]? = some token)
    (failed : pattern.scopeClose index = .error located) : pattern.IsPlace located.position := by
  simp only [scopeClose, found] at failed
  split at failed
  · exact isPlace_closeFrom (Array.mem_of_getElem? found) failed
  · cases failed
    exact isPlace_of_getElem? found

end Places

end Pattern

namespace Machine

open Pattern

/-! ### Results that fail -/

/-- What is known of a result, if it is a fault. -/
def Fails {α : Type} (property : Fault → Prop) (result : Except Fault α) : Prop :=
  ∀ fault, result = .error fault → property fault

section Failing

variable {α β : Type} {property : Fault → Prop}

@[simp] theorem fails_error (fault : Fault) :
    Fails property (.error fault : Except Fault α) ↔ property fault := by
  simp [Fails]

@[simp] theorem fails_ok (value : α) : Fails property (.ok value) := nofun

@[simp] theorem fails_pure (value : α) : Fails property (pure value : Except Fault α) := nofun

theorem fails_bind {first : Except Fault α} {next : α → Except Fault β}
    (before : Fails property first)
    (behind : ∀ value, first = .ok value → Fails property (next value)) :
    Fails property (first >>= next) := by
  cases first with
  | error fault => exact fun other failed => before other (by cases failed; rfl)
  | ok value => exact behind value rfl

end Failing

/-- A fault that arises in a pattern, at one of its places. It is not about the sort of an
argument. -/
structure Fault.ArisesIn (fault : Fault) (pattern : Pattern) : Prop where
  named : fault.pattern = pattern.name
  place : pattern.IsPlace fault.position
  cause : fault.cause ≠ .misused .expectedCode

namespace Context

variable {context : Context} {workspace : Workspace} {α : Type} {position : Position}
  {index close stop : Nat} {token opener : Token}

/-- The result of reading fails in the pattern that is read, if it fails. -/
abbrev FailsHere (context : Context) (result : Except Fault α) : Prop :=
  Fails (·.ArisesIn context.pattern) result

theorem fails_fault {cause : Cause} (place : context.pattern.IsPlace position)
    (other : cause ≠ .misused .expectedCode := by simp) :
    context.FailsHere (.error (context.fault position cause) : Except Fault α) :=
  (fails_error _).mpr ⟨rfl, place, other⟩

theorem fails_reject (malformation : Malformation) (place : context.pattern.IsPlace position) :
    context.FailsHere (context.reject position malformation : Except Fault α) :=
  fails_fault place

theorem fails_refuse {misuse : Misuse} (place : context.pattern.IsPlace position)
    (other : misuse ≠ .expectedCode := by simp) :
    context.FailsHere (context.refuse position misuse : Except Fault α) :=
  fails_fault place (by simpa using other)

theorem fails_checkScope (found : context.pattern.tokens[index]? = some token) :
    context.FailsHere (context.checkScope (context.pattern.scopeClose index)) := by
  cases scope : context.pattern.scopeClose index with
  | ok close => exact fails_ok close
  | error located => exact fails_reject _ (isPlace_scopeClose found scope)

theorem fails_constructStop (found : context.pattern.tokens[index]? = some token) :
    context.FailsHere (context.constructStop index token) := by
  unfold constructStop
  split
  · exact fails_bind (fails_checkScope found) fun _ _ => fails_pure _
  · exact fails_ok _

theorem fails_argumentSpans (context : Context) (index stop : Nat) (name : String) :
    context.FailsHere (context.argumentSpans index stop name) := by
  unfold argumentSpans
  dsimp only
  split
  · split
    · exact fails_ok _
    · next found =>
        split
        · exact fails_ok _
        · exact fails_ok _
        · exact fails_reject _ (isPlace_of_getElem? found)
  · exact fails_ok _

/-! ### Tags -/

theorem fails_callTag (found : context.pattern.tokens[index]? = some token) :
    context.FailsHere (context.callTag workspace position index token close) := by
  have place := isPlace_of_getElem? found
  unfold callTag
  split
  · refine fails_bind (context.fails_argumentSpans _ _ _) fun spans _ => ?_
    split
    · exact fails_refuse place
    · exact fails_refuse place
    · exact fails_pure _
  · exact fails_refuse place

theorem fails_replace (opens : context.pattern.IsPlace position)
    (found : context.pattern.tokens[index]? = some token) :
    context.FailsHere (context.replace workspace position index token close) := by
  unfold replace
  dsimp only
  split
  · refine fails_bind (fails_pure _) fun regex _ =>
      fails_bind (context.fails_argumentSpans _ _ _) fun spans _ => ?_
    split
    · exact fails_pure _
    · exact fails_reject _ opens
  · exact fails_bind (fails_reject _ (isPlace_of_getElem? found)) fun _ => nofun

theorem fails_callSubroutine (found : context.pattern.tokens[index]? = some token) :
    context.FailsHere (context.callSubroutine workspace position index token close) := by
  unfold callSubroutine
  refine fails_bind (context.fails_argumentSpans _ _ _) fun spans _ => ?_
  split
  · exact fails_refuse (isPlace_of_getElem? found)
  · exact fails_pure _

theorem fails_readParameters (context : Context) (name : String) (spans : List Span) :
    context.FailsHere (context.readParameters name spans) := by
  induction spans with
  | nil => exact fails_ok _
  | cons span spans inductionHypothesis =>
      unfold readParameters
      dsimp only
      split
      · exact fails_bind inductionHypothesis fun _ _ => fails_pure _
      · exact fails_refuse (isPlace_positionAt _ _)

theorem fails_readSignature (context : Context) (index stop : Nat) :
    context.FailsHere (context.readSignature index stop) := by
  unfold readSignature
  dsimp only
  split
  · next found =>
      split at found
      · split
        · exact fails_bind (fails_pure _) fun name _ =>
            fails_bind (context.fails_argumentSpans _ _ _) fun spans _ =>
              fails_bind (context.fails_readParameters _ _) fun _ _ => fails_pure _
        · exact fails_bind (fails_refuse (isPlace_of_getElem? found)) fun _ => nofun
      · cases found
  · exact fails_bind (fails_refuse (isPlace_positionAt _ _)) fun _ => nofun

theorem fails_defineSubroutine (isGenerated : Bool)
    (found : context.pattern.tokens[index]? = some token) :
    context.FailsHere (context.defineSubroutine workspace index close isGenerated) := by
  unfold defineSubroutine
  refine fails_bind (fails_checkScope found) fun signatureClose _ =>
    fails_bind (context.fails_readSignature _ _) fun signature _ => ?_
  dsimp only
  split
  · split <;> exact fails_pure _
  · exact fails_reject _ (isPlace_positionAt _ _)

theorem fails_readSubroutine (opens : context.pattern.IsPlace position) :
    context.FailsHere (context.readSubroutine workspace position index close) := by
  unfold readSubroutine
  split
  · exact fails_reject _ opens
  · next token found =>
      split at found
      · split
        · exact fails_callSubroutine found
        · dsimp only
          generalize (if token.kind = .question then index + 1 else index) = first
          split
          · next bracket =>
              obtain ⟨opener, there, -⟩ := Option.map_eq_some_iff.mp bracket.2
              exact fails_defineSubroutine _ there
          · exact fails_reject _ (isPlace_of_getElem? found)
      · cases found

theorem fails_readTag (opens : context.pattern.IsPlace opener.position) :
    context.FailsHere (context.readTag workspace opener index close) := by
  unfold readTag
  dsimp only
  split
  · exact fails_reject _ opens
  · next token found =>
      split at found
      · split
        · exact fails_ok _
        · exact fails_replace opens found
        · exact fails_readSubroutine opens
        · exact fails_callTag found
        · exact fails_reject _ (isPlace_of_getElem? found)
      · cases found

/-! ### Queries and escapes -/

theorem fails_writeEntry (query : Vocabulary.Query) (place : context.pattern.IsPlace position) :
    context.FailsHere (context.writeEntry workspace position query) := by
  unfold writeEntry
  split
  · exact fails_refuse place
  · split
    · exact fails_ok _
    · exact fails_fault place
    · exact fails_fault place

theorem fails_readQuery (opens : context.pattern.IsPlace opener.position) :
    context.FailsHere (context.readQuery workspace opener index close) := by
  unfold readQuery
  dsimp only
  split
  · next first others reported =>
      have places := Vocabulary.places_parseQuery
        (context.pattern.slice ⟨index + 1, close⟩).toList (context.pattern.positionAt close)
      refine fails_reject _ ?_
      rcases places first (by simp [reported]) with behind | ⟨token, member, same⟩
      · exact behind ▸ isPlace_positionAt _ _
      · refine same ▸ isPlace_of_mem ?_
        obtain ⟨_, _, rfl⟩ := Array.mem_extract_iff_getElem.mp (Array.mem_toList_iff.mp member)
        exact Array.getElem_mem _
  · split
    · exact fails_writeEntry _ opens
    · exact fails_ok _
    · split
      · exact fails_writeEntry _ opens
      · exact fails_refuse opens

theorem fails_readEscape (place : context.pattern.IsPlace token.position) :
    context.FailsHere (context.readEscape workspace token) := by
  unfold readEscape
  dsimp only
  split
  · exact fails_reject _ place
  · split
    · exact fails_refuse place
    · split
      · exact fails_reject _ place
      · exact fails_ok _

/-- All faults of reading are placed in the pattern that is read. -/
theorem fails_readConstruct (found : context.pattern.tokens[index]? = some token) :
    context.FailsHere (context.readConstruct workspace index stop token) := by
  have place := isPlace_of_getElem? found
  unfold readConstruct
  dsimp only
  split
  · exact fails_ok _
  · exact fails_readTag place
  · exact fails_ok _
  · exact fails_readQuery place
  · exact fails_reject _ place
  · exact fails_readEscape place
  · exact fails_ok _
  · exact fails_ok _

end Context

end Machine

end SeededText
