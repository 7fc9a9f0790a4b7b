import SeededText.Machine.Operation
import SeededText.Proofs.MatchRanges
import SeededText.Regex.Parser

/-!
Contract: what code learns of a match is what the match and its groups cover in the text.

In a match a group covers a range of the text, or it takes no part. The tag `match` writes what the
whole match covers. The tag `group` writes what a group covers, and is told the group by its number
or by its name. No two groups of a regex that has been compiled have one name: reading a group with
a name adds that name to those there are already, and is refused if it is one of them.

Owns: names of groups, the groups of a match, the data of a match, what code learns of it.
Does not own: which matches there are (`SeededText.Regex.Matcher`), which of them code learns of
(`SeededText.Proofs.Gathering`, `SeededText.Proofs.Replacing`).
-/

namespace SeededText

namespace Regex

/-! ### Names of groups -/

/-- No two groups have one name. -/
def NamesDiffer (names : List (String × Nat)) : Prop :=
  (names.map Prod.fst).Nodup

section Reading

variable {state next : ReadingState} {rest behind : List Char}

namespace ReadingState

theorem names_openCapture (state : ReadingState) : state.openCapture.names = state.names :=
  rfl

theorem names_pushPrimitive (state : ReadingState) (primitive : Primitive) :
    (state.pushPrimitive primitive).names = state.names := by
  cases primitive <;> rfl

theorem names_closeGroup (closed : state.closeGroup = .ok next) : next.names = state.names := by
  unfold closeGroup at closed
  split at closed
  · cases closed
  · cases closed
    rfl

theorem names_repeatLast {least : Nat} {most? : Option Nat} {lazily : Bool}
    (repeats : state.repeatLast least most? lazily = .ok next) : next.names = state.names := by
  unfold repeatLast at repeats
  split at repeats
  · cases repeats
  · split at repeats
    · cases repeats
      rfl
    · cases repeats

end ReadingState

theorem names_readCounted (read : readCounted state rest = .ok (next, behind)) :
    next.names = state.names := by
  unfold readCounted at read
  split at read
  · cases read
  · obtain ⟨⟨least, most?⟩, -, read⟩ := Machine.bind_eq_ok.mp read
    obtain ⟨repeated, repeats, read⟩ := Machine.bind_eq_ok.mp read
    cases read
    exact ReadingState.names_repeatLast repeats

theorem names_readFlagGroup (read : readFlagGroup state rest = .ok (next, behind)) :
    next.names = state.names := by
  obtain ⟨⟨flags, ending, someFlag, further⟩, -, read⟩ := Machine.bind_eq_ok.mp read
  dsimp only at read
  split at read
  · cases read
    rfl
  · split at read
    · cases read
      rfl
    · cases read

/-- A group with a name is refused, if there is one with that name already. -/
theorem namesDiffer_readNamedGroup (differ : NamesDiffer state.names)
    (read : readNamedGroup state rest = .ok (next, behind)) : NamesDiffer next.names := by
  unfold readNamedGroup at read
  dsimp only at read
  split at read
  · cases read
  · split at read
    · cases read
    · split at read
      · cases read
      · next fresh =>
          cases read
          rw [List.contains_iff_mem] at fresh
          unfold NamesDiffer
          rw [ReadingState.names_openCapture, List.map_append]
          apply List.nodup_append.mpr
          refine ⟨differ, List.pairwise_singleton _ _, ?_⟩
          rintro name known _ isNew rfl
          obtain rfl := List.mem_singleton.mp isNew
          exact fresh known

theorem namesDiffer_readGroupStart (differ : NamesDiffer state.names)
    (read : readGroupStart state rest = .ok (next, behind)) : NamesDiffer next.names := by
  unfold readGroupStart at read
  split at read
  · cases read
  · cases read
  · cases read
  · cases read
  · exact namesDiffer_readNamedGroup differ read
  · exact namesDiffer_readNamedGroup differ read
  · exact names_readFlagGroup read ▸ differ
  · cases read
    exact differ

/-- Whatever comes next, names go on to differ. -/
theorem namesDiffer_readNext {first : Char} (differ : NamesDiffer state.names)
    (read : readNext state first rest = .ok (next, behind)) : NamesDiffer next.names := by
  suffices NamesDiffer next.names ∨ next.names = state.names from
    this.elim id fun same => same ▸ differ
  have repeated {least : Nat} {most? : Option Nat} {lazily : Bool} {left : List Char}
      (read : (do return (← state.repeatLast least most? lazily, left)) =
        (.ok (next, behind) : Except Fault (ReadingState × List Char))) :
      next.names = state.names := by
    obtain ⟨reached, repeats, same⟩ := Machine.bind_eq_ok.mp read
    cases same
    exact ReadingState.names_repeatLast repeats
  -- Nothing but the start of a group can add a name.
  unfold readNext at read
  dsimp only at read
  split at read
  · exact .inl (namesDiffer_readGroupStart differ read)
  · obtain ⟨closed, closes, read⟩ := Machine.bind_eq_ok.mp read
    cases read
    exact .inr (ReadingState.names_closeGroup closes)
  · cases read
    exact .inr rfl
  · obtain ⟨⟨nested, further⟩, -, read⟩ := Machine.bind_eq_ok.mp read
    cases read
    exact .inr rfl
  · exact .inr (repeated read)
  · exact .inr (repeated read)
  · exact .inr (repeated read)
  · exact .inr (names_readCounted read)
  · obtain ⟨⟨escaped, further⟩, -, read⟩ := Machine.bind_eq_ok.mp read
    cases read
    exact .inr (ReadingState.names_pushPrimitive _ _)
  · obtain ⟨dot, -, read⟩ := Machine.bind_eq_ok.mp read
    cases read
    exact .inr rfl
  · cases read
    exact .inr rfl
  · cases read
    exact .inr rfl
  · cases read
    exact .inr rfl

theorem namesDiffer_readFrom {rounds : Nat} (differ : NamesDiffer state.names)
    (read : readFrom rounds state rest = .ok next) : NamesDiffer next.names := by
  induction rounds generalizing state rest with
  | zero =>
      cases read
      exact differ
  | succ rounds inductionHypothesis =>
      rw [readFrom] at read
      split at read
      · cases read
        exact differ
      · obtain ⟨⟨reached, further⟩, first, read⟩ := Machine.bind_eq_ok.mp read
        exact inductionHypothesis (namesDiffer_readNext differ first) read

end Reading

/-- The groups of a regex that has been compiled have different names. -/
theorem namesDiffer_of_compile {value : String} {regex : Regex}
    (compiled : compile value = .ok regex) : NamesDiffer regex.names := by
  simp only [compile, compileBody] at compiled
  obtain ⟨state, read, compiled⟩ := Machine.bind_eq_ok.mp compiled
  have none : NamesDiffer [] := List.nodup_nil
  have differ : NamesDiffer state.names := namesDiffer_readFrom none read
  split at compiled
  · split at compiled
    · cases compiled
    · split at compiled
      · cases compiled
      · cases compiled
        exact differ
  · cases compiled

/-! ### The groups of a match -/

/-- The first group is the whole match, and the others are as many as the regex has. -/
structure Match.IsWhole (found : Match) (regex : Regex) : Prop where
  whole : found.groups[0]? = some (some (found.start, found.stop))
  length : found.groups.length = regex.groupCount + 1

section Groups

variable {regex : Regex} {text : Array Char} {start : Nat} {found : Match}

theorem isWhole_of_firstMatch {starts : Nat} {visited : Visited}
    (matched : regex.firstMatch text starts start visited = some found) : found.IsWhole regex := by
  induction starts generalizing start visited with
  | zero => cases matched
  | succ starts inductionHypothesis =>
      rw [firstMatch] at matched
      split at matched
      · cases matched
        exact ⟨rfl, by simp⟩
      · exact inductionHypothesis matched

theorem isWhole_of_mem_matchesFrom {rounds : Nat} {previousStop? : Option Nat}
    (member : found ∈ regex.matchesFrom text rounds start previousStop?) :
    found.IsWhole regex := by
  induction rounds generalizing start previousStop? with
  | zero => cases member
  | succ rounds inductionHypothesis =>
      rw [matchesFrom] at member
      split at member
      · cases member
      · next first chosen =>
          rcases List.mem_cons.mp member with rfl | later
          · split at chosen
            · split at chosen
              · exact isWhole_of_firstMatch chosen
              · next matched _ =>
                  cases chosen
                  exact isWhole_of_firstMatch matched
            · cases chosen
          · exact inductionHypothesis later

theorem isWhole_of_mem_allMatches {text : List Char} (member : found ∈ regex.allMatches text) :
    found.IsWhole regex :=
  isWhole_of_mem_matchesFrom member

end Groups

/-! ### What groups cover -/

/-- The characters of a text between two places. -/
def between (text : String) (range : Nat × Nat) : String :=
  String.ofList ((text.toList.drop range.1).take (range.2 - range.1))

/-- What a key gives for a match in a text. A number means a group, also one that takes no part; any
other key is the name of a group that takes part. -/
inductive Gives (regex : Regex) (text : String) (found : Match) (key : String) : String → Prop where
  | number {index : Nat} {range : Nat × Nat} (number : Number.readCount? key.toList = some index)
      (covers : found.groups[index]? = some (some range)) :
      Gives regex text found key (between text range)
  | idle {index : Nat} (number : Number.readCount? key.toList = some index)
      (idle : found.groups[index]? = some none) : Gives regex text found key ""
  | name {index : Nat} {range : Nat × Nat} (noNumber : Number.readCount? key.toList = none)
      (name : (key, index) ∈ regex.names) (covers : found.groups[index]? = some (some range)) :
      Gives regex text found key (between text range)

section Giving

variable {regex : Regex} {text key written : String} {found : Match}

theorem gives_iff_of_number {index : Nat} (number : Number.readCount? key.toList = some index) :
    regex.Gives text found key written ↔
      ∃ group?, found.groups[index]? = some group? ∧
        written = (group?.map (between text)).getD "" := by
  constructor
  · intro gives
    cases gives with
    | number present covers | idle present covers =>
        cases number.symm.trans present
        exact ⟨_, covers, rfl⟩
    | name absent => cases number.symm.trans absent
  · rintro ⟨_ | range, covers, rfl⟩
    · exact .idle number covers
    · exact .number number covers

theorem gives_iff_of_name (noNumber : Number.readCount? key.toList = none) :
    regex.Gives text found key written ↔
      ∃ index range, (key, index) ∈ regex.names ∧ found.groups[index]? = some (some range) ∧
        written = between text range := by
  constructor
  · intro gives
    cases gives with
    | number present | idle present => cases noNumber.symm.trans present
    | name _ name covers => exact ⟨_, _, name, covers, rfl⟩
  · rintro ⟨index, range, name, covers, rfl⟩
    exact .name noNumber name covers

end Giving

end Regex

namespace Machine

open Regex Text

/-- The data of a match of a regex in a text. -/
structure MatchData.Shows (data : MatchData) (regex : Regex) (text : String) (found : Match) :
    Prop where
  whole : data.text = between text (found.start, found.stop)
  groups : data.groups = found.groups.map (Option.map (between text))
  named : ∀ name group, data.named.find? name = some group ↔
    ∃ index range, (name, index) ∈ regex.names ∧ found.groups[index]? = some (some range) ∧
      group = between text range

/-- Code learns of a match of a regex in a text: the tags `match` and `group` write what the match
and its groups cover. -/
structure Scope.TellsMatch (scope : Scope) (regex : Regex) (text : String) (found : Match) :
    Prop where
  sees : ∃ data, scope.found? = some data ∧ data.Shows regex text found
  tags : resolveTag "match" 0 = .ok ⟨.matchedText, []⟩ ∧
    resolveTag "group" 1 = .ok ⟨.capturedGroup, [.value]⟩
  whole : ∀ (invocation : Invocation) (workspace : Workspace), invocation.context.scope = scope →
    invocation.perform workspace .matchedText =
      .ok ⟨workspace.write (between text (found.start, found.stop)), .nothing,
        invocation.context.elseArmed⟩
  group : ∀ (invocation : Invocation) (workspace : Workspace) (key written : String),
    invocation.context.scope = scope → invocation.arguments = [.value key] →
    regex.Gives text found (trim key) written →
    invocation.perform workspace .capturedGroup =
      .ok ⟨workspace.write written, .nothing, invocation.context.elseArmed⟩
  noGroup : ∀ (invocation : Invocation) (workspace : Workspace) (key : String),
    invocation.context.scope = scope → invocation.arguments = [.value key] →
    (∀ written, ¬ regex.Gives text found (trim key) written) →
    invocation.perform workspace .capturedGroup =
      .error (invocation.context.fault invocation.position (.misused (.noGroup (trim key))))

/-! ### The data of a match -/

section Data

variable {regex : Regex} {text : String} {found : Match} {groups : List (Option String)}

theorem MatchData.sliceText_eq (text : String) (start stop : Nat) :
    sliceText text.toList.toArray start stop = between text (start, stop) := by
  apply String.toList_inj.mp
  rw [toList_sliceText, between, String.toList_ofList]

/-- Groups that took part are entered under their names. -/
def MatchData.enterNamed (groups : List (Option String)) (named : Table String String)
    (entry : String × Nat) : Table String String :=
  match groups.getD entry.2 none with
  | some group => named.insert entry.1 group
  | none => named

theorem MatchData.find?_enterNamed (named : Table String String) (entry : String × Nat)
    (name : String) :
    (enterNamed groups named entry).find? name =
      if entry.1 = name then (groups[entry.2]?.getD none).or (named.find? name)
      else named.find? name := by
  unfold enterNamed
  rw [List.getD_eq_getElem?_getD]
  split
  · next group present => rw [present, Table.find?_insert, Option.some_or]
  · next absent => rw [absent, Option.none_or, ite_self]

/-- A name leads to the group that has it, if that took part. -/
theorem MatchData.find?_foldl_enterNamed {entries : List (String × Nat)}
    (differ : NamesDiffer entries) (named : Table String String) (name group : String) :
    (entries.foldl (enterNamed groups) named).find? name = some group ↔
      (∃ index, (name, index) ∈ entries ∧ groups[index]?.getD none = some group) ∨
        (∀ index, (name, index) ∈ entries → groups[index]?.getD none = none) ∧
          named.find? name = some group := by
  induction entries generalizing named with
  | nil => simp
  | cons entry entries inductionHypothesis =>
      obtain ⟨other, place⟩ := entry
      obtain ⟨fresh, differ⟩ := List.nodup_cons.mp differ
      rw [List.foldl_cons, inductionHypothesis differ, find?_enterNamed]
      by_cases same : other = name
      · subst same
        have absent (index : Nat) : (other, index) ∉ entries := by
          intro member
          exact fresh (List.mem_map.mpr ⟨(other, index), member, rfl⟩)
        cases present : groups[place]?.getD none <;> simp [absent, present]
      · simp [same, Ne.symm same]

/-- The data of a match in a text. -/
theorem MatchData.shows_ofMatch (differ : NamesDiffer regex.names) (text : String)
    (found : Match) : (ofMatch regex text.toList.toArray found).Shows regex text found where
  whole := sliceText_eq text found.start found.stop
  groups := by
    simp only [ofMatch, sliceText_eq]
  named := by
    intro name group
    have covers (index : Nat) :
        (found.groups.map (Option.map (between text)))[index]?.getD none = some group ↔
          ∃ range, found.groups[index]? = some (some range) ∧ group = between text range := by
      rw [List.getElem?_map]
      rcases found.groups[index]? with _ | _ | range <;> simp [eq_comm]
    have same : (ofMatch regex text.toList.toArray found).named = regex.names.foldl
        (enterNamed (found.groups.map (Option.map (between text)))) .empty := by
      simp only [ofMatch, sliceText_eq]
      rfl
    simp only [same, find?_foldl_enterNamed differ, covers, Table.find?_empty, reduceCtorEq,
      and_false, or_false, exists_and_left]

end Data

/-! ### What code learns -/

section Telling

variable {regex : Regex} {text : String} {found : Match} {matched : MatchData} {scope : Scope}
  {invocation : Invocation}

theorem Invocation.perform_matchedText (top : invocation.context.scope.found? = some matched)
    (workspace : Workspace) :
    invocation.perform workspace .matchedText = .ok (invocation.write workspace matched.text) := by
  simp only [perform, Invocation.matchedText, require, top]
  rfl

/-- What the tag `group` looks up. -/
def MatchData.group? (data : MatchData) (key : String) : Option String :=
  match Number.readCount? key.toList with
  | some index => data.groups[index]?.map fun group? => group?.getD ""
  | none => data.named.find? key

theorem Invocation.perform_capturedGroup {key : String}
    (top : invocation.context.scope.found? = some matched)
    (argument : invocation.arguments = [.value key]) (workspace : Workspace) :
    invocation.perform workspace .capturedGroup =
      (invocation.require (matched.group? (trim key)) (.noGroup (trim key))).map
        (invocation.write workspace) := by
  have asked : invocation.trimmedText 0 = trim key := by
    simp [trimmedText, Invocation.text, argument, Argument.textOr]
  simp only [perform, capturedGroup, require, top, asked, bind, Except.bind, MatchData.group?]
  cases Number.readCount? (trim key).toList with
  | some index => cases matched.groups[index]? <;> rfl
  | none => cases matched.named.find? (trim key) <;> rfl

/-- What a key gives is what is looked up for it. -/
theorem MatchData.Shows.group?_eq_some_iff (shows : matched.Shows regex text found)
    (key written : String) : matched.group? key = some written ↔
      regex.Gives text found key written := by
  unfold group?
  cases number : Number.readCount? key.toList with
  | none => rw [gives_iff_of_name number, shows.named]
  | some index =>
      rw [gives_iff_of_number number, shows.groups]
      simp only [List.getElem?_map, Option.map_eq_some_iff]
      constructor
      · rintro ⟨_, ⟨group?, covers, rfl⟩, rfl⟩
        exact ⟨group?, covers, rfl⟩
      · rintro ⟨group?, covers, rfl⟩
        exact ⟨_, ⟨group?, covers, rfl⟩, rfl⟩

/-- Code that sees the data of a match learns of the match. -/
theorem Scope.tellsMatch (top : scope.found? = some matched)
    (shows : matched.Shows regex text found) : scope.TellsMatch regex text found where
  sees := ⟨matched, top, shows⟩
  tags := ⟨rfl, rfl⟩
  whole := by
    intro invocation workspace same
    rw [Invocation.perform_matchedText (same ▸ top), shows.whole]
    rfl
  group := by
    intro invocation workspace key written same argument gives
    have looked := (shows.group?_eq_some_iff _ _).mpr gives
    rw [Invocation.perform_capturedGroup (same ▸ top) argument, looked]
    rfl
  noGroup := by
    intro invocation workspace key same argument nothing
    have looked : matched.group? (trim key) = none := by
      rw [Option.eq_none_iff_forall_ne_some]
      exact fun written given => nothing written ((shows.group?_eq_some_iff _ _).mp given)
    rw [Invocation.perform_capturedGroup (same ▸ top) argument, looked]
    rfl

end Telling

end Machine

end SeededText
