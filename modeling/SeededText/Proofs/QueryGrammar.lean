import SeededText.Vocabulary.QueryParser

/-!
Contract: what queries are, as a grammar over tokens.

Each production says which tokens it has and what they mean. Blanks may stand before every token
except inside the sigil of a component, where tokens have to touch.

Owns: the productions of queries, ranges and numbers, the meaning of a whole query.
Does not own: reading queries (`SeededText.Vocabulary.QueryParser`), that reading follows the
grammar (`SeededText.Proofs.QueryReading`).
-/

namespace SeededText.Vocabulary

open Pattern Text

/-- A filter of a query. -/
inductive QueryElement where
  | classes (group : List ClassRule)
  | regex (filter : RegexFilter)
  | syllables (range : SyllableRange)

namespace QueryElement

def classes? : QueryElement → Option (List ClassRule)
  | .classes group => some group
  | _ => none

def regex? : QueryElement → Option RegexFilter
  | .regex filter => some filter
  | _ => none

def syllables? : QueryElement → Option SyllableRange
  | .syllables range => some range
  | _ => none

end QueryElement

/-- The query with filters in the order of its elements and with the last of their ranges. -/
def Query.ofElements (table : String) (subtype? : Option String) (exclusive : Bool)
    (elements : List QueryElement) (carrier : List CarrierComponent) : Query where
  table := table
  subtype? := subtype?
  exclusive := exclusive
  classFilter := elements.filterMap QueryElement.classes?
  regexFilters := elements.filterMap QueryElement.regex?
  syllables? := (elements.filterMap QueryElement.syllables?).getLast?
  carrier := carrier

/-- The kinds of the tokens behind the `@` of a sigil. -/
def Grouping.sigilKinds : Grouping → List TokenKind
  | .associative => []
  | .dissociative => [.exclamation]
  | .divergent => [.plus]
  | .relational => [.question]

/-- The kinds of the tokens of a sigil. -/
def CarrierKind.sigilKinds : CarrierKind → List TokenKind
  | .matching => [.equals]
  | .unique => [.exclamation]
  | .matchUnique => [.exclamation, .equals]
  | .rhyme => [.ampersand]
  | .grouping group pins => .atSign :: (group.sigilKinds ++ if pins then [.equals] else [])

namespace Grammar

/-! ### Numbers and ranges -/

/-- Decimal digits of a number of 32 bits, with or without a plus sign. -/
inductive Numeral : List Char → Nat → Prop where
  | unsigned {digits : List Char} (some : digits ≠ [])
      (all : ∀ digit ∈ digits, isAsciiDigit digit)
      (fits : Unicode.decimalValue digits < UInt32.size) :
      Numeral digits (Unicode.decimalValue digits)
  | signed {digits : List Char} (some : digits ≠ [])
      (all : ∀ digit ∈ digits, isAsciiDigit digit)
      (fits : Unicode.decimalValue digits < UInt32.size) :
      Numeral ('+' :: digits) (Unicode.decimalValue digits)

/-- One bound or two with a hyphen between them, or one number for both. -/
inductive Range : List Char → SyllableRange → Prop where
  | exactly {numeral : List Char} {count : Nat} (reads : Numeral numeral count) :
      Range numeral ⟨some count, some count⟩
  | atLeast {numeral : List Char} {least : Nat} (reads : Numeral numeral least) :
      Range (numeral ++ ['-']) ⟨some least, none⟩
  | atMost {numeral : List Char} {most : Nat} (reads : Numeral numeral most) :
      Range ('-' :: numeral) ⟨none, some most⟩
  | between {lower upper : List Char} {least most : Nat} (lowerReads : Numeral lower least)
      (upperReads : Numeral upper most) (ordered : least ≤ most) :
      Range (lower ++ '-' :: upper) ⟨some least, some most⟩

/-! ### Filters -/

def Blanks (tokens : List Token) : Prop :=
  ∀ token ∈ tokens, token.kind = .blank

/-- One token of a kind, behind any number of blanks. -/
inductive Terminal (kind : TokenKind) : List Token → Token → Prop where
  | behind {blanks : List Token} {token : Token} (spaced : Blanks blanks)
      (same : token.kind = kind) : Terminal kind (blanks ++ [token]) token

/-- A class, or in a query that is not exclusive the lack of one. -/
inductive Alternative (exclusive : Bool) : List Token → ClassRule → Prop where
  | included {tokens : List Token} {name : Token} (text : Terminal .text tokens name) :
      Alternative exclusive tokens ⟨trim name.value, true⟩
  | excluded {first tokens : List Token} {sign name : Token} (allowed : exclusive = false)
      (negates : Terminal .exclamation first sign) (text : Terminal .text tokens name) :
      Alternative exclusive (first ++ tokens) ⟨trim name.value, false⟩

/-- Alternatives apart by bars. -/
inductive Group (exclusive : Bool) : List Token → List ClassRule → Prop where
  | last {tokens : List Token} {rule : ClassRule}
      (alternative : Alternative exclusive tokens rule) : Group exclusive tokens [rule]
  | cons {first separator others : List Token} {rule : ClassRule} {bar : Token}
      {rules : List ClassRule} (alternative : Alternative exclusive first rule)
      (bars : Terminal .bar separator bar) (group : Group exclusive others rules) :
      Group exclusive (first ++ separator ++ others) (rule :: rules)

/-- The characters of tokens, without blanks. -/
def solidText (tokens : List Token) : List Char :=
  (tokens.flatMap fun token => token.value.toList).filter fun character => !isBlank character

inductive Element (exclusive : Bool) : List Token → QueryElement → Prop where
  | classes {first tokens : List Token} {sign : Token} {rules : List ClassRule}
      (begins : Terminal .hyphen first sign) (group : Group exclusive tokens rules) :
      Element exclusive (first ++ tokens) (.classes rules)
  | matches {first tokens : List Token} {sign source : Token} {regex : Regex}
      (begins : Terminal .question first sign) (filters : Terminal .regex tokens source)
      (compiles : Regex.compile source.value = .ok regex) :
      Element exclusive (first ++ tokens) (.regex ⟨regex, true⟩)
  | lacks {first tokens : List Token} {sign source : Token} {regex : Regex}
      (begins : Terminal .exclamation first sign) (filters : Terminal .regex tokens source)
      (compiles : Regex.compile source.value = .ok regex) :
      Element exclusive (first ++ tokens) (.regex ⟨regex, false⟩)
  | syllables {first inside : List Token} {opener closer : Token} {range : SyllableRange}
      (begins : Terminal (.opens .round) first opener)
      (inner : ∀ token ∈ inside, token.kind ≠ .closes .round)
      (ends : closer.kind = .closes .round) (reads : Range (solidText inside) range) :
      Element exclusive (first ++ inside ++ [closer]) (.syllables range)

inductive Elements (exclusive : Bool) : List Token → List QueryElement → Prop where
  | nil : Elements exclusive [] []
  | cons {first others : List Token} {element : QueryElement} {elements : List QueryElement}
      (begins : Element exclusive first element) (behind : Elements exclusive others elements) :
      Elements exclusive (first ++ others) (element :: elements)

/-! ### Carriers -/

/-- A sigil, whose tokens touch, and a name. -/
inductive Component : List Token → CarrierComponent → Prop where
  | named {blanks sigil tokens : List Token} {kind : CarrierKind} {name : Token}
      (spaced : Blanks blanks) (signs : sigil.map Token.kind = kind.sigilKinds)
      (text : Terminal .text tokens name) :
      Component (blanks ++ sigil ++ tokens) ⟨kind, trim name.value⟩

inductive Components : List Token → List CarrierComponent → Prop where
  | nil : Components [] []
  | cons {first others : List Token} {component : CarrierComponent}
      {components : List CarrierComponent} (begins : Component first component)
      (behind : Components others components) :
      Components (first ++ others) (component :: components)

/-- No carrier, or one with a component at least. -/
inductive Carrier : List Token → List CarrierComponent → Prop where
  | nothing : Carrier [] []
  | components {first tokens : List Token} {sign : Token} {components : List CarrierComponent}
      (begins : Terminal .doubleColon first sign) (some : components ≠ [])
      (behind : Components tokens components) : Carrier (first ++ tokens) components

/-! ### Queries -/

/-- The name of a table, with or without a form behind its first point. -/
inductive TableName : List Char → String → Option String → Prop where
  | plain {name : List Char} (whole : '.' ∉ name) : TableName name (String.ofList name) none
  | withSubtype {table subtype : List Char} (first : '.' ∉ table) :
      TableName (table ++ '.' :: subtype) (String.ofList table) (some (String.ofList subtype))

inductive Exclusiveness : List Token → Bool → Prop where
  | unmarked : Exclusiveness [] false
  | marked {tokens : List Token} {sign : Token} (marks : Terminal .dollar tokens sign) :
      Exclusiveness tokens true

inductive Body : List Token → Query → Prop where
  | query {first marks filters ties : List Token} {name : Token} {table : String}
      {subtype? : Option String} {exclusive : Bool} {elements : List QueryElement}
      {components : List CarrierComponent} (begins : Terminal .text first name)
      (names : TableName (trimmed name.value.toList) table subtype?)
      (exclusiveness : Exclusiveness marks exclusive)
      (filtered : Elements exclusive filters elements) (tied : Carrier ties components) :
      Body (first ++ marks ++ filters ++ ties)
        (.ofElements table subtype? exclusive elements components)

/-- The name of a macro behind its sign. -/
inductive MacroName : List Token → String → Prop where
  | named {first tokens : List Token} {sign name : Token} (begins : Terminal .atSign first sign)
      (text : Terminal .text tokens name) (valid : isName (trim name.value) = true) :
      MacroName (first ++ tokens) (trim name.value)

/-- A call or a definition of a macro, or a query, with any number of blanks behind it. -/
inductive Form : List Token → QueryForm → Prop where
  | call {tokens blanks : List Token} {name : String} (names : MacroName tokens name)
      (spaced : Blanks blanks) : Form (tokens ++ blanks) (.call name)
  | defineLocal {first separator tokens blanks : List Token} {colon : Token} {name : String}
      {query : Query} (names : MacroName first name) (begins : Terminal .colon separator colon)
      (body : Body tokens query) (spaced : Blanks blanks) :
      Form (first ++ separator ++ tokens ++ blanks) (.define name false query)
  | defineGlobal {first separator tokens blanks : List Token} {sign : Token} {name : String}
      {query : Query} (names : MacroName first name) (begins : Terminal .equals separator sign)
      (body : Body tokens query) (spaced : Blanks blanks) :
      Form (first ++ separator ++ tokens ++ blanks) (.define name true query)
  | lookup {tokens blanks : List Token} {query : Query} (body : Body tokens query)
      (spaced : Blanks blanks) : Form (tokens ++ blanks) (.lookup query)

end Grammar

end SeededText.Vocabulary
