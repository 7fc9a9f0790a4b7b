/-!
Contract: arguments of command lines.

An option has a long name and may have a short one; each takes a value, which follows as an argument
of its own or in the same argument. All other arguments stand for themselves, and so do all behind
two hyphens.

Owns: reading arguments, looking options up.
Does not own: which options a tool has.
-/

namespace SeededText.Tools

/-- An option by its names. -/
structure OptionName where
  long : String
  short? : Option Char
deriving DecidableEq, Repr

/-- Arguments of a command line: the options in order, by their long names, and everything else. -/
structure Arguments where
  options : List (String × String)
  others : List String
deriving DecidableEq, Repr

namespace Arguments

def empty : Arguments := ⟨[], []⟩

def addOption (arguments : Arguments) (name value : String) : Arguments :=
  { arguments with options := (name, value) :: arguments.options }

def addOther (arguments : Arguments) (argument : String) : Arguments :=
  { arguments with others := argument :: arguments.others }

/-- The first value of an option. -/
def value? (arguments : Arguments) (name : String) : Option String :=
  (arguments.options.find? fun option => option.1 = name).map Prod.snd

/-- All values of an option. -/
def values (arguments : Arguments) (name : String) : List String :=
  (arguments.options.filter fun option => option.1 = name).map Prod.snd

end Arguments

/-- An option and its value, if that is in the same argument. -/
structure OptionUse where
  name : String
  value? : Option String
deriving DecidableEq, Repr

inductive ArgumentForm where
  | option (use : OptionUse)
  | other
  | unknown
  /-- Two hyphens: no options follow. -/
  | marker
deriving DecidableEq, Repr

/-- What one argument is. -/
def argumentForm (names : List OptionName) (argument : String) : ArgumentForm :=
  match argument.toList with
  | ['-', '-'] => .marker
  | ['-'] => .other
  | '-' :: '-' :: long =>
      let (name, rest) := long.span fun character => character != '='
      if names.any fun option => option.long.toList = name then
        .option ⟨String.ofList name,
          match rest with
          | [] => none
          | _ :: value => some (String.ofList value)⟩
      else .unknown
  | '-' :: short :: rest =>
      match names.find? fun option => option.short? = some short with
      | none => .unknown
      | some option =>
          .option ⟨option.long,
            match rest with
            | [] => none
            | '=' :: value => some (String.ofList value)
            | value => some (String.ofList value)⟩
  | _ => .other

inductive ArgumentFault where
  | unknown (argument : String)
  | missingValue (name : String)
deriving DecidableEq, Repr

def ArgumentFault.message : ArgumentFault → String
  | .unknown argument => s!"unexpected argument '{argument}'"
  | .missingValue name => s!"a value is required for '--{name}'"

/-- Reads arguments behind those of `read`, which has them in reverse; an option that is `open?`
takes the next argument as its value. -/
def readArguments (names : List OptionName) :
    List String → Option String → Arguments → Except ArgumentFault Arguments
  | [], some name, _ => .error (.missingValue name)
  | [], none, read => .ok ⟨read.options.reverse, read.others.reverse⟩
  | value :: arguments, some name, read =>
      readArguments names arguments none (read.addOption name value)
  | argument :: arguments, none, read =>
      match argumentForm names argument with
      | .marker => .ok ⟨read.options.reverse, read.others.reverse ++ arguments⟩
      | .unknown => .error (.unknown argument)
      | .other => readArguments names arguments none (read.addOther argument)
      | .option ⟨name, none⟩ => readArguments names arguments (some name) read
      | .option ⟨name, some value⟩ =>
          readArguments names arguments none (read.addOption name value)

/-- The arguments of a command line. -/
def Arguments.read (names : List OptionName) (arguments : List String) :
    Except ArgumentFault Arguments :=
  readArguments names arguments none .empty

end SeededText.Tools
