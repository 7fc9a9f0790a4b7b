import SeededText.Number.Numeral
import SeededText.Text.Unicode.Classes

/-!
Contract: functions of the host that patterns can call.

Owns: the table of hooks, a few hooks to try calls with.
Does not own: how a pattern calls a hook (`SeededText.Machine.Operation`).
-/

namespace SeededText

/-- A hook takes the arguments of the call and gives a text or says why it failed. -/
abbrev Hook := List String → Except String String

/-- Hooks by name. -/
structure Hooks where
  find? : String → Option Hook

namespace Hooks

def none : Hooks := ⟨fun _ => .none⟩

instance : Inhabited Hooks := ⟨none⟩

/-- The arguments with plus signs between them. -/
def join : Hook := fun arguments => .ok (String.intercalate "+" arguments)

/-- The number of arguments. -/
def count : Hook := fun arguments => .ok (toString arguments.length)

/-- Always fails. -/
def boom : Hook := fun _ => .error "kaboom"

/-- The first argument read as an integer, minus one without arguments. -/
def integer : Hook := fun arguments =>
  match arguments with
  | [] => .ok "-1"
  | first :: _ =>
      match Number.readInteger (Text.trimmed first.toList) with
      | .ok value => .ok (toString value)
      | .error fault => .error fault.message

/-- Hooks to try calls with. -/
def samples : Hooks where
  find? name :=
    match name with
    | "join" => some join
    | "count" => some count
    | "boom" => some boom
    | "int" => some integer
    | _ => .none

end Hooks

end SeededText
