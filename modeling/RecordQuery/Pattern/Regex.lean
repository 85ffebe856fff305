import RecordQuery.Pattern.Parser
import RecordQuery.Pattern.Footprint
import RecordQuery.Pattern.Program

/-!
Contract: compiled case-insensitive patterns and the two questions filters ask of them.

Owns:
- `Pattern.Regex`: the pattern's text with its program;
- `Regex.compile`: the text read with case-insensitive matching on, or the fault; a pattern
  whose automaton would not fit the size limit (`Node.fitsLimit`) is refused;
- `Regex.leftmostStart?`: the first position (counted in characters) where a match starts;
- `Regex.isMatch`: whether a match exists anywhere.

A match starting at the `k`-th character starts at the byte offset of that character, so the
leftmost start is at the end of a text exactly when it is the text's character count.
-/

set_option autoImplicit false

namespace RecordQuery

namespace Pattern

/-- A compiled pattern. -/
structure Regex where
  source : String
  program : Program

namespace Regex

/-- The pattern of a text, matched without regard to case. -/
def compile (source : String) : Except Error Regex := do
  let node ← parse source true
  if !node.fitsLimit then throw .automatonTooLarge
  pure ⟨source, Program.ofNode node⟩

/-- The first position of `text` (in characters) where a match starts. -/
def leftmostStart? (r : Regex) (text : String) : Option Nat :=
  let chars := text.toList.toArray
  (List.range (chars.size + 1)).find? (r.program.matchesAt chars)

/-- Whether the pattern matches somewhere in `text`. -/
def isMatch (r : Regex) (text : String) : Bool := (r.leftmostStart? text).isSome

end Regex

end Pattern

end RecordQuery
