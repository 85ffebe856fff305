/-!
Contract: why a pattern text is not a valid pattern.

Owns: `Pattern.Error`, one constructor per kind of fault: of the syntax, of an item outside
Unicode mode, of nesting, and of the size of the automaton.
-/

set_option autoImplicit false

namespace RecordQuery

namespace Pattern

/-- A fault in the syntax of a pattern. -/
inductive Error where
  /-- A `(` without its `)`. -/
  | unclosedGroup
  /-- A `)` without its `(`. -/
  | unopenedGroup
  /-- A `[` without its `]`. -/
  | unclosedClass
  /-- A class range whose start is above its end, such as `z-a`. -/
  | invalidClassRange
  /-- A counted repetition whose minimum exceeds its maximum, such as `{2,1}`. -/
  | invalidRepetitionRange
  /-- A counted repetition that is not closed or whose counts are not numbers. -/
  | unclosedRepetition
  /-- A count too large to be meant. -/
  | repetitionTooLarge
  /-- A repetition operator with nothing before it to repeat. -/
  | repetitionMissing
  /-- A backslash before a character that has no escape meaning. -/
  | unrecognizedEscape
  /-- A backslash at the end of the pattern. -/
  | escapeAtEnd
  /-- A hexadecimal escape that is malformed or names no character. -/
  | invalidHexEscape
  /-- A Unicode property or class name that is not known. -/
  | unknownProperty
  /-- A bracketed ASCII class name that is not known. -/
  | unknownAsciiClass
  /-- A group name used twice. -/
  | duplicateGroupName
  /-- A group name that is empty or has characters a name may not have. -/
  | invalidGroupName
  /-- A flag group that is malformed (an unknown flag, a repeated flag, a dangling `-`). -/
  | invalidFlags
  /-- A group opener `(?` followed by nothing valid. -/
  | invalidGroup
  /-- Outside Unicode mode, an item that could match beyond ASCII: a literal beyond ASCII, `.`,
  a class reaching beyond ASCII, a Unicode class, or `\B`. -/
  | beyondAscii
  /-- A pattern nested more deeply than the nesting limit. -/
  | nestedTooDeep
  /-- A pattern whose automaton would take more memory than the size limit. -/
  | automatonTooLarge
  deriving DecidableEq, Repr

end Pattern

end RecordQuery
