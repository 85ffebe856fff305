import RecordQuery.Json.Reader
import RecordQuery.Json.Schema
import RecordQuery.Pattern.Error

/-!
Contract: why a statement is rejected, and the texts that say so.

Owns:
- `Query.NodeFault`, the faults of a statement tree node (decoding), and
  `Query.LiteralFault`, the faults of an operand literal;
- `Query.CompileError`: an unknown node kind, a malformed node, an operator that is not supported,
  a malformed literal, an invalid pattern;
- the stable code, the message, the field it concerns and the display text of each error.

The message of an invalid pattern stops at `is invalid`: which fault it was is kept in the value,
not in the text.
-/

set_option autoImplicit false

namespace RecordQuery

namespace Query

/-- A fault of a statement tree node. -/
inductive NodeFault where
  | expectedObject
  | missingTypeTag
  | foundInPlace (kind : String)
  | notValidInWhere
  | missingKey (key : String)
  | notString (key : String)
  | notBoolean (key : String)
  | fieldsNotArray
  | schema (error : Json.SchemaError)

/-- The reason text of a node fault. -/
def NodeFault.reason : NodeFault → String
  | .expectedObject => "expected an object"
  | .missingTypeTag => "missing \"type\" tag"
  | .foundInPlace kind => "found a " ++ kind ++ " node in its place"
  | .notValidInWhere => "not valid inside a WHERE expression"
  | .missingKey key => "missing \"" ++ key ++ "\""
  | .notString key => "\"" ++ key ++ "\" must be a string"
  | .notBoolean key => "\"" ++ key ++ "\" must be a boolean"
  | .fieldsNotArray => "\"fields\" must be an array"
  | .schema e => e.message

/-- A fault of an operand literal. -/
inductive LiteralFault where
  | expectedScalar
  | notFinite
  | unreadable (error : Json.ReadError)

/-- The reason text of a literal fault. -/
def LiteralFault.reason : LiteralFault → String
  | .expectedScalar => "expected a scalar"
  | .notFinite => "not a finite number"
  | .unreadable e => e.message

/-- Why a statement is rejected. -/
inductive CompileError where
  | unknownNodeKind (kind : String)
  | malformedNode (kind : String) (fault : NodeFault)
  | unsupportedOperator (field operator : String)
  | malformedLiteral (field literal : String) (fault : LiteralFault)
  | invalidPattern (field : String) (fault : Pattern.Error)

namespace CompileError

/-- The stable code of an error. -/
def code : CompileError → String
  | .unknownNodeKind _ => "MEMQL_UNKNOWN_NODE_KIND"
  | .malformedNode _ _ => "MEMQL_MALFORMED_NODE"
  | .unsupportedOperator _ _ => "MEMQL_UNSUPPORTED_OPERATOR"
  | .malformedLiteral _ _ _ => "MEMQL_MALFORMED_LITERAL"
  | .invalidPattern _ _ => "MEMQL_INVALID_PATTERN"

/-- The message of an error. -/
def message : CompileError → String
  | .unknownNodeKind kind => "No handler for node kind '" ++ kind ++ "'"
  | .malformedNode kind fault => "Malformed " ++ kind ++ " node: " ++ fault.reason
  | .unsupportedOperator field op => "Operator '" ++ op ++ "' on field '" ++ field ++ "' is not supported"
  | .malformedLiteral field literal fault =>
    "Literal " ++ literal ++ " for field '" ++ field ++ "' is malformed: " ++ fault.reason
  | .invalidPattern field _ => "Pattern for field '" ++ field ++ "' is invalid"

/-- The field an error concerns, for operator, literal and pattern errors. -/
def field? : CompileError → Option String
  | .unsupportedOperator field _ => some field
  | .malformedLiteral field _ _ => some field
  | .invalidPattern field _ => some field
  | _ => none

/-- The severity every compile error carries. -/
def severity (_ : CompileError) : String := "REJECT"

/-- The display text `[REJECT] CODE: message`. -/
def display (e : CompileError) : String := "[" ++ e.severity ++ "] " ++ e.code ++ ": " ++ e.message

end CompileError

end Query

end RecordQuery
