import RecordQuery.Log.Severity

/-!
Contract: the one-line JSON text of a log record.

Owns:
- `Event`, the events the library logs, and their names;
- `Log.Record`, an event with a severity and text fields;
- `Log.escape`: `"` and `\` escaped, line feed, carriage return and tab as short escapes, every
  other control character (U+0000–U+001F and U+007F–U+009F) as `\u` with four lowercase hex
  digits, everything else as itself;
- `Log.Record.line`: `{"event":…,"severity":…` then the fields, stably sorted by key, then `}` and
  a line feed;
- `Log.Record.write`: the line when the record's severity passes the threshold, else nothing.

Does not own: deciding what is logged (the compiler and the executor return their records).
-/

set_option autoImplicit false

namespace RecordQuery

/-- The events the library logs. -/
inductive Event where
  | planCompiled
  | planRejected
  | planExecuted
  deriving DecidableEq, Repr

namespace Event

/-- The name of an event as it appears in a log line. -/
def name : Event → String
  | .planCompiled => "PLAN_COMPILED"
  | .planRejected => "PLAN_REJECTED"
  | .planExecuted => "PLAN_EXECUTED"

end Event

namespace Log

/-- A log record: what happened, how serious it is, and its fields in the order given. -/
structure Record where
  severity : Severity
  event : String
  fields : List (String × String)
  deriving DecidableEq, Repr

/-- A control character: U+0000–U+001F or U+007F–U+009F. -/
def isControl (c : Char) : Bool := c.val < 0x20 || (0x7F ≤ c.val && c.val ≤ 0x9F)

/-- A lowercase hexadecimal digit. -/
def hexDigit (n : Nat) : Char :=
  if n < 10 then Char.ofNat (48 + n) else Char.ofNat (87 + n)

/-- The escaped form of one character of a log string. -/
def escapeChar (c : Char) : List Char :=
  if c = '"' then ['\\', '"']
  else if c = '\\' then ['\\', '\\']
  else if c = '\n' then ['\\', 'n']
  else if c = '\r' then ['\\', 'r']
  else if c = '\t' then ['\\', 't']
  else if isControl c then
    let n := c.val.toNat
    ['\\', 'u', hexDigit (n / 4096 % 16), hexDigit (n / 256 % 16), hexDigit (n / 16 % 16), hexDigit (n % 16)]
  else [c]

/-- A string as it is written between the quotes of a log line. -/
def escape (s : String) : String := String.ofList (s.toList.flatMap escapeChar)

/-- The fields of a record stably sorted by key (byte order of the keys). -/
def sortedFields (fields : List (String × String)) : List (String × String) :=
  fields.mergeSort fun a b => decide (a.1 ≤ b.1)

/-- The text of a record: one JSON object on one line, ending in a line feed. -/
def Record.line (r : Record) : String :=
  "\x7b\"event\":\"" ++ escape r.event ++ "\",\"severity\":\"" ++ r.severity.name ++ "\"" ++
    String.join ((sortedFields r.fields).map fun (k, v) => ",\"" ++ escape k ++ "\":\"" ++ escape v ++ "\"") ++
    "\x7d\n"

/-- What a record adds to the log under a threshold: its line, or nothing. -/
def Record.write (threshold : Severity) (r : Record) : String :=
  if threshold.enabled r.severity then r.line else ""

end Log

end RecordQuery
