/-!
Contract: log severities, their order and their names.

Owns:
- `Severity`, ordered `trace < info < warn < error < fatal`;
- the upper-case names and `Severity.parse?`, which matches a name ignoring ASCII case;
- `Severity.enabled`: a line is written when its severity is at least the threshold; the threshold
  is `warn` unless set.

Does not own: the text of a log line (`Log.Line`).
-/

set_option autoImplicit false

namespace RecordQuery

/-- How serious a logged event is. -/
inductive Severity where
  | trace
  | info
  | warn
  | error
  | fatal
  deriving DecidableEq, Repr

namespace Severity

/-- The rank of a severity in the order, from `trace` at 0. -/
def rank : Severity → Nat
  | .trace => 0
  | .info => 1
  | .warn => 2
  | .error => 3
  | .fatal => 4

/-- The upper-case name of a severity. -/
def name : Severity → String
  | .trace => "TRACE"
  | .info => "INFO"
  | .warn => "WARN"
  | .error => "ERROR"
  | .fatal => "FATAL"

/-- All severities, least serious first. -/
def all : List Severity := [.trace, .info, .warn, .error, .fatal]

/-- The severity a name stands for, ignoring ASCII case (`Info`, `INFO`); other letters must
match exactly. -/
def parse? (text : String) : Option Severity :=
  all.find? fun s => s.name == text.map Char.toUpper

/-- The threshold in force when none is set. -/
def defaultThreshold : Severity := .warn

/-- Whether a line of severity `s` is written under the threshold `threshold`. -/
def enabled (threshold s : Severity) : Bool := threshold.rank ≤ s.rank

end Severity

end RecordQuery
