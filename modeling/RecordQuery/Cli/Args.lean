import RecordQuery.Cli.Spec
import RecordQuery.Cli.Similarity
import RecordQuery.Log.Severity

/-!
Contract: reading the command line into an invocation, or the usage error it is.

Owns:
- `Cli.ArgErrorKind` (with the kind names and exit codes: 0 for help and version, 2 otherwise)
  and `Cli.ArgError`, the kind with the exact text printed;
- `Cli.Invocation`: the log threshold and the command with its file paths;
- `Cli.parseArgs`, which reads the arguments in order, as the usual parser of this command line
  does:
  - a name of a subcommand ends the current command's arguments, unless an option is waiting
    for its value (the name is then that value); `help` then shows the help of the commands
    named after it;
  - `--` makes everything after it positional, so on these commands, which take no positional
    argument, the next argument is refused, even when an option still waits for its value;
  - `--name=value` gives the value at once; `--name` alone waits for the next argument, which is
    taken as the value unless it looks like a flag;
  - an option's value is checked, and a repeated option refused, only when the next flag or the
    end of the arguments settles it; an unknown flag settles it too, but its own error wins;
  - a subcommand's arguments are finished (required arguments checked) before the parent's
    pending option is settled, then the parent needs a subcommand (or shows its help when
    given no arguments at all);
  - the deepest explicit `--log-level` wins, `warn` by default.
- unknown flags get a suggestion of a similar flag of the same command, or of a subcommand's
  flag named later on the line; unknown subcommands get similar subcommand names.
-/

set_option autoImplicit false

namespace RecordQuery

namespace Cli

/-- The kinds of command-line outcome that stop before a command runs. -/
inductive ArgErrorKind where
  | displayHelp
  | displayVersion
  | displayHelpOnMissing
  | missingRequired
  | missingSubcommand
  | invalidSubcommand
  | unknownArgument
  | valueValidation
  | invalidValue
  | argumentConflict
  | tooManyValues
  deriving DecidableEq, Repr

namespace ArgErrorKind

/-- The name of a kind. -/
def name : ArgErrorKind → String
  | .displayHelp => "DisplayHelp"
  | .displayVersion => "DisplayVersion"
  | .displayHelpOnMissing => "DisplayHelpOnMissingArgumentOrSubcommand"
  | .missingRequired => "MissingRequiredArgument"
  | .missingSubcommand => "MissingSubcommand"
  | .invalidSubcommand => "InvalidSubcommand"
  | .unknownArgument => "UnknownArgument"
  | .valueValidation => "ValueValidation"
  | .invalidValue => "InvalidValue"
  | .argumentConflict => "ArgumentConflict"
  | .tooManyValues => "TooManyValues"

/-- The exit status of a kind: 0 for help and version, 2 for usage errors. -/
def exitCode : ArgErrorKind → Nat
  | .displayHelp => 0
  | .displayVersion => 0
  | _ => 2

/-- Whether the text goes to standard output (help and version) rather than standard error. -/
def toStdout : ArgErrorKind → Bool
  | .displayHelp => true
  | .displayVersion => true
  | _ => false

end ArgErrorKind

/-- A command-line outcome that stops before a command runs, with the text printed. -/
structure ArgError where
  kind : ArgErrorKind
  text : String

/-- The text of a usage error: the message, tips, the usage, and the pointer to `--help` when
the command has one. -/
def errorText (c : CommandSpec) (message : String) (tips : List String) (usage : Option String) :
    String :=
  "error: " ++ message ++
    (if tips.isEmpty then "" else "\n" ++ String.join (tips.map fun t => "\n  tip: " ++ t)) ++
    (match usage with
      | some u => "\n\nUsage: " ++ u
      | none => "") ++
    (if c.hasHelpFlag then "\n\nFor more information, try '--help'.\n" else "\n")

/-- A usage error of a command. -/
def usageError (c : CommandSpec) (kind : ArgErrorKind) (message : String) (tips : List String)
    (usage : Option String) : ArgError :=
  ⟨kind, errorText c message tips usage⟩

/-- The tip naming similar candidates. -/
def similarTip (what : String) : List String → List String
  | [] => []
  | [one] => ["a similar " ++ what ++ " exists: '" ++ one ++ "'"]
  | many => ["some similar " ++ what ++ "s exist: " ++ ", ".intercalate (many.map fun m => "'" ++ m ++ "'")]

/-- The error of an option given without a value. -/
def emptyValueError (c : CommandSpec) (a : ArgSpec) : ArgError :=
  usageError c .invalidValue ("a value is required for '" ++ a.display ++ "' but none was supplied") [] none

/-- The error of a value its argument does not accept, if any. -/
def checkValue (c : CommandSpec) (a : ArgSpec) (v : String) : Option ArgError :=
  match a.kind with
  | .path => if v.isEmpty then some (emptyValueError c a) else none
  | .severity =>
    match Severity.parse? v with
    | some _ => none
    | none => some (usageError c .valueValidation
        ("invalid value '" ++ v ++ "' for '" ++ a.display ++ "': unknown log level '" ++ v ++ "'") [] none)

/-- What has been read of one command's arguments. -/
structure ScanState where
  present : List ArgSpec
  values : List (String × String)
  pending : Option (ArgSpec × List String)
  expecting : Option ArgSpec
  trailing : Bool

/-- Nothing read yet. -/
def ScanState.initial : ScanState := ⟨[], [], none, none, false⟩

/-- The state after an argument receives its values, and the error that stops there, if any.
An argument whose value is refused still counts as given. -/
def settle (c : CommandSpec) (st : ScanState) (a : ArgSpec) (vals : List String) :
    ScanState × Option ArgError :=
  match a.action with
  | .help => (st, some ⟨.displayHelp, c.helpText⟩)
  | .version => (st, some ⟨.displayVersion, versionText⟩)
  | .set =>
    match vals with
    | [] => (st, some (emptyValueError c a))
    | v :: _ =>
      if st.present.contains a then
        ({ st with present := st.present.erase a }, some (usageError c .argumentConflict
          ("the argument '" ++ a.display ++ "' cannot be used multiple times") [] (some c.helpUsage)))
      else
        let st := { st with present := st.present ++ [a] }
        match checkValue c a v with
        | some e => (st, some e)
        | none => ({ st with values := st.values ++ [(a.id, v)] }, none)

/-- The pending option settled: the state, and its error if any. -/
def settlePending (c : CommandSpec) (st : ScanState) : ScanState × Option ArgError :=
  match st.pending with
  | none => (st, none)
  | some (a, vals) => settle c { st with pending := none } a vals

/-- The pending option settled, its error stopping the scan. -/
def resolvePending (c : CommandSpec) (st : ScanState) : Except ArgError ScanState :=
  match settlePending c st with
  | (st, none) => .ok st
  | (_, some e) => .error e

/-- The pending option settled, then `a` given the values `vals`. -/
def react (c : CommandSpec) (st : ScanState) (a : ArgSpec) (vals : List String) :
    Except ArgError ScanState := do
  let st ← resolvePending c st
  match settle c st a vals with
  | (st, none) => pure st
  | (_, some e) => throw e

/-- The error of an unknown `--name`: a similar flag of this command, else (at the top) a
subcommand's flag when that subcommand is named later. -/
def unknownLong (c : CommandSpec) (isTop : Bool) (st : ScanState) (name : String) (rest : List String) :
    ArgError :=
  let message := "unexpected argument '--" ++ name ++ "' found"
  match bestSuggestion? name (c.args.map (·.long)) with
  | some l =>
    let used := match c.findLong? l with
      | some a => if st.present.contains a then st.present else st.present ++ [a]
      | none => st.present
    usageError c .unknownArgument message (similarTip "argument" ["--" ++ l]) (some (c.usageFor used))
  | none =>
    let fromSubcommand := if isTop then
        programSubcommands.filterMap fun sub =>
          match bestSuggestion? name (sub.args.map (·.long)), rest.idxOf? sub.name with
          | some l, some pos => some (pos, sub.name ++ " --" ++ l)
          | _, _ => none
      else []
    let best := fromSubcommand.foldl (fun acc p => match acc with
      | some q => if p.1 < q.1 then some p else acc
      | none => some p) none
    let tips := match best with
      | some (_, hint) => ["'" ++ hint ++ "' exists"]
      | none => []
    usageError c .unknownArgument message tips (some (c.usageFor st.present))

/-- The error of an argument that is neither a flag nor a value. -/
def strayArgument (c : CommandSpec) (a : String) (trailing : Bool) : ArgError :=
  if trailing && (c.subcommand? a).isSome then
    usageError c .unknownArgument ("unexpected argument '" ++ a ++ "' found")
      ["subcommand '" ++ a ++ "' exists; to use it, remove the '--' before it"] (some c.helpUsage)
  else if !c.subcommands.isEmpty then
    usageError c .invalidSubcommand ("unrecognized subcommand '" ++ a ++ "'")
      (similarTip "subcommand" (suggestions a (c.subcommands.map (·.1)))) (some c.helpUsage)
  else usageError c .unknownArgument ("unexpected argument '" ++ a ++ "' found") [] (some c.helpUsage)

/-- The help shown by `help NAME…`: the help of the command the names lead to. -/
def helpFor (c : CommandSpec) : List String → ArgError
  | [] => ⟨.displayHelp, c.helpText⟩
  | name :: rest =>
    match c.subcommand? name with
    | some sub => helpFor sub rest
    | none => usageError c .invalidSubcommand ("unrecognized subcommand '" ++ name ++ "'") [] (some c.helpUsage)
termination_by names => names.length

/-- The text of a `--name[=value]` argument split at its first `=`. -/
def splitLong (body : String) : String × Option String :=
  match body.splitOn "=" with
  | name :: v :: more => (name, some ("=".intercalate (v :: more)))
  | _ => (body, none)

/-- Reading one command's arguments: the state at the end, and the subcommand named with the
arguments after it, if any. -/
def scan (c : CommandSpec) (isTop : Bool) :
    List String → ScanState → Except ArgError (ScanState × Option (CommandSpec × List String))
  | [], st => .ok (st, none)
  | a :: rest, st =>
    let valueOrStray : Except ArgError (ScanState × Option (CommandSpec × List String)) :=
      match st.expecting, st.pending with
      | some opt, some (_, vals) => scan c isTop rest { st with pending := some (opt, vals ++ [a]), expecting := none }
      | some opt, none => scan c isTop rest { st with pending := some (opt, [a]), expecting := none }
      | none, _ => .error (strayArgument c a st.trailing)
    if st.trailing then .error (strayArgument c a true)
    else
      match (if st.expecting.isSome then none else c.subcommand? a) with
      | some sub => if sub.name == "help" then .error (helpFor c rest) else .ok (st, some (sub, rest))
      | none =>
        if a == "--" then scan c isTop rest { st with trailing := true }
        else if a.startsWith "--" then
          let (name, attached) := splitLong (a.drop 2).toString
          match c.findLong? name, attached with
          | some opt, some v =>
            if opt.takesValue then do
              let st ← react c st opt [v]
              scan c isTop rest { st with expecting := none }
            else
              let st := (settlePending c st).1
              let used := st.present.filter (!·.required) ++ [opt]
              .error (usageError c .tooManyValues
                ("unexpected value '" ++ v ++ "' for '" ++ opt.display ++ "' found; no more were expected") []
                (some (c.usageFor used)))
          | some opt, none =>
            if opt.takesValue then do
              let st ← resolvePending c st
              scan c isTop rest { st with pending := some (opt, []), expecting := some opt }
            else do
              let st ← react c st opt []
              scan c isTop rest st
          | none, _ => .error (unknownLong c isTop (settlePending c st).1 name rest)
        else if a.startsWith "-" && a != "-" then
          match (a.drop 1).toString.toList with
          | ch :: _ =>
            match c.findShort? ch with
            | some opt => do
              let st ← react c st opt []
              scan c isTop rest st
            | none => .error (usageError c .unknownArgument
                ("unexpected argument '-" ++ String.singleton ch ++ "' found") [] (some c.helpUsage))
          | [] => valueOrStray
        else valueOrStray

/-- The checks at the end of a command's arguments: the pending option settled, then a required
subcommand, then the required arguments. -/
def finish (c : CommandSpec) (hasSubcommand : Bool) (st : ScanState) : Except ArgError ScanState := do
  let st ← resolvePending c st
  if !c.subcommands.isEmpty && !hasSubcommand then
    if st.present.isEmpty then throw ⟨.displayHelpOnMissing, c.helpText⟩
    throw (usageError c .missingSubcommand
      ("'" ++ programName ++ "' requires a subcommand but one was not provided\n  [subcommands: " ++
        ", ".intercalate (c.subcommands.map (·.1)) ++ "]") [] (some c.helpUsage))
  let missing := c.requiredArgs.filter fun a => !st.present.contains a
  if !missing.isEmpty then
    throw (usageError c .missingRequired
      ("the following required arguments were not provided:" ++
        String.join (missing.map fun a => "\n  " ++ a.display)) [] (some (c.usageFor (st.present ++ missing))))
  pure st

/-- What a run of the program does. -/
inductive Command where
  | run (query records : String) (config : Option String)
  | explain (query : String) (config : Option String)
  deriving DecidableEq, Repr

/-- A parsed command line: the log threshold and the command. -/
structure Invocation where
  threshold : Severity
  command : Command
  deriving Repr

/-- A value given to a command, by argument id. -/
def valueOf? (st : ScanState) (id : String) : Option String := (st.values.find? (·.1 == id)).map (·.2)

/-- The parsed command line (without the program name), or the usage outcome that stops it. -/
def parseArgs (argv : List String) : Except ArgError Invocation := do
  let (top, sub?) ← scan topCommand true argv ScanState.initial
  match sub? with
  | none =>
    let _ ← finish topCommand false top
    throw ⟨.displayHelpOnMissing, topCommand.helpText⟩
  | some (sub, rest) =>
    let (inner, _) ← scan sub false rest ScanState.initial
    let inner ← finish sub false inner
    let top ← finish topCommand true top
    let level := (valueOf? inner "log_level").orElse fun _ => valueOf? top "log_level"
    let threshold := (level.bind Severity.parse?).getD Severity.defaultThreshold
    let query := (valueOf? inner "query").getD ""
    let config := valueOf? inner "config"
    if sub.name == "run" then pure ⟨threshold, .run query ((valueOf? inner "records").getD "") config⟩
    else pure ⟨threshold, .explain query config⟩

end Cli

end RecordQuery
