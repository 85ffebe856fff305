import RecordQuery.Cli.Files
import RecordQuery.Cli.Args
import RecordQuery.Json.Reader
import RecordQuery.Json.Writer
import RecordQuery.Plan.Explain
import RecordQuery.Exec.Run

/-!
Contract: what the `run` and `explain` commands do with the files they are given.

Owns:
- `Cli.CliError`: a file that cannot be read, a file that is not JSON, a configuration of the
  wrong shape, records that are not an array, a rejected statement; each with its code
  (`MEMQL_CLI_READ_ERROR`, …, or the compile error's own) and message;
- `Cli.Outcome`: what the command wrote to standard output, the log records it produced, and
  its error if it failed;
- `Cli.runQuery`: the configuration (default without a path), then the statement, then the
  records are read, the statement compiled (logged) and executed (logged), and one compact
  JSON row written per line;
- `Cli.explainQuery`: the configuration and statement read and compiled (logged), and the
  explain text written — for a rejected statement too, before the error;
- `Cli.Outcome.errorText`: the log lines that pass the threshold, then `CODE: message`.
-/

set_option autoImplicit false

namespace RecordQuery

namespace Cli

/-- Why a command failed. -/
inductive CliError where
  | read (path : String) (fault : ReadFault)
  | json (path : String) (error : Json.ReadError)
  | config (path : String) (error : Json.SchemaError)
  | records (path : String)
  | compile (error : Query.CompileError)

namespace CliError

/-- The stable code of a command error. -/
def code : CliError → String
  | .read _ _ => "MEMQL_CLI_READ_ERROR"
  | .json _ _ => "MEMQL_CLI_JSON_ERROR"
  | .config _ _ => "MEMQL_CLI_CONFIG_ERROR"
  | .records _ => "MEMQL_CLI_RECORDS_ERROR"
  | .compile e => e.code

/-- The message of a command error. -/
def message : CliError → String
  | .read path fault => "failed to read " ++ path ++ ": " ++ fault.text
  | .json path e => "invalid JSON in " ++ path ++ ": " ++ e.message
  | .config path e => "invalid config " ++ path ++ ": " ++ e.message
  | .records path => path ++ " must hold a JSON array of records"
  | .compile e => e.message

end CliError

/-- What a command did. -/
structure Outcome where
  stdout : String
  logs : List Log.Record
  result : Except CliError Unit

/-- A JSON file's value. -/
def readJson (files : FileReader) (path : String) : Except CliError Json := do
  let text ← match files path with
    | .ok text => pure text
    | .error fault => throw (.read path fault)
  match Json.parse text with
  | .ok v => pure v
  | .error e => throw (.json path e)

/-- A records file's records. -/
def readRecords (files : FileReader) (path : String) : Except CliError (List Json) := do
  match ← readJson files path with
  | .arr items => pure items
  | _ => throw (.records path)

/-- The configuration a path names, the default without one. -/
def loadConfig (files : FileReader) : Option String → Except CliError Query.Config
  | none => .ok Query.Config.default
  | some path => do
    let v ← readJson files path
    match Query.Config.read v with
    | .ok c => pure c
    | .error e => throw (.config path e)

/-- The rows written one compact JSON value per line. -/
def rowLines (rows : List Json) : String := String.join (rows.map fun r => r.compact ++ "\n")

/-- A command that failed before producing anything. -/
def Outcome.failed (e : CliError) : Outcome := ⟨"", [], .error e⟩

/-- The `run` command. -/
def runQuery (files : FileReader) (query records : String) (config : Option String) : Outcome :=
  let inputs : Except CliError (Query.Config × Json × List Json) := do
    let c ← loadConfig files config
    let ast ← readJson files query
    let rs ← readRecords files records
    pure (c, ast, rs)
  match inputs with
  | .error e => .failed e
  | .ok (c, ast, rs) =>
    let compiled := Plan.compileJson c ast
    let compileLog := Plan.compileRecord compiled
    match compiled with
    | .error e => ⟨"", [compileLog], .error (.compile e)⟩
    | .ok plan =>
      let r := Exec.execute plan rs
      ⟨rowLines r.rows, [compileLog, Exec.executeRecord r], .ok ()⟩

/-- The `explain` command. -/
def explainQuery (files : FileReader) (query : String) (config : Option String) : Outcome :=
  let inputs : Except CliError (Query.Config × Json) := do
    let c ← loadConfig files config
    let ast ← readJson files query
    pure (c, ast)
  match inputs with
  | .error e => .failed e
  | .ok (c, ast) =>
    let compiled := Plan.compileJson c ast
    let compileLog := Plan.compileRecord compiled
    match compiled with
    | .error e => ⟨Plan.explainRejection e, [compileLog], .error (.compile e)⟩
    | .ok plan => ⟨Plan.explain plan, [compileLog], .ok ()⟩

/-- What a parsed command line does. -/
def Command.perform (files : FileReader) : Command → Outcome
  | .run query records config => runQuery files query records config
  | .explain query config => explainQuery files query config

/-- The files a command may read, in the order it reads them. -/
def Command.paths : Command → List String
  | .run query records config => config.toList ++ [query, records]
  | .explain query config => config.toList ++ [query]

/-- The standard error text of an outcome: the log lines that pass the threshold, then the
error line. -/
def Outcome.errorText (o : Outcome) (threshold : Severity) : String :=
  String.join (o.logs.map (Log.Record.write threshold)) ++
    match o.result with
    | .ok () => ""
    | .error e => e.code ++ ": " ++ e.message ++ "\n"

/-- What the program prints and how it exits. -/
structure Exit where
  status : Nat
  stdout : String
  stderr : String

/-- The whole program over a command line and the files it may read. -/
def invoke (argv : List String) (files : FileReader) : Exit :=
  match parseArgs argv with
  | .error e =>
    if e.kind.toStdout then ⟨e.kind.exitCode, e.text, ""⟩ else ⟨e.kind.exitCode, "", e.text⟩
  | .ok inv =>
    let o := inv.command.perform files
    ⟨match o.result with
      | .ok () => 0
      | .error _ => 1, o.stdout, o.errorText inv.threshold⟩

end Cli

end RecordQuery
