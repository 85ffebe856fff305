/-!
Contract: the command line's commands and arguments, and the usage and help texts drawn from
them.

Owns:
- `Cli.ArgSpec`: a `--long` argument (optionally with a `-s` short form) that either takes one
  value or shows help or the version; `Cli.CommandSpec`: a command's usage name, description,
  arguments in help order, an optional trailing positional (the `help` command's) and its
  subcommands;
- the `memql` commands: the top level (`--log-level`, `-h` or `--help`, `-V` or `--version`, a required
  subcommand), `run`, `explain` and `help`; `--log-level` is global, so `run` and `explain`
  take it too, while `help`, which only names commands, takes no option;
- `CommandSpec.helpUsage`: `name [OPTIONS] <required args> [positional] <COMMAND>`, where
  `[OPTIONS]` appears when some argument besides help and version is optional;
- `CommandSpec.smartUsage`: the name, the required arguments, then the other arguments used,
  each once, in that order;
- `CommandSpec.helpText`: the description, the usage, then the `Commands:`, `Arguments:` and
  `Options:` sections, each entry padded two columns past the longest one.
-/

set_option autoImplicit false

namespace RecordQuery

namespace Cli

/-- What an argument does when it is given. -/
inductive ArgAction where
  | set
  | help
  | version
  deriving DecidableEq, Repr

/-- How an argument's value is checked. -/
inductive ValueKind where
  | path
  | severity
  deriving DecidableEq, Repr

/-- A named command-line argument. -/
structure ArgSpec where
  id : String
  long : String
  short : Option Char
  valueName : String
  help : String
  required : Bool
  defaultValue : Option String
  action : ArgAction
  kind : ValueKind
  deriving DecidableEq, Repr

namespace ArgSpec

/-- Whether the argument takes a value. -/
def takesValue (a : ArgSpec) : Bool := a.action == .set

/-- The argument as messages name it: `--long <VALUE>`, or `--long` for a flag. -/
def display (a : ArgSpec) : String :=
  "--" ++ a.long ++ (if a.takesValue then " <" ++ a.valueName ++ ">" else "")

/-- The argument's help line cell before its description. -/
def cell (a : ArgSpec) : String :=
  (match a.short with
    | some c => "-" ++ String.singleton c ++ ", "
    | none => "    ") ++ a.display

/-- The text after an argument's description: its default value. -/
def extra (a : ArgSpec) : String :=
  match a.defaultValue with
  | some v => " [default: " ++ v ++ "]"
  | none => ""

end ArgSpec

/-- A command: how usage names it, what it does, its arguments (in help order), an optional
trailing positional with its description, its subcommands and whether it has a `--help`. -/
structure CommandSpec where
  name : String
  usageName : String
  about : String
  args : List ArgSpec
  positional : Option (String × String)
  subcommands : List (String × String)
  hasHelpFlag : Bool

/-- The global log threshold argument. -/
def logLevelArg : ArgSpec :=
  ⟨"log_level", "log-level", none, "LOG_LEVEL", "Lowest log severity written to stderr (trace, info, warn, error)",
    false, some "warn", .set, .severity⟩

/-- The help flag. -/
def helpArg : ArgSpec := ⟨"help", "help", some 'h', "", "Print help", false, none, .help, .path⟩

/-- The version flag. -/
def versionArg : ArgSpec := ⟨"version", "version", some 'V', "", "Print version", false, none, .version, .path⟩

/-- The statement file argument. -/
def queryArg : ArgSpec :=
  ⟨"query", "query", none, "QUERY", "Path to the JSON-serialized SELECT statement", true, none, .set, .path⟩

/-- The records file argument. -/
def recordsArg : ArgSpec :=
  ⟨"records", "records", none, "RECORDS", "Path to a JSON array of records", true, none, .set, .path⟩

/-- The configuration file argument. -/
def configArg : ArgSpec :=
  ⟨"config", "config", none, "CONFIG", "Path to a compiler configuration file", false, none, .set, .path⟩

/-- The program's name. -/
def programName : String := "memql"

/-- The program's version. -/
def programVersion : String := "0.1.0"

/-- The `run` command. -/
def runCommand : CommandSpec :=
  ⟨"run", programName ++ " run", "Compile a query and run it over a JSON array of records",
    [logLevelArg, queryArg, recordsArg, configArg, helpArg], none, [], true⟩

/-- The `explain` command. -/
def explainCommand : CommandSpec :=
  ⟨"explain", programName ++ " explain", "Compile a query and print its plan",
    [logLevelArg, queryArg, configArg, helpArg], none, [], true⟩

/-- The `help` command. -/
def helpCommand : CommandSpec :=
  ⟨"help", programName ++ " help", "Print this message or the help of the given subcommand(s)",
    [], some ("[COMMAND]...", "Print help for the subcommand(s)"), [], false⟩

/-- The subcommands of the program, in order. -/
def programSubcommands : List CommandSpec := [runCommand, explainCommand, helpCommand]

/-- The top-level command. -/
def topCommand : CommandSpec :=
  ⟨programName, programName, "A compiler and executor for select/where/order-by queries over in-memory JSON records",
    [logLevelArg, helpArg, versionArg], none, programSubcommands.map fun c => (c.name, c.about), true⟩

namespace CommandSpec

/-- The subcommand of a name. -/
def subcommand? (c : CommandSpec) (name : String) : Option CommandSpec :=
  if c.subcommands.any (·.1 == name) then programSubcommands.find? (·.name == name) else none

/-- The argument a long name selects. -/
def findLong? (c : CommandSpec) (long : String) : Option ArgSpec := c.args.find? (·.long == long)

/-- The argument a short name selects. -/
def findShort? (c : CommandSpec) (short : Char) : Option ArgSpec := c.args.find? (·.short == some short)

/-- The required arguments, in order. -/
def requiredArgs (c : CommandSpec) : List ArgSpec := c.args.filter (·.required)

/-- Whether usage shows `[OPTIONS]`: some optional argument besides help and version. -/
def needsOptionsTag (c : CommandSpec) : Bool :=
  c.args.any fun a => a.action == .set && !a.required

/-- The subcommand placeholder of usage, when the command has subcommands. -/
def commandTag (c : CommandSpec) : String := if c.subcommands.isEmpty then "" else " <COMMAND>"

/-- The usage a help text shows. -/
def helpUsage (c : CommandSpec) : String :=
  c.usageName ++ (if c.needsOptionsTag then " [OPTIONS]" else "") ++
    String.join (c.requiredArgs.map fun a => " " ++ a.display) ++
    (match c.positional with
      | some (p, _) => " " ++ p
      | none => "") ++ c.commandTag

/-- The usage naming the required arguments and the arguments used, each once. -/
def smartUsage (c : CommandSpec) (used : List ArgSpec) : String :=
  let shown := (c.requiredArgs ++ used).foldl (fun acc a => if acc.contains a then acc else acc ++ [a]) []
  c.usageName ++ String.join (shown.map fun a => " " ++ a.display) ++ c.commandTag

/-- The usage an error shows: the help usage when nothing was used, else the smart usage. -/
def usageFor (c : CommandSpec) (used : List ArgSpec) : String :=
  if used.isEmpty then c.helpUsage else c.smartUsage used

end CommandSpec

/-- Spaces. -/
def spaces (n : Nat) : String := String.ofList (List.replicate n ' ')

/-- Rows of a help section: each cell padded two columns past the longest cell (at least 2). -/
def sectionRows (indent : Nat) (rows : List (String × String)) : List String :=
  let longest := rows.foldl (fun m r => max m r.1.length) 2
  rows.map fun (cell, text) => "  " ++ cell ++ spaces (longest + indent + 2 - cell.length) ++ text

/-- A help section under its heading. -/
def helpSection (heading : String) (lines : List String) : List String :=
  if lines.isEmpty then [] else [heading ++ ":\n" ++ "\n".intercalate lines]

/-- The help text of a command. -/
def CommandSpec.helpText (c : CommandSpec) : String :=
  let commandRows := sectionRows 0 c.subcommands
  let positionalRows := match c.positional with
    | some row => sectionRows 0 [row]
    | none => []
  let longest := c.args.foldl (fun m a => max m a.display.length) 2
  let optionRows := c.args.map fun a =>
    "  " ++ a.cell ++ spaces (longest + 2 - a.display.length) ++ a.help ++ a.extra
  let sections := helpSection "Commands" commandRows ++ helpSection "Arguments" positionalRows ++
    helpSection "Options" optionRows
  c.about ++ "\n\n" ++ "Usage: " ++ c.helpUsage ++ "\n\n" ++ "\n\n".intercalate sections ++ "\n"

/-- The version text. -/
def versionText : String := programName ++ " " ++ programVersion ++ "\n"

end Cli

end RecordQuery
