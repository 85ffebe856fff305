/-!
Contract: the files a command reads, and why reading one can fail.

Owns:
- `Cli.ReadFault`: a missing file, a directory where a file was wanted, a file where a directory
  was wanted, a text that is not UTF-8, or another system error with its text and code; its text
  as the system reports it (`No such file or directory (os error 2)`);
- `Cli.FileTree`: files (path and content) and directories written from a list of entries, where
  a name ending in `/` is a directory and every leading part of a file's path is one too;
- `FileTree.read`: a relative path walked part by part, each part looked up in a directory
  (`.` and empty parts stay, `..` goes up, so a trailing `/` or `/.` asks for a directory).
-/

set_option autoImplicit false

namespace RecordQuery

namespace Cli

/-- Why a file could not be read. -/
inductive ReadFault where
  | notFound
  | isDirectory
  | notDirectory
  | notUtf8
  | other (description : String) (code : Nat)
  deriving DecidableEq, Repr

/-- The text of a read fault. -/
def ReadFault.text : ReadFault → String
  | .notFound => "No such file or directory (os error 2)"
  | .isDirectory => "Is a directory (os error 21)"
  | .notDirectory => "Not a directory (os error 20)"
  | .notUtf8 => "stream did not contain valid UTF-8"
  | .other description code => description ++ " (os error " ++ toString code ++ ")"

/-- Reading a file by its path. -/
abbrev FileReader := String → Except ReadFault String

/-- Files and directories, each by the parts of its path. -/
structure FileTree where
  files : List (List String × String)
  dirs : List (List String)

/-- The parts of a path, empty parts and `.` dropped. -/
def pathParts (path : String) : List String :=
  (path.splitOn "/").filter fun p => !p.isEmpty && p != "."

namespace FileTree

/-- The tree written from named entries: a name ending in `/` makes a directory. -/
def ofEntries (entries : List (String × String)) : FileTree :=
  let dirs := entries.filterMap fun (name, _) => if name.endsWith "/" then some (pathParts name) else none
  let files := entries.filterMap fun (name, content) =>
    if name.endsWith "/" then none else some (pathParts name, content)
  let parents := files.flatMap fun (parts, _) => (List.range parts.length).map parts.take
  ⟨files, dirs ++ parents⟩

/-- Whether a path is a directory (the root always is). -/
def isDir (t : FileTree) (parts : List String) : Bool := parts.isEmpty || t.dirs.contains parts

/-- The content of a file, if the path is one. -/
def fileAt? (t : FileTree) (parts : List String) : Option String :=
  (t.files.find? (·.1 == parts)).map (·.2)

/-- Walking the parts of a path from a directory: where it leads, or why it cannot go on.
Every part is looked up in the place reached so far, which must be a directory: `.` and an
empty part (from `//` or a trailing `/`) stay there and `..` goes up, so `file/.` and `file/`
fail as `file/x` does. -/
def walk (t : FileTree) (here : List String) : List String → Except ReadFault (List String)
  | [] => .ok here
  | p :: rest =>
    if t.isDir here then
      let next := if p == "." || p.isEmpty then here else if p == ".." then here.dropLast else here ++ [p]
      walk t next rest
    else if (t.fileAt? here).isSome then .error .notDirectory
    else .error .notFound

/-- The content of the file at a path. -/
def read (t : FileTree) (path : String) : Except ReadFault String := do
  if path.isEmpty then throw .notFound
  let target ← walk t [] (path.splitOn "/")
  if t.isDir target then throw .isDirectory
  match t.fileAt? target with
  | some content => pure content
  | none => throw .notFound

end FileTree

end Cli

end RecordQuery
