import RecordQuery.Pattern.Syntax
import RecordQuery.Pattern.Error
import RecordQuery.Text.CaseFold
import RecordQuery.Text.Script
import RecordQuery.Text.WordChar
import RecordQuery.Text.Property
import RecordQuery.Text.Blank
import RecordQuery.Text.PropertyName
import RecordQuery.Text.ScriptExtension
import RecordQuery.Text.Age
import RecordQuery.Text.Boundary

/-!
Contract: the named character classes of the pattern language.

Owns:
- the bracketed ASCII classes (`alnum`, `alpha`, `ascii`, `blank`, `cntrl`, `digit`, `graph`,
  `lower`, `print`, `punct`, `space`, `upper`, `word`, `xdigit`);
- the escape classes `\d`, `\s`, `\w`: decimal digits, White_Space and word characters in Unicode
  mode, their ASCII subsets otherwise;
- Unicode property names (`\p{…}`): names are compared ignoring case, spaces, `_` and `-`, and an
  `is` prefix; a name is, in this order of preference, a property, which must be a binary one
  (`Alphabetic`, `Lower`, `White_Space`, … but never `cf`, `sc` or `lc`, which are categories),
  a general category or group (`Lu`, `Uppercase_Letter`, `L`, …), `Any`, `ASCII`, `Assigned`, or
  a script (`Greek`, `Grek`, …); `property=value` names a general category, script, script
  extension, age, or grapheme, word or sentence break class;
- `Pattern.foldIf`: a set closed under simple case folding when the pattern is case-insensitive.
-/

set_option autoImplicit false

namespace RecordQuery

namespace Pattern

open Text

/-- A set closed under simple case folding when `caseless` holds (only ASCII letters in
ASCII mode). -/
def foldIf (flags : Flags) (s : CodeSet) : CodeSet :=
  if !flags.caseless then s
  else if flags.unicode then s.caseFold
  else
    let lower := s.inter (CodeSet.range 0x61 0x7A)
    let upper := s.inter (CodeSet.range 0x41 0x5A)
    let shift (t : CodeSet) (up : Bool) : CodeSet :=
      CodeSet.ofRanges (t.ranges.toList.map fun (a, b) => if up then (a - 32, b - 32) else (a + 32, b + 32))
    (s.union (shift lower true)).union (shift upper false)

/-- The ranges of a bracketed ASCII class, by name. -/
def asciiClass? : String → Option CodeSet
  | "alnum" => some (CodeSet.ofRanges [(0x30, 0x39), (0x41, 0x5A), (0x61, 0x7A)])
  | "alpha" => some (CodeSet.ofRanges [(0x41, 0x5A), (0x61, 0x7A)])
  | "ascii" => some (CodeSet.range 0 0x7F)
  | "blank" => some (CodeSet.ofRanges [(0x09, 0x09), (0x20, 0x20)])
  | "cntrl" => some (CodeSet.ofRanges [(0, 0x1F), (0x7F, 0x7F)])
  | "digit" => some (CodeSet.range 0x30 0x39)
  | "graph" => some (CodeSet.range 0x21 0x7E)
  | "lower" => some (CodeSet.range 0x61 0x7A)
  | "print" => some (CodeSet.range 0x20 0x7E)
  | "punct" => some (CodeSet.ofRanges [(0x21, 0x2F), (0x3A, 0x40), (0x5B, 0x60), (0x7B, 0x7E)])
  | "space" => some (CodeSet.ofRanges [(0x09, 0x0D), (0x20, 0x20)])
  | "upper" => some (CodeSet.range 0x41 0x5A)
  | "word" => some (CodeSet.ofRanges [(0x30, 0x39), (0x41, 0x5A), (0x5F, 0x5F), (0x61, 0x7A)])
  | "xdigit" => some (CodeSet.ofRanges [(0x30, 0x39), (0x41, 0x46), (0x61, 0x66)])
  | _ => none

/-- The White_Space characters. -/
def blankChars : CodeSet :=
  CodeSet.ofRanges [(0x09, 0x0D), (0x20, 0x20), (0x85, 0x85), (0xA0, 0xA0), (0x1680, 0x1680),
    (0x2000, 0x200A), (0x2028, 0x2029), (0x202F, 0x202F), (0x205F, 0x205F), (0x3000, 0x3000)]

/-- The escape classes `\d`, `\s` and `\w` (by their letter), before any negation. -/
def perlClass (unicode : Bool) (letter : Char) : CodeSet :=
  if letter = 'd' then (if unicode then decimalDigits else CodeSet.range 0x30 0x39)
  else if letter = 's' then (if unicode then blankChars else (asciiClass? "space").getD CodeSet.empty)
  else (if unicode then wordChars else (asciiClass? "word").getD CodeSet.empty)

/-- A property name compared loosely: ASCII letters lowered, spaces, `_` and `-` dropped, other
non-ASCII dropped, a leading `is` ignored (but `isc` stays). -/
def looseName (name : String) : String :=
  let cs := name.toList
  let (isPrefixed, body) := match cs with
    | a :: b :: rest => if (a = 'i' ∨ a = 'I') ∧ (b = 's' ∨ b = 'S') then (true, rest) else (false, cs)
    | _ => (false, cs)
  let kept := body.filterMap fun c =>
    if c = ' ' ∨ c = '_' ∨ c = '-' then none
    else if 'A' ≤ c ∧ c ≤ 'Z' then some (Char.ofNat (c.toNat + 32))
    else if c.toNat ≤ 0x7F then some c
    else none
  if isPrefixed ∧ kept = ['c'] then "isc" else String.ofList kept

/-- The alias lists of a names table: each entry is a code followed by its names. -/
def aliasRows (table : String) : List (List String) :=
  ((table.splitOn " ").filter (fun w => !w.isEmpty)).map (·.splitOn ",")

/-- The code of the row of a names table one of whose names, compared loosely, is the
normalised `target`. -/
def codeOfName? (table : String) (target : String) : Option String :=
  (aliasRows table).findSome? fun row =>
    match row with
    | code :: _ => if row.any (fun n => looseName n == target) then some code else none
    | [] => none

/-- The canonical name of the property one of whose names matches the loosely compared `norm`:
the binary properties with tables first, then the others. -/
def propertyCanonical? (norm : String) : Option String :=
  let inRows := fun (rows : List (List String)) => rows.findSome? fun row =>
    if row.any (fun n => looseName n == norm) then row[1]? else none
  match inRows (binaryProperties.map fun (names, _) => names.splitOn ",") with
  | some p => some p
  | none => inRows propertyRows

/-- The set of a loosely compared general category name, including `Any`, `ASCII` and
`Assigned`. Surrogate code points are no characters, so their category `Cs` names no set. -/
def categoryByName? (norm : String) : Option CodeSet :=
  if norm == "any" then some CodeSet.full
  else if norm == "ascii" then some (CodeSet.range 0 0x7F)
  else if norm == "assigned" then some (categorySet "Cn").complement
  else (codeOfName? categoryNames norm).bind fun code =>
    if code == "Cs" then none else some (categorySet code)

/-- The code of a loosely compared script name. -/
def scriptCode? (norm : String) : Option String := codeOfName? scriptNames norm

/-- The code of a loosely compared script name, if the script has a table: `Unknown` (the script
of the unassigned code points) and `Katakana_Or_Hiragana` (which no character has) have none. -/
def listedScript? (norm : String) : Option String :=
  (scriptCode? norm).filter fun code => code != "Zzzz" && !(scriptSet code).isEmpty

/-- The set of a loosely compared script name. -/
def scriptByName (norm : String) : Except Error CodeSet :=
  match listedScript? norm with
  | some code => .ok (scriptSet code)
  | none => .error .unknownProperty

/-- The version of a loosely compared age value (`1.1` or `V1_1`); `Unassigned` is none. -/
def ageVersion? (norm : String) : Option String :=
  ageVersions.find? fun v =>
    looseName v == norm || looseName ("V" ++ String.ofList (v.toList.map fun c => if c = '.' then '_' else c)) == norm

/-- The set of a loosely compared class name of a segmentation. -/
def breakClass (s : Segmentation) (norm : String) : Except Error CodeSet :=
  match codeOfName? s.valueNames norm with
  | some code => (s.classSet? code).elim (.error .unknownProperty) .ok
  | none => .error .unknownProperty

/-- What a property escape names: a one-letter name, a name, or a property and its value. -/
inductive PropertyQuery where
  | name (text : String)
  | value (property value : String)

/-- The set a property escape names, before folding and negation.

A name is, in this order, a property (which must then be a binary one with a table; `cf`, `sc`
and `lc` are never read as properties, since they are also categories), a general category or
group, or a script. A property and value name the general category, the script, the script
extensions, the age (every character assigned in that version or before), or a class of the
grapheme, word or sentence segmentation; any other property is a fault. -/
def propertyClass : PropertyQuery → Except Error CodeSet
  | .name text =>
    let norm := looseName text
    let asProperty := if norm == "cf" || norm == "sc" || norm == "lc" then none else propertyCanonical? norm
    match asProperty with
    | some p => (binaryPropertySet? id p).elim (.error .unknownProperty) .ok
    | none =>
      match categoryByName? norm with
      | some s => .ok s
      | none => scriptByName norm
  | .value property value =>
    let v := looseName value
    match propertyCanonical? (looseName property) with
    | some "General_Category" => (categoryByName? v).elim (.error .unknownProperty) .ok
    | some "Script" => scriptByName v
    | some "Script_Extensions" =>
      match listedScript? v with
      | some code => .ok (scriptExtensionSet code)
      | none => .error .unknownProperty
    | some "Age" => (ageVersion? v).elim (.error .unknownProperty) fun version => .ok (ageSet version)
    | some "Grapheme_Cluster_Break" => breakClass .grapheme v
    | some "Word_Break" => breakClass .word v
    | some "Sentence_Break" => breakClass .sentence v
    | _ => .error .unknownProperty

end Pattern

end RecordQuery
