import RecordQuery.Json.Value

/-!
Contract: reading a field of a record, by own key or by dotted path.

Owns:
- `Exec.arrayIndex?`: a key names an array position when it is decimal digits after at most one
  `+`, below `2 ^ 64`, without a leading zero unless it is exactly `0`;
- `Exec.ownProperty?`: an object's value at a key, an array's item at an index, nothing for
  scalars;
- `Exec.pathSegments`: the pieces of a path between its dots;
- `Exec.resolve?`: a key without a dot is an own property; otherwise the path is split at its
  last dot, the parent segments are walked with a missing segment reading as null, and the last
  segment's value is taken, or the container itself when it has none.
-/

set_option autoImplicit false

namespace RecordQuery

namespace Exec

/-- The array position a key names, if any. -/
def arrayIndex? (key : String) : Option Nat :=
  let cs := key.toList
  if 1 < cs.length && cs.head? == some '0' then none
  else
    let digits := match cs with
      | '+' :: r => r
      | _ => cs
    if !digits.isEmpty && digits.all Char.isDigit then
      let n := digits.foldl (fun acc d => acc * 10 + (d.toNat - 48)) 0
      if n < Nat.pow 2 64 then some n else none
    else none

/-- The value of a record's own key: an object field, or an array item by position. -/
def ownProperty? (record : Json) (key : String) : Option Json :=
  match record with
  | .obj fields => Json.getField? key fields
  | .arr items => (arrayIndex? key).bind fun i => items[i]?
  | _ => none

/-- Whether a record has an own key. -/
def hasOwnProperty (record : Json) (key : String) : Bool := (ownProperty? record key).isSome

/-- The dot-separated segments of a path, one more than it has dots. -/
def pathSegments (path : String) : List String :=
  (path.toList.splitOn '.').map String.ofList

/-- The value a dotted path reaches in a record. -/
def resolve? (record : Json) (path : String) : Option Json :=
  match (pathSegments path).reverse with
  | last :: parentsRev@(_ :: _) =>
    let container := parentsRev.reverse.foldl
      (fun current segment => (ownProperty? current segment).getD .null) record
    some ((ownProperty? container last).getD container)
  | _ => ownProperty? record path

end Exec

end RecordQuery
