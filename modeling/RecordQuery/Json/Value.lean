import RecordQuery.Number.Binary64

/-!
Contract: JSON values as the library reads, holds and writes them.

Owns:
- `Json`, with integers and binary64 floats kept apart (an integer literal that fits the signed or
  unsigned 64-bit range stays an integer, every other number is a float) and objects as key-sorted
  field lists;
- the object operations that keep that order: `insertField` (a key written again replaces its
  value in place), `getField?`;
- the numeric view `Json.toBinary64?` of a number.

Does not own: reading text (`Json.Reader`) or writing it (`Json.Writer`).
-/

namespace RecordQuery

/-- A JSON value. Integers lie in `[-2 ^ 63, 2 ^ 64)`; floats are finite; the fields of an object
are sorted by key, each key once. -/
inductive Json where
  | null
  | bool (b : Bool)
  | int (i : Int)
  | float (x : Binary64)
  | str (s : String)
  | arr (items : List Json)
  | obj (fields : List (String × Json))
  deriving Inhabited

namespace Json

/-- Insert a field into a key-sorted field list: a new key goes to its sorted place, a known key
keeps its place and takes the new value. -/
def insertField (key : String) (value : Json) : List (String × Json) → List (String × Json)
  | [] => [(key, value)]
  | (k, v) :: rest =>
    if key < k then (key, value) :: (k, v) :: rest
    else if key = k then (key, value) :: rest
    else (k, v) :: insertField key value rest

/-- The value of a key in a field list. -/
def getField? (key : String) : List (String × Json) → Option Json
  | [] => none
  | (k, v) :: rest => if k = key then some v else getField? key rest

/-- An object from fields in any order, later duplicates replacing earlier ones. -/
def objOf (fields : List (String × Json)) : Json :=
  .obj (fields.foldl (fun acc kv => insertField kv.1 kv.2 acc) [])

/-- The number a JSON number stands for, rounded to binary64 for integers beyond `2 ^ 53`. -/
def toBinary64? : Json → Option Binary64
  | .int i => some (Binary64.ofInt i)
  | .float x => some x
  | _ => none

/-- Arrays and objects. -/
def isComposite : Json → Bool
  | .arr _ => true
  | .obj _ => true
  | _ => false

/-- The integer range of a JSON integer: signed 64-bit below zero, unsigned 64-bit from zero. -/
def intFits (i : Int) : Bool := decide (-(Int.pow 2 63) ≤ i ∧ i < Int.pow 2 64)

/-- A number from an integer: the integer itself when it fits the integer range, else the nearest
float. -/
def ofInt (i : Int) : Json := if intFits i then .int i else .float (Binary64.ofInt i)

end Json

end RecordQuery

namespace RecordQuery

namespace Json

mutual

/-- The nesting depth of a value: scalars 0, a container one more than its deepest member. -/
def depth : Json → Nat
  | .arr items => depthItems items + 1
  | .obj fields => depthFields fields + 1
  | _ => 0

/-- The largest depth of array items. -/
def depthItems : List Json → Nat
  | [] => 0
  | item :: rest => max item.depth (depthItems rest)

/-- The largest depth of field values. -/
def depthFields : List (String × Json) → Nat
  | [] => 0
  | (_, v) :: rest => max v.depth (depthFields rest)

end

end Json

end RecordQuery
