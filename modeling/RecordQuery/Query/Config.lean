import RecordQuery.Json.Schema

/-!
Contract: the compiler's configuration: a parameter table and a field map.

Owns:
- `Query.FieldMap`: the predicate map (the key a filter field reads) and the projection map (the key
  an output field is copied from); a mapping to the empty string counts as no mapping;
- `Query.Config` with its builders (`withParams`, `withParam`, `withFieldMap`) and the field map
  builders (`symmetric`, `withPredicateKey`, `withProjectionKey`);
- `Query.Config.read`, reading a configuration from JSON as a record with the optional parts
  `params` (an object, or null for no table) and `field_map` (`predicate` and `projection`, each
  an object of strings), from an object or from a sequence in that order.
-/

set_option autoImplicit false

namespace RecordQuery

namespace Query

/-- A string-to-string table where a key written again replaces its value. -/
abbrev KeyTable := List (String × String)

/-- The table with `key` mapped to `value`. -/
def KeyTable.insert (t : KeyTable) (key value : String) : KeyTable :=
  (key, value) :: t.filter (fun kv => kv.1 != key)

/-- The value of a key, unless it is missing or empty. -/
def KeyTable.lookup? (t : KeyTable) (key : String) : Option String :=
  match t.find? (fun kv => kv.1 == key) with
  | some (_, v) => if v.isEmpty then none else some v
  | none => none

/-- The renaming of fields: which key a filter field reads, which key an output field is copied
from. -/
structure FieldMap where
  predicate : KeyTable
  projection : KeyTable

namespace FieldMap

/-- The field map that renames nothing. -/
def empty : FieldMap := ⟨[], []⟩

/-- The same pairs as both the predicate and the projection map, a later pair replacing an
earlier one with the same key. -/
def symmetric (pairs : List (String × String)) : FieldMap :=
  let t := pairs.foldl (fun t kv => KeyTable.insert t kv.1 kv.2) []
  ⟨t, t⟩

/-- The map with one more predicate renaming. -/
def withPredicateKey (m : FieldMap) (field key : String) : FieldMap :=
  { m with predicate := KeyTable.insert m.predicate field key }

/-- The map with one more projection renaming. -/
def withProjectionKey (m : FieldMap) (output key : String) : FieldMap :=
  { m with projection := KeyTable.insert m.projection output key }

/-- The key a filter field reads: its mapping, or the field itself. -/
def predicateKey (m : FieldMap) (field : String) : String := (KeyTable.lookup? m.predicate field).getD field

/-- The key an output field is copied from, if it is mapped. -/
def projectionKey? (m : FieldMap) (output : String) : Option String := KeyTable.lookup? m.projection output

end FieldMap

/-- The parameter table: named operand values. -/
abbrev Params := List (String × Json)

/-- The compiler's configuration. -/
structure Config where
  params : Option Params
  fieldMap : FieldMap

namespace Config

/-- No parameter table and no renaming. -/
def default : Config := ⟨none, FieldMap.empty⟩

/-- The configuration with a parameter table. -/
def withParams (c : Config) (params : Params) : Config := { c with params := some params }

/-- The configuration with one more parameter, creating the table if there is none and replacing
a parameter of the same name. -/
def withParam (c : Config) (name : String) (value : Json) : Config :=
  { c with params := some (Json.insertField name value (c.params.getD [])) }

/-- The configuration with a field map. -/
def withFieldMap (c : Config) (m : FieldMap) : Config := { c with fieldMap := m }

open Json in
/-- A field map read from JSON. -/
def readFieldMap : Reads FieldMap
  | .obj fields =>
    fields.foldlM (fun (m : FieldMap) (kv : String × Json) =>
      if kv.1 == "predicate" then (readStringMap kv.2).map fun t => { m with predicate := t }
      else if kv.1 == "projection" then (readStringMap kv.2).map fun t => { m with projection := t }
      else .ok m) FieldMap.empty
  | .arr items => do
    let predicate ← defaultedElement items 0 [] readStringMap
    let projection ← defaultedElement items 1 [] readStringMap
    checkNoneLeft items.length 2
    pure ⟨predicate, projection⟩
  | v => .error (.invalidType v "struct FieldMap")

open Json in
/-- A parameter table, or null for none. -/
def readParams : Reads (Option Params)
  | .null => .ok none
  | v => (readMap v).map some

open Json in
/-- A configuration read from JSON. -/
def read : Reads Config
  | .obj fields =>
    fields.foldlM (fun (c : Config) (kv : String × Json) =>
      if kv.1 == "field_map" then (readFieldMap kv.2).map fun m => { c with fieldMap := m }
      else if kv.1 == "params" then (readParams kv.2).map fun p => { c with params := p }
      else .ok c) Config.default
  | .arr items => do
    let params ← defaultedElement items 0 none readParams
    let fieldMap ← defaultedElement items 1 FieldMap.empty readFieldMap
    checkNoneLeft items.length 2
    pure ⟨params, fieldMap⟩
  | v => .error (.invalidType v "struct CompilerConfig")

end Config

end Query

end RecordQuery
