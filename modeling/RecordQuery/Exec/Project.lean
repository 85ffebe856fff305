import RecordQuery.Exec.Path
import RecordQuery.Query.Config
import RecordQuery.Query.Syntax

/-!
Contract: the row a surviving record becomes.

Owns:
- `Exec.copyBranch`: a dotted name copies the branch it names, segment by segment through own
  keys; an output object is created (or reused) for every leading segment the record has, and the
  walk stops at the first segment the record lacks or where the output already holds a
  non-object; an alias is ignored;
- `Exec.project`: a wildcard plan (no fields, or `*` first) keeps the record as it is; otherwise
  the row is an object built field by field: a plain field is written under its alias (or its
  name), read from the field map's projection key for that output name (or from the name),
  and left out when the record lacks it.

Later fields overwrite earlier ones of the same output key.
-/

set_option autoImplicit false

namespace RecordQuery

namespace Exec

open Query

/-- The output fields after copying the branch `segments`, then `last`, of `source` into them. -/
def copyInto (source : Json) (last : String) :
    List String → List (String × Json) → List (String × Json)
  | [], slot =>
    match ownProperty? source last with
    | some v => Json.insertField last v slot
    | none => slot
  | segment :: rest, slot =>
    match ownProperty? source segment with
    | none => slot
    | some next =>
      match Json.getField? segment slot with
      | none => Json.insertField segment (.obj (copyInto next last rest [])) slot
      | some (.obj inner) => Json.insertField segment (.obj (copyInto next last rest inner)) slot
      | some _ => slot

/-- The output fields after copying the branch a dotted path names. -/
def copyBranch (record : Json) (path : String) (output : List (String × Json)) :
    List (String × Json) :=
  let segments := pathSegments path
  copyInto record (segments.getLastD "") segments.dropLast output

/-- The output fields after one selected field. -/
def projectField (fieldMap : FieldMap) (record : Json) (output : List (String × Json))
    (field : SelectField) : List (String × Json) :=
  if field.isNested then copyBranch record field.name output
  else
    let key := field.asName.getD field.name
    let source := (fieldMap.projectionKey? key).getD field.name
    match ownProperty? record source with
    | some v => Json.insertField key v output
    | none => output

/-- Whether a field list keeps records whole. -/
def keepsWhole (fields : List SelectField) : Bool :=
  match fields with
  | [] => true
  | f :: _ => f.isWildcard

/-- The row of a record under a field list and field map. -/
def project (fields : List SelectField) (fieldMap : FieldMap) (record : Json) : Json :=
  if keepsWhole fields then record
  else .obj (fields.foldl (projectField fieldMap record) [])

end Exec

end RecordQuery
