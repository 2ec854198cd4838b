import IntegrationFlow.Json.Reader
import IntegrationFlow.Json.Decode
import IntegrationFlow.Json.View
import IntegrationFlow.Flow.Error

/-!
Lookup tables. A table has a name, field declarations and a body that is either keyed (an
object of rows) or a list of rows that carry their key in a key column. A cell is found by
table, key and field.
-/

namespace IntegrationFlow

/-- A stored lookup table. -/
structure TableRecord where
  name : String
  /-- Field declarations; the first one's `nombre` names the key column. -/
  fields : Json := .null
  /-- The body, possibly as JSON text. -/
  data : Json := .null
  deriving Inhabited

/-- The two shapes of a table body. -/
inductive TableData where
  /-- key ↦ row object -/
  | keyed (rows : Members)
  /-- rows carrying their key in the key column -/
  | rows (items : List Json)

namespace TableRecord

/-- The key column of row-shaped tables: the first declared field's name if it is a
non-empty string, else `id`. -/
def keyField (t : TableRecord) : String :=
  match t.fields with
  | .arr (first :: _) =>
    match first.getKey? "nombre" with
    | some (.str s) => if s.isEmpty then "id" else s
    | _ => "id"
  | _ => "id"

/-- The body decoded: none when it holds no rows (blank text, `null`, `{}` or `[]`). -/
def rows (t : TableRecord) : Except StoreError (Option TableData) := do
  let body ← match t.data with
    | .str text =>
      if Text.isBlankText text then pure .null
      else match Json.parse text with
        | .ok j => pure j
        | .error e => throw (.invalid e.message)
    | other => pure other
  match body with
  | .null => pure none
  | .obj [] => pure none
  | .arr [] => pure none
  | .obj kvs => pure (some (.keyed kvs))
  | .arr xs => pure (some (.rows xs))
  | other => throw (.invalid ("table '" ++ t.name ++ "' data must be an object or array, got " ++ other.render))

/-- Decodes a stored table: `nombre` is required, `campos` and `datos` are any document. -/
def decode : Decoder TableRecord :=
  Decoder.record "struct TableRecord"
    [ { name := "nombre", hasDefault := false,
        store := fun t j => (fun s => { t with name := s }) <$> Decoder.string j },
      { name := "campos", store := fun t j => pure { t with fields := j } },
      { name := "datos", store := fun t j => pure { t with data := j } } ]
    { name := "" }

def toJson (t : TableRecord) : Json :=
  .obj [("campos", t.fields), ("datos", t.data), ("nombre", .str t.name)]

end TableRecord

abbrev Tables := List TableRecord

namespace Tables

def load (ts : Tables) (name : String) : Except StoreError TableRecord :=
  match ts.reverse.find? (·.name == name) with
  | some t => .ok t
  | none => .error (.notFound "table" name)

/-- One cell of a table. Table, key and field must not be blank; a keyed body is indexed by
the key, a row body is searched for the first row whose key column reads as the key and that
has the field. -/
def lookup (ts : Tables) (table key field : String) : Except ResolveError Json := do
  if Text.isBlankText table then throw (.invalidAssignment "table name must not be empty")
  if Text.isBlankText key then
    throw (.invalidAssignment ("lookup key for table '" ++ table ++ "' must not be empty"))
  if Text.isBlankText field then
    throw (.invalidAssignment ("field name for table '" ++ table ++ "' must not be empty"))
  let record ← match ts.load table with
    | .ok r => pure r
    | .error (.notFound ..) => throw (.tableNotFound table)
    | .error e => throw (.tableUnreadable table e.message)
  let data ← match record.rows with
    | .ok (some d) => pure d
    | .ok none => throw (.tableEmpty table)
    | .error e => throw (.tableUnreadable table e.message)
  let found : Option Json := match data with
    | .keyed rows =>
      match rows.lookup key with
      | some (.obj row) => row.lookup field
      | _ => none
    | .rows items =>
      let kf := record.keyField
      items.findSome? fun
        | .obj row =>
          match row.lookup kf with
          | some cand => if cand.plain == key then row.lookup field else none
          | none => none
        | _ => none
  match found with
  | some v => pure v
  | none => throw (.keyNotFound table key field)

end Tables

end IntegrationFlow
