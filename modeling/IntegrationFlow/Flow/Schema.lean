import IntegrationFlow.Json.Reader
import IntegrationFlow.Json.Lenient
import IntegrationFlow.Text.Case

/-!
Declared parameters of nodes, and the schema of a response: the fields an object answer
has (one per key, typed by the kind of its value), or for an array answer one array field
whose subfields are the keys of its first element; and the values of declared fields
copied out of an answer.
-/

namespace IntegrationFlow

/-- A declared parameter: a name, a type name and, for arrays, the fields of an element. -/
structure FieldDef where
  name : String
  kind : String := ""
  subfields : List FieldDef := []
  deriving Inhabited

namespace FieldDef

def decodeWithin : Nat → Decoder FieldDef
  | 0 => fun _ => .error ⟨.invalidText .recursionLimit, none⟩
  | depth + 1 =>
    Decoder.record "struct FieldDef"
      [ { name := "nombre", hasDefault := false,
          store := fun f j => (fun v => { f with name := v }) <$> Decoder.string j },
        { name := "tipo", store := fun f j => (fun v => { f with kind := v }) <$> Decoder.textOrEmpty j },
        { name := "subcampos",
          store := fun f j => (fun v => { f with subfields := v }) <$>
            Decoder.orDefault [] (Decoder.list (decodeWithin depth)) j } ]
      { name := "" }

def decode : Decoder FieldDef := decodeWithin Reader.maxDepth

def decodeList : Decoder (List FieldDef) := Decoder.orDefault [] (Decoder.list decode)

mutual
/-- The parameter as a document; subfields only when there are some. -/
def toJson : FieldDef → Json
  | ⟨n, k, subs⟩ =>
    if subs.isEmpty then .obj [("nombre", .str n), ("tipo", .str k)]
    else .obj [("nombre", .str n), ("subcampos", .arr (listToJson subs)), ("tipo", .str k)]

def listToJson : List FieldDef → List Json
  | [] => []
  | f :: fs => toJson f :: listToJson fs
end

end FieldDef

namespace Schema

/-- The answer below a parent tag, when one is set (trimmed, not blank). -/
def descend (v : Json) (parentTag : Option String) : Option Json :=
  match parentTag.map Text.trim with
  | some tag => if tag.isEmpty then some v else v.getKey? tag
  | none => some v

def describe (m : Members) : List FieldDef := m.map fun (k, v) => { name := k, kind := v.kindName }

/-- The fields of a raw answer of the given type (blank means JSON). -/
def discover (raw : String) (responseType parentTag : Option String) : Except String (List FieldDef) := do
  let rt := Text.toLower (match responseType with
    | some t => if Text.isBlankText t then "json" else t
    | none => "json")
  if rt != "json" then throw ("unsupported response type '" ++ rt ++ "'")
  let parsed ← match Json.parse raw with
    | .ok j => pure j
    | .error e => throw ("response is not valid JSON: " ++ e.message)
  let some root := descend parsed parentTag
    | throw ("tag '" ++ parentTag.getD "" ++ "' not found in response")
  match root with
  | .obj m => pure (describe m)
  | .arr items =>
    match items with
    | [] => throw "response array is empty"
    | .obj first :: _ => pure [{ name := "campoMultiple", kind := "array", subfields := describe first }]
    | _ :: _ => throw "response array elements are not objects"
  | other => throw ("cannot derive fields from a " ++ other.kindName ++ " response")

/-- The declared fields found in an answer: an object gives the members named by fields,
an array goes whole to every field typed exactly `array`. -/
def extract (parsed : Json) (fields : List FieldDef) (parentTag : Option String) : Members :=
  match descend parsed parentTag with
  | some (.obj m) => fields.foldl (fun acc f =>
      match Members.get? m f.name with
      | some v => Members.insert acc f.name v
      | none => acc) []
  | some (.arr items) => fields.foldl (fun acc f =>
      if f.kind == "array" then Members.insert acc f.name (.arr items) else acc) []
  | _ => []

end Schema

end IntegrationFlow
