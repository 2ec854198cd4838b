import IntegrationFlow.Json.Render
import IntegrationFlow.Decimal.Parse
import IntegrationFlow.Text.WhiteSpace

/-!
How the engine reads a document as text, as a number and as a kind of field, and how it
converts a value to a declared parameter type.
-/

namespace IntegrationFlow

namespace Json

def isBlank : Json → Bool
  | .null => true
  | .str s => Text.isBlankText s
  | _ => false

/-- The type name of a discovered field: strings and `null` are `string`, whole numbers
`int`, doubles `float`. -/
def kindName : Json → String
  | .null | .str _ => "string"
  | .bool _ => "bool"
  | .num (.int _) => "int"
  | .num (.float _) => "float"
  | .arr _ => "array"
  | .obj _ => "object"

/-- A number, or a string that reads as a double once its blanks are trimmed. -/
def lenientFloat? : Json → Option Float
  | .num n => some n.toFloat
  | .str s => Decimal.parseFloat? (Text.trim s)
  | _ => none

def isSigned64 : Json → Bool
  | .num (.int n) => n ≤ 9223372036854775807
  | _ => false

/-- A value as a whole number: a signed 64-bit number stays, other numbers are rounded toward
zero and clamped to the signed range, a string that reads as a signed 64-bit number once trimmed
becomes it, and anything else stays. -/
def coerceInt (v : Json) : Json :=
  match v with
  | .num (.int n) => if n ≤ 9223372036854775807 then v else .num (.int 9223372036854775807)
  | .num (.float f) => .num (.int (Decimal.truncSigned64 f))
  | .str s => match Decimal.parseInt64? (Text.trim s) with
    | some n => .num (.int n)
    | none => v
  | _ => v

/-- A value as a double: a number or a string read leniently, when the double is finite. -/
def coerceFloat (v : Json) : Json :=
  match v.lenientFloat? with
  | some f => if f.isNaN ∨ f.isInf then v else .num (.float f)
  | none => v

/-- A value as a truth value: `true`, `1`, `false` and `0` among trimmed strings, in any case,
and numbers compared with zero. -/
def coerceBool (v : Json) : Json :=
  match v with
  | .bool _ => v
  | .str s =>
    let t := (Text.trim s).toLower
    if t = "true" ∨ t = "1" then .bool true
    else if t = "false" ∨ t = "0" then .bool false
    else v
  | .num n => .bool (n.toFloat != 0)
  | _ => v

/-- Converts a value to a declared type, matched without regard to ASCII case: `int`,
`integer` and `entero` truncate numbers and read trimmed strings as whole numbers; `float`,
`double`, `decimal` and `number` read leniently; `bool` and `boolean` read `true`, `1`,
`false` and `0` and compare numbers with zero. What cannot be converted stays as it is. -/
def coerce (v : Json) (declared : String) : Json :=
  let d := declared.toLower
  if d = "int" ∨ d = "integer" ∨ d = "entero" then v.coerceInt
  else if d = "float" ∨ d = "double" ∨ d = "decimal" ∨ d = "number" then v.coerceFloat
  else if d = "bool" ∨ d = "boolean" then v.coerceBool
  else v

end Json

end IntegrationFlow
