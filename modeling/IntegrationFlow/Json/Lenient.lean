import IntegrationFlow.Json.Decode
import IntegrationFlow.Json.View

/-!
Lenient members of stored configurations: counts and lengths may be numbers or numeric
strings, identifiers may be numbers or strings, and anything that does not read is absent.
These decoders never fail.
-/

namespace IntegrationFlow

namespace Decoder

/-- A number, or a string that reads as a double after trimming; anything else is absent. -/
def lenientFloat : Decoder (Option Float) := fun j => .ok j.lenientFloat?

/-- A double converted to a whole number, rounding toward zero and clamping to the range. -/
def truncClamp (lo hi : Int) (f : Float) : Int :=
  if f.isNaN then 0
  else if f ≥ Float.ofInt hi then hi
  else if f ≤ Float.ofInt lo then lo
  else
    let t := if f < 0 then -((-f).toUInt64.toNat : Int) else (f.toUInt64.toNat : Int)
    max lo (min hi t)

/-- A non-negative count: negative values are absent, others truncated and clamped to 64
unsigned bits. -/
def lenientCount : Decoder (Option Nat) := fun j =>
  .ok ((j.lenientFloat?).bind fun f =>
    if f ≥ 0 then some (truncClamp 0 18446744073709551615 f).toNat else none)

/-- A signed whole number, truncated and clamped to 64 signed bits. -/
def lenientSigned : Decoder (Option Int) := fun j =>
  .ok ((j.lenientFloat?).map (truncClamp (-9223372036854775808) 9223372036854775807))

/-- An identifier written as a string or a number; anything else is empty. -/
def lenientText : Decoder String
  | .str s => .ok s
  | .num n => .ok n.render
  | _ => .ok ""

def optString : Decoder (Option String) := optional string

def textOrEmpty : Decoder String := orDefault "" string

end Decoder

def Json.ofOptString : Option String → Json
  | some s => .str s
  | none => .null

def Json.ofOptNat : Option Nat → Json
  | some n => .num (.int n)
  | none => .null

end IntegrationFlow
