import IntegrationFlow.Splitter.Segment
import IntegrationFlow.Json.Reader

/-!
The byte decoders this library ships, the ones pieces are decoded with unless the services
give others (`Codecs.standard`): base64 in the standard alphabet, with the padding it
requires and no stray bits, and hexadecimal digits in pairs.
-/

namespace IntegrationFlow

namespace Splitter

def base64Digit? (c : Char) : Option Nat :=
  if 'A' ≤ c ∧ c ≤ 'Z' then some (c.toNat - 'A'.toNat)
  else if 'a' ≤ c ∧ c ≤ 'z' then some (c.toNat - 'a'.toNat + 26)
  else if '0' ≤ c ∧ c ≤ '9' then some (c.toNat - '0'.toNat + 52)
  else if c = '+' then some 62
  else if c = '/' then some 63
  else none

def base64Bytes : List Char → Option (List Nat)
  | [] => some []
  | [a, b, '=', '='] => do
    let x ← base64Digit? a
    let y ← base64Digit? b
    if y % 16 ≠ 0 then none else some [x * 4 + y / 16]
  | [a, b, c, '='] => do
    let x ← base64Digit? a
    let y ← base64Digit? b
    let z ← base64Digit? c
    if z % 4 ≠ 0 then none else some [x * 4 + y / 16, (y % 16) * 16 + z / 4]
  | a :: b :: c :: d :: rest => do
    let x ← base64Digit? a
    let y ← base64Digit? b
    let z ← base64Digit? c
    let w ← base64Digit? d
    let more ← base64Bytes rest
    some ([x * 4 + y / 16, (y % 16) * 16 + z / 4, (z % 4) * 64 + w] ++ more)
  | _ => none

def hexBytes : List Char → Option (List Nat)
  | [] => some []
  | a :: b :: rest => do
    let x ← Reader.hexDigit? a
    let y ← Reader.hexDigit? b
    let more ← hexBytes rest
    some ((x * 16 + y) :: more)
  | [_] => none

/-- The decoders this library ships. -/
def Codecs.standard : Codecs where
  base64 s := (base64Bytes s.toList).map (·.map Nat.toUInt8)
  hex s := (hexBytes s.toList).map (·.map Nat.toUInt8)

end Splitter

end IntegrationFlow
