import IntegrationFlow.Json.Basic
import IntegrationFlow.Decimal.Shortest

/-!
The compact text of a document: no blanks, members in key order, whole numbers plainly and
doubles in their shortest form.
-/

namespace IntegrationFlow

open Decimal

/-- Layout of a decimal: positional while the exponent of the leading digit lies in
`[-5, 16)`, where a whole value keeps `.0`; otherwise `d.ddd` then `e`, a sign and the
exponent. -/
def Decimal.Scientific.layout (s : Scientific) : String :=
  let ds := (toString s.digits).toList
  let len : Int := ds.length
  let lead := s.exp + len - 1
  if lead < -5 ∨ lead ≥ 16 then
    let mant := if ds.length > 1 then String.ofList (ds.take 1 ++ '.' :: ds.drop 1) else String.ofList ds
    mant ++ "e" ++ (if lead < 0 then "-" else "+") ++ toString lead.natAbs
  else if s.exp ≥ 0 then String.ofList ds ++ "".pushn '0' s.exp.toNat ++ ".0"
  else if lead ≥ 0 then String.ofList (ds.take (lead.toNat + 1) ++ '.' :: ds.drop (lead.toNat + 1))
  else "0." ++ "".pushn '0' (lead.natAbs - 1) ++ String.ofList ds

/-- The text of a finite value of a binary format; none for infinities and NaN. -/
def renderBinary (f : BinaryFormat) (bits : Nat) : Option String :=
  match f.decode bits with
  | .zero neg => some (if neg then "-0.0" else "0.0")
  | .finite neg m e lc => some ((if neg then "-" else "") ++ (shortest m e lc).layout)
  | _ => none

def renderFloat? (x : Float) : Option String := renderBinary binary64 x.toBits.toNat

def renderFloat32? (x : Float32) : Option String := renderBinary binary32 x.toBits.toNat

/-- The text of a double as the engine writes it into strings: `NaN`, `inf` and `-inf` for the
values that have no decimal. -/
def renderFloat (x : Float) : String :=
  (renderFloat? x).getD (if x.isNaN then "NaN" else if x > 0 then "inf" else "-inf")

def Number.render : Number → String
  | .int n => toString n
  | .float f => renderFloat f

def hex4 (n : Nat) : String :=
  let d := Nat.toDigits 16 n
  "".pushn '0' (4 - d.length) ++ String.ofList d

/-- A character inside a quoted string: the quote, the backslash and control characters are
escaped; with `lineSafe`, so are the three line separators beyond ASCII. -/
def escapeChar (lineSafe : Bool) (c : Char) : String :=
  if c = '"' then "\\\""
  else if c = '\\' then "\\\\"
  else if c = '\n' then "\\n"
  else if c = '\r' then "\\r"
  else if c = '\t' then "\\t"
  else if c.toNat = 8 then "\\b"
  else if c.toNat = 12 then "\\f"
  else if c.toNat < 0x20 then "\\u" ++ hex4 c.toNat
  else if lineSafe ∧ (c.toNat = 0x2028 ∨ c.toNat = 0x2029 ∨ c.toNat = 0x85) then
    "\\u" ++ hex4 c.toNat
  else c.toString

def quote (lineSafe : Bool) (s : String) : String :=
  s.toList.foldl (fun acc c => acc ++ escapeChar lineSafe c) "\"" ++ "\""

namespace Json

mutual
def renderWith (lineSafe : Bool) : Json → String
  | .null => "null"
  | .bool b => if b then "true" else "false"
  | .num n => match n with
    | .int i => toString i
    | .float f => (renderFloat? f).getD "null"
  | .str s => quote lineSafe s
  | .arr xs => "[" ++ renderItems lineSafe xs ++ "]"
  | .obj kvs => "\x7b" ++ renderMembers lineSafe kvs ++ "\x7d"

def renderItems (lineSafe : Bool) : List Json → String
  | [] => ""
  | [x] => renderWith lineSafe x
  | x :: xs => renderWith lineSafe x ++ "," ++ renderItems lineSafe xs

def renderMembers (lineSafe : Bool) : List (String × Json) → String
  | [] => ""
  | [(k, v)] => quote lineSafe k ++ ":" ++ renderWith lineSafe v
  | (k, v) :: kvs => quote lineSafe k ++ ":" ++ renderWith lineSafe v ++ "," ++ renderMembers lineSafe kvs
end

def render (j : Json) : String := renderWith false j

/-- The text of a value as the engine shows it: strings as they are, `null` as nothing,
and everything else as its compact text. -/
def plain : Json → String
  | .null => ""
  | .str s => s
  | j => j.render

end Json

def debugChar (c : Char) : String :=
  if c = '"' then "\\\""
  else if c = '\\' then "\\\\"
  else if c = '\n' then "\\n"
  else if c = '\r' then "\\r"
  else if c = '\t' then "\\t"
  else if c.toNat = 0 then "\\0"
  else if c.toNat < 0x20 ∨ (0x7f ≤ c.toNat ∧ c.toNat < 0xa0) ∨ c.toNat = 0xad ∨
      (0x200b ≤ c.toNat ∧ c.toNat ≤ 0x200f) ∨ c.toNat = 0x2028 ∨ c.toNat = 0x2029 ∨
      c.toNat = 0xfeff then
    "\\u\x7b" ++ String.ofList (Nat.toDigits 16 c.toNat) ++ "\x7d"
  else c.toString

def debugQuote (s : String) : String := s.foldl (fun acc c => acc ++ debugChar c) "\"" ++ "\""

end IntegrationFlow
