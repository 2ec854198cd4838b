import IntegrationFlow.Json.Render

/-!
The values a condition computes with, and documents mapped onto them and back (`null` is unit,
integers beyond the signed range become doubles). Doubles have three textual forms: `display`
when a value becomes text, `debug` inside arrays and maps, and the bare exponent form
`lowerExp`.
-/

namespace IntegrationFlow.Expr

open Decimal

/-- A value of a condition. -/
inductive Value where
  | unit
  | bool (b : Bool)
  | int (n : Int)
  | float (f : Float)
  | char (c : Char)
  | str (s : String)
  | array (items : List Value)
  | map (entries : List (String × Value))
  | range (lo hi : Int) (inclusive : Bool)
  /-- A function by name; an anonymous function also keeps the variables it captured. -/
  | fnPtr (name : String) (captured : List (String × Value))
  deriving Inhabited

namespace Value

def minInt : Int := -(Int.pow 2 63)

def maxInt : Int := Int.pow 2 63 - 1

def fits (n : Int) : Bool := minInt ≤ n && n ≤ maxInt

def typeName : Value → String
  | .unit => "()"
  | .bool _ => "bool"
  | .int _ => "i64"
  | .float _ => "f64"
  | .char _ => "char"
  | .str _ => "string"
  | .array _ => "array"
  | .map _ => "map"
  | .range _ _ false => "range"
  | .range _ _ true => "range="
  | .fnPtr .. => "Fn"

/-- The full name of the type of a value, as a result of the wrong type reports it: ranges
are named by their full path, other types by their short name. -/
def fullTypeName : Value → String
  | .range _ _ false => "core::ops::range::Range<i64>"
  | .range _ _ true => "core::ops::range::RangeInclusive<i64>"
  | v => v.typeName

/-- The type of a value as a call signature shows it: strings name all their forms. -/
def signatureName : Value → String
  | .str _ => "&str | ImmutableString | String"
  | v => v.typeName

end Value

def floatDigits (x : Float) : Option (Bool × Scientific) :=
  match binary64.decode x.toBits.toNat with
  | .finite neg m e lc => some (neg, shortest m e lc)
  | _ => none

/-- Positional form of digits: whole values get no fractional part. -/
def positionalDigits (s : Scientific) : String :=
  let ds := (toString s.digits).toList
  let lead := s.exp + ds.length - 1
  if s.exp ≥ 0 then String.ofList ds ++ "".pushn '0' s.exp.toNat
  else if lead ≥ 0 then String.ofList (ds.take (lead.toNat + 1) ++ '.' :: ds.drop (lead.toNat + 1))
  else "0." ++ "".pushn '0' (lead.natAbs - 1) ++ String.ofList ds

/-- Exponent form of digits: `d.ddd` then `e` and the exponent, which has a sign only when
negative. -/
def exponentDigits (s : Scientific) : String :=
  let ds := (toString s.digits).toList
  let lead := s.exp + ds.length - 1
  let mant := match ds with
    | d :: r@(_ :: _) => String.ofList (d :: '.' :: r)
    | _ => String.ofList ds
  mant ++ "e" ++ toString lead

def nonFinite (x : Float) : String :=
  if x.isNaN then "NaN" else if x > 0 then "inf" else "-inf"

def lowerExp (x : Float) : String :=
  match floatDigits x with
  | some (neg, s) => (if neg then "-" else "") ++ exponentDigits s
  | none => if x == 0 then (if x.toBits ≥ 0x8000000000000000 then "-0e0" else "0e0") else nonFinite x

def positionalPoint (x : Float) : String :=
  match floatDigits x with
  | some (neg, s) => (if neg then "-" else "") ++ positionalDigits s ++ (if s.exp ≥ 0 then ".0" else "")
  | none => if x == 0 then (if x.toBits ≥ 0x8000000000000000 then "-0.0" else "0.0") else nonFinite x

/-- Largest magnitude shown positionally by `display`, a single-precision `1e13`. -/
def displayMax : Float := Float.ofBits 0x42a2309ce0000000

/-- Smallest magnitude shown positionally by `display`, a single-precision `1e-13`. -/
def displayMin : Float := Float.ofBits 0x3d3c25c260000000

/-- A double as text: zero is `0.0`, magnitudes outside `[displayMin, displayMax]` use the
exponent form, others the positional form with `.0` on whole values. -/
def floatDisplay (x : Float) : String :=
  let a := x.abs
  if a == 0 then "0.0"
  else if a > displayMax || a < displayMin then lowerExp x
  else positionalPoint x

/-- A double inside arrays and maps: positional for magnitudes in `[1e-4, 1e16)` and for
zero, exponent form otherwise. -/
def floatDebug (x : Float) : String :=
  let a := x.abs
  if a == 0 || (1e-4 ≤ a && a < 1e16) then positionalPoint x
  else lowerExp x

def debugCharQuote (c : Char) : String :=
  if c = '\'' then "'\\''" else if c = '"' then "'\"'" else "'" ++ debugChar c ++ "'"

namespace Value

mutual
/-- A value as text: strings as they are, unit as nothing, arrays and maps with their
elements in the debugging form. -/
def display : Value → String
  | .unit => ""
  | .bool b => toString b
  | .int n => toString n
  | .float f => floatDisplay f
  | .char c => c.toString
  | .str s => s
  | .array items => "[" ++ ", ".intercalate (debugList items) ++ "]"
  | .map entries => "#\x7b" ++ ", ".intercalate (debugEntries entries) ++ "\x7d"
  | .range lo hi inc => toString lo ++ (if inc then "..=" else "..") ++ toString hi
  | .fnPtr n _ => "Fn(" ++ n ++ ")"

/-- A value in the debugging form: strings and characters quoted, unit as `()`. -/
def debug : Value → String
  | .unit => "()"
  | .float f => floatDebug f
  | .char c => debugCharQuote c
  | .str s => debugQuote s
  | .array items => "[" ++ ", ".intercalate (debugList items) ++ "]"
  | .map entries => "#\x7b" ++ ", ".intercalate (debugEntries entries) ++ "\x7d"
  | v => display v

def debugList : List Value → List String
  | [] => []
  | v :: vs => debug v :: debugList vs

def debugEntries : List (String × Value) → List String
  | [] => []
  | (k, v) :: es => (debugQuote k ++ ": " ++ debug v) :: debugEntries es
end

/-- A whole number of a document as a value: beyond the signed range it becomes a double. -/
def ofInt (n : Int) : Value :=
  if fits n then .int n else .float (n.toNat.toUInt64.toFloat)

mutual
def ofJson : Json → Value
  | .null => .unit
  | .bool b => .bool b
  | .num (.int n) => ofInt n
  | .num (.float f) => .float f
  | .str s => .str s
  | .arr items => .array (ofJsonList items)
  | .obj members => .map (ofJsonMembers members)

def ofJsonList : List Json → List Value
  | [] => []
  | j :: js => ofJson j :: ofJsonList js

def ofJsonMembers : List (String × Json) → List (String × Value)
  | [] => []
  | (k, j) :: ms => (k, ofJson j) :: ofJsonMembers ms
end

mutual
/-- A value as a document: characters become strings, doubles that are not finite become
`null`, ranges and function pointers their text. -/
def toJson : Value → Json
  | .unit => .null
  | .bool b => .bool b
  | .int n => Json.int n
  | .float f => if f.isNaN || f.isInf then .null else Json.float f
  | .char c => .str c.toString
  | .str s => .str s
  | .array items => .arr (toJsonList items)
  | .map entries => .obj (toJsonEntries entries)
  | v => .str v.display

def toJsonList : List Value → List Json
  | [] => []
  | v :: vs => toJson v :: toJsonList vs

def toJsonEntries : List (String × Value) → List (String × Json)
  | [] => []
  | (k, v) :: es => (k, toJson v) :: toJsonEntries es
end

mutual
/-- Whether two values are the same value of the same type; doubles compare by their bits. -/
def same : Value → Value → Bool
  | .unit, .unit => true
  | .bool a, .bool b => a == b
  | .int a, .int b => a == b
  | .float a, .float b => a.toBits == b.toBits
  | .char a, .char b => a == b
  | .str a, .str b => a == b
  | .array a, .array b => sameList a b
  | .map a, .map b => sameEntries a b
  | .range a b i, .range c d j => a == c && b == d && i == j
  | .fnPtr a _, .fnPtr b _ => a == b
  | _, _ => false

def sameList : List Value → List Value → Bool
  | [], [] => true
  | a :: as, b :: bs => same a b && sameList as bs
  | _, _ => false

def sameEntries : List (String × Value) → List (String × Value) → Bool
  | [], [] => true
  | (k, a) :: as, (l, b) :: bs => k == l && same a b && sameEntries as bs
  | _, _ => false
end

def asBool : Value → Except String Bool
  | .bool b => .ok b
  | v => .error v.typeName

end Value

end IntegrationFlow.Expr
