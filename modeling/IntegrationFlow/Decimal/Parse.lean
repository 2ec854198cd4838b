import IntegrationFlow.Decimal.Shortest

/-!
Reading numbers from text, the strict way: no blanks, no digit separators, no radix
prefixes. A decimal reads to the nearest double.
-/

namespace IntegrationFlow.Decimal

def spanDigits (cs : List Char) : List Char × List Char :=
  (cs.takeWhile Char.isDigit, cs.dropWhile Char.isDigit)

def digitsValue (ds : List Char) : Nat :=
  ds.foldl (fun n c => 10 * n + (c.toNat - '0'.toNat)) 0

/-- A sign in front, if any: whether the number is negative, and the rest. -/
def splitSign : List Char → Bool × List Char
  | '+' :: cs => (false, cs)
  | '-' :: cs => (true, cs)
  | cs => (false, cs)

/-- An exponent after `e` or `E`: an optional sign and at least one digit, nothing after. -/
def exponentPart? (cs : List Char) : Option Int :=
  let (neg, cs) := splitSign cs
  let (ds, rest) := spanDigits cs
  if ds.isEmpty ∨ ¬rest.isEmpty then none
  else some (if neg then -(digitsValue ds : Int) else digitsValue ds)

/-- A decimal without sign: digits, an optional point and fraction, an optional exponent,
with at least one digit before or after the point. -/
def unsignedDecimal? (cs : List Char) : Option Scientific :=
  let (whole, rest) := spanDigits cs
  let (frac, rest) := match rest with
    | '.' :: r => spanDigits r
    | r => ([], r)
  if whole.isEmpty ∧ frac.isEmpty then none
  else
    let exp? : Option Int := match rest with
      | [] => some 0
      | c :: r => if c = 'e' ∨ c = 'E' then exponentPart? r else none
    exp?.map fun e => ⟨digitsValue (whole ++ frac), e - frac.length⟩

/-- Reads a double: an optional sign, then `inf`, `infinity` or `nan` in any case, or a
decimal. -/
def parseFloat? (s : String) : Option Float :=
  let (neg, cs) := splitSign s.toList
  let word := String.ofList (cs.map Char.toLower)
  if word = "inf" ∨ word = "infinity" then some (if neg then -(1.0 / 0.0) else 1.0 / 0.0)
  else if word = "nan" then some (0.0 / 0.0)
  else (unsignedDecimal? cs).map (·.toFloat neg)

/-- Reads a signed 64-bit whole number: an optional sign and at least one digit. -/
def parseInt64? (s : String) : Option Int :=
  let (neg, cs) := splitSign s.toList
  if cs.isEmpty ∨ ¬cs.all Char.isDigit then none
  else
    let n : Int := if neg then -(digitsValue cs : Int) else digitsValue cs
    if -9223372036854775808 ≤ n ∧ n ≤ 9223372036854775807 then some n else none

/-- Reads an unsigned whole number of at most `bits` bits: an optional plus and digits. -/
def parseUnsigned? (bits : Nat) (s : String) : Option Nat :=
  let cs := match s.toList with
    | '+' :: r => r
    | r => r
  if cs.isEmpty ∨ ¬cs.all Char.isDigit then none
  else
    let n := digitsValue cs
    if n < Nat.pow 2 bits then some n else none

end IntegrationFlow.Decimal
