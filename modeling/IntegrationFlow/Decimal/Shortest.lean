/-!
Decimal digits of binary floating-point values. A finite value `m · 2^e` is written with the
fewest significant digits that read back to it, and of those the nearest one; reading a
decimal gives the nearest binary value, ties going to the even significand; its whole part is
cut toward zero. All arithmetic is exact, on natural numbers.
-/

namespace IntegrationFlow.Decimal

/-- A binary interchange format: bits of the stored significand and of the exponent. -/
structure BinaryFormat where
  fracBits : Nat
  expBits : Nat

def binary64 : BinaryFormat := ⟨52, 11⟩

def binary32 : BinaryFormat := ⟨23, 8⟩

def BinaryFormat.bias (f : BinaryFormat) : Nat := Nat.pow 2 (f.expBits - 1) - 1

def BinaryFormat.minExp (f : BinaryFormat) : Int := 1 - (f.bias : Int) - f.fracBits

/-- A value of a binary format, taken apart. -/
inductive Binary where
  | zero (neg : Bool)
  /-- `m · 2^e`; `lowerCloser` when the next smaller value is half as far as the next larger. -/
  | finite (neg : Bool) (m : Nat) (e : Int) (lowerCloser : Bool)
  | infinite (neg : Bool)
  | nan

def BinaryFormat.decode (f : BinaryFormat) (bits : Nat) : Binary :=
  let frac := bits % Nat.pow 2 f.fracBits
  let be := bits / Nat.pow 2 f.fracBits % Nat.pow 2 f.expBits
  let neg := bits / Nat.pow 2 (f.fracBits + f.expBits) % 2 == 1
  if be = Nat.pow 2 f.expBits - 1 then (if frac = 0 then .infinite neg else .nan)
  else if be = 0 then (if frac = 0 then .zero neg else .finite neg frac f.minExp false)
  else .finite neg (frac + Nat.pow 2 f.fracBits) (be + f.minExp - 1) (frac == 0 && be > 1)

/-- The whole part of a value, rounded toward zero; none for infinities and NaN. -/
def Binary.whole? : Binary → Option Int
  | .zero _ => some 0
  | .finite neg m e _ =>
    let w : Int := if 0 ≤ e then (m * Nat.pow 2 e.toNat : Nat) else (m / Nat.pow 2 (-e).toNat : Nat)
    some (if neg then -w else w)
  | .infinite _ | .nan => none

/-- A double as a signed 64-bit whole number, as a cast makes it: rounded toward zero and
clamped to the range, infinities to its ends and NaN to zero. -/
def truncSigned64 (f : Float) : Int :=
  match binary64.decode f.toBits.toNat with
  | .infinite neg => if neg then -9223372036854775808 else 9223372036854775807
  | b => max (-9223372036854775808) (min 9223372036854775807 (b.whole?.getD 0))

/-- A decimal `digits · 10^exp`. -/
structure Scientific where
  digits : Nat
  exp : Int
  deriving Inhabited

def scaledCmp (c : Nat) (j : Int) (x : Nat) (k : Int) : Ordering :=
  compare (c * Nat.pow 10 j.toNat * Nat.pow 2 (-k).toNat) (x * Nat.pow 2 k.toNat * Nat.pow 10 (-j).toNat)

/-- The exponent `E` with `10^E ≤ m · 2^e < 10^(E+1)`, for `m > 0`. -/
def leadingExp (m : Nat) (e : Int) : Int :=
  let est : Int := ((m.log2 : Int) + e) * 30103 / 100000
  let up (E : Int) : Int := if scaledCmp 1 (E + 1) m e != .gt then E + 1 else E
  let down (E : Int) : Int := if scaledCmp 1 E m e == .gt then E - 1 else E
  down (down (up (up est)))

def stripZeros : Nat → Nat → Int → Scientific
  | 0, c, j => ⟨c, j⟩
  | fuel + 1, c, j => if c ≠ 0 ∧ c % 10 = 0 then stripZeros fuel (c / 10) (j + 1) else ⟨c, j⟩

/-- The fewest significant digits that lie strictly inside the rounding interval of
`m · 2^e` (its ends too when `m` is even), the nearer candidate of two. -/
def shortest (m : Nat) (e : Int) (lowerCloser : Bool) : Scientific :=
  let inclusive := m % 2 == 0
  let k := e - 2
  let hi := 4 * m + 2
  let lo := if lowerCloser then 4 * m - 1 else 4 * m - 2
  let inside (c : Nat) (j : Int) : Bool :=
    let a := scaledCmp c j lo k
    let b := scaledCmp c j hi k
    (a == .gt || (inclusive && a == .eq)) && (b == .lt || (inclusive && b == .eq))
  let top := leadingExp m e
  let floorAt (j : Int) : Nat := m * Nat.pow 2 e.toNat * Nat.pow 10 (-j).toNat / (Nat.pow 2 (-e).toNat * Nat.pow 10 j.toNat)
  let pick (n : Nat) : Option (Nat × Int) :=
    let j := top - n + 1
    let q := floorAt j
    match inside q j, inside (q + 1) j with
    | true, true =>
      match scaledCmp (2 * q + 1) j m (e + 1) with
      | .lt => some (q + 1, j)
      | .gt => some (q, j)
      | .eq => some (if q % 2 == 0 then q else q + 1, j)
    | true, false => some (q, j)
    | false, true => some (q + 1, j)
    | false, false => none
  let (c, j) := ((List.range 20).map (· + 1)).findSome? pick |>.getD (floorAt (top - 19), top - 19)
  stripZeros 400 c j

def log2Ratio (num den : Nat) : Int :=
  let est : Int := (num.log2 : Int) - den.log2
  if scaledCmp num 0 den est == .lt then est - 1 else est

/-- The bits of the value of the format nearest to `num / den` (positive sign), ties to the
even significand; too large a value gives infinity. -/
def nearestBits (f : BinaryFormat) (num den : Nat) : Nat :=
  if num = 0 ∨ den = 0 then 0 else
  let e := max (log2Ratio num den - f.fracBits) f.minExp
  let numer := num * Nat.pow 2 (-e).toNat
  let denom := den * Nat.pow 2 e.toNat
  let q := numer / denom
  let r := numer % denom
  let q := if 2 * r > denom ∨ (2 * r = denom ∧ q % 2 = 1) then q + 1 else q
  let (q, e) := if q = Nat.pow 2 (f.fracBits + 1) then (q / 2, e + 1) else (q, e)
  let infBits := (Nat.pow 2 f.expBits - 1) * Nat.pow 2 f.fracBits
  if q < Nat.pow 2 f.fracBits then q
  else
    let be := e - f.minExp + 1
    if be ≥ (Nat.pow 2 f.expBits - 1 : Nat) then infBits
    else be.toNat * Nat.pow 2 f.fracBits + (q - Nat.pow 2 f.fracBits)

def nearestFloat (neg : Bool) (num den : Nat) : Float :=
  let bits := nearestBits binary64 num den
  Float.ofBits (if neg then bits + Nat.pow 2 63 else bits).toUInt64

/-- The double nearest to `digits · 10^exp`. Far outside the range of doubles the answer is
zero or infinity without computing the power. -/
def Scientific.toFloat (neg : Bool) (s : Scientific) : Float :=
  let size : Int := (toString s.digits).length
  if s.digits = 0 then nearestFloat neg 0 1
  else if s.exp + size > 310 then (if neg then -1.0 else 1.0) / 0.0
  else if s.exp + size < -330 then (if neg then -0.0 else 0.0)
  else nearestFloat neg (s.digits * Nat.pow 10 s.exp.toNat) (Nat.pow 10 (-s.exp).toNat)

end IntegrationFlow.Decimal
