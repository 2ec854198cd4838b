import IntegrationFlow.Decimal.Parse
import IntegrationFlow.Text.WhiteSpace

/-!
Durations: whole seconds and nanoseconds. A number of seconds converts to the nearest
nanosecond, ties to the even one; negative, infinite and NaN amounts and amounts of 2^64
seconds or more have no duration. Texts such as `1h2m3s4ms` add up their parts.
-/

namespace IntegrationFlow

/-- A span of time. -/
structure Duration where
  secs : Nat
  nanos : Nat
  deriving BEq, Repr

namespace Duration

def maxSecs : Nat := 18446744073709551615

def roundHalfEven (num den : Nat) : Nat :=
  let q := num / den
  let r := num % den
  if 2 * r > den ∨ (2 * r = den ∧ q % 2 = 1) then q + 1 else q

def ofSeconds? (x : Float) : Option Duration :=
  if x < 0 then none
  else
    match Decimal.binary64.decode x.toBits.toNat with
    | .zero _ => some ⟨0, 0⟩
    | .finite _ m e _ =>
      if m * Nat.pow 2 e.toNat ≥ Nat.pow 2 64 * Nat.pow 2 (-e).toNat then none
      else
        let ns := roundHalfEven (m * Nat.pow 2 e.toNat * 1000000000) (Nat.pow 2 (-e).toNat)
        some ⟨ns / 1000000000, ns % 1000000000⟩
    | _ => none

def add? (a b : Duration) : Option Duration :=
  let n := a.nanos + b.nanos
  let s := a.secs + b.secs + n / 1000000000
  if s > maxSecs then none else some ⟨s, n % 1000000000⟩

def unitSeconds? (unit : String) (amount : Float) : Option Float :=
  match unit with
  | "ms" => some (amount / 1000.0)
  | "s" => some amount
  | "m" => some (amount * 60.0)
  | "h" => some (amount * 3600.0)
  | _ => none

def amountChar (c : Char) : Bool := c.isDigit || c = '.'

/-- Reads a duration: a bare number of seconds, or amounts each followed by a unit. -/
def parse? (text : String) : Option Duration :=
  let t := Text.trim text
  if t.isEmpty then none
  else match Decimal.parseFloat? t with
    | some x => ofSeconds? x
    | none =>
      let rec go : Nat → List Char → Duration → Option Duration
        | 0, _, _ => none
        | _, [], acc => some acc
        | fuel + 1, cs, acc => do
          let amount := cs.takeWhile amountChar
          if amount.isEmpty then none
          let x ← Decimal.parseFloat? (String.ofList amount)
          let rest := cs.dropWhile amountChar
          let unit := rest.takeWhile (!amountChar ·)
          let secs ← unitSeconds? (String.ofList unit) x
          let d ← ofSeconds? secs
          let acc ← acc.add? d
          go fuel (rest.dropWhile (!amountChar ·)) acc
      go (t.length + 1) t.toList ⟨0, 0⟩

end Duration

end IntegrationFlow
