import IntegrationFlow.Json.Error

/-!
Reading JSON text. A `Reader` is the rest of the text and the place reached, counted in bytes.
Numbers are read into a 64-bit significand: digits that do not fit are counted in the exponent,
and a decimal is the significand scaled by one power of ten in double arithmetic.
-/

namespace IntegrationFlow

/-- The rest of a text and how much of it has been read. -/
structure Reader where
  rest : List Char
  /-- Bytes read. -/
  index : Nat := 0
  /-- The current line, from 1. -/
  line : Nat := 1
  /-- The byte where the current line starts. -/
  lineStart : Nat := 0

namespace Reader

def ofString (s : String) : Reader := { rest := s.toList }

def step (r : Reader) (c : Char) (cs : List Char) : Reader :=
  { rest := cs, index := r.index + c.utf8Size,
    line := if c = '\n' then r.line + 1 else r.line,
    lineStart := if c = '\n' then r.index + c.utf8Size else r.lineStart }

@[simp] theorem step_rest (r : Reader) (c : Char) (cs : List Char) : (r.step c cs).rest = cs := rfl

def pos (r : Reader) : TextPos := ⟨r.line, r.index - r.lineStart⟩

def peekPos (r : Reader) : TextPos :=
  match r.rest with
  | '\n' :: _ => ⟨r.line + 1, 0⟩
  | _ :: _ => ⟨r.line, r.index + 1 - r.lineStart⟩
  | [] => r.pos

def posAfterByte (r : Reader) (c : Char) : TextPos :=
  if c = '\n' then ⟨r.line + 1, 0⟩ else ⟨r.line, r.index + 1 - r.lineStart⟩

def failAfter (r : Reader) (c : Char) (f : SyntaxFault) : Except DataError α :=
  .error ⟨.invalidText f, some (r.posAfterByte c)⟩

def peek? (r : Reader) : Option Char := r.rest.head?

def bump (r : Reader) : Reader :=
  match r.rest with
  | c :: cs => r.step c cs
  | [] => r

def fail (r : Reader) (f : SyntaxFault) : Except DataError α := .error ⟨.invalidText f, some r.pos⟩

def failPeek (r : Reader) (f : SyntaxFault) : Except DataError α :=
  .error ⟨.invalidText f, some r.peekPos⟩

/-- A fault found by a decoder, placed where reading stands unless it has a place. -/
def place (r : Reader) (e : DataError) : DataError :=
  match e.pos with
  | some _ => e
  | none => { e with pos := some r.pos }

def skipWs (r : Reader) : Reader :=
  match _h : r.rest with
  | c :: cs => if c = ' ' ∨ c = '\n' ∨ c = '\t' ∨ c = '\r' then skipWs (r.step c cs) else r
  | [] => r
termination_by r.rest.length
decreasing_by simp [_h]

def ident (r : Reader) : List Char → Except DataError Reader
  | [] => .ok r
  | k :: ks =>
    match r.rest with
    | [] => r.fail .eofValue
    | c :: cs =>
      if c = k then ident (r.step c cs) ks
      else r.failAfter c .expectedIdent

def hexDigit? (c : Char) : Option Nat :=
  if '0' ≤ c ∧ c ≤ '9' then some (c.toNat - '0'.toNat)
  else if 'a' ≤ c ∧ c ≤ 'f' then some (c.toNat - 'a'.toNat + 10)
  else if 'A' ≤ c ∧ c ≤ 'F' then some (c.toNat - 'A'.toNat + 10)
  else none

def hexEscape (r : Reader) : Except DataError (Nat × Reader) :=
  match r.rest with
  | a :: b :: c :: d :: cs =>
    let r' := ((((r.step a (b :: c :: d :: cs)).step b (c :: d :: cs)).step c (d :: cs)).step d cs)
    match hexDigit? a, hexDigit? b, hexDigit? c, hexDigit? d with
    | some w, some x, some y, some z => .ok (((w * 16 + x) * 16 + y) * 16 + z, r')
    | _, _, _, _ => r'.fail .invalidEscape
  | cs =>
    let r' := cs.foldl (fun (acc : Reader) ch => acc.step ch []) r
    r'.fail .eofString

/-- Reads the rest of a `\u` escape: one code unit, or a surrogate pair. -/
def unicodeEscape (r : Reader) : Except DataError (Char × Reader) := do
  let (n, r) ← hexEscape r
  if 0xDC00 ≤ n ∧ n ≤ 0xDFFF then r.fail .loneLeadingSurrogate
  else if n < 0xD800 ∨ n > 0xDBFF then .ok (Char.ofNat n, r)
  else
    match r.rest with
    | '\\' :: cs =>
      let r := r.step '\\' cs
      match r.rest with
      | 'u' :: cs =>
        let (n2, r) ← hexEscape (r.step 'u' cs)
        if n2 < 0xDC00 ∨ n2 > 0xDFFF then r.fail .loneLeadingSurrogate
        else .ok (Char.ofNat (((n - 0xD800) * 0x400 ||| (n2 - 0xDC00)) + 0x10000), r)
      | c :: _ => r.failAfter c .unexpectedEndOfHexEscape
      | [] => r.fail .eofString
    | c :: _ => r.failAfter c .unexpectedEndOfHexEscape
    | [] => r.fail .eofString

def str (r : Reader) (acc : String := "") : Except DataError (String × Reader) :=
  match _h : r.rest with
  | [] => r.fail .eofString
  | c :: cs =>
    if c = '"' then .ok (acc, r.step c cs)
    else if c = '\\' then
      let r1 := r.step c cs
      match _h1 : cs with
      | [] => r1.fail .eofString
      | e :: es =>
        let r2 := r1.step e es
        let esc : Option Char :=
          if e = '"' then some '"' else if e = '\\' then some '\\' else if e = '/' then some '/'
          else if e = 'b' then some (Char.ofNat 8) else if e = 'f' then some (Char.ofNat 12)
          else if e = 'n' then some '\n' else if e = 'r' then some '\r'
          else if e = 't' then some '\t' else none
        match esc with
        | some x => str r2 (acc.push x)
        | none =>
          if e = 'u' then
            match unicodeEscape r2 with
            | .ok (x, r3) =>
              if r3.rest.length < r.rest.length then str r3 (acc.push x) else r3.fail .eofString
            | .error err => .error err
          else r1.failAfter e .invalidEscape
    else if c.toNat < 0x20 then r.failAfter c .controlCharacter
    else str (r.step c cs) (acc.push c)
termination_by r.rest.length
decreasing_by all_goals (simp_all; try omega)

def overflows64 (s d : Nat) : Bool := 10 * s + d > 18446744073709551615

def digit? (c : Char) : Option Nat :=
  if '0' ≤ c ∧ c ≤ '9' then some (c.toNat - '0'.toNat) else none

def pow10Table : Array Float :=
  (Array.range 309).map fun k => Decimal.nearestFloat false (Nat.pow 10 k) 1

/-- A significand scaled by a power of ten in double arithmetic: one multiplication or
division when the power is in the table, otherwise divisions by `10^308` first. -/
def scaleDecimal (r : Reader) (positive : Bool) (sig : Nat) (exp : Int) :
    Except DataError Float :=
  let rec go : Nat → Float → Int → Except DataError Float
    | 0, f, _ => .ok f
    | fuel + 1, f, e =>
      if h : e.natAbs < pow10Table.size then
        let p := pow10Table[e.natAbs]
        if e ≥ 0 then
          let g := f * p
          if g.isInf then r.fail .numberOutOfRange else .ok g
        else .ok (f / p)
      else if f == 0 then .ok f
      else if e ≥ 0 then r.fail .numberOutOfRange
      else go fuel (f / 1e308) (e + 308)
  (go 8 sig.toUInt64.toFloat exp).map fun f => if positive then f else -f

def skipDigits (r : Reader) : Reader :=
  match _h : r.rest with
  | c :: cs => if (digit? c).isSome then skipDigits (r.step c cs) else r
  | [] => r
termination_by r.rest.length
decreasing_by simp [_h]

/-- Adds the digits of an exponent, stopping on overflow of 31 bits. -/
def expDigits (r : Reader) (acc : Nat) : Option Nat × Reader :=
  match _h : r.rest with
  | c :: cs =>
    match digit? c with
    | some d =>
      if 10 * acc + d > 2147483647 then (none, r.step c cs)
      else expDigits (r.step c cs) (10 * acc + d)
    | none => (some acc, r)
  | [] => (some acc, r)
termination_by r.rest.length
decreasing_by simp [_h]

def saturate32 (x : Int) : Int := max (-2147483648) (min 2147483647 x)

def exponent (r : Reader) (positive : Bool) (sig : Nat) (start : Int) : Except DataError (Float × Reader) :=
  let (posExp, r) : Bool × Reader :=
    match r.rest with
    | '+' :: cs => (true, r.step '+' cs)
    | '-' :: cs => (false, r.step '-' cs)
    | _ => (true, r)
  match r.rest with
  | [] => r.fail .eofValue
  | c :: cs =>
    match digit? c with
    | none => r.failAfter c .invalidNumber
    | some d =>
      match expDigits (r.step c cs) d with
      | (none, r) =>
        if sig ≠ 0 ∧ posExp then r.fail .numberOutOfRange
        else .ok (if positive then 0.0 else -0.0, skipDigits r)
      | (some e, r) =>
        let total := saturate32 (if posExp then start + e else start - e)
        (scaleDecimal r positive sig total).map (·, r)

/-- Reads fraction digits into the significand while it fits; the rest are skipped. -/
def fracDigits (r : Reader) (sig : Nat) (count : Nat) : Nat × Nat × Bool × Reader :=
  match _h : r.rest with
  | c :: cs =>
    match digit? c with
    | some d =>
      if overflows64 sig d then (sig, count, true, skipDigits r)
      else fracDigits (r.step c cs) (10 * sig + d) (count + 1)
    | none => (sig, count, false, r)
  | [] => (sig, count, false, r)
termination_by r.rest.length
decreasing_by simp [_h]

/-- Reads a fraction after its point, then an exponent if one follows. -/
def decimal (r : Reader) (positive : Bool) (sig : Nat) (before : Int) : Except DataError (Float × Reader) :=
  let (sig, count, overflowed, r) := fracDigits r sig 0
  if count = 0 ∧ ¬overflowed then
    match r.rest with
    | [] => r.failPeek .eofValue
    | _ => r.failPeek .invalidNumber
  else
    let e := before - count
    match r.rest with
    | c :: cs => if c = 'e' ∨ c = 'E' then exponent (r.step c cs) positive sig e
                 else (scaleDecimal r positive sig e).map (·, r)
    | [] => (scaleDecimal r positive sig e).map (·, r)

/-- Reads whole digits into the significand while it fits; returns the digits left over. -/
def intDigits (r : Reader) (sig : Nat) : Nat × Nat × Reader :=
  match _h : r.rest with
  | c :: cs =>
    match digit? c with
    | some d =>
      if overflows64 sig d then
        let r' := skipDigits r
        (sig, r'.index - r.index, r')
      else intDigits (r.step c cs) (10 * sig + d)
    | none => (sig, 0, r)
  | [] => (sig, 0, r)
termination_by r.rest.length
decreasing_by simp [_h]

def afterInt (r : Reader) (positive : Bool) (sig : Nat) (extra : Nat) : Except DataError (Number × Reader) :=
  match r.rest with
  | '.' :: cs => (decimal (r.step '.' cs) positive sig extra).map fun (f, r) => (.float f, r)
  | c :: cs =>
    if c = 'e' ∨ c = 'E' then (exponent (r.step c cs) positive sig extra).map fun (f, r) => (.float f, r)
    else if extra > 0 then (scaleDecimal r positive sig extra).map fun f => (.float f, r)
    else if positive then .ok (.int sig, r)
    else if sig = 0 then .ok (.float (-0.0), r)
    else if sig ≤ 9223372036854775808 then .ok (.int (-(sig : Int)), r)
    else .ok (.float (-sig.toUInt64.toFloat), r)
  | [] =>
    if extra > 0 then (scaleDecimal r positive sig extra).map fun f => (.float f, r)
    else if positive then .ok (.int sig, r)
    else if sig = 0 then .ok (.float (-0.0), r)
    else if sig ≤ 9223372036854775808 then .ok (.int (-(sig : Int)), r)
    else .ok (.float (-sig.toUInt64.toFloat), r)

def number (r : Reader) (positive : Bool) : Except DataError (Number × Reader) :=
  match r.rest with
  | [] => r.fail .eofValue
  | c :: cs =>
    match digit? c with
    | some 0 =>
      let r := r.step c cs
      match r.rest with
      | d :: _ => if (digit? d).isSome then r.failPeek .invalidNumber else afterInt r positive 0 0
      | [] => afterInt r positive 0 0
    | some d =>
      let (sig, extra, r) := intDigits (r.step c cs) d
      afterInt r positive sig extra
    | none => r.failAfter c .invalidNumber

def colon (r : Reader) : Except DataError Reader :=
  let r := r.skipWs
  match r.rest with
  | ':' :: cs => .ok (r.step ':' cs)
  | _ :: _ => r.failPeek .expectedColon
  | [] => r.failPeek .eofObject

def endSeq (r : Reader) : Except DataError Reader :=
  let r := r.skipWs
  match r.rest with
  | ']' :: cs => .ok (r.step ']' cs)
  | ',' :: cs =>
    let r := (r.step ',' cs).skipWs
    match r.rest with
    | ']' :: _ => r.failPeek .trailingComma
    | _ => r.failPeek .trailingCharacters
  | _ :: _ => r.failPeek .trailingCharacters
  | [] => r.failPeek .eofList

def endMap (r : Reader) : Except DataError Reader :=
  let r := r.skipWs
  match r.rest with
  | '}' :: cs => .ok (r.step '}' cs)
  | ',' :: _ => r.failPeek .trailingComma
  | _ :: _ => r.failPeek .trailingCharacters
  | [] => r.failPeek .eofObject

def finish (r : Reader) : Except DataError Unit :=
  let r := r.skipWs
  match r.rest with
  | [] => .ok ()
  | _ => r.failPeek .trailingCharacters

def fuelFor (n : Nat) : Nat := 2 * n + 4

def maxDepth : Nat := 128

mutual
/-- Reads one document; `depth` is how much deeper arrays and objects may nest. -/
def value (fuel depth : Nat) (r : Reader) : Except DataError (Json × Reader) :=
  match fuel with
  | 0 => r.failPeek .eofValue
  | fuel + 1 =>
    let r := r.skipWs
    match r.rest with
    | [] => r.failPeek .eofValue
    | c :: cs =>
      if c = 'n' then (ident (r.step c cs) ['u', 'l', 'l']).map (.null, ·)
      else if c = 't' then (ident (r.step c cs) ['r', 'u', 'e']).map (.bool true, ·)
      else if c = 'f' then (ident (r.step c cs) ['a', 'l', 's', 'e']).map (.bool false, ·)
      else if c = '-' then (number (r.step c cs) false).map fun (n, r) => (.num n, r)
      else if (digit? c).isSome then (number r true).map fun (n, r) => (.num n, r)
      else if c = '"' then (str (r.step c cs)).map fun (s, r) => (.str s, r)
      else if c = '[' then
        if depth ≤ 1 then r.failPeek .recursionLimit else
        match items fuel (depth - 1) true [] (r.step c cs) with
        | .ok (xs, r) => (endSeq r).map (.arr xs, ·)
        | .error e => .error e
      else if c = '{' then
        if depth ≤ 1 then r.failPeek .recursionLimit else
        match members fuel (depth - 1) true [] (r.step c cs) with
        | .ok (kvs, r) => (endMap r).map (.obj kvs, ·)
        | .error e => .error e
      else r.failPeek .expectedValue

/-- Reads the items of an array up to its closing bracket, which is left unread. -/
def items (fuel depth : Nat) (first : Bool) (acc : List Json) (r : Reader) :
    Except DataError (List Json × Reader) :=
  match fuel with
  | 0 => r.failPeek .eofList
  | fuel + 1 =>
    let r := r.skipWs
    match r.rest with
    | [] => r.failPeek .eofList
    | c :: cs =>
      if c = ']' then .ok (acc.reverse, r)
      else
        let next : Except DataError Reader :=
          if c = ',' ∧ ¬first then
            let r := (r.step c cs).skipWs
            match r.rest with
            | ']' :: _ => r.failPeek .trailingComma
            | [] => r.failPeek .eofValue
            | _ => .ok r
          else if first then .ok r
          else r.failPeek .expectedListCommaOrEnd
        match next with
        | .error e => .error e
        | .ok r =>
          match value fuel depth r with
          | .ok (x, r) => items fuel depth false (x :: acc) r
          | .error e => .error e

/-- Reads the members of an object up to its closing brace, which is left unread. -/
def members (fuel depth : Nat) (first : Bool) (acc : Members) (r : Reader) :
    Except DataError (Members × Reader) :=
  match fuel with
  | 0 => r.failPeek .eofObject
  | fuel + 1 =>
    let r := r.skipWs
    match r.rest with
    | [] => r.failPeek .eofObject
    | c :: cs =>
      if c = '}' then .ok (acc, r)
      else
        let next : Except DataError Reader :=
          if c = ',' ∧ ¬first then .ok (r.step c cs).skipWs
          else if first then .ok r
          else r.failPeek .expectedObjectCommaOrEnd
        match next with
        | .error e => .error e
        | .ok r =>
          match r.rest with
          | '"' :: cs =>
            match str (r.step '"' cs) with
            | .error e => .error e
            | .ok (k, r) =>
              match colon r with
              | .error e => .error e
              | .ok r =>
                match value fuel depth r with
                | .ok (v, r) => members fuel depth false (acc.insert k v) r
                | .error e => .error e
          | '}' :: _ => r.failPeek .trailingComma
          | [] => r.failPeek .eofValue
          | _ => r.failPeek .keyMustBeString
end

end Reader

namespace Json

def parse (s : String) : Except DataError Json := do
  let r := Reader.ofString s
  let (j, r) ← Reader.value (Reader.fuelFor r.rest.length) Reader.maxDepth r
  r.finish
  return j

end Json

end IntegrationFlow
