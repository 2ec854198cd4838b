import IntegrationFlow.Json.Reader

/-!
Reading typed records straight from JSON text, so that a fault carries the place where reading
stopped, the way a streaming record reader places it: after a scalar of the wrong kind, before
an array or object, and after the closing bracket for a fault of the record as a whole.
-/

namespace IntegrationFlow

/-- Reads a value of `α` from text, given a bound on the steps and how much deeper arrays and
objects may nest. -/
abbrev TextDecoder (α : Type) := Nat → Nat → Reader → Except DataError (α × Reader)

namespace Reader

/-- The fault for a value of the wrong kind at the next character: a scalar is read and the
fault placed after it, an array or object is placed before. -/
def wrongKind (r : Reader) (expected : String) : DataError :=
  let found (res : Except DataError (Unexpected × Reader)) : DataError :=
    match res with
    | .ok (u, r) => ⟨.invalidType u expected, some r.pos⟩
    | .error e => e
  match r.rest with
  | 'n' :: cs => found ((ident (r.step 'n' cs) ['u', 'l', 'l']).map (.null, ·))
  | 't' :: cs => found ((ident (r.step 't' cs) ['r', 'u', 'e']).map (.bool true, ·))
  | 'f' :: cs => found ((ident (r.step 'f' cs) ['a', 'l', 's', 'e']).map (.bool false, ·))
  | '-' :: cs => found ((number (r.step '-' cs) false).map fun (n, r) => ((Json.num n).unexpected, r))
  | '"' :: cs => found ((str (r.step '"' cs)).map fun (s, r) => (.str s, r))
  | '[' :: _ => ⟨.invalidType .seq expected, some r.pos⟩
  | '{' :: _ => ⟨.invalidType .map expected, some r.pos⟩
  | c :: _ =>
    if (digit? c).isSome then found ((number r true).map fun (n, r) => ((Json.num n).unexpected, r))
    else ⟨.invalidText .expectedValue, some r.peekPos⟩
  | [] => ⟨.invalidText .expectedValue, some r.peekPos⟩

/-- Where a fault of a record read from an object is placed: past blanks and the closing
brace, if one follows. -/
def pastBrace (r : Reader) : Reader :=
  let r := r.skipWs
  match r.rest with
  | '}' :: cs => r.step '}' cs
  | _ => r

/-- Where a fault of a record read from an array is placed: past blanks and the closing
bracket, or past a comma and the blanks after it. -/
def pastBracket (r : Reader) : Reader :=
  let r := r.skipWs
  match r.rest with
  | ']' :: cs => r.step ']' cs
  | ',' :: cs => (r.step ',' cs).skipWs
  | _ => r

/-- Reads the separator before the next item of an array whose closing bracket is not next:
nothing before the first item, a comma before the others. -/
def itemSeparator (r : Reader) (first : Bool) : Except DataError Reader :=
  match r.rest with
  | ',' :: cs =>
    if first then .ok r
    else
      let r := (r.step ',' cs).skipWs
      match r.rest with
      | ']' :: _ => r.failPeek .trailingComma
      | [] => r.failPeek .eofValue
      | _ => .ok r
  | _ => if first then .ok r else r.failPeek .expectedListCommaOrEnd

/-- Reads the separator before the next member of an object whose closing brace is not
next. -/
def memberSeparator (r : Reader) (first : Bool) : Except DataError Reader :=
  match r.rest with
  | ',' :: cs => if first then .ok r else .ok (r.step ',' cs).skipWs
  | _ => if first then .ok r else r.failPeek .expectedObjectCommaOrEnd

/-! ### Skipping a value

A member that no field takes is skipped: its syntax is checked, but numbers are not
converted and escapes are not combined, so a number out of range or a lone surrogate there
is no fault. -/

def skipExponent (r : Reader) : Except DataError Reader :=
  let r := match r.rest with
    | '+' :: cs => r.step '+' cs
    | '-' :: cs => r.step '-' cs
    | _ => r
  match r.rest with
  | c :: cs => if (digit? c).isSome then .ok (skipDigits (r.step c cs)) else r.failAfter c .invalidNumber
  | [] => r.fail .invalidNumber

def skipNumberTail (r : Reader) : Except DataError Reader :=
  match r.rest with
  | '.' :: cs =>
    let r0 := r.step '.' cs
    let r1 := skipDigits r0
    if r1.index = r0.index then r1.failPeek .invalidNumber
    else
      match r1.rest with
      | c :: cs => if c = 'e' ∨ c = 'E' then skipExponent (r1.step c cs) else .ok r1
      | [] => .ok r1
  | c :: cs => if c = 'e' ∨ c = 'E' then skipExponent (r.step c cs) else .ok r
  | [] => .ok r

def skipNumber (r : Reader) : Except DataError Reader :=
  match r.rest with
  | '0' :: cs =>
    let r := r.step '0' cs
    match r.rest with
    | d :: _ => if (digit? d).isSome then r.failPeek .invalidNumber else skipNumberTail r
    | [] => .ok r
  | c :: cs =>
    if '1' ≤ c ∧ c ≤ '9' then skipNumberTail (skipDigits (r.step c cs)) else r.failAfter c .invalidNumber
  | [] => r.fail .invalidNumber

/-- Skips a string after its opening quote; a control character is reported where it
stands. -/
def skipStr (r : Reader) : Except DataError Reader :=
  match _h : r.rest with
  | [] => r.fail .eofString
  | c :: cs =>
    if c = '"' then .ok (r.step c cs)
    else if c = '\\' then
      let r1 := r.step c cs
      match _h1 : cs with
      | [] => r1.fail .eofString
      | e :: es =>
        let r2 := r1.step e es
        if e = '"' ∨ e = '\\' ∨ e = '/' ∨ e = 'b' ∨ e = 'f' ∨ e = 'n' ∨ e = 'r' ∨ e = 't' then skipStr r2
        else if e = 'u' then
          match hexEscape r2 with
          | .ok (_, r3) => if r3.rest.length < r.rest.length then skipStr r3 else r3.fail .eofString
          | .error err => .error err
        else r1.failAfter e .invalidEscape
    else if c.toNat < 0x20 then r.fail .controlCharacter
    else skipStr (r.step c cs)
termination_by r.rest.length
decreasing_by all_goals (simp_all; try omega)

def skipKey (r : Reader) : Except DataError Reader :=
  let r := r.skipWs
  match r.rest with
  | '"' :: cs =>
    match skipStr (r.step '"' cs) with
    | .error e => .error e
    | .ok r =>
      let r := r.skipWs
      match r.rest with
      | ':' :: cs => .ok (r.step ':' cs)
      | _ :: _ => r.failPeek .expectedColon
      | [] => r.failPeek .eofObject
  | _ :: _ => r.failPeek .keyMustBeString
  | [] => r.failPeek .eofObject

/-- Where skipping stands: before a value, just inside an opening bracket, or after a
value. -/
inductive SkipMode where
  | value
  | opened
  | after

/-- Skips one value; `frames` are the brackets it is inside, innermost first. -/
def skipWithin : Nat → SkipMode → List Char → Reader → Except DataError Reader
  | 0, _, _, r => r.failPeek .eofValue
  | fuel + 1, .value, frames, r =>
    let r := r.skipWs
    match r.rest with
    | [] => r.failPeek .eofValue
    | c :: cs =>
      let scalar : Option (Except DataError Reader) :=
        if c = 'n' then some (ident (r.step c cs) ['u', 'l', 'l'])
        else if c = 't' then some (ident (r.step c cs) ['r', 'u', 'e'])
        else if c = 'f' then some (ident (r.step c cs) ['a', 'l', 's', 'e'])
        else if c = '-' then some (skipNumber (r.step c cs))
        else if (digit? c).isSome then some (skipNumber r)
        else if c = '"' then some (skipStr (r.step c cs))
        else none
      match scalar with
      | some (.ok r) => skipWithin fuel .after frames r
      | some (.error e) => .error e
      | none =>
        if c = '[' ∨ c = '{' then skipWithin fuel .opened (c :: frames) (r.step c cs)
        else r.failPeek .expectedValue
  | fuel + 1, .opened, frames, r =>
    match frames with
    | [] => .ok r
    | frame :: rest =>
      let r := r.skipWs
      let eof : SyntaxFault := if frame = '[' then .eofList else .eofObject
      match r.rest with
      | [] => r.failPeek eof
      | c :: cs =>
        if (frame = '[' ∧ c = ']') ∨ (frame = '\x7b' ∧ c = '\x7d') then skipWithin fuel .after rest (r.step c cs)
        else if frame = '\x7b' then
          match skipKey r with
          | .ok r => skipWithin fuel .value frames r
          | .error e => .error e
        else skipWithin fuel .value frames r
  | fuel + 1, .after, frames, r =>
    match frames with
    | [] => .ok r
    | frame :: rest =>
      let r := r.skipWs
      let eof : SyntaxFault := if frame = '[' then .eofList else .eofObject
      match r.rest with
      | [] => r.failPeek eof
      | c :: cs =>
        if c = ',' then
          let r := r.step c cs
          if frame = '\x7b' then
            match skipKey r with
            | .ok r => skipWithin fuel .value frames r
            | .error e => .error e
          else skipWithin fuel .value frames r
        else if (frame = '[' ∧ c = ']') ∨ (frame = '\x7b' ∧ c = '\x7d') then skipWithin fuel .after rest (r.step c cs)
        else r.failPeek (if frame = '[' then .expectedListCommaOrEnd else .expectedObjectCommaOrEnd)

def skipValue (r : Reader) : Except DataError Reader :=
  skipWithin (3 * r.rest.length + 4) .value [] r

end Reader

def Number.toFloat32 : Number → Float32
  | .int n => if n ≥ 0 then n.toNat.toUInt64.toFloat32 else (Int64.ofInt n).toFloat32
  | .float f => f.toFloat32

namespace TextDecoder

def string : TextDecoder String := fun _ _ r =>
  let r := r.skipWs
  match r.rest with
  | '"' :: cs => Reader.str (r.step '"' cs)
  | [] => r.failPeek .eofValue
  | _ => .error (r.wrongKind "a string")

def optional (d : TextDecoder α) : TextDecoder (Option α) := fun fuel depth r =>
  let r := r.skipWs
  match r.rest with
  | 'n' :: cs => (Reader.ident (r.step 'n' cs) ['u', 'l', 'l']).map (none, ·)
  | _ => (d fuel depth r).map fun (a, r) => (some a, r)

def single : TextDecoder Float32 := fun _ _ r =>
  let r := r.skipWs
  match r.rest with
  | [] => r.failPeek .eofValue
  | '-' :: cs => (Reader.number (r.step '-' cs) false).map fun (n, r) => (Number.toFloat32 n, r)
  | c :: _ =>
    if (Reader.digit? c).isSome then (Reader.number r true).map fun (n, r) => (Number.toFloat32 n, r)
    else .error (r.wrongKind "f32")

def any : TextDecoder Json := fun fuel depth r => Reader.value fuel depth r

def members : TextDecoder Members := fun fuel depth r =>
  let r := r.skipWs
  match r.rest with
  | [] => r.failPeek .eofValue
  | '{' :: cs =>
    if depth ≤ 1 then r.failPeek .recursionLimit
    else
      match Reader.members fuel (depth - 1) true [] (r.step '{' cs) with
      | .ok (kvs, r) => (Reader.endMap r).map (kvs, ·)
      | .error e => .error e
  | _ => .error (r.wrongKind "a map")

/-- Reads the items of an array, each by `d`, up to its closing bracket, which is left
unread. -/
def items (d : TextDecoder α) : Nat → Nat → Bool → List α → Reader → Except DataError (List α × Reader)
  | 0, _, _, _, r => r.failPeek .eofList
  | fuel + 1, depth, first, acc, r =>
    let r := r.skipWs
    match r.rest with
    | [] => r.failPeek .eofList
    | ']' :: _ => .ok (acc.reverse, r)
    | _ =>
      match r.itemSeparator first with
      | .error e => .error e
      | .ok r =>
        match d fuel depth r with
        | .ok (x, r) => items d fuel depth false (x :: acc) r
        | .error e => .error e

def list (d : TextDecoder α) : TextDecoder (List α) := fun fuel depth r =>
  let r := r.skipWs
  match r.rest with
  | [] => r.failPeek .eofValue
  | '[' :: cs =>
    if depth ≤ 1 then r.failPeek .recursionLimit
    else
      match items d fuel (depth - 1) true [] (r.step '[' cs) with
      | .ok (xs, r) => (Reader.endSeq r).map (xs, ·)
      | .error e => .error e
  | _ => .error (r.wrongKind "a sequence")

/-- One field of a record being read into `σ`: its name, other names it may be written under,
whether it may be left out, and how its value is read and stored. -/
structure Field (σ : Type) where
  name : String
  aliases : List String := []
  hasDefault : Bool := true
  read : σ → TextDecoder σ

def findField (fields : List (Field σ)) (k : String) : Option (Nat × Field σ) :=
  (fields.zipIdx.find? fun (f, _) => f.name == k || f.aliases.contains k).map fun (f, i) => (i, f)

def firstMissing (fields : List (Field σ)) (seen : List Nat) : Option (Field σ) :=
  (fields.zipIdx.find? fun (f, i) => !f.hasDefault && !seen.contains i).map Prod.fst

/-- Reads the members of a record's object up to its closing brace, which is left unread;
returns the record and the fields given. A member of no field is read and dropped. -/
def recordMembers (fields : List (Field σ)) :
    Nat → Nat → Bool → List Nat → σ → Reader → Except DataError (σ × List Nat × Reader)
  | 0, _, _, _, _, r => r.failPeek .eofObject
  | fuel + 1, depth, first, seen, st, r =>
    let r := r.skipWs
    match r.rest with
    | [] => r.failPeek .eofObject
    | '}' :: _ => .ok (st, seen, r)
    | _ =>
      match r.memberSeparator first with
      | .error e => .error e
      | .ok r =>
        match r.rest with
        | '"' :: cs =>
          match Reader.str (r.step '"' cs) with
          | .error e => .error e
          | .ok (k, r) =>
            match findField fields k with
            | none =>
              match Reader.colon r with
              | .error e => .error e
              | .ok r =>
                match Reader.skipValue r with
                | .ok r => recordMembers fields fuel depth false seen st r
                | .error e => .error e
            | some (i, f) =>
              if seen.contains i then .error ⟨.duplicateField f.name, some r.pastBrace.pos⟩
              else
                match Reader.colon r with
                | .error e => .error e
                | .ok r =>
                  match f.read st fuel depth r with
                  | .ok (st, r) => recordMembers fields fuel depth false (i :: seen) st r
                  | .error e => .error e
        | '}' :: _ => r.failPeek .trailingComma
        | [] => r.failPeek .eofValue
        | _ => r.failPeek .keyMustBeString

/-- Reads the fields of a record from the items of an array, in order, up to its closing
bracket, which is left unread. A missing item leaves a field at its default; a field
without one is a fault that names how many items the record has. -/
def recordItems (expect : String) :
    List (Field σ × Nat) → Nat → Nat → Bool → σ → Reader → Except DataError (σ × Reader)
  | [], _, _, _, st, r => .ok (st, r)
  | _ :: _, 0, _, _, _, r => r.failPeek .eofList
  | (f, i) :: fs, fuel + 1, depth, first, st, r =>
    let r := r.skipWs
    match r.rest with
    | [] => r.failPeek .eofList
    | ']' :: _ =>
      if f.hasDefault then recordItems expect fs fuel depth first st r
      else .error ⟨.invalidLength i expect, some r.pastBracket.pos⟩
    | _ =>
      match r.itemSeparator first with
      | .error e => .error e
      | .ok r =>
        match f.read st fuel depth r with
        | .ok (st, r) => recordItems expect fs fuel depth false st r
        | .error e => .error e

/-- A record named `what` (as in `struct Name`), from an object or an array. -/
def record (what : String) (fields : List (Field σ)) (init : σ) : TextDecoder σ := fun fuel depth r =>
  let r := r.skipWs
  match r.rest with
  | [] => r.failPeek .eofValue
  | '{' :: cs =>
    if depth ≤ 1 then r.failPeek .recursionLimit
    else
      match recordMembers fields fuel (depth - 1) true [] init (r.step '{' cs) with
      | .error e => .error e
      | .ok (st, seen, r) =>
        match firstMissing fields seen with
        | some f => .error ⟨.missingField f.name, some r.pastBrace.pos⟩
        | none => (Reader.endMap r).map (st, ·)
  | '[' :: cs =>
    if depth ≤ 1 then r.failPeek .recursionLimit
    else
      let expect := s!"{what} with {fields.length} elements"
      match recordItems expect fields.zipIdx fuel (depth - 1) true init (r.step '[' cs) with
      | .error e => .error e
      | .ok (st, r) => (Reader.endSeq r).map (st, ·)
  | _ => .error (r.wrongKind what)

def run (d : TextDecoder α) (text : String) : Except DataError α := do
  let r := Reader.ofString text
  let (a, r) ← d (Reader.fuelFor r.rest.length) Reader.maxDepth r
  r.finish
  return a

end TextDecoder

end IntegrationFlow
