import IntegrationFlow.Json.Error

/-!
Decoding documents into records and lists. A decoder fails the way a derived record
decoder does: with the kind of value it found and the kind it expected, or with a missing,
repeated or unknown-length field. Members are visited in key order, so of two faults the
one under the smaller key is reported; missing fields are reported after all members.
-/

namespace IntegrationFlow

abbrev Decoder (α : Type) := Json → Except DataError α

namespace Decoder

def mismatch (j : Json) (expected : String) : Except DataError α :=
  .error ⟨.invalidType j.unexpected expected, none⟩

def any : Decoder Json := .ok

def string : Decoder String
  | .str s => .ok s
  | j => mismatch j "a string"

def bool : Decoder Bool
  | .bool b => .ok b
  | j => mismatch j "a boolean"

def optional (d : Decoder α) : Decoder (Option α)
  | .null => .ok none
  | j => some <$> d j

def orDefault (dflt : α) (d : Decoder α) : Decoder α
  | .null => .ok dflt
  | j => d j

def list (d : Decoder α) : Decoder (List α)
  | .arr xs => xs.mapM d
  | j => mismatch j "a sequence"

def members : Decoder Members
  | .obj kvs => .ok kvs
  | j => mismatch j "a map"

def map (d : Decoder α) : Decoder (List (String × α))
  | .obj kvs => kvs.mapM fun (k, v) => (k, ·) <$> d v
  | j => mismatch j "a map"

/-- A whole number that fits `bits` unsigned bits, named `what` in faults. -/
def unsigned (bits : Nat) (what : String) : Decoder Nat
  | .num (.int n) =>
    if 0 ≤ n ∧ n < Int.pow 2 bits then .ok n.toNat
    else .error ⟨.invalidValue (.int n) what, none⟩
  | j => mismatch j what

/-- One field of a record being decoded into `σ`: its name, other names it may be written
under, whether it has a default, and how its value is stored. -/
structure Field (σ : Type) where
  name : String
  aliases : List String := []
  hasDefault : Bool := true
  store : σ → Json → Except DataError σ

def findField (fields : List (Field σ)) (k : String) : Option (Nat × Field σ) :=
  (fields.zipIdx.find? fun (f, _) => f.name == k || f.aliases.contains k).map fun (f, i) => (i, f)

/-- Stores the members of an object into a record, in key order, then checks that every
field without a default was given. -/
def fromMembers (fields : List (Field σ)) (init : σ) (kvs : Members) : Except DataError σ := do
  let step (acc : σ × List Nat) (kv : String × Json) : Except DataError (σ × List Nat) :=
    match findField fields kv.1 with
    | none => .ok acc
    | some (i, f) =>
      if acc.2.contains i then .error ⟨.duplicateField f.name, none⟩
      else (fun st => (st, i :: acc.2)) <$> f.store acc.1 kv.2
  let (st, seen) ← kvs.foldlM step (init, [])
  match (fields.zipIdx.find? fun (f, i) => !f.hasDefault && !seen.contains i) with
  | some (f, _) => .error ⟨.missingField f.name, none⟩
  | none => .ok st

/-- Stores the items of an array into a record, field by field in order. -/
def fromItems (what : String) (fields : List (Field σ)) (init : σ) (xs : List Json) :
    Except DataError σ := do
  let expect := s!"{what} with {fields.length} elements"
  let step (st : σ) (fi : Field σ × Nat) : Except DataError σ :=
    match xs[fi.2]? with
    | some v => fi.1.store st v
    | none => if fi.1.hasDefault then .ok st else .error ⟨.invalidLength fi.2 expect, none⟩
  let st ← fields.zipIdx.foldlM step init
  if xs.length > fields.length then
    .error ⟨.invalidLength xs.length "fewer elements in array", none⟩
  else .ok st

/-- A record named `what` (as in `struct Name`), from an object or an array. -/
def record (what : String) (fields : List (Field σ)) (init : σ) : Decoder σ
  | .obj kvs => fromMembers fields init kvs
  | .arr xs => fromItems what fields init xs
  | j => mismatch j what

end Decoder

end IntegrationFlow
