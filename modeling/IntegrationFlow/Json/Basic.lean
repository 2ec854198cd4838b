/-!
JSON documents as the engine holds them: numbers are whole numbers that fit 64 bits or
doubles, and the members of an object are kept sorted by key, so an object has one written
form and iterating it visits keys in order.
-/

namespace IntegrationFlow

/-- A JSON number: a whole number in the range of a signed or unsigned 64-bit word, or a
double. The two are told apart: `1` and `1.0` are different numbers. -/
inductive Number where
  | int (n : Int)
  | float (f : Float)
  deriving Inhabited

/-- A JSON document. The members of `obj` are sorted by key with no key twice. -/
inductive Json where
  | null
  | bool (b : Bool)
  | num (n : Number)
  | str (s : String)
  | arr (xs : List Json)
  | obj (kvs : List (String × Json))
  deriving Inhabited

abbrev Members := List (String × Json)

namespace Number

/-- Numbers are equal when they are the same kind and the same value. -/
def beq : Number → Number → Bool
  | .int a, .int b => a == b
  | .float a, .float b => a == b
  | _, _ => false

instance : BEq Number := ⟨beq⟩

/-- The number as a double: whole numbers are rounded to the nearest double. -/
def toFloat : Number → Float
  | .int n => if n < 0 then -(n.natAbs.toUInt64.toFloat) else n.toNat.toUInt64.toFloat
  | .float f => f

end Number

namespace Json

mutual
def beq : Json → Json → Bool
  | .null, .null => true
  | .bool a, .bool b => a == b
  | .num a, .num b => a == b
  | .str a, .str b => a == b
  | .arr xs, .arr ys => beqList xs ys
  | .obj xs, .obj ys => beqMembers xs ys
  | _, _ => false

def beqList : List Json → List Json → Bool
  | [], [] => true
  | x :: xs, y :: ys => beq x y && beqList xs ys
  | _, _ => false

def beqMembers : List (String × Json) → List (String × Json) → Bool
  | [], [] => true
  | (k, x) :: xs, (l, y) :: ys => k == l && beq x y && beqMembers xs ys
  | _, _ => false
end

instance : BEq Json := ⟨beq⟩

def int (n : Int) : Json := .num (.int n)

def float (f : Float) : Json := .num (.float f)

def getKey? : Json → String → Option Json
  | .obj kvs, k => kvs.lookup k
  | _, _ => none

def asString? : Json → Option String
  | .str s => some s
  | _ => none

def asObject? : Json → Option Members
  | .obj kvs => some kvs
  | _ => none

def asArray? : Json → Option (List Json)
  | .arr xs => some xs
  | _ => none

def asBool? : Json → Option Bool
  | .bool b => some b
  | _ => none

def isNull : Json → Bool
  | .null => true
  | _ => false

end Json

namespace Members

def get? (m : Members) (k : String) : Option Json := m.lookup k

def contains (m : Members) (k : String) : Bool := (m.lookup k).isSome

/-- Stores a value under a key, replacing what was there and keeping the keys sorted. -/
def insert : Members → String → Json → Members
  | [], k, v => [(k, v)]
  | (k', v') :: r, k, v =>
    if k < k' then (k, v) :: (k', v') :: r
    else if k = k' then (k, v) :: r
    else (k', v') :: insert r k v

def erase : Members → String → Members
  | [], _ => []
  | (k', v') :: r, k => if k = k' then r else (k', v') :: erase r k

def keys (m : Members) : List String := m.map Prod.fst

/-- Every member of `b` stored into `a`, later ones replacing earlier ones. -/
def extend (a b : Members) : Members := b.foldl (fun m p => m.insert p.1 p.2) a

/-- The members of a list of pairs; of two equal keys the later one stays. -/
def ofList (l : List (String × Json)) : Members := extend [] l

@[simp] theorem get?_nil (k : String) : get? [] k = none := rfl

end Members

end IntegrationFlow
