import IntegrationFlow.Expr.Tree
import IntegrationFlow.Text.WhiteSpace
import IntegrationFlow.Text.Case
import IntegrationFlow.Decimal.Parse

/-!
Operators and library functions on values; each returns `none` when no function of that name
takes arguments of those types. Whole numbers are 64-bit and checked, doubles follow IEEE
arithmetic but for an `==` within the machine epsilon, and values of different types are never
equal and never ordered.
-/

namespace IntegrationFlow.Expr

/-- Why evaluating a condition failed. -/
inductive EvalFault where
  | parsing (f : ParseFault)
  | variableNotFound (name : String)
  | functionNotFound (signature : String)
  | runtime (msg : String)
  | arithmetic (msg : String)
  | mismatchDataType (expected actual : String)
  | arrayBounds (len : Nat) (idx : Int)
  | stringBounds (len : Nat) (idx : Int)
  | bitFieldBounds (len : Nat) (idx : Int)
  | dotExpr (msg : String)
  | indexingType (msg : String)
  /-- Calls nested deeper than evaluation allows. -/
  | stackOverflow
  /-- A fault inside an anonymous function, with its own wording and position. -/
  | inClosure (inner : String)
  deriving Inhabited

def EvalFault.message : EvalFault → String
  | .parsing f => "Syntax error: " ++ f.message
  | .variableNotFound n => "Variable not found: " ++ n
  | .functionNotFound s => "Function not found: " ++ s
  | .runtime m => "Runtime error: " ++ m
  | .arithmetic m => m
  | .mismatchDataType e a => "Data type is incorrect: " ++ a ++ " (expecting " ++ e ++ ")"
  | .arrayBounds 0 i => s!"Array index {i} out of bounds: array is empty"
  | .arrayBounds 1 i => s!"Array index {i} out of bounds: only 1 element in array"
  | .arrayBounds n i => s!"Array index {i} out of bounds: only {n} elements in array"
  | .stringBounds 0 i => s!"String index {i} out of bounds: string is empty"
  | .stringBounds 1 i => s!"String index {i} out of bounds: only 1 character in string"
  | .stringBounds n i => s!"String index {i} out of bounds: only {n} characters in string"
  | .bitFieldBounds n i => s!"Bit-field index {i} out of bounds: only {n} bits in bit-field"
  | .dotExpr m => m
  | .indexingType m => "Indexer unavailable: " ++ m
  | .stackOverflow => "Stack overflow"
  | .inClosure inner => inner ++ "\nin closure call"

/-- A result of an operator or library function; `none` when there is no such function. -/
abbrev Outcome := Option (Except EvalFault Value)

def found (v : Value) : Outcome := some (.ok v)

def overflow (msg : String) : Outcome := some (.error (.arithmetic msg))

/-- The signature a call is reported with when no function fits it. -/
def signature (name : String) (args : List Value) : String :=
  name ++ " (" ++ ", ".intercalate (args.map Value.signatureName) ++ ")"

def intToFloat (n : Int) : Float :=
  if n ≥ 0 then n.toNat.toUInt64.toFloat else -((-n).toNat.toUInt64.toFloat)

def epsilon : Float := Float.ofBits 0x3CB0000000000000

def floatEq (x y : Float) : Bool := (x - y).abs ≤ epsilon

/-- The remainder of a truncating division of doubles, computed exactly. -/
def floatRem (x y : Float) : Float :=
  if x.isNaN || y.isNaN || x.isInf || y == 0 then 0.0 / 0.0
  else if y.isInf then x
  else
    match Decimal.binary64.decode x.toBits.toNat, Decimal.binary64.decode y.toBits.toNat with
    | .finite nx mx ex _, .finite _ my ey _ =>
      let e := min ex ey
      let bx := mx * Nat.pow 2 (ex - e).toNat
      let by_ := my * Nat.pow 2 (ey - e).toNat
      let r := bx % by_
      if r == 0 then (if nx then -0.0 else 0.0)
      else Decimal.nearestFloat nx (r * Nat.pow 2 e.toNat) (Nat.pow 2 (-e).toNat)
    | _, _ => x

def ordered (op : String) (o : Ordering) : Option Bool :=
  if op == "==" then some (o == .eq)
  else if op == "!=" then some (o != .eq)
  else if op == "<" then some (o == .lt)
  else if op == "<=" then some (o != .gt)
  else if op == ">" then some (o == .gt)
  else if op == ">=" then some (o != .lt)
  else none

/-- A whole-number result, or an overflow fault with the given wording. -/
def checkedInt (n : Int) (msg : String) : Outcome :=
  if Value.fits n then found (.int n) else overflow msg

def powChecked (x : Int) (y : Nat) : Option Int :=
  if x == 0 then some (if y == 0 then 1 else 0)
  else if x == 1 then some 1
  else if x == -1 then some (if y % 2 == 0 then 1 else -1)
  else if y ≥ 64 then none
  else
    let r := Int.pow x y
    if Value.fits r then some r else none

def shiftInt (left : Bool) (x y : Int) : Outcome :=
  let name (l : Bool) := if l then "Left-shift" else "Right-shift"
  let sym (l : Bool) := if l then "<<" else ">>"
  let go (l : Bool) (n : Int) : Outcome :=
    if n ≥ 64 then overflow (name l ++ s!" by too many bits: {x} " ++ sym l ++ s!" {n}")
    else
      let v := Int64.ofInt x
      let k := Int64.ofNat n.toNat
      found (.int (if l then (v <<< k).toInt else (v >>> k).toInt))
  if y > 4294967295 then overflow (name left ++ s!" by too many bits: {x} " ++ sym left ++ s!" {y}")
  else if y < 0 then go (!left) (if y == Value.minInt then Value.maxInt else -y)
  else go left y

def intOp (op : String) (x y : Int) : Outcome :=
  match ordered op (compare x y) with
  | some b => found (.bool b)
  | none =>
    if op == "+" then checkedInt (x + y) s!"Addition overflow: {x} + {y}"
    else if op == "-" then checkedInt (x - y) s!"Subtraction overflow: {x} - {y}"
    else if op == "*" then checkedInt (x * y) s!"Multiplication overflow: {x} * {y}"
    else if op == "/" then
      if y == 0 then overflow s!"Division by zero: {x} / {y}"
      else checkedInt (x.tdiv y) s!"Division overflow: {x} / {y}"
    else if op == "%" then
      if y == 0 || (x == Value.minInt && y == -1) then
        overflow s!"Modulo division by zero or overflow: {x} % {y}"
      else found (.int (x.tmod y))
    else if op == "**" then
      if y > 4294967295 then overflow s!"Exponential overflow: {x} ** {y}"
      else if y < 0 then overflow s!"Integer raised to a negative power: {x} ** {y}"
      else match powChecked x y.toNat with
        | some r => found (.int r)
        | none => overflow s!"Exponential overflow: {x} ** {y}"
    else if op == "<<" then shiftInt true x y
    else if op == ">>" then shiftInt false x y
    else if op == "&" then found (.int (Int64.ofInt x &&& Int64.ofInt y).toInt)
    else if op == "|" then found (.int (Int64.ofInt x ||| Int64.ofInt y).toInt)
    else if op == "^" then found (.int (Int64.ofInt x ^^^ Int64.ofInt y).toInt)
    else if op == ".." then found (.range x y false)
    else if op == "..=" then found (.range x y true)
    else none

def floatOp (op : String) (x y : Float) : Outcome :=
  if op == "+" then found (.float (x + y))
  else if op == "-" then found (.float (x - y))
  else if op == "*" then found (.float (x * y))
  else if op == "/" then found (.float (x / y))
  else if op == "%" then found (.float (floatRem x y))
  else if op == "**" then found (.float (x.pow y))
  else if op == "==" then found (.bool (floatEq x y))
  else if op == "!=" then found (.bool (!floatEq x y))
  else if op == "<" then found (.bool (x < y))
  else if op == "<=" then found (.bool (x ≤ y))
  else if op == ">" then found (.bool (x > y))
  else if op == ">=" then found (.bool (x ≥ y))
  else none

/-- The first two characters of a string, for comparing with a character. -/
def firstTwo (s : String) : List (Option Char) :=
  let cs := s.toList
  [cs.head?, (cs.drop 1).head?]

def compareOpts : List (Option Char) → List (Option Char) → Ordering
  | [], [] => .eq
  | [], _ => .lt
  | _, [] => .gt
  | a :: as, b :: bs =>
    let o : Ordering := match a, b with
      | none, none => .eq
      | none, some _ => .lt
      | some _, none => .gt
      | some x, some y => compare x y
    if o == .eq then compareOpts as bs else o

def removeAll (p : Char) (ps : List Char) : List Char → List Char
  | [] => []
  | c :: cs =>
    if (c :: cs).take (ps.length + 1) == p :: ps then removeAll p ps ((c :: cs).drop (ps.length + 1))
    else c :: removeAll p ps cs
termination_by cs => cs.length
decreasing_by all_goals (simp_all; try omega)

/-- Removes every occurrence of a pattern; an empty pattern removes nothing. -/
def removeText (pat : String) (s : String) : String :=
  match pat.toList with
  | [] => s
  | p :: ps => String.ofList (removeAll p ps s.toList)

/-- Operators the engine computes directly on values of the basic types. -/
def builtinBinary (op : String) (a b : Value) : Outcome :=
  let cmp (o : Ordering) : Outcome := (ordered op o).map fun r => .ok (.bool r)
  match a, b with
  | .int x, .int y => intOp op x y
  | .bool x, .bool y =>
    if op == "&" then found (.bool (x && y))
    else if op == "|" then found (.bool (x || y))
    else if op == "^" then found (.bool (x != y))
    else cmp (compare x y)
  | .str x, .str y =>
    if op == "+" then found (.str (x ++ y))
    else if op == "-" then found (.str (removeText y x))
    else cmp (compare x y)
  | .char x, .char y => if op == "+" then found (.str (x.toString ++ y.toString)) else cmp (compare x y)
  | .unit, .unit =>
    if op == "==" then found (.bool true)
    else if op == "!=" || op == "<" || op == "<=" || op == ">" || op == ">=" then found (.bool false)
    else none
  | .float x, .float y => floatOp op x y
  | .float x, .int y => floatOp op x (intToFloat y)
  | .int x, .float y => floatOp op (intToFloat x) y
  | .char x, .str y =>
    if op == "+" then found (.str (x.toString ++ y)) else cmp (compareOpts [some x, none] (firstTwo y))
  | .str x, .char y =>
    if op == "+" then found (.str (x.push y))
    else if op == "-" then found (.str (String.ofList (x.toList.filter (· != y))))
    else cmp (compareOpts (firstTwo x) [some y, none])
  | .unit, .str y =>
    if op == "+" then found (.str y)
    else if op == "!=" then found (.bool true)
    else if op == "==" || op == "<" || op == "<=" || op == ">" || op == ">=" then found (.bool false)
    else none
  | .str x, .unit =>
    if op == "+" then found (.str x)
    else if op == "!=" then found (.bool true)
    else if op == "==" || op == "<" || op == "<=" || op == ">" || op == ">=" then found (.bool false)
    else none
  | .range lo hi i, .range lo' hi' j =>
    if i == j then
      if op == "==" then found (.bool (lo == lo' && hi == hi'))
      else if op == "!=" then found (.bool (lo != lo' || hi != hi'))
      else none
    else if op == "==" then found (.bool false)
    else if op == "!=" then found (.bool true)
    else none
  | .range .., _ | _, .range .. => none
  | x, y =>
    if x.typeName == y.typeName then none
    else if op == "!=" then found (.bool true)
    else if op == "==" || op == "<" || op == "<=" || op == ">" || op == ">=" then found (.bool false)
    else none

mutual
/-- Equality as library functions use it: the `==` operator, arrays and maps elementwise,
values of different types unequal; a type without equality is a fault. -/
def valueEq : Value → Value → Except EvalFault Bool
  | .array xs, .array ys => if xs.length != ys.length then .ok false else listEq xs ys
  | .map xs, .map ys => if xs.length != ys.length then .ok false else entriesEq xs ys
  | a, b =>
    match builtinBinary "==" a b with
    | some (.ok (.bool r)) => .ok r
    | some (.ok _) => .ok false
    | some (.error e) => .error e
    | none => .error (.functionNotFound (signature "==" [a, b]))

def listEq : List Value → List Value → Except EvalFault Bool
  | a :: as, b :: bs => do
    if ← valueEq a b then listEq as bs else return false
  | _, _ => .ok true

/-- Equality of maps of the same size: every key of the first is in the second with an
equal value. -/
def entriesEq : List (String × Value) → List (String × Value) → Except EvalFault Bool
  | [], _ => .ok true
  | (k, v) :: rest, other =>
    match other.lookup k with
    | none => .ok false
    | some w => do
      if ← valueEq v w then entriesEq rest other else return false
end

/-- Inserts a map entry, keeping keys in order and replacing an equal key. -/
def insertEntry (k : String) (v : Value) : List (String × Value) → List (String × Value)
  | [] => [(k, v)]
  | (k', v') :: rest =>
    if k < k' then (k, v) :: (k', v') :: rest
    else if k == k' then (k, v) :: rest
    else (k', v') :: insertEntry k v rest

/-- Binary operators: the direct ones, then those the library defines (joining text to any
value, arrays and maps compared and joined). -/
def binaryOp (op : String) (a b : Value) : Outcome :=
  match builtinBinary op a b with
  | some r => some r
  | none =>
    match op, a, b with
    | "+", .str x, y => found (.str (x ++ y.display))
    | "+", x, .str y => found (.str (x.display ++ y))
    | "+", .array xs, .array ys => found (.array (xs ++ ys))
    | "+", .map xs, .map ys => found (.map (ys.foldl (fun m (k, v) => insertEntry k v m) xs))
    | "==", .array _, .array _ | "==", .map _, .map _ => some (Value.bool <$> valueEq a b)
    | "!=", .array _, .array _ | "!=", .map _, .map _ => some ((fun r => Value.bool !r) <$> valueEq a b)
    | _, _, _ => none

def unaryOp (op : String) (a : Value) : Outcome :=
  match op, a with
  | "-", .int x => checkedInt (-x) s!"Negation overflow: -{x}"
  | "-", .float x => found (.float (-x))
  | "+", .int x => found (.int x)
  | "+", .float x => found (.float x)
  | "!", .bool b => found (.bool !b)
  | _, _ => none

def findIndex (pat : List Char) : List Char → Nat → Option Nat
  | [], i => if pat.isEmpty then some i else none
  | c :: cs, i => if (c :: cs).take pat.length == pat then some i else findIndex pat cs (i + 1)

def arrayIndex (v : Value) : List Value → Nat → Except EvalFault (Option Nat)
  | [], _ => .ok none
  | x :: xs, i => do
    if ← valueEq x v then return some i else arrayIndex v xs (i + 1)

/-- Characters of `s` from `start`, at most `len` of them; a negative start counts from the
end. -/
def subString (s : String) (start len : Int) : String :=
  let cs := s.toList
  if cs.isEmpty || len ≤ 0 then ""
  else if start < 0 then
    let off := if start.natAbs > cs.length then 0 else cs.length - start.natAbs
    String.ofList ((cs.drop off).take len.toNat)
  else if start.toNat ≥ cs.length then ""
  else String.ofList ((cs.drop start.toNat).take len.toNat)

/-- Why text is not a whole number, as the integer reader words it. -/
def parseIntFault (s : String) : Except String Int :=
  let (neg, digits) := match s.toList with
    | '-' :: r => (true, r)
    | '+' :: r => (false, r)
    | r => (false, r)
  if s.isEmpty then .error "cannot parse integer from empty string"
  else if digits.isEmpty then .error "invalid digit found in string"
  else
    digits.foldlM (fun (acc : Int) c =>
      if !c.isDigit then .error "invalid digit found in string"
      else
        let next := if neg then acc * 10 - (c.toNat - '0'.toNat) else acc * 10 + (c.toNat - '0'.toNat)
        if Value.fits next then .ok next
        else .error (if neg then "number too small to fit in target type" else "number too large to fit in target type")) 0

/-- A double in the positional form without a forced fractional part. -/
def plainFloat (x : Float) : String :=
  match floatDigits x with
  | some (neg, s) => (if neg then "-" else "") ++ positionalDigits s
  | none => if x == 0 then (if x.toBits ≥ 0x8000000000000000 then "-0" else "0") else nonFinite x

/-- The pieces of a text between occurrences of a separator; an empty separator cuts
before and after every character. -/
def splitOn (sep : String) (s : String) : List String :=
  if sep.isEmpty then "" :: (s.toList.map String.singleton ++ [""]) else s.splitOn sep

/-- The items of an array from a position, at most `len` of them; a negative start counts
from the end. -/
def extractItems (xs : List Value) (start len : Int) : List Value :=
  let off := if start ≥ 0 then start.toNat else xs.length - min start.natAbs xs.length
  if len ≤ 0 then [] else (xs.drop off).take len.toNat

def numberCall (name : String) (args : List Value) : Outcome :=
  match name, args with
  | "is_zero", [.int x] => found (.bool (x == 0))
  | "is_zero", [.float x] => found (.bool (x == 0))
  | "is_odd", [.int x] => found (.bool (x % 2 != 0))
  | "is_even", [.int x] => found (.bool (x % 2 == 0))
  | "sign", [.int x] => found (.int x.sign)
  | "sign", [.float x] =>
    if x.isNaN then overflow "Sign of NaN is undefined"
    else found (.int (if x == 0 then 0 else if x > 0 then 1 else -1))
  | "int", [.float x] => found (.float (if x.isNaN || x.isInf then x else (if x < 0 then -((-x).floor) else x.floor)))
  | "fraction", [.float x] =>
    found (.float (if x.isInf then 0.0 / 0.0 else x - (if x < 0 then -((-x).floor) else x.floor)))
  | "is_nan", [.float x] => found (.bool x.isNaN)
  | "is_finite", [.float x] => found (.bool x.isFinite)
  | "is_infinite", [.float x] => found (.bool x.isInf)
  | "exp", [.float x] => found (.float x.exp)
  | "ln", [.float x] => found (.float x.log)
  | "log", [.float x] => found (.float x.log10)
  | "log", [.float x, .float b] => found (.float (x.log / b.log))
  | "sin", [.float x] => found (.float x.sin)
  | "cos", [.float x] => found (.float x.cos)
  | "tan", [.float x] => found (.float x.tan)
  | "PI", [] => found (.float 3.141592653589793)
  | "E", [] => found (.float 2.718281828459045)
  | _, _ => none

/-- Library functions on texts, arrays and maps beyond the basic ones. Functions that change
their operand in place give unit. -/
def sequenceCall (name : String) (args : List Value) : Outcome :=
  match name, args with
  | "split", [.str s, .str sep] => found (.array ((splitOn sep s).map Value.str))
  | "split", [.str s, .char c] => found (.array ((splitOn c.toString s).map Value.str))
  | "split", [.str s] =>
    found (.array (((s.toList.splitBy fun a b => Text.isWhiteSpace a == Text.isWhiteSpace b).filter
      fun w => !w.all Text.isWhiteSpace).map fun w => .str (String.ofList w)))
  | "to_chars", [.str s] => found (.array (s.toList.map Value.char))
  | "bytes", [.str s] => found (.int s.utf8ByteSize)
  | "get", [.str s, .int i] =>
    let cs := s.toList
    let idx : Option Nat := if i ≥ 0 then some i.toNat
      else if i.natAbs > cs.length then none else some (cs.length - i.natAbs)
    found ((idx.bind fun j => cs[j]?).map Value.char |>.getD .unit)
  | "index_of", [.str s, .str t, .int start] =>
    let off := if start ≥ 0 then start.toNat else s.length - min start.natAbs s.length
    found (.int ((findIndex t.toList (s.toList.drop off) off).map Int.ofNat |>.getD (-1)))
  | "extract", [.array xs, .int start] => found (.array (extractItems xs start xs.length))
  | "extract", [.array xs, .int start, .int len] => found (.array (extractItems xs start len))
  | "pop", [.array xs] => found (xs.getLast?.getD .unit)
  | "shift", [.array xs] => found (xs.head?.getD .unit)
  | "remove", [.array xs, .int i] =>
    let idx : Option Nat := if i ≥ 0 then some i.toNat
      else if i.natAbs > xs.length then none else some (xs.length - i.natAbs)
    found ((idx.bind fun j => xs[j]?).getD .unit)
  | "remove", [.map m, .str k] => found ((m.lookup k).getD .unit)
  | "trim", [.str _] | "clear", [.str _] | "make_upper", [.str _] | "make_lower", [.str _] => found .unit
  | "replace", [.str _, _, _] | "pad", [.str _, .int _, _] | "truncate", [.str _, .int _] => found .unit
  | "crop", [.str _, .int _] | "crop", [.str _, .int _, .int _] | "append", [.str _, _] => found .unit
  | "push", [.array _, _] | "append", [.array _, .array _] | "clear", [.array _] => found .unit
  | "reverse", [.array _] | "sort", [.array _] | "dedup", [.array _] | "truncate", [.array _, .int _] =>
    found .unit
  | "insert", [.array _, .int _, _] | "clear", [.map _] => found .unit
  | _, _ => numberCall name args

def libraryCall (name : String) (args : List Value) : Outcome :=
  match name, args with
  | "len", [.str s] => found (.int s.length)
  | "len", [.array xs] => found (.int xs.length)
  | "len", [.map m] => found (.int m.length)
  | "is_empty", [.str s] => found (.bool s.isEmpty)
  | "is_empty", [.array xs] => found (.bool xs.isEmpty)
  | "is_empty", [.map m] => found (.bool m.isEmpty)
  | "to_string", [v] => found (.str v.display)
  | "to_debug", [v] => found (.str v.debug)
  | "print", [_] | "debug", [_] => found .unit
  | "to_upper", [.str s] => found (.str (Text.toUpper s))
  | "to_upper", [.char c] => found (.char (match Text.upperChar c with | [d] => d | _ => c))
  | "to_lower", [.str s] => found (.str (Text.toLower s))
  | "to_lower", [.char c] => found (.char (match Text.lowerChar c with | [d] => d | _ => c))
  | "contains", [.str s, .str t] => found (.bool (findIndex t.toList s.toList 0).isSome)
  | "contains", [.str s, .char c] => found (.bool (s.toList.contains c))
  | "contains", [.array xs, v] => some ((fun r => Value.bool r.isSome) <$> arrayIndex v xs 0)
  | "contains", [.map m, .str k] => found (.bool (m.lookup k).isSome)
  | "contains", [.range lo hi inc, .int n] => found (.bool (lo ≤ n && (if inc then n ≤ hi else n < hi)))
  | "starts_with", [.str s, .str t] => found (.bool (s.startsWith t))
  | "ends_with", [.str s, .str t] => found (.bool (s.endsWith t))
  | "index_of", [.str s, .str t] =>
    found (.int ((findIndex t.toList s.toList 0).map Int.ofNat |>.getD (-1)))
  | "index_of", [.str s, .char c] => found (.int ((s.toList.idxOf? c).map Int.ofNat |>.getD (-1)))
  | "index_of", [.array xs, v] => some ((fun r => Value.int ((r.map Int.ofNat).getD (-1))) <$> arrayIndex v xs 0)
  | "sub_string", [.str s, .int start, .int len] => found (.str (subString s start len))
  | "sub_string", [.str s, .int start] => found (.str (subString s start s.utf8ByteSize))
  | "trim", [.str _] => found .unit
  | "keys", [.map m] => found (.array (m.map fun (k, _) => .str k))
  | "values", [.map m] => found (.array (m.map Prod.snd))
  | "get", [.array xs, .int i] =>
    let idx : Option Nat := if i ≥ 0 then some i.toNat
      else if i.natAbs > xs.length then none else some (xs.length - i.natAbs)
    found ((idx.bind fun j => xs[j]?).getD .unit)
  | "get", [.map m, .str k] => found ((m.lookup k).getD .unit)
  | "abs", [.int x] => checkedInt x.natAbs s!"Negation overflow: -{x}"
  | "abs", [.float x] => found (.float x.abs)
  | "floor", [.float x] => found (.float x.floor)
  | "ceiling", [.float x] => found (.float x.ceil)
  | "round", [.float x] => found (.float x.round)
  | "sqrt", [.float x] => found (.float x.sqrt)
  | "to_int", [.int x] => found (.int x)
  | "to_int", [.char c] => found (.int c.toNat)
  | "to_int", [.float x] =>
    if x > intToFloat Value.maxInt || x < intToFloat Value.minInt then
      overflow ("Integer overflow: to_int(" ++ plainFloat x ++ ")")
    else found (.int x.toInt64.toInt)
  | "to_float", [.int x] => found (.float (intToFloat x))
  | "to_float", [.float x] => found (.float x)
  | "min", [.int x, .int y] => found (.int (min x y))
  | "max", [.int x, .int y] => found (.int (max x y))
  | "min", [.float x, .float y] => found (.float (if x ≤ y then x else y))
  | "max", [.float x, .float y] => found (.float (if x ≥ y then x else y))
  | "parse_int", [.str s] =>
    match parseIntFault (Text.trim s) with
    | .ok n => found (.int n)
    | .error why => overflow ("Error parsing integer number '" ++ s ++ "': " ++ why)
  | "parse_float", [.str s] =>
    let t := Text.trim s
    match Decimal.parseFloat? t with
    | some x => found (.float x)
    | none => overflow ("Error parsing floating-point number '" ++ s ++ "': " ++
        (if t.isEmpty then "cannot parse float from empty string" else "invalid float literal"))
  | _, _ => sequenceCall name args

end IntegrationFlow.Expr
