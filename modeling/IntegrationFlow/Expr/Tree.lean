import IntegrationFlow.Expr.Lexer
import IntegrationFlow.Expr.Value

/-!
The tree of a parsed condition and the faults of parsing. Every node keeps the position the
engine reports for it; `Ast.pos` and `Ast.startPos` give the two positions errors refer to:
the position of the node itself (for an operator its symbol, for a chain of postfix
operations the first of them) and the position where its text starts.
-/

namespace IntegrationFlow.Expr

/-- Why a condition does not parse. -/
inductive ParseFault where
  | badInput (e : LexFault)
  | unexpectedEof
  | unknownOperator (s : String)
  | missingToken (token detail : String)
  | reserved (s : String)
  | mismatchedType (expected actual : String)
  | exprExpected (s : String)
  | propertyExpected
  | duplicatedProperty (s : String)
  | duplicatedParam (s : String)
  | malformedIndex (s : String)
  | malformedCapture (s : String)
  | wrongSwitchDefaultCase
  | wrongSwitchCaseCondition
  | wrongSwitchIntegerCase
  | exprTooDeep
  deriving Inhabited

def ParseFault.message : ParseFault → String
  | .badInput e => e.message
  | .unexpectedEof => "Script is incomplete"
  | .unknownOperator s => "Unknown operator: '" ++ s ++ "'"
  | .missingToken t d => "Expecting '" ++ t ++ "' " ++ d
  | .reserved s => if isProperName s then "'" ++ s ++ "' is a reserved keyword"
    else "'" ++ s ++ "' is a reserved symbol"
  | .mismatchedType e a => "Expecting " ++ e ++ ", not " ++ a
  | .exprExpected s => "Expecting " ++ s ++ " expression"
  | .propertyExpected => "Expecting name of a property"
  | .duplicatedProperty s => "Duplicated property for object map literal: " ++ s
  | .duplicatedParam s => "Duplicated parameter " ++ s ++ " for function "
  | .malformedIndex s => s
  | .malformedCapture s => s
  | .wrongSwitchDefaultCase => "Default switch case must be the last"
  | .wrongSwitchCaseCondition => "This switch case cannot have a condition"
  | .wrongSwitchIntegerCase => "Numeric switch case cannot follow a range case"
  | .exprTooDeep => "Expression exceeds maximum complexity"

/-- A parse fault at a position. -/
structure ParseError where
  fault : ParseFault
  pos : SrcPos
  deriving Inhabited

/-- What a switch case matches: one value, or the integers of a range. -/
inductive CasePattern where
  | value (v : Value)
  | range (lo hi : Int) (inclusive : Bool)
  deriving Inhabited

/-- A parsed condition. Operators are calls by their symbol; `in` is a call of `contains`
with its operands swapped. -/
inductive Ast where
  | unit (pos : SrcPos)
  | bool (b : Bool) (pos : SrcPos)
  | int (n : Int) (pos : SrcPos)
  | float (f : Float) (pos : SrcPos)
  | str (s : String) (pos : SrcPos)
  | char (c : Char) (pos : SrcPos)
  /-- A back-quoted text with embedded expressions: the pieces are joined as text. -/
  | interp (parts : List Ast) (pos : SrcPos)
  | var (name : String) (pos : SrcPos)
  | array (items : List Ast) (pos : SrcPos)
  | map (entries : List (String × Ast)) (pos : SrcPos)
  /-- A call of a named function. -/
  | call (name : String) (args : List Ast) (pos : SrcPos)
  /-- An operator applied to its operands. -/
  | op (name : String) (args : List Ast) (pos : SrcPos)
  /-- `obj.name(args)`; `guarded` for `?.`, which gives unit on a unit object. -/
  | method (obj : Ast) (name : String) (args : List Ast) (guarded : Bool) (dot namePos : SrcPos)
  | prop (obj : Ast) (name : String) (guarded : Bool) (dot namePos : SrcPos)
  | index (obj idx : Ast) (guarded : Bool) (pos : SrcPos)
  | and (l r : Ast) (pos : SrcPos)
  | or (l r : Ast) (pos : SrcPos)
  /-- `l ?? r`: `r` when `l` is unit. -/
  | coalesce (l r : Ast) (pos : SrcPos)
  /-- A braced block; its value is that of its last expression. -/
  | block (stmts : List Ast) (pos : SrcPos)
  | ifElse (cond yes no : Ast) (pos : SrcPos)
  /-- The arms of the switch, each an `arm`, then the default result. -/
  | switch (subject : Ast) (arms : List Ast) (dflt : Option Ast) (pos : SrcPos)
  /-- A switch arm: its patterns, its guard (`true` when it has none) and its result. -/
  | arm (pats : List CasePattern) (guard action : Ast)
  | closure (params : List String) (body : Ast) (pos : SrcPos)
  deriving Inhabited

namespace Ast

def isPostfix : Ast → Bool
  | .method .. | .prop .. | .index .. => true
  | _ => false

/-- The position of a node: its own, or for a postfix chain that of its first operation. -/
def pos : Ast → SrcPos
  | .unit p | .bool _ p | .int _ p | .float _ p | .str _ p | .char _ p | .interp _ p
  | .var _ p | .array _ p | .map _ p | .call _ _ p | .op _ _ p | .and _ _ p | .or _ _ p
  | .coalesce _ _ p | .block _ p | .ifElse _ _ _ p | .switch _ _ _ p | .closure _ _ p => p
  | .arm _ _ action => action.pos
  | .method obj _ _ _ d _ => if obj.isPostfix then obj.pos else d
  | .prop obj _ _ d _ => if obj.isPostfix then obj.pos else d
  | .index obj _ _ p => if obj.isPostfix then obj.pos else p

def startPos : Ast → SrcPos
  | .and l _ _ | .or l _ _ | .coalesce l _ _ => l.startPos
  | .method obj .. | .prop obj .. | .index obj .. => obj.startPos
  | e => e.pos

def selfTerminated : Ast → Bool
  | .block .. | .ifElse .. | .switch .. => true
  | _ => false

def literal? : Ast → Option CasePattern
  | .unit _ => some (.value .unit)
  | .bool b _ => some (.value (.bool b))
  | .int n _ => some (.value (.int n))
  | .float f _ => some (.value (.float f))
  | .str s _ => some (.value (.str s))
  | .char c _ => some (.value (.char c))
  | .op ".." [.int a _, .int b _] _ => some (.range a b false)
  | .op "..=" [.int a _, .int b _] _ => some (.range a b true)
  | _ => none

/-- The name an anonymous function is known by: the position of its first bar, which no
other function of the condition shares. -/
def closureName (p : SrcPos) : String := "anon$" ++ toString p.line ++ "_" ++ toString p.col

mutual
/-- The anonymous functions written in a node, outermost first: name, parameters, body. -/
def closures : Ast → List (String × List String × Ast)
  | .interp parts _ | .array parts _ | .call _ parts _ | .op _ parts _ | .block parts _ =>
    closuresOf parts
  | .map entries _ => closuresOfEntries entries
  | .method obj _ args _ _ _ => closures obj ++ closuresOf args
  | .prop obj _ _ _ _ => closures obj
  | .index obj idx _ _ | .and obj idx _ | .or obj idx _ | .coalesce obj idx _ =>
    closures obj ++ closures idx
  | .ifElse c yes no _ => closures c ++ closures yes ++ closures no
  | .switch subject arms dflt _ => closures subject ++ closuresOf arms ++ closuresOfOption dflt
  | .arm _ guard action => closures guard ++ closures action
  | .closure params body p => (closureName p, params, body) :: closures body
  | _ => []

def closuresOf : List Ast → List (String × List String × Ast)
  | [] => []
  | e :: es => closures e ++ closuresOf es

def closuresOfEntries : List (String × Ast) → List (String × List String × Ast)
  | [] => []
  | (_, e) :: es => closures e ++ closuresOfEntries es

def closuresOfOption : Option Ast → List (String × List String × Ast)
  | none => []
  | some e => closures e
end

/-- A condition that is a literal of another type than boolean is refused where a boolean
is needed. -/
def ensureBool (e : Ast) : Except ParseError Ast :=
  let wrong (what : String) : Except ParseError Ast :=
    .error ⟨.mismatchedType "a boolean expression" what, e.startPos⟩
  match e with
  | .unit _ => wrong "()"
  | .int .. => wrong "a number"
  | .float .. => wrong "a floating-point number"
  | .char .. => wrong "a character"
  | .str .. | .interp .. => wrong "a string"
  | .array .. => wrong "an array"
  | .map .. => wrong "an object map"
  | e => .ok e

end Ast

end IntegrationFlow.Expr
