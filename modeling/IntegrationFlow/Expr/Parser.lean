import IntegrationFlow.Expr.Tree

/-!
Parsing a condition by precedence climbing over its tokens, from `||` loosest to the shifts
tightest, with unary and postfix operators tighter still; anything left after the one
expression is refused. Every function takes fuel bounding the depth of nested calls, a multiple
of the number of tokens, which every parse stays within.
-/

namespace IntegrationFlow.Expr

/-- The tokens still to read; the last is always the end of the text. -/
abbrev Stream := List (Token × SrcPos)

def peekTok (ts : Stream) : Token × SrcPos := ts.headD (.eof, {})

def skipTok (ts : Stream) : Stream :=
  match ts with
  | [t] => [t]
  | _ :: rest => rest
  | [] => []

def Token.text : Token → String
  | .int n => toString n
  | .float f => floatDisplay f
  | .str s => "\"" ++ s ++ "\""
  | .interp _ => "string"
  | .chr c => c.toString
  | .ident s | .reserved s | .sym s => s
  | .unaryPlus => "+"
  | .unaryMinus => "-"
  | .bad e => e.message
  | .eof => "\x7bEOF\x7d"

/-- The binding strength of a binary operator; zero for tokens that are not one. -/
def precedence : Token → Nat
  | .sym s =>
    if s == "||" || s == "|" || s == "^" then 30
    else if s == "&&" || s == "&" then 60
    else if s == "==" || s == "!=" then 90
    else if s == "in" || s == "!in" then 110
    else if s == "<" || s == "<=" || s == ">" || s == ">=" then 130
    else if s == "??" then 135
    else if s == ".." || s == "..=" then 140
    else if s == "+" || s == "-" then 150
    else if s == "/" || s == "*" || s == "%" then 180
    else if s == "**" then 190
    else if s == "<<" || s == ">>" then 210
    else 0
  | _ => 0

def failAt (f : ParseFault) (p : SrcPos) : Except ParseError α := .error ⟨f, p⟩

/-- A reserved symbol where an operator may stand is an unknown operator. -/
def checkOperator (t : Token × SrcPos) : Except ParseError Unit :=
  match t with
  | (.reserved s, p) => if isProperName s then .ok () else failAt (.unknownOperator s) p
  | _ => .ok ()

/-- Whether a token continues an expression as a postfix operation. -/
def acceptsPostfix (e : Ast) (t : Token) : Bool :=
  t.isSym "." || t.isSym "?." || t.isSym "[" || t.isSym "?[" ||
    (match e with
     | .var .. => t.isSym "(" || t.isSym "()" || t.isSym "!"
     | _ => false)

/-- The node of a binary operator: comparisons sit at the start of their left operand,
`in` calls `contains` with the operands swapped. -/
def binaryNode (op : String) (l r : Ast) (p : SrcPos) : Except ParseError Ast :=
  if op == "==" || op == "<" || op == "<=" || op == ">" || op == ">=" then .ok (.op op [l, r] l.startPos)
  else if op == "||" then do
    let r ← r.ensureBool
    let l ← l.ensureBool
    return .or l r p
  else if op == "&&" then do
    let r ← r.ensureBool
    let l ← l.ensureBool
    return .and l r p
  else if op == "??" then .ok (.coalesce l r p)
  else if op == "in" then .ok (.call "contains" [r, l] p)
  else if op == "!in" then .ok (.op "!" [.call "contains" [r, l] p] p)
  else .ok (.op op [l, r] p)

def checkIndex (obj idx : Ast) : Except ParseError Unit :=
  let bad (msg : String) : Except ParseError Unit := failAt (.malformedIndex msg) idx.startPos
  match obj with
  | .map .. =>
    match idx with
    | .int .. => bad "Object map expects string index, not a number"
    | .float .. => bad "Object map expects string index, not a float"
    | .char .. => bad "Object map expects string index, not a character"
    | .unit _ => bad "Object map expects string index, not ()"
    | .and .. | .or .. | .bool .. => bad "Object map expects string index, not a boolean"
    | _ => .ok ()
  | .int .. | .array .. | .str .. | .interp .. =>
    match idx with
    | .str .. | .interp .. => bad "Array, string or bit-field expects numeric index, not a string"
    | .float .. => bad "Array, string or bit-field expects integer index, not a float"
    | .char .. => bad "Array, string or bit-field expects integer index, not a character"
    | .unit _ => bad "Array, string or bit-field expects integer index, not ()"
    | .and .. | .or .. | .bool .. => bad "Array, string or bit-field expects integer index, not a boolean"
    | _ => .ok ()
  | _ => .ok ()

def notBlock (ts : Stream) : Except ParseError Unit :=
  match peekTok ts with
  | (.sym "\x7b", p) => failAt (.exprExpected "a boolean") p
  | _ => .ok ()

def notAssignment (ts : Stream) : Except ParseError Unit :=
  match peekTok ts with
  | (.sym "=", p) => failAt (.badInput (.improperSymbol "=" "Possibly a typo of '=='?")) p
  | _ => .ok ()

/-- The patterns of a switch case, checked to be literals; a number may not follow a range. -/
def casePatterns (exprs : List Ast) (rangesBefore : Bool) : Except ParseError (List CasePattern × Bool) :=
  exprs.foldlM (fun (acc : List CasePattern × Bool) e =>
    match e.literal? with
    | none => failAt (.exprExpected "a literal") e.startPos
    | some (.range a b inc) =>
      let empty := if inc then b < a else b ≤ a
      .ok (if empty then acc else (acc.1 ++ [.range a b inc], true))
    | some (.value v) =>
      match v with
      | .int _ | .float _ => if acc.2 then failAt .wrongSwitchIntegerCase e.startPos
        else .ok (acc.1 ++ [.value v], acc.2)
      | _ => .ok (acc.1 ++ [.value v], acc.2)) ([], rangesBefore)

/-- The name of a map literal entry: a name or a string not used before. -/
def entryName (tok : Token) (q : SrcPos) (seen : List String) : Except ParseError String :=
  let missing := ParseFault.missingToken "\x7d" "to end this object map literal"
  match tok with
  | .ident s | .str s => if seen.contains s then failAt (.duplicatedProperty s) q else .ok s
  | .interp _ => failAt .propertyExpected q
  | .reserved s =>
    if isProperName s then failAt (.reserved s) q
    else if seen.isEmpty then failAt missing q
    else failAt .propertyExpected q
  | .bad err => failAt (.badInput err) q
  | _ => if seen.isEmpty then failAt missing q else failAt .propertyExpected q

mutual

/-- An expression: a unary operand, then binary operators. `stopPipe` ends it at `|`, as in
the values of a switch case. -/
def parseExpr : Nat → Bool → Stream → Except ParseError (Ast × Stream)
  | 0, _, ts => failAt .exprTooDeep (peekTok ts).2
  | f + 1, stopPipe, ts => do
    let (lhs, ts) ← parseUnary f ts
    parseBinary f stopPipe 1 lhs ts

/-- Binary operators binding at least as strongly as `parent`, applied to `lhs`. -/
def parseBinary : Nat → Bool → Nat → Ast → Stream → Except ParseError (Ast × Stream)
  | 0, _, _, _, ts => failAt .exprTooDeep (peekTok ts).2
  | f + 1, stopPipe, parent, lhs, ts => do
    let (tok, p) := peekTok ts
    if stopPipe && tok.isSym "|" then return (lhs, ts)
    checkOperator (tok, p)
    let prec := precedence tok
    let right := tok.isSym "**"
    if prec < parent || (prec == parent && !right) then return (lhs, ts)
    let ts := skipTok ts
    let (rhs, ts) ← parseUnary f ts
    let next := peekTok ts
    checkOperator next
    let nextPrec := precedence next.1
    let (rhs, ts) ←
      if (prec == nextPrec && right) || prec < nextPrec then parseBinary f stopPipe prec rhs ts
      else pure (rhs, ts)
    let opText := match tok with
      | .sym s => s
      | t => t.text
    let root ← binaryNode opText lhs rhs p
    parseBinary f stopPipe parent root ts

/-- A unary operand: signs and `!` before a primary expression. A sign on a literal number
is folded into it. -/
def parseUnary : Nat → Stream → Except ParseError (Ast × Stream)
  | 0, ts => failAt .exprTooDeep (peekTok ts).2
  | f + 1, ts =>
    match peekTok ts with
    | (.sym "-", p) | (.unaryMinus, p) => do
      let (e, ts) ← parseUnary f (skipTok ts)
      match e with
      | .int n _ => return (if n == Value.minInt then .float (-(Float.ofInt n)) p else .int (-n) p, ts)
      | .float x _ => return (.float (-x) p, ts)
      | e => return (.op "-" [e] p, ts)
    | (.sym "+", p) | (.unaryPlus, p) => do
      let (e, ts) ← parseUnary f (skipTok ts)
      match e with
      | .int .. | .float .. => return (e, ts)
      | e => return (.op "+" [e] p, ts)
    | (.sym "!", p) => do
      let (e, ts) ← parseUnary f (skipTok ts)
      return (.op "!" [e] p, ts)
    | (.eof, p) => failAt .unexpectedEof p
    | _ => parsePrimary f ts

def parsePrimary : Nat → Stream → Except ParseError (Ast × Stream)
  | 0, ts => failAt .exprTooDeep (peekTok ts).2
  | f + 1, ts => do
    let (tok, p) := peekTok ts
    let rest := skipTok ts
    let (root, ts) ← match tok with
      | .eof => failAt .unexpectedEof p
      | .sym "()" => pure (Ast.unit p, rest)
      | .int n => pure (.int n p, rest)
      | .float x => pure (.float x p, rest)
      | .chr c => pure (.char c p, rest)
      | .str s => pure (.str s p, rest)
      | .sym "true" => pure (.bool true p, rest)
      | .sym "false" => pure (.bool false p, rest)
      | .sym "(" => do
        let (e, ts) ← parseExpr f false rest
        match peekTok ts with
        | (.sym ")", _) => pure (e, skipTok ts)
        | (.bad err, q) => failAt (.badInput err) q
        | (_, q) => failAt (.missingToken ")" "for a matching ( in this expression") q
      | .sym "if" => parseIf f ts
      | .sym "switch" => parseSwitch f ts
      | .sym "|" | .sym "||" => parseClosure f ts
      | .interp s => parseInterp f (if s.isEmpty then [] else [.str s p]) p rest
      | .sym "[" => parseItems f [] p rest
      | .sym "#\x7b" => parseEntries f [] p rest
      | .ident name => pure (.var name p, rest)
      | .reserved s =>
        match peekTok rest with
        | (.sym "(", _) | (.sym "!", _) | (.sym "()", _) =>
          if reservedCallable.contains s then pure (.var s p, rest) else failAt (.reserved s) p
        | _ =>
          if s == "this" then
            failAt (.badInput (.improperSymbol s "'this' can only be used in functions")) p
          else failAt (.reserved s) p
      | .bad e => failAt (.badInput e) p
      | t => failAt (.badInput (.unexpectedInput t.text)) p
    parsePostfix f root ts

def parsePostfix : Nat → Ast → Stream → Except ParseError (Ast × Stream)
  | 0, _, ts => failAt .exprTooDeep (peekTok ts).2
  | f + 1, lhs, ts => do
    let (tok, p) := peekTok ts
    if !acceptsPostfix lhs tok then return (lhs, ts)
    let rest := skipTok ts
    match lhs, tok with
    | .var name np, .sym "!" =>
      match peekTok rest with
      | (.sym "(", _) => do
        let (e, ts) ← parseCall f name np false (skipTok rest)
        parsePostfix f e ts
      | (.sym "()", _) => do
        let (e, ts) ← parseCall f name np true (skipTok rest)
        parsePostfix f e ts
      | (_, q) => failAt (.missingToken "(" "to start arguments list of function call") q
    | .var name np, .sym "(" => do
      let (e, ts) ← parseCall f name np false rest
      parsePostfix f e ts
    | .var name np, .sym "()" => do
      let (e, ts) ← parseCall f name np true rest
      parsePostfix f e ts
    | _, .sym "[" | _, .sym "?[" => do
      let (idx, ts) ← parseExpr f false rest
      checkIndex lhs idx
      match peekTok ts with
      | (.sym "]", _) => parsePostfix f (.index lhs idx (tok.isSym "?[") p) (skipTok ts)
      | (.bad err, q) => failAt (.badInput err) q
      | (_, q) => failAt (.missingToken "]" "for a matching [ in this index expression") q
    | _, _ =>
      let guarded := tok.isSym "?."
      let name? : Except ParseError (String × SrcPos) := match peekTok rest with
        | (.ident n, q) => .ok (n, q)
        | (.reserved s, q) => if reservedProperty.contains s then .ok (s, q) else failAt (.reserved s) q
        | (_, q) => failAt .propertyExpected q
      let (name, np) ← name?
      let after := skipTok rest
      match peekTok after with
      | (.sym "(", _) => do
        let (c, ts) ← parseCall f name np false (skipTok after)
        match c with
        | .call _ args _ => parsePostfix f (.method lhs name args guarded p np) ts
        | _ => parsePostfix f c ts
      | (.sym "()", _) => parsePostfix f (.method lhs name [] guarded p np) (skipTok after)
      | (.sym "!", _) =>
        failAt (.malformedCapture "method-call style does not support running within the caller's scope") np
      | _ => parsePostfix f (.prop lhs name guarded p np) after

/-- The arguments of a call of `name` at `np`, after its opening parenthesis. -/
def parseCall : Nat → String → SrcPos → Bool → Stream → Except ParseError (Ast × Stream)
  | 0, _, _, _, ts => failAt .exprTooDeep (peekTok ts).2
  | f + 1, name, np, noArgs, ts =>
    if noArgs then .ok (.call name [] np, ts)
    else
      match peekTok ts with
      | (.eof, q) =>
        failAt (.missingToken ")" ("to close the arguments list of this function call '" ++ name ++ "'")) q
      | (.bad err, q) => failAt (.badInput err) q
      | (.sym ")", _) => .ok (.call name [] np, skipTok ts)
      | _ => do
        let (args, ts) ← parseArgs f name [] ts
        return (.call name args np, ts)

/-- Arguments separated by commas up to the closing parenthesis; a trailing comma is
allowed. -/
def parseArgs : Nat → String → List Ast → Stream → Except ParseError (List Ast × Stream)
  | 0, _, _, ts => failAt .exprTooDeep (peekTok ts).2
  | f + 1, name, acc, ts => do
    let (acc, ts) ← match peekTok ts with
      | (.sym ")", _) => pure (acc, ts)
      | _ => do
        let (e, ts) ← parseExpr f false ts
        pure (acc ++ [e], ts)
    match peekTok ts with
    | (.sym ")", _) => return (acc, skipTok ts)
    | (.sym ",", _) => parseArgs f name acc (skipTok ts)
    | (.eof, q) =>
      failAt (.missingToken ")" ("to close the arguments list of this function call '" ++ name ++ "'")) q
    | (.bad err, q) => failAt (.badInput err) q
    | (_, q) => failAt (.missingToken "," ("to separate the arguments to function call '" ++ name ++ "'")) q

/-- The items of an array literal after its opening bracket at `p`. -/
def parseItems : Nat → List Ast → SrcPos → Stream → Except ParseError (Ast × Stream)
  | 0, _, _, ts => failAt .exprTooDeep (peekTok ts).2
  | f + 1, acc, p, ts =>
    let missing := ParseFault.missingToken "]" "to end this array literal"
    match peekTok ts with
    | (.sym "]", _) => .ok (.array acc p, skipTok ts)
    | (.eof, q) => failAt missing q
    | _ => do
      let (e, ts) ← parseExpr f false ts
      let acc := acc ++ [e]
      match peekTok ts with
      | (.sym ",", _) => parseItems f acc p (skipTok ts)
      | (.sym "]", _) => .ok (.array acc p, skipTok ts)
      | (.eof, q) => failAt missing q
      | (.bad err, q) => failAt (.badInput err) q
      | (_, q) => failAt (.missingToken "," "to separate the items of this array literal") q

def parseEntries : Nat → List (String × Ast) → SrcPos → Stream → Except ParseError (Ast × Stream)
  | 0, _, _, ts => failAt .exprTooDeep (peekTok ts).2
  | f + 1, acc, p, ts =>
    let missing := ParseFault.missingToken "\x7d" "to end this object map literal"
    match peekTok ts with
    | (.sym "\x7d", _) => .ok (.map acc p, skipTok ts)
    | (.eof, q) => failAt missing q
    | (tok, q) => do
      let name ← entryName tok q (acc.map (·.1))
      let ts := skipTok ts
      let ts ← match peekTok ts with
        | (.sym ":", _) => pure (skipTok ts)
        | (.bad err, r) => failAt (.badInput err) r
        | (_, r) => failAt (.missingToken ":" ("to follow the property '" ++ name ++
            "' in this object map literal")) r
      let (e, ts) ← parseExpr f false ts
      let acc := acc ++ [(name, e)]
      match peekTok ts with
      | (.sym ",", _) => parseEntries f acc p (skipTok ts)
      | (.sym "\x7d", _) => .ok (.map acc p, skipTok ts)
      | (.ident _, r) => failAt (.missingToken "," "to separate the items of this object map literal") r
      | (.bad err, r) => failAt (.badInput err) r
      | (_, r) => failAt missing r

def parseBlock : Nat → Stream → Except ParseError (Ast × Stream)
  | 0, ts => failAt .exprTooDeep (peekTok ts).2
  | f + 1, ts =>
    match peekTok ts with
    | (.sym "\x7b", p) => parseStatements f [] p (skipTok ts)
    | (.bad err, q) => failAt (.badInput err) q
    | (_, q) => failAt (.missingToken "\x7b" "to start a statement block") q

/-- The statements of a block opened at `p`, up to its closing brace. -/
def parseStatements : Nat → List Ast → SrcPos → Stream → Except ParseError (Ast × Stream)
  | 0, _, _, ts => failAt .exprTooDeep (peekTok ts).2
  | f + 1, acc, p, ts =>
    match peekTok ts with
    | (.sym "\x7d", _) => .ok (.block acc p, skipTok ts)
    | (.eof, q) => failAt (.missingToken "\x7d" "to terminate this block") q
    | _ => do
      let (e, ts) ← parseExpr f false ts
      let acc := acc ++ [e]
      match peekTok ts with
      | (.sym "\x7d", _) => .ok (.block acc p, skipTok ts)
      | (.sym ";", _) => parseStatements f acc p (skipTok ts)
      | (.bad err, q) => if e.selfTerminated then parseStatements f acc p ts else failAt (.badInput err) q
      | (_, q) =>
        if e.selfTerminated then parseStatements f acc p ts
        else failAt (.missingToken ";" "to terminate this statement") q

def parseIf : Nat → Stream → Except ParseError (Ast × Stream)
  | 0, ts => failAt .exprTooDeep (peekTok ts).2
  | f + 1, ts => do
    let p := (peekTok ts).2
    let ts := skipTok ts
    notBlock ts
    let (cond, ts) ← parseExpr f false ts
    let cond ← cond.ensureBool
    notAssignment ts
    let (yes, ts) ← parseBlock f ts
    if (peekTok ts).1.isSym "else" then
      let ts := skipTok ts
      let (no, ts) ← if (peekTok ts).1.isSym "if" then parseIf f ts else parseBlock f ts
      return (.ifElse cond yes no p, ts)
    else return (.ifElse cond yes (.block [] p) p, ts)

def parseSwitch : Nat → Stream → Except ParseError (Ast × Stream)
  | 0, ts => failAt .exprTooDeep (peekTok ts).2
  | f + 1, ts => do
    let p := (peekTok ts).2
    let (subject, ts) ← parseExpr f false (skipTok ts)
    match peekTok ts with
    | (.sym "\x7b", _) => parseCases f subject [] none false p (skipTok ts)
    | (.bad err, q) => failAt (.badInput err) q
    | (_, q) => failAt (.missingToken "\x7b" "to start a switch block") q

/-- The cases of a switch; `dflt` holds the default case and its position once read,
`ranges` whether a range case was read. -/
def parseCases : Nat → Ast → List Ast →
    Option (Ast × SrcPos) → Bool → SrcPos → Stream → Except ParseError (Ast × Stream)
  | 0, _, _, _, _, _, ts => failAt .exprTooDeep (peekTok ts).2
  | f + 1, subject, cases, dflt, ranges, p, ts => do
    let (tok, q) := peekTok ts
    if tok.isSym "\x7d" then return (.switch subject cases (dflt.map (·.1)) p, skipTok ts)
    if let .eof := tok then failAt (.missingToken "\x7d" "to end this switch block") q
    let isDefault := tok.isSym "_"
    if let some (_, dp) := dflt then failAt .wrongSwitchDefaultCase dp
    let (values, guard, ts) ← if isDefault then do
        let ts := skipTok ts
        match peekTok ts with
        | (.sym "if", r) => failAt .wrongSwitchCaseCondition r
        | _ => pure ([], none, ts)
      else do
        let (values, ts) ← parseCaseValues f [] ts
        if (peekTok ts).1.isSym "if" then
          let ts := skipTok ts
          notBlock ts
          let (g, ts) ← parseExpr f false ts
          let g ← g.ensureBool
          notAssignment ts
          pure (values, some g, ts)
        else pure (values, none, ts)
    let ts ← match peekTok ts with
      | (.sym "=>", _) => pure (skipTok ts)
      | (.bad err, r) => failAt (.badInput err) r
      | (_, r) => failAt (.missingToken "=>" "in this switch case") r
    let (action, ts) ← parseExpr f false ts
    let (cases, dflt, ranges) ← if isDefault then pure (cases, some (action, q), ranges)
      else do
        let (pats, ranges) ← casePatterns values ranges
        pure (cases ++ [.arm pats (guard.getD (.bool true q)) action], dflt, ranges)
    match peekTok ts with
    | (.sym ",", _) => parseCases f subject cases dflt ranges p (skipTok ts)
    | (.sym "\x7d", _) => parseCases f subject cases dflt ranges p ts
    | (.eof, r) => failAt (.missingToken ")" "to end this switch block") r
    | (.bad err, r) => failAt (.badInput err) r
    | (_, r) => failAt (.missingToken "," "to separate the items in this switch block") r

def parseCaseValues : Nat → List Ast → Stream → Except ParseError (List Ast × Stream)
  | 0, _, ts => failAt .exprTooDeep (peekTok ts).2
  | f + 1, acc, ts => do
    let (e, ts) ← parseExpr f true ts
    let acc := acc ++ [e]
    if (peekTok ts).1.isSym "|" then parseCaseValues f acc (skipTok ts) else return (acc, ts)

/-- An anonymous function `|a, b| body` or `|| body`, at its first bar. -/
def parseClosure : Nat → Stream → Except ParseError (Ast × Stream)
  | 0, ts => failAt .exprTooDeep (peekTok ts).2
  | f + 1, ts => do
    let (tok, p) := peekTok ts
    let ts := skipTok ts
    let (params, ts) ←
      if tok.isSym "||" then pure ([], ts)
      else if (peekTok ts).1.isSym "|" then pure ([], skipTok ts)
      else parseParams f [] ts
    let (body, ts) ← if (peekTok ts).1.isSym "\x7b" then parseBlock f ts else parseExpr f false ts
    return (.closure params body p, ts)

def parseParams : Nat → List String → Stream → Except ParseError (List String × Stream)
  | 0, _, ts => failAt .exprTooDeep (peekTok ts).2
  | f + 1, acc, ts => do
    let acc ← match peekTok ts with
      | (.ident s, q) => if acc.contains s then failAt (.duplicatedParam s) q else pure (acc ++ [s])
      | (.bad err, q) => failAt (.badInput err) q
      | (.reserved s, q) => failAt (.reserved s) q
      | (_, q) => failAt (.missingToken "|" "to close the parameters list of anonymous function or closure") q
    let ts := skipTok ts
    match peekTok ts with
    | (.sym "|", _) => return (acc, skipTok ts)
    | (.sym ",", _) => parseParams f acc (skipTok ts)
    | (.bad err, q) => failAt (.badInput err) q
    | (_, q) => failAt (.missingToken "," "to separate the parameters of anonymous function") q

/-- The rest of a back-quoted text with embedded expressions, whose pieces so far are
`parts`: an embedded block, then more text. -/
def parseInterp : Nat → List Ast → SrcPos → Stream → Except ParseError (Ast × Stream)
  | 0, _, _, ts => failAt .exprTooDeep (peekTok ts).2
  | f + 1, parts, p, ts => do
    let (blk, ts) ← parseBlock f ts
    let parts := match blk with
      | .str "" _ => parts
      | b => parts ++ [b]
    match peekTok ts with
    | (.str s, q) => return (.interp (if s.isEmpty then parts else parts ++ [.str s q]) p, skipTok ts)
    | (.interp s, q) => parseInterp f (if s.isEmpty then parts else parts ++ [.str s q]) p (skipTok ts)
    | (.bad err, q) => failAt (.badInput err) q
    | (_, q) => failAt (.badInput .unterminatedString) q

end

def parseCondition (text : String) : Except ParseError Ast := do
  let ts := (tokenize text).toList
  let (e, ts) ← parseExpr (8 * ts.length + 64) false ts
  match peekTok ts with
  | (.eof, _) => return e
  | (.bad err, q) => failAt (.badInput err) q
  | (t, q) => failAt (.badInput (.unexpectedInput t.text)) q

end IntegrationFlow.Expr
