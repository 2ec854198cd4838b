import IntegrationFlow.Decimal.Parse
import IntegrationFlow.Text.WhiteSpace

/-!
Cutting a condition into tokens. A position names the last character read, lines and
characters counted from 1; whether a `+` or `-` is a sign depends on the token before it, and
back-quoted texts may embed expressions in `${ … }`, so the scan carries a stack of braces.
-/

namespace IntegrationFlow.Expr

/-- A place in a condition: the line, from 1, and the character within the line. -/
structure SrcPos where
  line : Nat := 1
  col : Nat := 0
  deriving BEq, Repr, Inhabited

namespace SrcPos

def advance (p : SrcPos) : SrcPos := { p with col := p.col + 1 }

def newLine (p : SrcPos) : SrcPos := { line := p.line + 1, col := 0 }

def render (p : SrcPos) : String := s!"line {p.line}, position {p.col}"

end SrcPos

/-- Why a piece of the text is not a token. -/
inductive LexFault where
  | unexpectedInput (s : String)
  | malformedEscape (s : String)
  | malformedNumber (s : String)
  | malformedChar (s : String)
  | malformedIdentifier (s : String)
  | unterminatedString
  | improperSymbol (s detail : String)
  deriving Inhabited

def LexFault.message : LexFault → String
  | .unexpectedInput s => "Unexpected '" ++ s ++ "'"
  | .malformedEscape s => "Invalid escape sequence: '" ++ s ++ "'"
  | .malformedNumber s => "Invalid number: '" ++ s ++ "'"
  | .malformedChar s => "Invalid character: '" ++ s ++ "'"
  | .malformedIdentifier s => "Variable name is not proper: '" ++ s ++ "'"
  | .unterminatedString => "Open string is not terminated"
  | .improperSymbol s d => if d.isEmpty then "Invalid symbol encountered: '" ++ s ++ "'" else d

/-- A token of a condition. Keywords and punctuation are `sym` with their text. -/
inductive Token where
  | int (n : Int)
  | float (f : Float)
  | str (s : String)
  /-- The leading text of a back-quoted text that goes on with an embedded expression. -/
  | interp (s : String)
  | chr (c : Char)
  | ident (s : String)
  /-- A word or symbol kept for later use. -/
  | reserved (s : String)
  | sym (s : String)
  | unaryPlus
  | unaryMinus
  | bad (e : LexFault)
  | eof
  deriving Inhabited

def Token.isSym (t : Token) (s : String) : Bool :=
  match t with
  | .sym x => x == s
  | _ => false

def isAsciiAlpha (c : Char) : Bool := ('a' ≤ c ∧ c ≤ 'z') ∨ ('A' ≤ c ∧ c ≤ 'Z')

def isIdentChar (c : Char) : Bool := isAsciiAlpha c || c.isDigit || c == '_'

/-- Whether a word is a proper variable name: underscores, then a letter, then letters,
digits and underscores. -/
def isProperName (w : String) : Bool :=
  let rec go : List Char → Bool → Bool
    | [], seen => seen
    | c :: cs, seen =>
      if c == '_' then go cs seen
      else if isAsciiAlpha c then go cs true
      else if !seen then false
      else if c.isDigit then go cs seen
      else false
  go w.toList false

def keywords : List String :=
  ["true", "false", "let", "const", "if", "else", "switch", "do", "while", "until", "loop",
   "for", "in", "continue", "break", "return", "throw", "try", "catch", "import", "export",
   "as", "fn", "private", "global"]

def reservedWords : List String :=
  ["?", "use", "case", "async", "public", "package", "super", "#", "var", "protected", "spawn",
   "shared", "is", "===", "sync", "curry", "static", "default", "!==", "is_shared", "print",
   "#!", "this", "is_def_var", "thread", "is_def_fn", "yield", "new", "call", "match", "~",
   "!.", "eval", "await", ":=", "...", "null", "@", "type_of", "nil", "Fn", "::<", "(*", "*)",
   "module", "->", "with", "<-", "goto", "exit", "debug"]

def reservedCallable : List String :=
  ["curry", "is_shared", "print", "is_def_var", "is_def_fn", "call", "eval", "type_of", "Fn",
   "debug"]

def reservedProperty : List String := ["curry", "is_shared", "call", "type_of"]

def improperSymbol (s : String) : Token :=
  let hint := match s with
    | "===" => "'===' is not a valid operator. This is not JavaScript! Should it be '=='?"
    | "!==" => "'!==' is not a valid operator. This is not JavaScript! Should it be '!='?"
    | "->" => "'->' is not a valid symbol. This is not C or C++!"
    | "<-" => "'<-' is not a valid symbol. This is not Go! Should it be '<='?"
    | ":=" => "':=' is not a valid assignment operator. This is not Go or Pascal! Should it be simply '='?"
    | ":;" => "':;' is not a valid symbol. Should it be '::'?"
    | "::<" => "'::<>' is not a valid symbol. This is not Rust! Should it be '::'?"
    | "# \x7b" => "'#' is not a valid symbol. Should it be '#\x7b'?"
    | _ => "'(* .. *)' is not a valid comment format. This is not Pascal! Should it be '/* .. */'?"
  .bad (.improperSymbol s hint)

/-- The token of a word: a keyword, the underscore, a reserved word or a name. -/
def wordToken (w : String) : Token :=
  if keywords.contains w || w == "_" then .sym w
  else if reservedWords.contains w then .reserved w
  else if isProperName w then .ident w
  else .bad (.malformedIdentifier w)

def signAfter : List String :=
  [";", ":", ",", "??", "..", "..=", "\x7b", "(", "[", "+", "+=", "-", "-=", "*", "*=", "/",
   "/=", "%", "%=", "**", "**=", "<<", "<<=", ">>", ">>=", "=", "==", "!=", "<", ">", "!",
   "<=", ">=", "|", "&", "if", "while", "until", "in", "!in", "&&", "&=", "||", "|=", "^",
   "^=", "return", "throw", "?["]

def Token.opensOperand : Token → Bool
  | .sym s => signAfter.contains s
  | .unaryPlus | .unaryMinus | .bad _ => true
  | _ => false

def radixDigit : Option Nat → Char → Bool
  | none, c => c.isDigit
  | some 16, c => c.isDigit || ('a' ≤ c ∧ c ≤ 'f') || ('A' ≤ c ∧ c ≤ 'F')
  | some 8, c => '0' ≤ c ∧ c ≤ '7'
  | some _, c => c == '0' || c == '1'

def radixOf (c : Char) : Nat :=
  if c == 'x' || c == 'X' then 16 else if c == 'o' || c == 'O' then 8 else 2

/-- Reads the rest of a number literal that began with `first`: digits of the base (with `_`
separators dropped), a decimal point followed by a digit or by a non-letter (then `.0` is
understood), an exponent, or a base prefix right after a leading `0`. Returns the text, the
base, the rest and the position of the last character read. -/
def numberTail (first : Char) : List Char → String → Option Nat → SrcPos →
    String × Option Nat × List Char × SrcPos
  | [], text, radix, pos => (text, radix, [], pos)
  | c :: rest, text, radix, pos =>
    if c == '_' then numberTail first rest text radix pos.advance
    else if radixDigit radix c then numberTail first rest (text.push c) radix pos.advance
    else if c == '.' then
      match _h : rest with
      | d :: _ =>
        if d.isDigit then numberTail first rest (text.push '.') radix pos.advance
        else if d == '_' || d == '.' || isAsciiAlpha d then (text, radix, c :: rest, pos)
        else numberTail first rest ((text.push '.').push '0') radix pos.advance
      | [] => numberTail first rest ((text.push '.').push '0') radix pos.advance
    else if c == 'e' then
      match _h : rest with
      | d :: rest' =>
        if d.isDigit then numberTail first rest (text.push 'e') radix pos.advance
        else if d == '+' || d == '-' then
          numberTail first rest' ((text.push 'e').push d) radix pos.advance.advance
        else (text, radix, c :: rest, pos)
      | [] => (text, radix, c :: rest, pos)
    else if (c == 'x' || c == 'o' || c == 'b' || c == 'X' || c == 'O' || c == 'B') &&
        first == '0' && text.length ≤ 1 then
      numberTail first rest (text.push c) (some (radixOf c)) pos.advance
    else (text, radix, c :: rest, pos)
termination_by l _ _ _ => l.length
decreasing_by all_goals (subst_vars; simp; try omega)

def radixValue (r : Nat) (cs : List Char) : Option Nat :=
  if cs.isEmpty then none
  else cs.foldlM (fun acc c =>
    let d := if c.isDigit then c.toNat - '0'.toNat
      else if 'a' ≤ c ∧ c ≤ 'f' then c.toNat - 'a'.toNat + 10
      else if 'A' ≤ c ∧ c ≤ 'F' then c.toNat - 'A'.toNat + 10 else r
    if d < r then some (acc * r + d) else none) 0

/-- The token of a number literal: a whole number within 64 bits, else a double, else a
fault. A prefixed literal is read as an unsigned 64-bit pattern. -/
def numberToken (text : String) (radix : Option Nat) : Token :=
  match radix with
  | none =>
    match Decimal.parseInt64? text with
    | some n => .int n
    | none =>
      match Decimal.parseFloat? text with
      | some f => .float f
      | none => .bad (.malformedNumber text)
  | some r =>
    let digits := text.toList.drop 2
    match radixValue r digits with
    | some n =>
      if n < Nat.pow 2 64 then .int (if n < Nat.pow 2 63 then (n : Int) else (n : Int) - Int.pow 2 64)
      else .bad (.malformedNumber (String.ofList digits))
    | none => .bad (.malformedNumber (String.ofList digits))

/-- How a quoted text is read. -/
structure QuoteStyle where
  /-- The closing quote; doubled inside the text it stands for itself. -/
  term : Char
  /-- No escapes, and line breaks are part of the text. -/
  verbatim : Bool := false
  /-- A backslash before a line break joins the lines. -/
  continuation : Bool := false
  /-- `${` starts an embedded expression. -/
  interpolation : Bool := false

/-- Reads `n` hexadecimal digits of an escape, whose text so far is `seq`. -/
def hexEscape : Nat → List Char → SrcPos → String → Nat →
    Except (LexFault × SrcPos) (Nat × List Char × SrcPos)
  | 0, cs, pos, _, acc => .ok (acc, cs, pos)
  | _ + 1, [], pos, seq, _ => .error (.malformedEscape seq, pos)
  | n + 1, c :: cs, pos, seq, acc =>
    let pos := pos.advance
    let seq := seq.push c
    let d := if c.isDigit then c.toNat - '0'.toNat
      else if 'a' ≤ c ∧ c ≤ 'f' then c.toNat - 'a'.toNat + 10
      else if 'A' ≤ c ∧ c ≤ 'F' then c.toNat - 'A'.toNat + 10 else 16
    if d < 16 then hexEscape n cs pos seq (acc * 16 + d) else .error (.malformedEscape seq, pos)

/-- The result of reading a quoted text: the text, whether an embedded expression follows,
the rest and the position of the last character read. -/
abbrev QuoteResult := Except (LexFault × SrcPos) (String × Bool × List Char × SrcPos)

/-- Reads a quoted text after its opening quote at `start`. `escaped` says a backslash is
pending; blanks are skipped while the column is below `skipTo` (after a joined line). Each
step reads a character, so fuel of the rest's length runs out only where the text ends. -/
def quoted (st : QuoteStyle) (start : SrcPos) : Nat → List Char → SrcPos → String → Bool → Nat →
    QuoteResult
  | 0, _, pos, acc, escaped, _ | _ + 1, [], pos, acc, escaped, _ =>
    if st.verbatim || (st.continuation && escaped) then .ok (acc, false, [], pos.advance)
    else .error (.unterminatedString, start)
  | fuel + 1, c :: rest, pos, acc, escaped, skipTo =>
    let pos := pos.advance
    if st.interpolation && c == '$' && !escaped && rest.head? == some '\x7b' then
      .ok (acc, true, rest, pos)
    else if c == st.term && !escaped then
      match rest with
      | d :: rest' => if d == st.term then quoted st start fuel rest' pos.advance (acc.push c) false 0
        else .ok (acc, false, rest, pos)
      | [] => .ok (acc, false, rest, pos)
    else if c == '\r' && rest.head? == some '\n' then quoted st start fuel rest pos acc escaped skipTo
    else if c == '\\' && !st.verbatim && !escaped then quoted st start fuel rest pos acc true skipTo
    else if c == '\\' && escaped then quoted st start fuel rest pos (acc.push '\\') false skipTo
    else if c == 't' && escaped then quoted st start fuel rest pos (acc.push '\t') false skipTo
    else if c == 'n' && escaped then quoted st start fuel rest pos (acc.push '\n') false skipTo
    else if c == 'r' && escaped then quoted st start fuel rest pos (acc.push '\r') false skipTo
    else if (c == 'x' || c == 'u' || c == 'U') && escaped then
      let len := if c == 'x' then 2 else if c == 'u' then 4 else 8
      let seq := "\\".push c
      match hexEscape len rest pos seq 0 with
      | .error e => .error e
      | .ok (v, rest', pos') =>
        if h : v.isValidChar then quoted st start fuel rest' pos' (acc.push (Char.ofNatAux v h)) false skipTo
        else .error (.malformedEscape (seq ++ String.ofList (rest.take len)), pos')
    else if c == '\n' && st.verbatim then quoted st start fuel rest pos.newLine (acc.push '\n') false skipTo
    else if c == '\n' && st.continuation && escaped then
      quoted st start fuel rest pos.newLine acc false (start.col + 1)
    else if c == '\n' then .error (.unterminatedString, start)
    else if c == st.term && escaped then quoted st start fuel rest pos (acc.push c) false skipTo
    else if escaped then .error (.malformedEscape ("\\".push c), pos)
    else if Text.isWhiteSpace c && pos.col < skipTo then quoted st start fuel rest pos acc false skipTo
    else quoted st start fuel rest pos (acc.push c) false 0

def skipLine : List Char → SrcPos → List Char × SrcPos
  | [], pos => ([], pos)
  | '\r' :: '\n' :: rest, pos => (rest, pos.advance.newLine)
  | '\r' :: rest, pos => (rest, pos.newLine)
  | '\n' :: rest, pos => (rest, pos.newLine)
  | _ :: rest, pos => skipLine rest pos.advance

/-- Skips a block comment whose nesting depth is `depth + 1`; comments nest. -/
def skipBlock : List Char → SrcPos → Nat → List Char × SrcPos
  | [], pos, _ => ([], pos)
  | '/' :: '*' :: rest, pos, depth => skipBlock rest pos.advance.advance (depth + 1)
  | '*' :: '/' :: rest, pos, depth =>
    match depth with
    | 0 => (rest, pos.advance.advance)
    | d + 1 => skipBlock rest pos.advance.advance d
  | '\n' :: rest, pos, depth => skipBlock rest pos.newLine depth
  | _ :: rest, pos, depth => skipBlock rest pos.advance depth

/-- The punctuation starting with `c`, given the characters after it and whether a sign may
stand here; with the number of further characters it takes. -/
def symbol (c : Char) (rest : List Char) (sign : Bool) : Token × Nat :=
  let n1 := rest.head?.getD '\x00'
  let n2 := (rest.drop 1).head?.getD '\x00'
  match c with
  | '\x7b' => (.sym "\x7b", 0)
  | '\x7d' => (.sym "\x7d", 0)
  | '(' => if n1 == ')' then (.sym "()", 1) else if n1 == '*' then (improperSymbol "(*", 1)
    else (.sym "(", 0)
  | ')' => (.sym ")", 0)
  | '[' => (.sym "[", 0)
  | ']' => (.sym "]", 0)
  | '#' =>
    if n1 == '\x7b' then (.sym "#\x7b", 1)
    else if n1 == '!' then (.reserved "#!", 1)
    else if n1 == ' ' then (if n2 == '\x7b' then (improperSymbol "# \x7b", 2) else (.reserved "#", 1))
    else (.reserved "#", 0)
  | '+' => if n1 == '=' then (.sym "+=", 1) else if n1 == '+' then (.reserved "++", 1)
    else if sign then (.unaryPlus, 0) else (.sym "+", 0)
  | '-' =>
    if n1.isDigit then (.sym "-", 0)
    else if n1 == '=' then (.sym "-=", 1) else if n1 == '>' then (improperSymbol "->", 1)
    else if n1 == '-' then (.reserved "--", 1) else if sign then (.unaryMinus, 0) else (.sym "-", 0)
  | '*' =>
    if n1 == ')' then (improperSymbol "*)", 1) else if n1 == '=' then (.sym "*=", 1)
    else if n1 == '*' then (if n2 == '=' then (.sym "**=", 2) else (.sym "**", 1))
    else (.sym "*", 0)
  | '/' => if n1 == '=' then (.sym "/=", 1) else (.sym "/", 0)
  | ';' => (.sym ";", 0)
  | ',' => (.sym ",", 0)
  | '.' =>
    if n1 == '.' then
      (if n2 == '.' then (.reserved "...", 2) else if n2 == '=' then (.sym "..=", 2) else (.sym "..", 1))
    else (.sym ".", 0)
  | '=' =>
    if n1 == '=' then (if n2 == '=' then (improperSymbol "===", 2) else (.sym "==", 1))
    else if n1 == '>' then (.sym "=>", 1) else (.sym "=", 0)
  | ':' =>
    if n1 == ':' then (if n2 == '<' then (improperSymbol "::<", 2) else (.sym "::", 1))
    else if n1 == '=' then (improperSymbol ":=", 1) else if n1 == ';' then (improperSymbol ":;", 1)
    else (.sym ":", 0)
  | '<' =>
    if n1 == '=' then (.sym "<=", 1) else if n1 == '-' then (improperSymbol "<-", 1)
    else if n1 == '<' then (if n2 == '=' then (.sym "<<=", 2) else (.sym "<<", 1))
    else if n1 == '|' then (.reserved "<|", 1) else (.sym "<", 0)
  | '>' =>
    if n1 == '=' then (.sym ">=", 1)
    else if n1 == '>' then (if n2 == '=' then (.sym ">>=", 2) else (.sym ">>", 1))
    else (.sym ">", 0)
  | '!' =>
    if n1 == 'i' && n2 == 'n' && !isIdentChar ((rest.drop 2).head?.getD '\x00') then (.sym "!in", 2)
    else if n1 == '=' then (if n2 == '=' then (improperSymbol "!==", 2) else (.sym "!=", 1))
    else if n1 == '.' then (.reserved "!.", 1) else (.sym "!", 0)
  | '|' => if n1 == '|' then (.sym "||", 1) else if n1 == '=' then (.sym "|=", 1)
    else if n1 == '>' then (.reserved "|>", 1) else (.sym "|", 0)
  | '&' => if n1 == '&' then (.sym "&&", 1) else if n1 == '=' then (.sym "&=", 1) else (.sym "&", 0)
  | '^' => if n1 == '=' then (.sym "^=", 1) else (.sym "^", 0)
  | '~' => (.reserved "~", 0)
  | '%' => if n1 == '=' then (.sym "%=", 1) else (.sym "%", 0)
  | '@' => (.reserved "@", 0)
  | '$' => (.reserved "$", 0)
  | '?' => if n1 == '.' then (.sym "?.", 1) else if n1 == '?' then (.sym "??", 1)
    else if n1 == '[' then (.sym "?[", 1) else (.reserved "?", 0)
  | _ => (.bad (.unexpectedInput (String.singleton c)), 0)

abbrev Tokens := Array (Token × SrcPos)

/-- Scanning state: the tokens so far, whether a sign may come next, and for each open
embedded expression of a back-quoted text the number of braces open inside it. -/
structure ScanState where
  out : Tokens := #[]
  sign : Bool := true
  braces : List Nat := []

def ScanState.emit (s : ScanState) (t : Token) (p : SrcPos) : ScanState :=
  { s with out := s.out.push (t, p), sign := t.opensOperand }

def backQuote : QuoteStyle := { term := '`', verbatim := true, interpolation := true }

/-- Records the result of reading a back-quoted text that started at `start`. -/
def ScanState.text (s : ScanState) (r : QuoteResult) (start : SrcPos) :
    ScanState × List Char × SrcPos :=
  match r with
  | .error (e, p) => (s.emit (.bad e) p, [], p)
  | .ok (txt, more, rest, pos) =>
    if more then ({ (s.emit (.interp txt) start) with braces := 0 :: s.braces }, rest, pos)
    else (s.emit (.str txt) start, rest, pos)

/-- Cuts the characters into tokens; `pos` is the position of the last character read. -/
def scan : Nat → List Char → SrcPos → ScanState → Tokens
  | 0, _, pos, s => (s.emit .eof pos.advance).out
  | _ + 1, [], pos, s => (s.emit .eof pos.advance).out
  | fuel + 1, c :: rest, pos, s =>
    let start := pos.advance
    if c == '\n' then scan fuel rest start.newLine s
    else if c.isDigit || (c == '-' && s.sign && (rest.head?.getD ' ').isDigit) then
      let (first, digits, startDigit) := if c == '-' then
          (rest.head?.getD '0', rest.drop 1, start.advance) else (c, rest, start)
      let (text, radix, rest', pos') := numberTail first digits (String.singleton first) none startDigit
      let text := if c == '-' then "-" ++ text else text
      scan fuel rest' pos' (s.emit (numberToken text radix) start)
    else if isAsciiAlpha c || c == '_' then
      let word := rest.takeWhile isIdentChar
      let rest' := rest.drop word.length
      let pos' := word.foldl (fun p _ => p.advance) start
      scan fuel rest' pos' (s.emit (wordToken (String.ofList (c :: word))) start)
    else if c == '"' then
      match quoted { term := '"', continuation := true } start rest.length rest start "" false 0 with
      | .error (e, p) => scan fuel [] p (s.emit (.bad e) p)
      | .ok (txt, _, rest', pos') => scan fuel rest' pos' (s.emit (.str txt) start)
    else if c == '`' then
      let (rest, p0) := match rest with
        | '\r' :: '\n' :: r => (r, start.advance.newLine)
        | '\r' :: r => (r, start.advance.newLine)
        | '\n' :: r => (r, start.newLine)
        | r => (r, start)
      let (s', rest', pos') := s.text (quoted backQuote p0 rest.length rest p0 "" false 0) start
      scan fuel rest' pos' s'
    else if c == '\'' then
      if rest.head? == some '\'' then scan fuel rest start (s.emit (.bad (.malformedChar "")) start)
      else
        match quoted { term := '\'' } start rest.length rest start "" false 0 with
        | .error (e, p) => scan fuel [] p (s.emit (.bad e) p)
        | .ok (txt, _, rest', pos') =>
          match txt.toList with
          | [ch] => scan fuel rest' pos' (s.emit (.chr ch) start)
          | _ => scan fuel rest' pos' (s.emit (.bad (.malformedChar txt)) start)
    else if c == '/' && rest.head? == some '/' then
      let (rest', pos') := skipLine (rest.drop 1) start.advance
      scan fuel rest' pos' s
    else if c == '/' && rest.head? == some '*' then
      let (rest', pos') := skipBlock (rest.drop 1) start.advance 0
      scan fuel rest' pos' s
    else if c == '\x7b' && !s.braces.isEmpty then
      scan fuel rest start
        { (s.emit (.sym "\x7b") start) with braces := (s.braces.headD 0 + 1) :: s.braces.tail }
    else if c == '\x7d' && !s.braces.isEmpty then
      match s.braces with
      | 1 :: outer =>
        let s1 := { (s.emit (.sym "\x7d") start) with braces := outer }
        let (s', rest', pos') := s1.text (quoted backQuote start rest.length rest start "" false 0) start
        scan fuel rest' pos' s'
      | n :: outer => scan fuel rest start { (s.emit (.sym "\x7d") start) with braces := (n - 1) :: outer }
      | [] => scan fuel rest start (s.emit (.sym "\x7d") start)
    else if Text.isWhiteSpace c then scan fuel rest start s
    else
      let (tok, extra) := symbol c rest s.sign
      let pos' := (List.range extra).foldl (fun p _ => p.advance) start
      scan fuel (rest.drop extra) pos' (s.emit tok start)

def tokenize (text : String) : Tokens :=
  let cs := text.toList
  scan (cs.length + 1) cs {} {}

end IntegrationFlow.Expr
