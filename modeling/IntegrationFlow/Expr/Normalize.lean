import IntegrationFlow.Text.Alphanumeric
import IntegrationFlow.Text.Case

/-!
Localized conditions before evaluation: single-quoted literals become double-quoted ones and
the words `y`/`and` and `o`/`or`, in any case, become `&&` and `||`. Text inside literals
is copied as it is. The rewriting is one left-to-right scan over the characters.
-/

namespace IntegrationFlow.Expr

/-- Where the scan stands. -/
inductive ScanMode where
  /-- Between tokens. -/
  | plain
  /-- Inside a single-quoted literal. -/
  | single
  /-- Inside a double-quoted literal, just after a backslash when `escaped`. -/
  | double (escaped : Bool)
  /-- Inside a word, whose characters so far are kept aside. -/
  | word (chars : String)

/-- Characters that make up words: alphanumerics and the underscore. -/
def isWordChar (c : Char) : Bool := Text.isAlphanumeric c || c == '_'

/-- A word as it is written out: the localized connectives become operators. -/
def replaceWord (w : String) : String :=
  match Text.toLower w with
  | "y" | "and" => "&&"
  | "o" | "or" => "||"
  | _ => w

def plainStep (out : String) (c : Char) : ScanMode × String :=
  if c == '\'' then (.single, out.push '"')
  else if c == '"' then (.double false, out.push '"')
  else if isWordChar c then (.word (String.singleton c), out)
  else (.plain, out.push c)

def step : ScanMode × String → Char → ScanMode × String
  | (.plain, out), c => plainStep out c
  | (.single, out), c =>
    if c == '\'' then (.plain, out.push '"')
    else if c == '"' then (.single, (out.push '\\').push '"')
    else (.single, out.push c)
  | (.double escaped, out), c =>
    if escaped then (.double false, out.push c)
    else if c == '\\' then (.double true, out.push c)
    else if c == '"' then (.plain, out.push c)
    else (.double false, out.push c)
  | (.word w, out), c =>
    if isWordChar c then (.word (w.push c), out) else plainStep (out ++ replaceWord w) c

/-- The end of the text: an open single-quoted literal is closed, an open word written out. -/
def finish : ScanMode × String → String
  | (.single, out) => out.push '"'
  | (.word w, out) => out ++ replaceWord w
  | (_, out) => out

/-- The condition with its localized operators and quotes rewritten. -/
def normalize (expression : String) : String :=
  finish (expression.toList.foldl step (.plain, ""))

end IntegrationFlow.Expr
