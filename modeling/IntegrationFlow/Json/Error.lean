import IntegrationFlow.Json.Render

/-!
Why a document could not be read or decoded into a record, and where: reading text gives a
line and column, decoding an already read document gives none.
-/

namespace IntegrationFlow

/-- Faults of the JSON text itself. -/
inductive SyntaxFault where
  | eofList | eofObject | eofString | eofValue
  | expectedColon | expectedListCommaOrEnd | expectedObjectCommaOrEnd
  | expectedIdent | expectedValue
  | invalidEscape | invalidNumber | numberOutOfRange | invalidCodePoint
  | controlCharacter | keyMustBeString | loneLeadingSurrogate
  | trailingComma | trailingCharacters | unexpectedEndOfHexEscape | recursionLimit
  deriving BEq, Repr

def SyntaxFault.message : SyntaxFault → String
  | .eofList => "EOF while parsing a list"
  | .eofObject => "EOF while parsing an object"
  | .eofString => "EOF while parsing a string"
  | .eofValue => "EOF while parsing a value"
  | .expectedColon => "expected `:`"
  | .expectedListCommaOrEnd => "expected `,` or `]`"
  | .expectedObjectCommaOrEnd => "expected `,` or `\x7d`"
  | .expectedIdent => "expected ident"
  | .expectedValue => "expected value"
  | .invalidEscape => "invalid escape"
  | .invalidNumber => "invalid number"
  | .numberOutOfRange => "number out of range"
  | .invalidCodePoint => "invalid unicode code point"
  | .controlCharacter => "control character (\\u0000-\\u001F) found while parsing a string"
  | .keyMustBeString => "key must be a string"
  | .loneLeadingSurrogate => "lone leading surrogate in hex escape"
  | .trailingComma => "trailing comma"
  | .trailingCharacters => "trailing characters"
  | .unexpectedEndOfHexEscape => "unexpected end of hex escape"
  | .recursionLimit => "recursion limit exceeded"

/-- What was found where a decoder expected something else. -/
inductive Unexpected where
  | null
  | bool (b : Bool)
  | int (n : Int)
  | float (f : Float)
  | str (s : String)
  | seq
  | map

def Unexpected.message : Unexpected → String
  | .null => "null"
  | .bool b => s!"boolean `{b}`"
  | .int n => s!"integer `{n}`"
  | .float f => "floating point `" ++ renderFloat f ++ "`"
  | .str s => "string " ++ debugQuote s
  | .seq => "sequence"
  | .map => "map"

def Json.unexpected : Json → Unexpected
  | .null => .null
  | .bool b => .bool b
  | .num (.int n) => .int n
  | .num (.float f) => .float f
  | .str s => .str s
  | .arr _ => .seq
  | .obj _ => .map

/-- Why reading or decoding failed. -/
inductive DataFault where
  | invalidText (f : SyntaxFault)
  | invalidType (found : Unexpected) (expected : String)
  | invalidValue (found : Unexpected) (expected : String)
  | invalidLength (len : Nat) (expected : String)
  | missingField (name : String)
  | duplicateField (name : String)

def DataFault.message : DataFault → String
  | .invalidText f => f.message
  | .invalidType u e => s!"invalid type: {u.message}, expected {e}"
  | .invalidValue u e => s!"invalid value: {u.message}, expected {e}"
  | .invalidLength n e => s!"invalid length {n}, expected {e}"
  | .missingField n => s!"missing field `{n}`"
  | .duplicateField n => s!"duplicate field `{n}`"

/-- A place in a text: the line, from 1, and the bytes of that line read so far. -/
structure TextPos where
  line : Nat
  column : Nat
  deriving BEq, Repr

/-- A fault, with the place in the text when there was one. -/
structure DataError where
  fault : DataFault
  pos : Option TextPos := none

def DataError.message (e : DataError) : String :=
  match e.pos with
  | some p => s!"{e.fault.message} at line {p.line} column {p.column}"
  | none => e.fault.message

end IntegrationFlow
