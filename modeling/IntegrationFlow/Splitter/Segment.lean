import IntegrationFlow.Json.Lenient
import IntegrationFlow.Text.Case
import IntegrationFlow.Text.Alphanumeric
import IntegrationFlow.Flow.Error

/-!
Fixed-width segments of a positional text. `pad` fits a value into a segment, `unpad` takes
the padding off a piece again, and `decodePiece` applies the segment's encoding with the byte
decoders it is given (`Codecs`). A text never takes more than `isize::MAX` bytes: building a
longer one panics with a capacity overflow.
-/

namespace IntegrationFlow

/-- One fixed-width field of a positional text. -/
structure Segment where
  name : String := ""
  length : Option Nat := none
  start : Option Nat := none
  repetitions : Option Nat := none
  structure_ : Option String := none
  encoding : Option String := none
  padding : Option String := none
  deriving Inhabited

namespace Segment

def decode : Decoder Segment :=
  Decoder.record "struct Segment"
    [ { name := "nombre", store := fun s j => (fun v => { s with name := v }) <$> Decoder.textOrEmpty j },
      { name := "longitud", store := fun s j => (fun v => { s with length := v }) <$> Decoder.lenientCount j },
      { name := "inicio", store := fun s j => (fun v => { s with start := v }) <$> Decoder.lenientCount j },
      { name := "repeticiones",
        store := fun s j => (fun v => { s with repetitions := v }) <$> Decoder.lenientCount j },
      { name := "tipo_estructura",
        store := fun s j => (fun v => { s with structure_ := v }) <$> Decoder.optString j },
      { name := "encoding", store := fun s j => (fun v => { s with encoding := v }) <$> Decoder.optString j },
      { name := "relleno", store := fun s j => (fun v => { s with padding := v }) <$> Decoder.optString j } ]
    {}

def toJson (s : Segment) : Json :=
  .obj [("encoding", .ofOptString s.encoding), ("inicio", .ofOptNat s.start),
    ("longitud", .ofOptNat s.length), ("nombre", .str s.name), ("relleno", .ofOptString s.padding),
    ("repeticiones", .ofOptNat s.repetitions), ("tipo_estructura", .ofOptString s.structure_)]

end Segment

namespace Splitter

/-- The padding modes, by their lowercase names. -/
inductive Padding where
  | zerosLeft | zerosRight | spacesLeft | spacesRight

/-- Reads a padding mode; anything unknown pads with spaces on the right. -/
def Padding.ofString (s : String) : Padding :=
  match Text.toLower s with
  | "ceros" | "ceros_izquierda" | "izquierda" => .zerosLeft
  | "ceros_derecha" | "derecha" => .zerosRight
  | "espacios_izq" | "espacios_izquierda" => .spacesLeft
  | _ => .spacesRight

/-- The most bytes a text may take, `isize::MAX`. -/
def maxTextBytes : Nat := Nat.pow 2 63 - 1

/-- A character written `n` times over, as `str::repeat` builds it: a text of more than
`maxTextBytes` bytes is never allocated, the call panics instead. -/
def repeatChar (c : Char) (n : Nat) : Except Panic String :=
  if n * c.utf8Size > maxTextBytes then .error .capacityOverflow else .ok ("".pushn c n)

/-- One text after another, as `push_str` and `format!` grow a text: a result of more than
`maxTextBytes` bytes panics. -/
def appendText (a b : String) : Except Panic String :=
  if a.utf8ByteSize + b.utf8ByteSize > maxTextBytes then .error .capacityOverflow else .ok (a ++ b)

/-- Fits a value into exactly `length` characters: a longer value is cut, a shorter one filled
as the padding says. The fill is built as a text of its own and then joined to the value, and
either may panic. -/
def pad (value : String) (length : Nat) (padding : String) : Except Panic String := do
  let cs := value.toList
  if cs.length ≥ length then return String.ofList (cs.take length)
  let fill := length - cs.length
  match Padding.ofString padding with
  | .zerosLeft => appendText (← repeatChar '0' fill) value
  | .zerosRight => appendText value (← repeatChar '0' fill)
  | .spacesLeft => appendText (← repeatChar ' ' fill) value
  | .spacesRight => appendText value (← repeatChar ' ' fill)

/-- Takes the padding of a piece off again. A piece that held a zero and was not blank
stays `0` rather than becoming empty. -/
def unpad (piece : String) (padding : Option String) : String :=
  match padding with
  | none => piece
  | some p =>
    let cs := piece.toList
    let stripped := match Padding.ofString p with
      | .zerosLeft => cs.dropWhile (· = '0')
      | .zerosRight => (cs.reverse.dropWhile (· = '0')).reverse
      | .spacesLeft => cs.dropWhile (· = ' ')
      | .spacesRight => (cs.reverse.dropWhile (· = ' ')).reverse
    if stripped.isEmpty && cs.contains '0' && !Text.isBlankText piece then "0"
    else String.ofList stripped

/-- The byte decoders pieces are decoded with, a library of their own: base64 in the standard
alphabet, padded, and hexadecimal. Each gives the bytes a text encodes, or nothing when it is
not a valid encoding. -/
structure Codecs where
  base64 : String → Option (List UInt8)
  hex : String → Option (List UInt8)

def utf8Text? (bytes : List UInt8) : Option String :=
  String.fromUTF8? (ByteArray.mk bytes.toArray)

/-- Applies an encoding to a piece: `base64` and `hex` decode to UTF-8 text, `ascii`
keeps printable ASCII, `numeric` digits and `alphanumeric` letters and digits. -/
def decodePiece (codecs : Codecs) (value : String) (encoding : Option String) : String :=
  match encoding.map Text.toLower with
  | some "base64" => ((codecs.base64 value).bind utf8Text?).getD value
  | some "hex" => ((codecs.hex value).bind utf8Text?).getD value
  | some "ascii" => String.ofList (value.toList.filter fun c => ' ' ≤ c ∧ c ≤ '~')
  | some "numeric" | some "numerico" => String.ofList (value.toList.filter Char.isDigit)
  | some "alphanumeric" | some "alfanumerico" => String.ofList (value.toList.filter Text.isAlphanumeric)
  | _ => value

end Splitter

end IntegrationFlow
