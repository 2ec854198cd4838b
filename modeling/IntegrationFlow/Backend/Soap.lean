import IntegrationFlow.Json.View

/-!
SOAP 1.1 messages: the `SOAPAction` value, the request envelope built from the scalar
fields of a context, and the fault code and message of a fault response.
-/

namespace IntegrationFlow.Soap

/-- Replaces every occurrence of `pat` (non-empty) in `s`, left to right. -/
def replaceAll (pat rep : List Char) (cs : List Char) : List Char :=
  match cs with
  | [] => []
  | c :: rest =>
    if _h : pat ≠ [] ∧ pat.isPrefixOf (c :: rest) then
      rep ++ replaceAll pat rep ((c :: rest).drop pat.length)
    else c :: replaceAll pat rep rest
termination_by cs.length
decreasing_by
  · have : pat.length ≠ 0 := by simpa using _h.1
    simp only [List.length_drop, List.length_cons]
    omega
  · simp

def replaceText (s pat rep : String) : String := String.ofList (replaceAll pat.toList rep.toList s.toList)

/-- XML escaping of the five special characters, the ampersand first. -/
def escape (s : String) : String :=
  [("<", "&lt;"), (">", "&gt;"), ("\"", "&quot;"), ("'", "&apos;")].foldl
    (fun acc (p, r) => replaceText acc p r) (replaceText s "&" "&amp;")

def unescape (s : String) : String :=
  replaceText ([("&lt;", "<"), ("&gt;", ">"), ("&quot;", "\""), ("&apos;", "'")].foldl
    (fun acc (p, r) => replaceText acc p r) s) "&amp;" "&"

/-- The `SOAPAction` value: the trimmed base joined to the operation by one slash. -/
def action (base : Option String) (operation : String) : String :=
  match base.map Text.trim with
  | some b =>
    if b.isEmpty then operation
    else if b.endsWith "/" then b ++ operation
    else b ++ "/" ++ operation
  | none => operation

/-- Whether a context member goes into the envelope: not a response field, not internal,
and not an object or array. -/
def carried (name : String) (v : Json) : Bool :=
  !(name == "FullOutput" || name.startsWith "fullOutput" || name.startsWith "_" ||
    (match v with | .obj _ | .arr _ => true | _ => false))

/-- The request envelope: one element per carried context member, in key order. -/
def envelope (operation namespace_ : String) (ctx : Members) : String :=
  let fields := ctx.filter (fun (k, v) => carried k v) |>.map fun (k, v) =>
    "<" ++ k ++ ">" ++ escape v.plain ++ "</" ++ k ++ ">"
  let body := "<" ++ operation ++ " xmlns=\"" ++ escape namespace_ ++ "\">" ++ String.join fields ++
    "</" ++ operation ++ ">"
  "<?xml version=\"1.0\" encoding=\"utf-8\"?>" ++
    "<soap:Envelope xmlns:soap=\"http://schemas.xmlsoap.org/soap/envelope/\">" ++
    "<soap:Body>" ++ body ++ "</soap:Body></soap:Envelope>"

def findSub (pat : List Char) : List Char → Option Nat
  | [] => if pat.isEmpty then some 0 else none
  | c :: cs => if pat.isPrefixOf (c :: cs) then some 0 else (findSub pat cs).map (· + 1)

def tagLocalName (tag : List Char) : List Char :=
  let name := (tag.dropWhile Text.isWhiteSpace).takeWhile (!Text.isWhiteSpace ·)
  (name.reverse.takeWhile (· ≠ ':')).reverse

/-- The text of the first element with the given local name, whatever its prefix. -/
def elementText (xml : List Char) (localName : String) : Option String :=
  let rec go : Nat → List Char → Option String
    | 0, _ => none
    | fuel + 1, rest =>
      match findSub ['<'] rest with
      | none => none
      | some i =>
        let afterOpen := rest.drop (i + 1)
        match findSub ['>'] afterOpen with
        | none => none
        | some j =>
          let tag := afterOpen.take j
          let after := afterOpen.drop (j + 1)
          match tag with
          | '/' :: _ | '?' :: _ | '!' :: _ => go fuel after
          | _ =>
            if String.ofList (tagLocalName tag) != localName then go fuel after
            else
              match findSub ['<', '/'] after with
              | none => none
              | some k => some (unescape (Text.trim (String.ofList (after.take k))))
  go (xml.length + 1) xml

/-- The code and message of a fault response; none when the body is no fault. -/
def parseFault (body : String) : Option (String × String) :=
  let cs := body.toList
  if (findSub "Fault".toList cs).isNone && (findSub "faultcode".toList cs).isNone then none
  else do
    let code ← elementText cs "faultcode"
    some (code, (elementText cs "faultstring").getD "")

end IntegrationFlow.Soap
