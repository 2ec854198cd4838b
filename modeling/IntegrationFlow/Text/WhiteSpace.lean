/-!
Blank characters in the sense of Unicode's White_Space property, and trimming by them: the
ASCII blanks, the line and paragraph separators, the no-break and ideographic spaces and
the other space characters.
-/

namespace IntegrationFlow.Text

def whiteSpaceCodes : List Nat :=
  [0x9, 0xA, 0xB, 0xC, 0xD, 0x20, 0x85, 0xA0, 0x1680, 0x2000, 0x2001, 0x2002, 0x2003, 0x2004,
   0x2005, 0x2006, 0x2007, 0x2008, 0x2009, 0x200A, 0x2028, 0x2029, 0x202F, 0x205F, 0x3000]

def isWhiteSpace (c : Char) : Bool := whiteSpaceCodes.contains c.toNat

def dropBlanks : List Char → List Char
  | [] => []
  | c :: cs => if isWhiteSpace c then dropBlanks cs else c :: cs

def trim (s : String) : String :=
  String.ofList (dropBlanks (dropBlanks s.toList).reverse).reverse

def isBlankText (s : String) : Bool := s.toList.all isWhiteSpace

example : trim " 　a b  " = "a b" ∧ isBlankText "  " ∧ ¬isBlankText " x" := by decide

end IntegrationFlow.Text
