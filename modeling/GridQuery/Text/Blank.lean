-- White space and trimming. The class is the Unicode White_Space
-- property, twenty-five code points; every trim in the library uses it.

namespace GridQuery.Text

/-- The characters that count as white space. -/
def isBlank (c : Char) : Bool :=
  (9 ≤ c.toNat && c.toNat ≤ 13) || c.toNat == 0x20 || c.toNat == 0x85 || c.toNat == 0xA0 ||
    c.toNat == 0x1680 || (0x2000 ≤ c.toNat && c.toNat ≤ 0x200A) || c.toNat == 0x2028 ||
    c.toNat == 0x2029 || c.toNat == 0x202F || c.toNat == 0x205F || c.toNat == 0x3000

/-- The text without its leading white space. -/
def trimStart (cs : List Char) : List Char := cs.dropWhile isBlank

/-- The text without its trailing white space. -/
def trimEnd (cs : List Char) : List Char := (cs.reverse.dropWhile isBlank).reverse

/-- The text without white space at either end. -/
def trim (cs : List Char) : List Char := trimEnd (trimStart cs)

/-- A string without white space at either end. -/
def trimmed (s : String) : String := String.ofList (trim s.toList)

/-- True for a text of white space only, the empty text included. -/
def isBlankText (s : String) : Bool := s.toList.all isBlank

/-- Which ends of a textual result are trimmed. -/
inductive TrimPolicy
  | off
  | leading
  | trailing
  | both
  deriving DecidableEq, Repr

namespace TrimPolicy

/-- Trims a list of characters as the policy says. -/
def trimChars : TrimPolicy → List Char → List Char
  | .off, cs => cs
  | .leading, cs => trimStart cs
  | .trailing, cs => trimEnd cs
  | .both, cs => trim cs

/-- Trims a string as the policy says. -/
def apply (policy : TrimPolicy) (s : String) : String :=
  String.ofList (policy.trimChars s.toList)

/-- The policy's name in a description of query arguments. -/
def label : TrimPolicy → String
  | .off => "None"
  | .leading => "Start"
  | .trailing => "End"
  | .both => "Both"

end TrimPolicy

end GridQuery.Text
