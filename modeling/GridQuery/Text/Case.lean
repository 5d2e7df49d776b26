-- Capitals and small letters of all scripts. A mapping goes character by
-- character, except that a capital sigma at the end of a word becomes the
-- final small sigma.
import GridQuery.Text.CaseTable

namespace GridQuery.Text

/-- What a code point is shifted by, if some span covers it. -/
def shiftIn (spans : List CaseSpan) (n : Nat) : Option Int :=
  (spans.find? fun s => s.first ≤ n && n ≤ s.last && (n - s.first) % s.step == 0).map (·.shift)

/-- The image of a character: its expansion, its shifted code point, or itself. -/
def mapCase (expansions : List (Nat × List Nat)) (spans : List CaseSpan) (c : Char) : List Char :=
  match expansions.find? (·.1 == c.toNat) with
  | some (_, image) => image.map Char.ofNat
  | none =>
    match shiftIn spans c.toNat with
    | some shift => [Char.ofNat (c.toNat + shift).toNat]
    | none => [c]

/-- The capital of a character, which may be more than one character. -/
def upperChar (c : Char) : List Char := mapCase upperExpansions upperSpans c

/-- The small letter of a character, without regard to its place in a word. -/
def lowerChar (c : Char) : List Char := mapCase lowerExpansions lowerSpans c

/-- The character lies in one of the ranges. -/
def inRanges (ranges : List (Nat × Nat)) (c : Char) : Bool :=
  ranges.any fun (first, last) => first ≤ c.toNat && c.toNat ≤ last

/-- Going away from a place in the text, the first character that casing
does not look past is a cased letter. -/
def meetsCased (cs : List Char) : Bool :=
  match cs.dropWhile (inRanges caseIgnorableRanges) with
  | [] => false
  | c :: _ => inRanges casedRanges c

/-- Small letters for a text whose earlier characters, nearest first, are `before`.
A capital sigma ends a word if a cased letter stands before it and none after it. -/
def lowerFrom (before : List Char) : List Char → List Char
  | [] => []
  | c :: cs =>
    (if c = 'Σ' then [if meetsCased before && !meetsCased cs then 'ς' else 'σ'] else lowerChar c)
      ++ lowerFrom (c :: before) cs

/-- The text in capitals. -/
def upper (s : String) : String := String.ofList (s.toList.flatMap upperChar)

/-- The text in small letters. -/
def lower (s : String) : String := String.ofList (lowerFrom [] s.toList)

end GridQuery.Text
