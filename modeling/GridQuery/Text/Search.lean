-- Finding one text in another, and cutting a text at a character.

namespace GridQuery.Text

/-- `part` occurs somewhere in the text. The empty text occurs in every text. -/
def occursIn (part : List Char) : List Char → Bool
  | [] => part.isEmpty
  | c :: cs => part.isPrefixOf (c :: cs) || occursIn part cs

/-- `part` occurs somewhere in `s`. -/
def contains (s part : String) : Bool := occursIn part.toList s.toList

/-- Cuts at the first `mark`: the text before it and the text after it. -/
def cutAtFirst (mark : Char) : List Char → Option (List Char × List Char)
  | [] => none
  | c :: cs =>
    if c = mark then some ([], cs)
    else (cutAtFirst mark cs).map fun (before, after) => (c :: before, after)

/-- Cuts at the last `mark`: the text before it and the text after it. -/
def cutAtLast (mark : Char) (cs : List Char) : Option (List Char × List Char) :=
  (cutAtFirst mark cs.reverse).map fun (after, before) => (before.reverse, after.reverse)

/-- The texts joined with `separator` between them. -/
def joinWith (separator : String) : List String → String
  | [] => ""
  | [s] => s
  | s :: rest => s ++ separator ++ joinWith separator rest

end GridQuery.Text
