-- The last component of a path and its extension. Components are separated
-- by `/`; empty components and `.` do not count, except a leading `.`.
import GridQuery.Text.Ascii
import GridQuery.Text.Search

namespace GridQuery.Text

/-- The text between the separators, empty pieces included. -/
def splitAtSlash : List Char → List (List Char)
  | [] => [[]]
  | c :: cs =>
    if c = '/' then [] :: splitAtSlash cs
    else
      match splitAtSlash cs with
      | [] => [[c]]
      | piece :: rest => (c :: piece) :: rest

/-- The components of a path. A first component `.` is kept, later ones are skipped. -/
def pathComponents (path : String) : List (List Char) :=
  match splitAtSlash path.toList with
  | [] => []
  | first :: rest =>
    (if first.isEmpty then [] else [first]) ++ rest.filter fun c => !c.isEmpty && c != ['.']

/-- The last component, unless it is `.` or `..`. -/
def fileName? (path : String) : Option (List Char) :=
  match (pathComponents path).getLast? with
  | none => none
  | some name => if name == ['.'] || name == ['.', '.'] then none else some name

/-- The last component of a path, or the path itself if it has none. -/
def baseName (path : String) : String :=
  match fileName? path with
  | some name => String.ofList name
  | none => path

/-- What follows the last dot of the file name; a dot at its start does not count. -/
def extension? (path : String) : Option String := do
  let name ← fileName? path
  let (stem, ext) ← cutAtLast '.' name
  if stem.isEmpty then none else some (String.ofList ext)

/-- The file's extension is `ext` up to ASCII case. -/
def hasExtension (path ext : String) : Bool :=
  match extension? path with
  | some found => sameCaseless found ext
  | none => false

end GridQuery.Text
