-- What a source name leads to: a workbook, or a file whose name tells how it
-- is read.
import GridQuery.Error
import GridQuery.Grid.Workbook
import GridQuery.Query.Arguments
import GridQuery.Reference.DefinedName
import GridQuery.Source.Delimited
import GridQuery.Source.Encoding

namespace GridQuery

open GridQuery.Text

/-- What a source name leads to. -/
inductive Source
  /-- A workbook, whatever the name is. -/
  | workbook (workbook : Workbook)
  /-- A file that holds no spreadsheet, or no file. -/
  | file (contents : Option ByteArray)

/-- A source that was opened. -/
inductive OpenSource
  | workbook (workbook : Workbook)
  /-- Delimited text, read when it is asked for. -/
  | delimited (name : String) (encoding : Encoding) (contents : ByteArray)

/-- The spreadsheet format of a file name. -/
def fileFormat? (name : String) : Option FileFormat :=
  match (extension? name).map asciiLower with
  | some "xlsx" => some .xlsx
  | some "xlsm" => some .xlsx
  | some "xlam" => some .xlsx
  | some "xlsb" => some .xlsb
  | some "xls" => some .xls
  | some "xla" => some .xls
  | some "ods" => some .ods
  | _ => none

/-- The error of a file that does not exist. -/
def missingFile : Error := .io "No such file or directory (os error 2)"

/-- The error of a file that holds no spreadsheet. -/
def notSpreadsheet (name : String) : SpreadsheetError :=
  match fileFormat? name with
  | some format => .invalidContents format
  | none => .unknownFormat name

namespace Source

/-- Opens the source of a name. -/
def access (name : String) (codePage : Nat) : Source → Except Error OpenSource
  | workbook w => .ok (.workbook w)
  | file none => .error missingFile
  | file (some contents) =>
    if isCsvSource name then
      match Encoding.ofCodePage? codePage with
      | some encoding => .ok (.delimited (baseName name) encoding contents)
      | none => .error (.arguments (.unsupportedCodePage codePage))
    else .error (.spreadsheet (notSpreadsheet name))

end Source

namespace OpenSource

/-- The names of the worksheets, in order. -/
def sheetNames : OpenSource → List String
  | workbook w => w.sheetNames
  | delimited name _ _ => [name]

/-- The defined names with their formulas. -/
def definedNames : OpenSource → List (String × String)
  | workbook w => w.definedNames
  | delimited _ _ _ => []

/-- The names of the ranges that users defined. -/
def namedRanges (s : OpenSource) : List String := (s.definedNames.map (·.1)).filter isUserName

/-- The sheet of a name, if there is one. -/
def sheet? (s : OpenSource) (name : String) : Except Error (Option Sheet) :=
  match s with
  | workbook w => .ok (w.sheet? name)
  | delimited own encoding contents =>
    if name = own then
      match encoding.decode contents with
      | some cs => .ok (some { name, rows := Delimited.grid cs })
      | none => .error (.engine ("The text of " ++ own ++ " is not in its encoding"))
    else .ok none

end OpenSource

end GridQuery
