-- Every way in which a query can fail, and the wording of each.
import GridQuery.Mapping.Mapper
import GridQuery.Query.Sequence
import GridQuery.Reference.Range

namespace GridQuery

/-- The names between quotes with commas between them, less the outermost quotes. -/
def quotedList (names : List String) : String := Text.joinWith "', '" names

/-- Query arguments that are refused. -/
inductive ArgumentsError
  | missingSource
  /-- A side of the range, named by `parameter`, is no cell reference. -/
  | invalidRange (parameter value : String)
  | headerlessCsvRange
  | unsupportedCodePage (codePage : Nat)
  | invalidArgument (text : String)
  deriving DecidableEq, Repr

/-- The error in words. -/
def ArgumentsError.message : ArgumentsError → String
  | missingSource => "A source file name is required"
  | invalidRange parameter value =>
    "Invalid " ++ parameter ++ " '" ++ value ++ "': expected a cell reference such as 'A1'"
  | headerlessCsvRange => "Cannot use a worksheet range without a header row on csv files"
  | unsupportedCodePage codePage => "Unsupported code page " ++ Text.natText codePage
  | invalidArgument text => text

/-- Names and positions that the source does not have. -/
inductive SchemaError
  /-- `cause` is what was said when the worksheet was asked for. -/
  | worksheetNotFound (worksheet source : String) (available : List String) (cause : String)
  | worksheetIndexOutOfRange (index count : Nat)
  | namedRangeNotFound (name : String) (available : List String)
  | invalidColumn (column : String) (available : List String)
  deriving DecidableEq, Repr

/-- The error in words. -/
def SchemaError.message : SchemaError → String
  | worksheetNotFound worksheet source available cause =>
    "'" ++ worksheet ++ "' is not a valid worksheet name in file " ++ source ++
      ". Valid worksheet names are: '" ++ quotedList available ++ "'. Error received: " ++ cause
  | worksheetIndexOutOfRange index count =>
    "Worksheet index " ++ Text.natText index ++ " is out of range: the file has " ++
      Text.natText count ++ " worksheets"
  | namedRangeNotFound name available =>
    "'" ++ name ++ "' is not a valid named range. Valid named ranges are: '" ++
      quotedList available ++ "'"
  | invalidColumn column available =>
    "'" ++ column ++ "' is not a valid column name. Valid column names are: '" ++
      quotedList available ++ "'"

/-- What a connection refuses. -/
inductive ConnectionError
  | notOpen
  | readOnly (statement : String)
  deriving DecidableEq, Repr

/-- The error in words. -/
def ConnectionError.message : ConnectionError → String
  | notOpen => "Connection is not open"
  | readOnly statement => "Read-only connection refuses statement: " ++ statement

/-- The formats of spreadsheet files. -/
inductive FileFormat
  | xlsx
  | xlsb
  | xls
  | ods
  deriving DecidableEq, Repr

/-- The name of a format in messages. -/
def FileFormat.label : FileFormat → String
  | xlsx => "xlsx"
  | xlsb => "xlsb"
  | xls => "xls"
  | ods => "ods"

/-- Files and named ranges that cannot be read. -/
inductive SpreadsheetError
  /-- The contents are not of the format that the file's extension stands for. -/
  | invalidContents (format : FileFormat)
  | unknownFormat (name : String)
  | invalidNamedRange (name formula : String)
  deriving DecidableEq, Repr

/-- The error in words. -/
def SpreadsheetError.message : SpreadsheetError → String
  | invalidContents format => "Invalid " ++ format.label ++ " file format"
  | unknownFormat name => "Cannot detect file format for '" ++ name ++ "'"
  | invalidNamedRange name formula =>
    "Named range '" ++ name ++ "' does not refer to a cell range: '" ++ formula ++ "'"

/-- Why a query, or a call on a connection, failed. -/
inductive Error
  | arguments (e : ArgumentsError)
  | unsupported (e : UnsupportedQuery)
  | sequence (e : SequenceError)
  | strict (e : StrictError)
  | field (e : FieldError)
  | range (e : RangeError)
  | schema (e : SchemaError)
  | connection (e : ConnectionError)
  | spreadsheet (e : SpreadsheetError)
  /-- The file system failed. -/
  | io (text : String)
  /-- The engine refused a statement. -/
  | engine (text : String)
  /-- A failure with what was being done put before it. -/
  | context (text : String)
  | other (text : String)
  deriving DecidableEq, Repr

namespace Error

/-- The error in words. -/
def message : Error → String
  | arguments e => e.message
  | unsupported e => e.message
  | sequence e => e.message
  | strict e => e.message
  | field e => e.message
  | range e => e.message
  | schema e => e.message
  | connection e => e.message
  | spreadsheet e => e.message
  | io text => text
  | engine text => text
  | context text => text
  | other text => text

/-- The error of a step, with what the step was doing. -/
def during (doing : String) (e : Error) : Error := .context (doing ++ ": " ++ e.message)

end Error

end GridQuery
