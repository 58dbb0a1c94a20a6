import SqlGuard.Answer
import SqlGuard.Number.Reading
import SqlGuard.Text.Letters

/-!
# Reading the cells of a row

A server sends the cells of a row as octets, and the type of each column by
name. `readCell` turns them into values without losing anything: octets that
do not have the form that their type promises stay as they are.
-/
namespace SqlGuard.Server

open SqlGuard.Text

/-- How the cells of a column are to be read. -/
inductive Reading
  | binary
  | signed
  | unsigned
  | floating
  | decimal
  | temporal
  | text
  deriving DecidableEq, Repr

def binaryTypes : List String :=
  ["BLOB", "TINYBLOB", "MEDIUMBLOB", "LONGBLOB", "BINARY", "VARBINARY", "BIT", "GEOMETRY"]

def signedTypes : List String :=
  ["TINYINT", "SMALLINT", "MEDIUMINT", "INT", "BIGINT", "YEAR", "BOOLEAN"]

def unsignedTypes : List String :=
  ["TINYINT UNSIGNED", "SMALLINT UNSIGNED", "MEDIUMINT UNSIGNED", "INT UNSIGNED",
   "BIGINT UNSIGNED"]

def floatingTypes : List String := ["FLOAT", "DOUBLE"]

def temporalTypes : List String := ["DATE", "TIME", "DATETIME", "TIMESTAMP"]

/-- The reading of a type, given by its name in any case. These are the arms of
`value_from_text`. -/
def Reading.ofType (type : String) : Reading :=
  let name := String.ofList (capitals type.toList)
  if binaryTypes.contains name then .binary
  else if signedTypes.contains name then .signed
  else if unsignedTypes.contains name then .unsigned
  else if floatingTypes.contains name then .floating
  else if name = "DECIMAL" then .decimal
  else if temporalTypes.contains name then .temporal
  else .text

/-- Reads a text, which stays a text if it does not have the expected form. -/
def readText (reading : Reading) (text : String) : Value :=
  match reading with
  | .signed => ((Number.readSigned text.toList).map Value.int).getD (.string text)
  | .unsigned => ((Number.readUnsigned text.toList).map Value.uint).getD (.string text)
  | .floating => ((Number.readBinary64 text.toList).map Value.float).getD (.string text)
  | .decimal => .decimal text
  | .temporal => .temporal text
  | .binary | .text => .string text

/-- Reads octets of a type. Models `value_from_text`. -/
def readOctets (type : String) (octets : List UInt8) : Value :=
  match Reading.ofType type with
  | .binary => .bytes octets
  | reading =>
    match Utf8.decodeString octets with
    | .ok text => readText reading text
    | .error _ => .bytes octets

/-- The types whose cells are null also if they begin with a zero octet. -/
def zeroMeansNull : List String := ["DATE", "DATETIME", "TIMESTAMP"]

/-- Reads a cell, which may be missing. Models `convert_value`. -/
def readCell (type : String) : Option (List UInt8) → Value
  | none => .null
  | some octets =>
    if zeroMeansNull.contains type && octets.head? = some 0 then .null
    else readOctets type octets

/-- Reads a row, a cell for each column. Models `convert_row`. -/
def readRow (columns : List Column) (cells : List (Option (List UInt8))) : List Value :=
  columns.mapIdx fun i column => readCell column.type (cells[i]?.join)

end SqlGuard.Server
