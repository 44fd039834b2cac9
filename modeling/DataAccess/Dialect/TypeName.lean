import DataAccess.ColumnType
import DataAccess.Dialect.Product
import DataAccess.Text.Letters

/-!
# Type names: column types in the words of a database

`typeName` is the name that a vendor gives to a column type. In the other direction
`ColumnType.ofNativeType` reads the type name that a database reports, and `nativeTypeSize?` the
size in parentheses behind it.
-/

namespace DataAccess.Dialect

/-- The name of a column type, in the dialect of a vendor if there is one, and else
`ColumnType.name`. -/
def typeName (vendor : Option Vendor) (t : ColumnType) : String :=
  match vendor, t with
  | some .postgres, .double => "DOUBLE PRECISION"
  | some .postgres, .tinyInt => "SMALLINT"
  | some .postgres, .blob | some .postgres, .binary | some .postgres, .varbinary => "BYTEA"
  | some .postgres, .clob => "TEXT"
  | some .sqlServer, .boolean => "BIT"
  | some .sqlServer, .double => "FLOAT"
  | some .sqlServer, .timestamp => "DATETIME"
  | some .sqlServer, .clob => "NVARCHAR(MAX)"
  | some .sqlServer, .blob => "VARBINARY(MAX)"
  | some .oracle, .boolean => "NUMBER(1)"
  | some .oracle, .double => "BINARY_DOUBLE"
  | some .oracle, .varchar => "VARCHAR2"
  | some .oracle, .integer | some .oracle, .bigInt | some .oracle, .smallInt => "NUMBER"
  | some .sqlite, .boolean => "INTEGER"
  | _, t => t.name

/-! ## Native type names -/

/-- The size of a native type such as `VARCHAR(50)` or `DECIMAL(10,2)`: the first number in the
first parentheses. -/
def nativeTypeSize? (native : String) : Option UInt32 :=
  match native.toList.dropWhile (· != '(') with
  | [] => none
  | _ :: rest =>
      if rest.contains ')' then
        Text.readUInt32? (Text.trimChars ((rest.takeWhile (· != ')')).takeWhile (· != ',')))
      else
        none

/-- Whether `part` occurs in a text. -/
def occursIn (part : List Char) : List Char → Bool
  | [] => part.isEmpty
  | c :: rest => part.isPrefixOf (c :: rest) || occursIn part rest

/-- The names of native types that stand for one column type whatever their size. -/
def nativeTypes : List (String × ColumnType) := [
  ("", .other),
  ("BOOLEAN", .boolean), ("BOOL", .boolean),
  ("TINYINT", .tinyInt),
  ("SMALLINT", .smallInt), ("INT2", .smallInt),
  ("INT", .integer), ("INTEGER", .integer), ("MEDIUMINT", .integer), ("INT4", .integer),
  ("BIGINT", .bigInt), ("INT8", .bigInt),
  ("FLOAT", .float), ("FLOAT4", .float),
  ("REAL", .double), ("DOUBLE", .double), ("DOUBLE PRECISION", .double), ("FLOAT8", .double),
  ("BINARY_DOUBLE", .double),
  ("NUMERIC", .numeric), ("NUMBER", .numeric),
  ("DECIMAL", .decimal),
  ("CHAR", .char), ("CHARACTER", .char), ("NCHAR", .char),
  ("VARCHAR", .varchar), ("VARCHAR2", .varchar), ("NVARCHAR", .varchar), ("NVARCHAR2", .varchar),
  ("CHARACTER VARYING", .varchar), ("VARYING CHARACTER", .varchar), ("TEXT", .varchar),
  ("CLOB", .clob), ("NCLOB", .clob),
  ("BINARY", .binary),
  ("VARBINARY", .varbinary),
  ("BLOB", .blob), ("BYTEA", .blob),
  ("DATE", .date),
  ("TIME", .time),
  ("TIMESTAMP", .timestamp), ("DATETIME", .timestamp)]

/-- The parts of a name that tell the column type of an unknown native type, the first that occurs
deciding. -/
def typeAffinities : List (String × ColumnType) := [
  ("INT", .integer),
  ("CHAR", .varchar), ("CLOB", .varchar), ("TEXT", .varchar),
  ("BLOB", .blob),
  ("REAL", .double), ("FLOA", .double), ("DOUB", .double)]

/-- A native type name in capitals (`Text.uppercase`), without its size and the blanks around it. -/
def nativeBase (native : String) : List Char :=
  let upper := (Text.uppercase (Text.trim native)).toList
  if upper.contains '(' then Text.trimChars (upper.takeWhile (· != '(')) else upper

/-- The column type of a native type name, by `nativeTypes` or else by `typeAffinities`. A bit field
is a truth value unless it has several bits, and a name that tells nothing stands for a number. -/
def ofNativeType (native : String) (size : Option UInt32) : ColumnType :=
  let base := nativeBase native
  if base == "BIT".toList && size.all (· ≤ 1) then .boolean
  else match nativeTypes.lookup (String.ofList base) with
    | some t => t
    | none =>
        match typeAffinities.find? fun a => occursIn a.1.toList base with
        | some (_, t) => t
        | none => .numeric

end DataAccess.Dialect
