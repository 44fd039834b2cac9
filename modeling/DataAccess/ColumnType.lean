/-!
# Column types

The declared types of columns, independent of any database product, with their SQL names and the
four groups they fall into.
-/

namespace DataAccess

/-- The declared type of a column. -/
inductive ColumnType where
  | boolean
  | tinyInt
  | smallInt
  | integer
  | bigInt
  | float
  | double
  | numeric
  | decimal
  | char
  | varchar
  | clob
  | binary
  | varbinary
  | blob
  | date
  | time
  | timestamp
  | other
deriving DecidableEq, Inhabited

namespace ColumnType

/-- The SQL name of a type. -/
def name : ColumnType → String
  | boolean => "BOOLEAN"
  | tinyInt => "TINYINT"
  | smallInt => "SMALLINT"
  | integer => "INTEGER"
  | bigInt => "BIGINT"
  | float => "FLOAT"
  | double => "DOUBLE"
  | numeric => "NUMERIC"
  | decimal => "DECIMAL"
  | char => "CHAR"
  | varchar => "VARCHAR"
  | clob => "CLOB"
  | binary => "BINARY"
  | varbinary => "VARBINARY"
  | blob => "BLOB"
  | date => "DATE"
  | time => "TIME"
  | timestamp => "TIMESTAMP"
  | other => "OTHER"

/-- The name of a type as one capitalised word, as it is shown for inspection. -/
def word : ColumnType → String
  | boolean => "Boolean"
  | tinyInt => "TinyInt"
  | smallInt => "SmallInt"
  | integer => "Integer"
  | bigInt => "BigInt"
  | float => "Float"
  | double => "Double"
  | numeric => "Numeric"
  | decimal => "Decimal"
  | char => "Char"
  | varchar => "Varchar"
  | clob => "Clob"
  | binary => "Binary"
  | varbinary => "Varbinary"
  | blob => "Blob"
  | date => "Date"
  | time => "Time"
  | timestamp => "Timestamp"
  | other => "Other"

/-- All types, in the order of their declaration. -/
def all : List ColumnType :=
  [boolean, tinyInt, smallInt, integer, bigInt, float, double, numeric, decimal, char,
    varchar, clob,
    binary, varbinary, blob, date, time, timestamp, other]

/-- The type `t` with `t.word = w`, if there is one. -/
def ofWord? (w : String) : Option ColumnType :=
  all.find? fun t => t.word == w

theorem mem_all (t : ColumnType) : t ∈ all := by
  cases t <;> decide

/-- Whether columns of this type hold numbers. -/
def isNumber : ColumnType → Bool
  | tinyInt | smallInt | integer | bigInt | float | double | numeric | decimal => true
  | _ => false

/-- Whether columns of this type hold text. -/
def isText : ColumnType → Bool
  | char | varchar | clob => true
  | _ => false

/-- Whether columns of this type hold bytes. -/
def isBinary : ColumnType → Bool
  | binary | varbinary | blob => true
  | _ => false

/-- Whether columns of this type hold points in time. -/
def isTemporal : ColumnType → Bool
  | date | time | timestamp => true
  | _ => false

instance : ToString ColumnType := ⟨name⟩

end ColumnType

end DataAccess
