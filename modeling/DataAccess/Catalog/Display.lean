import DataAccess.Catalog.Schema
import DataAccess.Text.Quotation

/-!
# Display of the catalog

Two texts for each of schemas, tables and columns: `display` for messages, and `inspect` for a
reader who wants to see every part.
-/

namespace DataAccess.Catalog

/-- A part that may be missing, as it is shown for inspection: `Some(..)` around `show1 a`, or
`None`. -/
def inspectOption (show1 : α → String) : Option α → String
  | some a => "Some(" ++ show1 a ++ ")"
  | none => "None"

/-- A list of names, as it is shown for inspection: each one `Text.escaped`, with commas between
them and brackets around them. -/
def inspectNames (names : List String) : String :=
  "[" ++ ", ".intercalate (names.map Text.escaped) ++ "]"

/-- A truth value as a word. -/
def truthWord (b : Bool) : String :=
  if b then "true" else "false"

/-- The kind of a table as a word. -/
def TableKind.word : TableKind → String
  | .table => "Table"
  | .view => "View"

/-- A column in one line. -/
def Column.display (c : Column) : String :=
  "Column[name=" ++ c.name ++ ",columnNumber=" ++ toString c.ordinal ++ ",type=" ++ c.type.name ++
    ",nullable=" ++ (c.nullable.map truthWord).getD "null" ++
    ",nativeType=" ++ c.nativeType.getD "null" ++
    ",columnSize=" ++ (c.size.map toString).getD "null" ++ "]"

/-- A table in one line. -/
def Table.display (t : Table) : String :=
  "Table[name=" ++ t.name ++ ",type=" ++ t.kind.word ++ "]"

/-- A schema in one line. -/
def Schema.display (s : Schema) : String :=
  "Schema[name=" ++ s.name.getD "<null>" ++ "]"

/-- A column with all its parts. -/
def Column.inspect (c : Column) : String :=
  "Column \x7b name: " ++ Text.escaped c.name ++ ", ordinal: " ++ toString c.ordinal ++
    ", column_type: " ++ c.type.word ++ ", nullable: " ++ inspectOption truthWord c.nullable ++
    ", native_type: " ++ inspectOption Text.escaped c.nativeType ++
    ", size: " ++ inspectOption toString c.size ++ " \x7d"

/-- A table with the names of its columns. -/
def Table.inspect (t : Table) : String :=
  "Table \x7b name: " ++ Text.escaped t.name ++ ", kind: " ++ t.kind.word ++
    ", columns: " ++ inspectNames t.columnNames ++ " \x7d"

/-- A schema with the names of its tables. -/
def Schema.inspect (s : Schema) : String :=
  "Schema \x7b name: " ++ inspectOption Text.escaped s.name ++
    ", tables: " ++ inspectNames s.tableNames ++ " \x7d"

end DataAccess.Catalog
