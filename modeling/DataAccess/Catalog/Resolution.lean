import DataAccess.Catalog.Label
import DataAccess.Catalog.SchemaLookup

/-!
# Resolution of labels

`Lookup.columnByLabel?` and `Lookup.tableByLabel?` find what a label names. Listed schema names are
tried at the front of the label, first exactly and then up to case; a nameless schema is tried on
the whole label. What is left then names a table, or a table and a column, of that schema. Failing
all that the default schema is tried on the whole label.
-/

namespace DataAccess.Catalog

/-- The column that a path `TABLE.COLUMN` names in one of the given tables, under a rule for
case. -/
def columnOfTables? (case : Label.Case) (path : List Char) (tables : List Table) : Option Column :=
  tables.findSome? fun t =>
    (Label.stripName? case t.name path).bind fun rest => t.column? (Label.unquote rest)

/-- The column that a path names in a schema: `TABLE.COLUMN`, or a bare name if there is just one
table. -/
def Schema.columnByPath? (s : Schema) (path : List Char) : Option Column :=
  columnOfTables? .sensitive path s.tables <|>
    columnOfTables? .insensitive path s.tables <|>
    match s.tables with
    | [t] => t.column? (Label.unquote path)
    | _ => none

/-- The table that a path names in a schema, with quotes around the path left out
(`Label.unquote`). -/
def Schema.tableByPath? (s : Schema) (path : List Char) : Option Table :=
  s.table? (Label.unquote path)

namespace Lookup

/-- What `find` makes of a path in the schema of a name, if there is such a schema. -/
def inSchema? (find : Schema → List Char → Option α) (name : SchemaName) (path : List Char) :
    Lookup (Option α) := do
  return (← schemaByName? name).bind fun s => find s path

/-- What `find` makes of a label whose front is a schema name under a rule for case. -/
def afterSchema? (find : Schema → List Char → Option α) (case : Label.Case) (label : List Char)
    (name : String) : Lookup (Option α) :=
  match Label.stripName? case name label with
  | some path => inSchema? find (some name) path
  | none => return none

/-- What `find` makes of a label, in the schemas of the given names under the exact rule. -/
def inListed? (find : Schema → List Char → Option α) (label : List Char) :
    SchemaName → Lookup (Option α)
  | none => inSchema? find none label
  | some name => afterSchema? find .sensitive label name

/-- What `find` makes of a label: in a listed schema that the label names exactly or up to case, or
else in the default schema. -/
def resolve? (find : Schema → List Char → Option α) (label : String) : Lookup (Option α) := do
  let label := Label.normalize label
  if label.isEmpty then return none
  let names ← schemaNames
  match ← names.findSomeM? (inListed? find label) with
  | some a => return some a
  | none =>
      match ← (names.filterMap id).findSomeM? (afterSchema? find .insensitive label) with
      | some a => return some a
      | none => return (← defaultSchema?).bind fun s => find s label

/-- The column that a label names: `resolve?` with `Schema.columnByPath?`. -/
def columnByLabel? (label : String) : Lookup (Option Column) :=
  resolve? Schema.columnByPath? label

/-- The table that a label names: `resolve?` with `Schema.tableByPath?`. -/
def tableByLabel? (label : String) : Lookup (Option Table) :=
  resolve? Schema.tableByPath? label

end Lookup

end DataAccess.Catalog
