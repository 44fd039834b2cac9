import DataAccess.ColumnType
import DataAccess.Text.Letters

/-!
# Declarations: the shape of a schema before it is built

A `SchemaDecl` lists the tables of a schema and a `TableDecl` the columns of a table. They are plain
data: they carry no identity, and a declaration can be built into a schema any number of times
(`DataAccess.Catalog.Schema`).
-/

namespace DataAccess.Catalog

/-- The name of a schema: `none` for the one schema of a source without named schemas. -/
abbrev SchemaName := Option String

/-- A declared column. -/
structure ColumnDecl where
  /-- The name. -/
  name : String
  /-- The type. -/
  type : ColumnType
  /-- Whether the column admits null, if known. -/
  nullable : Option Bool := none
  /-- The type name that the source reports, such as `VARCHAR(50)`. -/
  nativeType : Option String := none
  /-- The size, if the type has one. -/
  size : Option UInt32 := none
deriving DecidableEq, Inhabited

/-- Whether rows are stored or derived. -/
inductive TableKind where
  /-- Stored rows. -/
  | table
  /-- Derived rows. -/
  | view
deriving DecidableEq, Inhabited

/-- A declared table. -/
structure TableDecl where
  /-- The name. -/
  name : String
  /-- Whether rows are stored or derived. -/
  kind : TableKind := .table
  /-- The columns, in order. -/
  columns : List ColumnDecl := []
deriving DecidableEq, Inhabited

/-- A declared schema. -/
structure SchemaDecl where
  /-- The name. -/
  name : SchemaName
  /-- The tables, in order. -/
  tables : List TableDecl := []
deriving DecidableEq, Inhabited

/-- The first declaration with `d.name == name`, exactly. -/
def findDecl? (schemas : List SchemaDecl) (name : SchemaName) : Option SchemaDecl :=
  schemas.find? fun d => d.name == name

namespace SchemaDecl

/-- The declaration `d` with the table `t` behind its others, whether or not `t.name` is taken. -/
def append (d : SchemaDecl) (t : TableDecl) : SchemaDecl :=
  { d with tables := d.tables ++ [t] }

/-- Whether `d` has a table of that name up to the case of ASCII letters
(`Text.equalIgnoringAsciiCase`). -/
def contains (d : SchemaDecl) (name : String) : Bool :=
  d.tables.any fun t => Text.equalIgnoringAsciiCase t.name name

/-- The declaration with one more table, `none` if its name is taken. -/
def insert? (d : SchemaDecl) (t : TableDecl) : Option SchemaDecl :=
  if d.contains t.name then none else some (d.append t)

/-- The declaration without the tables of exactly that name, `none` if there are none. -/
def erase? (d : SchemaDecl) (name : String) : Option SchemaDecl :=
  if d.tables.any fun t => t.name == name then
    some { d with tables := d.tables.filter fun t => t.name != name }
  else
    none

/-- Adds `t` in place and says whether it was added: it is not if `d.contains t.name`. -/
def add (d : SchemaDecl) (t : TableDecl) : Bool × SchemaDecl :=
  if d.contains t.name then (false, d) else (true, d.append t)

/-- Removes the tables of exactly that name in place, and says whether there were any. It is
`erase?` for a declaration that is changed where it stands. -/
def remove (d : SchemaDecl) (name : String) : Bool × SchemaDecl :=
  let left := d.tables.filter fun t => t.name != name
  (left.length != d.tables.length, { d with tables := left })

end SchemaDecl

end DataAccess.Catalog
