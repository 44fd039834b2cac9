import DataAccess.Catalog.Declaration

/-!
# Schemas, tables and columns

A `Schema` is a declaration that has been built. Every build has a number of its own, the identity
of the schema; a table is identified by its schema and its position there, and a column by its table
and its ordinal. Two builds of one declaration are therefore equal in content and different in
identity.

A schema contains its tables and a table its columns. The way back is by `TableRef`, which gives the
names of the parents but does not keep them: `Holdings` says which schemas and tables are held, and
a reference to anything else is dead.
-/

namespace DataAccess.Catalog

/-! ## Identities and references -/

/-- The identity of a built schema: `Registry.build` gives each one its own. -/
abbrev SchemaId := Nat

/-- The identity of a table: the `SchemaId` of its schema and its position there. -/
structure TableKey where
  /-- The schema. -/
  schema : SchemaId
  /-- The position among the tables of the schema. -/
  position : Nat
deriving DecidableEq, Inhabited

/-- A reference to a table, as its columns have it: the identity and the names, without the
columns. -/
structure TableRef where
  /-- The identity. -/
  key : TableKey
  /-- The name of the schema. -/
  schemaName : SchemaName
  /-- The name of the table. -/
  name : String
deriving DecidableEq, Inhabited

/-- The label `SCHEMA.TABLE`, or the bare name in a nameless schema. -/
def TableRef.qualifiedLabel (r : TableRef) : String :=
  match r.schemaName with
  | some schema => schema ++ "." ++ r.name
  | none => r.name

/-- A column of a built table. -/
structure Column extends ColumnDecl where
  /-- The position among the columns of the table, from zero. -/
  ordinal : Nat
  /-- The table that the column was built into. -/
  owner : TableRef
deriving DecidableEq, Inhabited

/-- A built table. -/
structure Table where
  /-- The identity and the name. -/
  ref : TableRef
  /-- Whether rows are stored or derived. -/
  kind : TableKind
  /-- The columns, in order. -/
  columns : List Column
deriving DecidableEq, Inhabited

/-- A built schema. -/
structure Schema where
  /-- The identity. -/
  id : SchemaId
  /-- The name. -/
  name : SchemaName
  /-- The tables, in order. -/
  tables : List Table
deriving DecidableEq, Inhabited

/-! ## Holdings -/

/-- The schemas and tables that are held. A held schema holds its tables (`holdsTable`). -/
structure Holdings where
  /-- The schemas that are held. -/
  schemas : List SchemaId := []
  /-- The tables that are held on their own. -/
  tables : List TableKey := []
deriving Inhabited

namespace Holdings

/-- Whether a schema is held. -/
def holdsSchema (h : Holdings) (id : SchemaId) : Bool :=
  h.schemas.contains id

/-- Whether a table is held, on its own or by its schema (`holdsSchema key.schema`). -/
def holdsTable (h : Holdings) (key : TableKey) : Bool :=
  h.tables.contains key || h.holdsSchema key.schema

/-- What is held on either side: `(h.union k).holdsTable` is `h.holdsTable` or `k.holdsTable`. -/
def union (h k : Holdings) : Holdings :=
  ⟨h.schemas ++ k.schemas, h.tables ++ k.tables⟩

@[simp]
theorem holdsSchema_union (h k : Holdings) (id : SchemaId) :
    (h.union k).holdsSchema id = (h.holdsSchema id || k.holdsSchema id) := by
  simp [union, holdsSchema]

@[simp]
theorem holdsTable_union (h k : Holdings) (key : TableKey) :
    (h.union k).holdsTable key = (h.holdsTable key || k.holdsTable key) := by
  simp only [holdsTable, holdsSchema, union]
  simp only [List.contains_eq_mem, List.mem_append, Bool.decide_or]
  grind

/-- The holdings of someone who holds just one table. -/
def ofTable (t : Table) : Holdings :=
  ⟨[], [t.ref.key]⟩

end Holdings

/-! ## Columns -/

namespace Column

/-- Whether two columns are one column of one build. -/
def same (a b : Column) : Bool :=
  a.owner.key == b.owner.key && a.ordinal == b.ordinal

/-- The owning table, as long as it is held. -/
def table? (held : Holdings) (c : Column) : Option TableRef :=
  if held.holdsTable c.owner.key then some c.owner else none

/-- The label `SCHEMA.TABLE.COLUMN`, without what is no longer known. -/
def qualifiedLabel (held : Holdings) (c : Column) : String :=
  match c.table? held with
  | some t => t.qualifiedLabel ++ "." ++ c.name
  | none => c.name

/-- Equality in content: ordinal, type and label. -/
def equals (held : Holdings) (a b : Column) : Bool :=
  a.same b || (a.ordinal == b.ordinal && a.type == b.type &&
    a.qualifiedLabel held == b.qualifiedLabel held)

end Column

/-! ## Tables -/

namespace Table

/-- The name. -/
def name (t : Table) : String := t.ref.name

/-- The name of the schema. -/
def schemaName (t : Table) : SchemaName := t.ref.schemaName

/-- The label `SCHEMA.TABLE`, or the bare name in a nameless schema. -/
def qualifiedLabel (t : Table) : String := t.ref.qualifiedLabel

/-- The names of the columns, in order. -/
def columnNames (t : Table) : List String := t.columns.map (·.name)

/-- The number of columns. -/
def width (t : Table) : Nat := t.columns.length

/-- The column of exactly that name, or else the first one whose name differs in case alone
(`Text.equalIgnoringCase`). -/
def column? (t : Table) (name : String) : Option Column :=
  t.columns.find? (·.name == name) <|>
    t.columns.find? fun c => Text.equalIgnoringCase c.name name

/-- Whether two tables are one table of one build. -/
def same (a b : Table) : Bool :=
  a.ref.key == b.ref.key

/-- Equality in content: label and column names. -/
def equals (a b : Table) : Bool :=
  a.same b || (a.qualifiedLabel == b.qualifiedLabel && a.columnNames == b.columnNames)

end Table

/-! ## Schemas -/

namespace Schema

/-- The names of the tables, in order. -/
def tableNames (s : Schema) : List String := s.tables.map (·.name)

/-- The table of exactly that name, or else the first whose name differs in case alone. -/
def table? (s : Schema) (name : String) : Option Table :=
  s.tables.find? (·.name == name) <|>
    s.tables.find? fun t => Text.equalIgnoringCase t.name name

/-- Whether two schemas are one build. -/
def same (a b : Schema) : Bool :=
  a.id == b.id

/-- Equality in content: name and table names. -/
def equals (a b : Schema) : Bool :=
  a.same b || (a.name == b.name && a.tableNames == b.tableNames)

end Schema

/-! ## Building -/

/-- Builds the columns of a table, numbered from zero, with `owner` as the table of each. -/
def TableDecl.buildColumns (d : TableDecl) (owner : TableRef) : List Column :=
  d.columns.zipIdx.map fun (c, ordinal) => { c with ordinal, owner }

/-- Builds one table of a schema: its key is `⟨schema, position⟩`. -/
def TableDecl.build (d : TableDecl) (schema : SchemaId) (schemaName : SchemaName) (position : Nat) :
    Table :=
  let ref : TableRef := ⟨⟨schema, position⟩, schemaName, d.name⟩
  ⟨ref, d.kind, d.buildColumns ref⟩

/-- Builds a schema under the identity `id`, its tables numbered from zero. -/
def SchemaDecl.build (d : SchemaDecl) (id : SchemaId) : Schema :=
  ⟨id, d.name, d.tables.zipIdx.map fun (t, position) => t.build id d.name position⟩

@[simp]
theorem SchemaDecl.build_id (d : SchemaDecl) (id : SchemaId) : (d.build id).id = id := rfl

@[simp]
theorem SchemaDecl.build_name (d : SchemaDecl) (id : SchemaId) : (d.build id).name = d.name := rfl

/-- Numbering a list and dropping the numbers again changes nothing. -/
theorem map_fst_zipIdx (l : List α) (f : α → β) : l.zipIdx.map (fun p => f p.1) = l.map f := by
  have h : l.zipIdx.map (fun p => f p.1) = (l.zipIdx.map Prod.fst).map f := by
    rw [List.map_map]; rfl
  rw [h, List.zipIdx_map_fst]

@[simp]
theorem TableDecl.build_columnNames (d : TableDecl) (schema : SchemaId) (schemaName : SchemaName)
    (position : Nat) :
    (d.build schema schemaName position).columnNames = d.columns.map (·.name) := by
  simp only [TableDecl.build, TableDecl.buildColumns, Table.columnNames, List.map_map]
  exact map_fst_zipIdx d.columns (·.name)

@[simp]
theorem SchemaDecl.build_tableNames (d : SchemaDecl) (id : SchemaId) :
    (d.build id).tableNames = d.tables.map (·.name) := by
  simp only [SchemaDecl.build, Schema.tableNames, List.map_map]
  exact map_fst_zipIdx d.tables (·.name)

end DataAccess.Catalog
