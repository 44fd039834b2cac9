import DataAccess.Catalog.Schema

/-!
# Items: what a query selects, reads and orders by

`SelectItem` is an expression with an optional alias: a column, an aggregate, the row count or an
opaque text. `FromItem` is a table or an opaque text, again with an optional alias. `OrderItem` adds
a direction to a select item.

A column is read through a `ColumnRef`, which carries the alias of the table it belongs to. The
texts of column references depend on which tables are held, since a column knows its table only
while it is.
-/

namespace DataAccess

open Catalog

/-! ## Columns -/

/-- A column and the alias of the table through which it is read. -/
structure ColumnRef where
  /-- The column. -/
  column : Column
  /-- The alias of the table. -/
  tableAlias : Option String := none
deriving DecidableEq, Inhabited

/-- The name in front of a referenced column: the alias, or else the name of the table as long as it
is held (`Column.table?`). -/
def ColumnRef.qualifier? (held : Holdings) (c : ColumnRef) : Option String :=
  c.tableAlias <|> (c.column.table? held).map (·.name)

/-- The label `alias.COLUMN` or `TABLE.COLUMN`, or the bare name. -/
def ColumnRef.label (held : Holdings) (c : ColumnRef) : String :=
  match c.qualifier? held with
  | some q => q ++ "." ++ c.column.name
  | none => c.column.name

/-! ## Select items -/

/-- A function of the rows of a group. -/
inductive AggregateFunction where
  | count
  | sum
  | avg
  | min
  | max
deriving DecidableEq, Inhabited

namespace AggregateFunction

/-- The SQL name. -/
def name : AggregateFunction → String
  | count => "COUNT"
  | sum => "SUM"
  | avg => "AVG"
  | min => "MIN"
  | max => "MAX"

/-- All functions. -/
def all : List AggregateFunction := [count, sum, avg, min, max]

/-- The function of that SQL name. -/
def ofName? (n : String) : Option AggregateFunction :=
  all.find? fun f => f.name == n

end AggregateFunction

/-- What an item computes. -/
inductive SelectKind where
  /-- A column. -/
  | column (c : ColumnRef)
  /-- A function of a column over the rows of a group. -/
  | aggregate (f : AggregateFunction) (c : ColumnRef)
  /-- The number of rows. -/
  | countAll
  /-- A text that the source understands. -/
  | expression (text : String)
deriving DecidableEq, Inhabited

/-- An expression (`SelectKind`) with an optional alias. -/
structure SelectItem where
  /-- The expression. -/
  kind : SelectKind
  /-- The alias. -/
  asName : Option String := none
deriving DecidableEq, Inhabited

namespace SelectItem

/-- The item that reads a column. -/
def ofColumn (c : ColumnRef) : SelectItem := { kind := .column c }

/-- The column that an item reads. -/
def columnRef? (i : SelectItem) : Option ColumnRef :=
  match i.kind with
  | .column c | .aggregate _ c => some c
  | .countAll | .expression _ => none

/-- Whether an item is computed over the rows of a group. -/
def isAggregate (i : SelectItem) : Bool :=
  match i.kind with
  | .aggregate _ _ | .countAll => true
  | .column _ | .expression _ => false

/-- The header of the column that an item produces: the alias, or else the item as written. -/
def label (i : SelectItem) : String :=
  i.asName.getD <| match i.kind with
    | .column c => c.column.name
    | .aggregate f c => f.name ++ "(" ++ c.column.name ++ ")"
    | .countAll => "COUNT(*)"
    | .expression text => text

/-- The item without its alias, as it is written in a condition. -/
def bare (i : SelectItem) : SelectItem := { i with asName := none }

/-- An item as shown to a reader. -/
def display (held : Holdings) (i : SelectItem) : String :=
  let shown := match i.kind with
    | .column c => c.label held
    | .aggregate f c => f.name ++ "(" ++ c.label held ++ ")"
    | .countAll => "COUNT(*)"
    | .expression text => text
  match i.asName with
  | some shownAs => shown ++ " AS " ++ shownAs
  | none => shown

end SelectItem

/-! ## From items -/

/-- What a query reads from. -/
inductive FromSource where
  /-- A table. -/
  | table (t : Table)
  /-- A text that the source understands. -/
  | expression (text : String)
deriving DecidableEq, Inhabited

/-- A table or text with an optional alias. -/
structure FromItem where
  /-- The table or text. -/
  source : FromSource
  /-- The alias. -/
  asName : Option String := none
deriving DecidableEq, Inhabited

namespace FromItem

/-- The item that reads a table. -/
def ofTable (t : Table) : FromItem := { source := .table t }

/-- The table that an item reads. -/
def table? (i : FromItem) : Option Table :=
  match i.source with
  | .table t => some t
  | .expression _ => none

/-- An item as shown to a reader. -/
def display (i : FromItem) : String :=
  let shown := match i.source with
    | .table t => t.qualifiedLabel
    | .expression text => text
  match i.asName with
  | some shownAs => shown ++ " " ++ shownAs
  | none => shown

end FromItem

/-! ## Order items -/

/-- The direction of an order. -/
inductive Direction where
  | ascending
  | descending
deriving DecidableEq, Inhabited

/-- The SQL name. -/
def Direction.name : Direction → String
  | ascending => "ASC"
  | descending => "DESC"

/-- A select item with a direction. -/
structure OrderItem where
  /-- The item. -/
  item : SelectItem
  /-- The direction. -/
  direction : Direction
deriving DecidableEq, Inhabited

/-- An order item as shown to a reader. -/
def OrderItem.display (held : Holdings) (o : OrderItem) : String :=
  o.item.display held ++ " " ++ o.direction.name

end DataAccess
