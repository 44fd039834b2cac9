import DataAccess.Error
import DataAccess.Query.Basic

/-!
# Updates: changes of tables and rows

An `Update` creates or drops a table, or inserts or deletes rows. Tables that exist are given as
they are known from the catalog, a table to be created by its declaration.
-/

namespace DataAccess

open Catalog

/-- A change. -/
inductive Update where
  /-- Create a table in the schema of that name. -/
  | createTable (schema : SchemaName) (table : TableDecl)
  /-- Drop a table. -/
  | dropTable (table : Table)
  /-- Append rows to a table. -/
  | insert (table : Table) (rows : List Record)
  /-- Delete the rows of a table for which all conditions hold. -/
  | delete (table : Table) (filters : List FilterItem)

namespace Update

/-- The deletion of what a query on a single table would select, by its `filters` alone. -/
def deleteMatching (q : Query) : Except Error Update :=
  match q.sources with
  | [i] => match i.source with
      | .table t => .ok (.delete t q.filters)
      | .expression text => .error (.unsupported s!"Cannot delete from expression '{text}'")
  | _ => .error (.unsupported "Delete reads exactly one table")

/-- The kind of a change as one word. -/
def kind : Update → String
  | createTable _ _ => "create_table"
  | dropTable _ => "drop_table"
  | insert _ _ => "insert"
  | delete _ _ => "delete"

/-- Whether the shape of a schema changes: a table is created or dropped. -/
def isDdl : Update → Bool
  | createTable _ _ | dropTable _ => true
  | insert _ _ | delete _ _ => false

/-- A declared table as it would be known from the catalog: the table of its name in a schema that
has it alone (`SchemaDecl.build`). -/
def declaredTable (id : SchemaId) (schema : SchemaName) (d : TableDecl) : Except Error Table :=
  match ((SchemaDecl.mk schema [d]).build id).table? d.name with
  | some t => .ok t
  | none => .error (.illegalState s!"Table '{d.name}' was not declared")

/-- Checks that every row has as many values as the table has columns (`t.width`), or fails with
`illegalState` for the first one that has not. -/
def checkWidth (t : Table) (rows : List Record) : Except Error Unit :=
  match rows.find? fun row => row.length != t.width with
  | some row => .error <| .illegalState <|
      s!"Row of {row.length} values does not fit {t.qualifiedLabel} with {t.width} columns"
  | none => .ok ()

/-- The error of a source that accepts no changes. -/
def notAccepted (u : Update) : Error :=
  .unsupported s!"Source does not accept {u.kind} updates"

end Update

end DataAccess
