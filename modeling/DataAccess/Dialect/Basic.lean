import DataAccess.Dialect.Pagination
import DataAccess.Dialect.Rendering
import DataAccess.Dialect.TypeName
import DataAccess.Error

/-!
# Dialects: SQL for one source

A `Dialect` is a pagination policy and, if it is known, the product for which it was chosen. It
compiles queries and writes the statements that create, drop and empty tables.
-/

namespace DataAccess

open Catalog Dialect Fragment

/-- The SQL of one source: its `pagination` decides how the window of a query is written, its
`product` how types are named. -/
structure SqlDialect where
  /-- How the window of a query is written. -/
  pagination : Pagination := .unwritten
  /-- The product, if known. -/
  product : Option Product := none
deriving DecidableEq, Inhabited

namespace SqlDialect

/-- The dialect of which nothing is known. -/
def base : SqlDialect := {}

/-- The dialect of a product. -/
def ofProduct (p : Product) : SqlDialect := ⟨.ofProduct p, some p⟩

/-- The dialect of a source that was asked for its product: `base` if it does not know. -/
def ofProbe : Except Error Product → SqlDialect
  | .ok p => ofProduct p
  | .error _ => base

/-- The maker of the database, if known. -/
def vendor? (d : SqlDialect) : Option Vendor := d.product.bind (·.vendor?)

/-! ## Queries -/

/-- A query with its window: `queryFragment`, and the text of `Pagination.suffix?` if there is one.
Whoever compiles a query may hold more than the query itself does, `outside`. -/
def fragment (d : SqlDialect) (outside : Holdings) (q : Query) : Fragment :=
  queryFragment (q.holdings.union outside) q ++
    match d.pagination.suffix? q with
    | some s => ofText s.text
    | none => []

/-- The SQL of a query with the places of its markers (`Fragment.rendered`). -/
def compile (d : SqlDialect) (outside : Holdings) (q : Query) : Rendered :=
  (d.fragment outside q).rendered

/-! ## Tables -/

/-- A column in the statement that creates its table: name, `typeName`, size in parentheses, and
`NOT NULL` if `c.nullable = some false`. -/
def columnDefinition (d : SqlDialect) (c : Column) : String :=
  identifier c.name ++ " " ++ typeName d.vendor? c.type ++
    (match c.size with
      | some size => "(" ++ toString size ++ ")"
      | none => "") ++
    if c.nullable = some false then " NOT NULL" else ""

/-- The statement `CREATE TABLE` for a table, with one `columnDefinition` for each column. -/
def createTable (d : SqlDialect) (t : Table) : String :=
  "CREATE TABLE " ++ tableText t ++ " (" ++
    ", ".intercalate (t.columns.map d.columnDefinition) ++ ")"

/-- The statement that drops a table. -/
def dropTable (_ : SqlDialect) (t : Table) : String :=
  "DROP TABLE " ++ tableText t

/-- The statement `DELETE FROM` for the rows of a table for which all conditions hold, with the
places of its markers. The table is held while it is written, and what is held `outside`. -/
def deleteRows (_ : SqlDialect) (outside : Holdings) (t : Table) (filters : List FilterItem) :
    Rendered :=
  let held := (Holdings.ofTable t).union outside
  (ofText ("DELETE FROM " ++ tableText t) ++
    clause " WHERE " " AND " (filterFragments held filters)).rendered

end SqlDialect

end DataAccess
