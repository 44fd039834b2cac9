import DataAccess.Query.Filter

/-!
# Queries

A `Query` is what is asked, apart from any database product: the selected items, the tables, the
conditions, grouping, order, and a window of rows. The window is `maxRows` rows from row `firstRow`
on, counted from one.
-/

namespace DataAccess

open Catalog

/-- What is asked of a source, with its window: at most `maxRows` rows from number `firstRow` on. -/
structure Query where
  /-- The selected items; none stands for all columns. -/
  select : List SelectItem := []
  /-- Whether each row is given once. -/
  distinct : Bool := false
  /-- What is read. -/
  sources : List FromItem := []
  /-- The conditions on rows, all of which hold. -/
  filters : List FilterItem := []
  /-- What rows are grouped by. -/
  groupBy : List SelectItem := []
  /-- The conditions on groups, all of which hold. -/
  having : List FilterItem := []
  /-- What rows are ordered by. -/
  orderBy : List OrderItem := []
  /-- The largest number of rows. -/
  maxRows : Option Nat := none
  /-- The number of the first row, from one. -/
  firstRow : Option Nat := none
deriving Inhabited

namespace Query

/-- The number of parameters, in the conditions on rows and on groups. -/
def parameterCount (q : Query) : Nat :=
  FilterItem.parameterCounts (q.filters ++ q.having)

/-- The headers of the produced columns. -/
def labels (q : Query) : List String := q.select.map (·.label)

/-- The tables that are read. -/
def tables (q : Query) : List Table := q.sources.filterMap (·.table?)

/-- What a query holds: the tables that it reads. -/
def holdings (q : Query) : Holdings := ⟨[], q.tables.map (·.ref.key)⟩

/-- Whether rows are grouped. -/
def isAggregated (q : Query) : Bool :=
  !q.groupBy.isEmpty || q.select.any (·.isAggregate)

/-- The number of rows before the window. -/
def offset (q : Query) : Nat :=
  match q.firstRow with
  | some first => first - 1
  | none => 0

/-- Whether the window leaves out any rows: `maxRows` is set, or `0 < q.offset`. -/
def isPaginated (q : Query) : Bool :=
  q.maxRows.isSome || 0 < q.offset

/-- A table that is read is held: `q.holdings.holdsTable t.ref.key` for every `t ∈ q.tables`. -/
theorem holdsTable_holdings {q : Query} {t : Table} (h : t ∈ q.tables) :
    q.holdings.holdsTable t.ref.key = true := by
  simp only [holdings, Holdings.holdsTable, Bool.or_eq_true, List.contains_eq_mem,
    decide_eq_true_eq]
  exact .inl (List.mem_map_of_mem h)

end Query

end DataAccess
