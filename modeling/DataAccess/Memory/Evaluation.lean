import DataAccess.Error
import DataAccess.Memory.Predicate
import DataAccess.Params
import DataAccess.Query.Basic

/-!
# Evaluation: queries on the rows of one table

`Evaluation.ofQuery` prepares a query for rows that are held in memory: one table, columns,
comparisons and order, with all parameters bound. Whatever else a query may contain is an error, and
the first one in reading order is reported. `Evaluation.apply` then filters, orders and projects
rows. The window of a query is left to the stream of its rows.
-/

namespace DataAccess.Memory

open Catalog

/-! ## Errors -/

/-- A table expression cannot be read. -/
def unreadableExpression (text : String) : Error :=
  .unsupported s!"in-memory source cannot read from expression '{text}'"

/-- There is no table or more than one. -/
def notOneTable : Error :=
  .unsupported "in-memory source reads exactly one table per query"

/-- Rows are grouped. -/
def aggregatesRows : Error :=
  .unsupported "in-memory source does not evaluate aggregates or grouping"

/-- An expression is not understood. -/
def opaqueExpression (text : String) : Error :=
  .unsupported s!"in-memory source cannot evaluate expression '{text}'"

/-! ## Binding -/

/-- The position of the column that an item reads. An expression is an `opaqueExpression`, and an
aggregate `aggregatesRows`. -/
def ordinalOf (i : SelectItem) : Except Error Nat :=
  match i.kind with
  | .column c => .ok c.column.ordinal
  | .expression text => .error (opaqueExpression text)
  | .aggregate _ _ | .countAll => .error aggregatesRows

/-- The positions of the columns that items read (`ordinalOf`), or the error of the first one that
reads none. -/
def ordinalsOf : List SelectItem → Except Error (List Nat)
  | [] => .ok []
  | i :: rest => do return (← ordinalOf i) :: (← ordinalsOf rest)

/-- The positions and directions that rows are ordered by (`ordinalOf`). -/
def orderOf : List OrderItem → Except Error (List (Nat × Direction))
  | [] => .ok []
  | o :: rest => do return (← ordinalOf o.item, o.direction) :: (← orderOf rest)

/-- Binds an operand. A parameter takes the first of the values that are left; `missing` is the
error if none is left. -/
def bindOperand (missing : Error) (values : List Value) : Operand → Except Error (Side × List Value)
  | .value v => .ok (.literal v, values)
  | .parameter => match values with
      | v :: rest => .ok (.bound v, rest)
      | [] => .error missing
  | .item i => do return (.column (← ordinalOf i), values)
  | .list vs => .ok (.list vs, values)

mutual

/-- Binds a condition and gives the values that are left. The operand of a comparison is bound
before its left side, so an operand without a value is reported before an expression on the left. -/
def bindFilter (missing : Error) (values : List Value) :
    FilterItem → Except Error (Predicate × List Value)
  | .compare left op operand => do
      let (side, values) ← bindOperand missing values operand
      return (.compare (← ordinalOf left) op side, values)
  | .anyOf items => do
      let (bound, values) ← bindFilters missing values items
      return (.anyOf bound, values)
  | .expression text => .error (opaqueExpression text)

/-- Binds conditions one after another (`bindFilter`). The first one that cannot be bound ends this
with its error. -/
def bindFilters (missing : Error) (values : List Value) :
    List FilterItem → Except Error (List Predicate × List Value)
  | [] => .ok ([], values)
  | item :: rest => do
      let (bound, values) ← bindFilter missing values item
      let (others, values) ← bindFilters missing values rest
      return (bound :: others, values)

end

/-! ## Prepared queries -/

/-- A query prepared for the rows of its `table`: its columns by their positions, its parameters by
their values. -/
structure Evaluation where
  /-- The table. -/
  table : Table
  /-- The positions of the selected columns. -/
  projection : List Nat
  /-- The conditions, all of which hold. -/
  predicates : List Predicate
  /-- The positions and directions that rows are ordered by. -/
  order : List (Nat × Direction)
  /-- Whether each row is given once. -/
  distinct : Bool
deriving Inhabited

/-- The one table that a query reads, or `notOneTable`. -/
def tableOf (q : Query) : Except Error Table :=
  match q.sources with
  | [i] => match i.source with
      | .table t => .ok t
      | .expression text => .error (unreadableExpression text)
  | _ => .error notOneTable

/-- Prepares a query with the values `params`. Of several things that are wrong, the first in the
order table, grouping, selection, conditions, order is the error. Values that are left over are
dropped. -/
def Evaluation.ofQuery (q : Query) (params : Params) : Except Error Evaluation := do
  let table ← tableOf q
  if q.isAggregated || !q.having.isEmpty then .error aggregatesRows
  let projection ← ordinalsOf q.select
  let missing : Error := .parameterCount q.parameterCount params.size
  let (predicates, _) ← bindFilters missing params.toList q.filters
  let order ← orderOf q.orderBy
  return ⟨table, projection, predicates, order, q.distinct⟩

/-! ## Rows -/

/-- Each element of a list once (by `==`), where it occurs first. -/
def firstOccurrences [BEq α] (l : List α) : List α :=
  l.foldl (fun kept a => if kept.contains a then kept else kept ++ [a]) []

namespace Evaluation

/-- Whether all conditions hold in a row (`Predicate.holds`). -/
def selects (e : Evaluation) (row : Record) : Bool :=
  e.predicates.all fun p => p.holds row

/-- The order of two rows by the given columns. Cells that are not ordered (`Value.compare?`) count
as equal. -/
def compareBy : List (Nat × Direction) → Record → Record → Ordering
  | [], _, _ => .eq
  | (ordinal, direction) :: rest, a, b =>
      let o := ((cell a ordinal).compare? (cell b ordinal)).getD .eq
      let o := match direction with
        | .ascending => o
        | .descending => o.swap
      o.then (compareBy rest a b)

/-- The order of two rows by `e.order` (`compareBy`). -/
def compareRows (e : Evaluation) (a b : Record) : Ordering :=
  compareBy e.order a b

/-- The rows in order: a stable sort, in which rows that count as equal stay as they are. -/
def sortRows (e : Evaluation) (rows : List Record) : List Record :=
  rows.mergeSort fun a b => e.compareRows a b != .gt

/-- The selected cells of a row (`cell`). -/
def project (e : Evaluation) (row : Record) : Record :=
  e.projection.map (cell row)

/-- The result of a query on the rows of its table: those that it `selects`, in order (`sortRows`),
each `project`ed, and with `distinct` each result once (`firstOccurrences`). -/
def apply (e : Evaluation) (rows : List Record) : List Record :=
  let result := (e.sortRows (rows.filter e.selects)).map e.project
  if e.distinct then firstOccurrences result else result

end Evaluation

end DataAccess.Memory
