import DataAccess.Dialect.Fragment
import DataAccess.Dialect.Literal
import DataAccess.Query.Basic

/-!
# Rendering: queries as SQL

Each part of a query has a fragment of SQL, and `queryFragment` puts them together. Values stand in
the text as literals, parameters as markers. All dialects share this text; they differ in the window
that follows it.

A column is written behind the alias of its table or behind the name of its table, the latter as
long as the table is held.
-/

namespace DataAccess.Dialect

open Catalog Fragment

/-! ## Items -/

/-- The name in front of a column: its alias `c.tableAlias`, raw, or else the `identifier` of its
table, as long as that is held. -/
def qualifierText? (held : Holdings) (c : ColumnRef) : Option String :=
  c.tableAlias <|> (c.column.table? held).map fun t => identifier t.name

/-- A column as it is written: `identifier c.column.name` behind `qualifierText?` and a dot, if
there is a qualifier. -/
def columnText (held : Holdings) (c : ColumnRef) : String :=
  match qualifierText? held c with
  | some q => q ++ "." ++ identifier c.column.name
  | none => identifier c.column.name

/-- What an item computes, as it is written. -/
def kindText (held : Holdings) : SelectKind → String
  | .column c => columnText held c
  | .aggregate f c => f.name ++ "(" ++ columnText held c ++ ")"
  | .countAll => "COUNT(*)"
  | .expression text => text

/-- A select item as it is written: `kindText`, and `AS` with the `identifier` of its alias if it
has one. -/
def itemText (held : Holdings) (i : SelectItem) : String :=
  match i.asName with
  | some shownAs => kindText held i.kind ++ " AS " ++ identifier shownAs
  | none => kindText held i.kind

/-- A table as it is written: the `identifier` of its name, behind that of its schema if it has
one. -/
def tableText (t : Table) : String :=
  match t.schemaName with
  | some schema => identifier schema ++ "." ++ identifier t.name
  | none => identifier t.name

/-- What is read, as it is written: `tableText` or an expression, and the alias behind a space,
raw. -/
def sourceText (i : FromItem) : String :=
  let shown := match i.source with
    | .table t => tableText t
    | .expression text => text
  match i.asName with
  | some shownAs => shown ++ " " ++ shownAs
  | none => shown

/-- An order item as it is written: `itemText` and the direction. -/
def orderText (held : Holdings) (o : OrderItem) : String :=
  itemText held o.item ++ " " ++ o.direction.name

/-! ## Conditions -/

/-- A list of values as it is written, without parentheses. -/
def literalList (vs : List Value) : String :=
  ", ".intercalate (vs.map literal)

/-- The right side of a comparison: a `literal`, a marker, an item, or literals in parentheses. -/
def operandFragment (held : Holdings) : Operand → Fragment
  | .value v => ofText (literal v)
  | .parameter => [.marker]
  | .item i => ofText (itemText held i)
  | .list vs => ofText ("(" ++ literalList vs ++ ")")

/-- What stands between the parentheses of a membership test: the literals of a list, or else what
`operandFragment` makes of the operand. -/
def membersFragment (held : Holdings) : Operand → Fragment
  | .list vs => ofText (literalList vs)
  | operand => operandFragment held operand

/-- Operator and right side of a comparison. A comparison with a literal null asks whether the left
side is null, and `isIn` and `notIn` put their operand in parentheses (`membersFragment`). -/
def comparisonFragment (held : Holdings) (op : Operator) (operand : Operand) : Fragment :=
  match op, operand with
  | .equal, .value .null => ofText " IS NULL"
  | .notEqual, .value .null => ofText " IS NOT NULL"
  | .isIn, operand | .notIn, operand =>
      ofText (" " ++ op.text ++ " (") ++ membersFragment held operand ++ ofText ")"
  | _, operand => ofText (" " ++ op.text ++ " ") ++ operandFragment held operand

mutual

/-- A condition: the left side of a comparison is written without its alias (`SelectItem.bare`). -/
def filterFragment (held : Holdings) : FilterItem → Fragment
  | .compare left op operand =>
      ofText (itemText held left.bare) ++ comparisonFragment held op operand
  | .anyOf items => ofText "(" ++ separated " OR " (filterFragments held items) ++ ofText ")"
  | .expression text => ofText text

/-- Conditions, one by one. -/
def filterFragments (held : Holdings) : List FilterItem → List Fragment
  | [] => []
  | item :: rest => filterFragment held item :: filterFragments held rest

end

/-! ## Queries -/

/-- Items, one by one. -/
def itemFragments (held : Holdings) (items : List SelectItem) : List Fragment :=
  items.map fun i => ofText (itemText held i)

/-- What is selected: `SELECT` or `SELECT DISTINCT`, and `*` if there are no items. -/
def selectFragment (held : Holdings) (q : Query) : Fragment :=
  ofText (if q.distinct then "SELECT DISTINCT " else "SELECT ") ++
    if q.select.isEmpty then ofText "*" else separated ", " (itemFragments held q.select)

/-- A query without its window: `selectFragment` and the `clause`s for sources, filters, groups,
conditions on groups and order. -/
def queryFragment (held : Holdings) (q : Query) : Fragment :=
  selectFragment held q ++
    clause " FROM " ", " (q.sources.map fun i => ofText (sourceText i)) ++
    clause " WHERE " " AND " (filterFragments held q.filters) ++
    clause " GROUP BY " ", " (itemFragments held q.groupBy) ++
    clause " HAVING " " AND " (filterFragments held q.having) ++
    clause " ORDER BY " ", " (q.orderBy.map fun o => ofText (orderText held o))

end DataAccess.Dialect
