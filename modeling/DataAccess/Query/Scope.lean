import DataAccess.Catalog.Resolution
import DataAccess.Query.Basic

/-!
# Scope: names inside a query

A query is built up step by step, with names in place of tables and columns. A table is found in the
catalog. A column is found among the tables that the query already reads, by `Query.column`: behind
the alias or name of one of them, or by its bare name, or by a label of the catalog. Each step is a
lookup that ends with the larger query, or with the error that a name is unknown.
-/

namespace DataAccess

open Catalog

/-! ## Qualifiers -/

/-- Splits a text after its first `size` bytes, if that is a place between two characters. -/
def splitAtByte? : Nat → List Char → Option (List Char × List Char)
  | 0, cs => some ([], cs)
  | _ + 1, [] => none
  | size + 1, c :: rest =>
      if c.utf8Size ≤ size + 1 then
        (splitAtByte? (size + 1 - c.utf8Size) rest).map fun (front, back) => (c :: front, back)
      else
        none
termination_by _ cs => cs.length

/-- What follows `qualifier` and a point at the front of a label. The front of the label is as long
as the qualifier and equals it up to the case of ASCII letters and the quotes around either. -/
def afterQualifier? (qualifier : String) (label : List Char) : Option (List Char) :=
  match splitAtByte? qualifier.utf8ByteSize label with
  | some (front, '.' :: rest) =>
      if Text.equalIgnoringAsciiCase (Label.unquote front) (Label.unquote qualifier.toList) then
        some rest
      else
        none
  | _ => none

namespace FromItem

/-- The names that may stand before a column of the item: first the alias, if it has one, and then
the name of the table. -/
def qualifiers (t : Table) (asName : Option String) : List String :=
  asName.toList ++ [t.name]

/-- The column of the item that a label names behind one of its `qualifiers`: the first one that
leads to a column decides. -/
def qualifiedColumn? (label : List Char) (i : FromItem) : Option ColumnRef :=
  i.table?.bind fun t => (qualifiers t i.asName).findSome? fun q =>
    (afterQualifier? q label).bind fun rest =>
      (t.column? (Label.unquote rest)).map fun c => ⟨c, i.asName⟩

/-- The column of the item that a label names by itself (`Table.column?`). -/
def bareColumn? (label : List Char) (i : FromItem) : Option ColumnRef :=
  i.table?.bind fun t => (t.column? (Label.unquote label)).map fun c => ⟨c, i.asName⟩

/-- The reference to a column of the catalog through the item, if the column is one of its table, by
`TableKey`. -/
def ownColumn? (c : Column) (i : FromItem) : Option ColumnRef :=
  i.table?.bind fun t => if t.ref.key == c.owner.key then some ⟨c, i.asName⟩ else none

end FromItem

namespace Query

/-! ## Names -/

/-- What a query reads, as shown to a reader. -/
def scope (q : Query) : String :=
  if q.sources.isEmpty then "an empty FROM clause"
  else ", ".intercalate (q.sources.map (·.display))

/-- The column that a label names in a query: behind a qualifier (`qualifiedColumn?`) or else by
itself (`bareColumn?`) in the first item that has one, or else in the catalog
(`Lookup.columnByLabel?`), through the item that reads its table (`ownColumn?`). -/
def column (q : Query) (label : String) : Lookup ColumnRef := do
  let label := Text.trimChars label.toList
  match q.sources.findSome? (·.qualifiedColumn? label) <|>
      q.sources.findSome? (·.bareColumn? label) with
  | some c => return c
  | none =>
      let found ← Lookup.columnByLabel? (String.ofList label)
      match found.bind fun c => q.sources.findSome? (·.ownColumn? c) with
      | some c => return c
      | none => .fail (.columnNotFound (String.ofList label) q.scope)

/-- The table that a label names in the catalog (`Lookup.tableByLabel?`), or the error
`tableNotFound`. -/
def table (label : String) : Lookup Table := do
  match ← Lookup.tableByLabel? label with
  | some t => return t
  | none => .fail (.tableNotFound label)

/-! ## Steps -/

/-- Reads one more item. -/
def addSource (q : Query) (i : FromItem) : Query := { q with sources := q.sources ++ [i] }

/-- Selects one more item. -/
def addSelect (q : Query) (i : SelectItem) : Query := { q with select := q.select ++ [i] }

/-- Adds a condition on rows. -/
def addFilter (q : Query) (i : FilterItem) : Query := { q with filters := q.filters ++ [i] }

/-- Adds a condition on groups. -/
def addHaving (q : Query) (i : FilterItem) : Query := { q with having := q.having ++ [i] }

/-- Groups by one more item. -/
def addGroup (q : Query) (i : SelectItem) : Query := { q with groupBy := q.groupBy ++ [i] }

/-- Orders by one more item. -/
def addOrder (q : Query) (i : OrderItem) : Query := { q with orderBy := q.orderBy ++ [i] }

/-- Reads the `table` that a label names, under an alias or not. -/
def readTable (q : Query) (label : String) (asName : Option String) : Lookup Query := do
  return q.addSource ⟨.table (← table label), asName⟩

/-- Selects the `column` that a label names, under an alias or not. -/
def selectColumn (q : Query) (label : String) (asName : Option String) : Lookup Query := do
  return q.addSelect ⟨.column (← q.column label), asName⟩

/-- Selects a function of the column that a label names. -/
def selectAggregate (q : Query) (f : AggregateFunction) (label : String) : Lookup Query := do
  return q.addSelect { kind := .aggregate f (← q.column label) }

/-- Selects all columns of all tables that are read so far. -/
def selectAll (q : Query) : Query :=
  { q with select := q.select ++ q.sources.flatMap fun i =>
      (i.table?.toList.flatMap (·.columns)).map fun c => .ofColumn ⟨c, i.asName⟩ }

/-- Adds a comparison of the `column` that a label names. -/
def filterColumn (q : Query) (label : String) (op : Operator) (operand : Operand) :
    Lookup Query := do
  return q.addFilter (.compare (.ofColumn (← q.column label)) op operand)

/-- Groups by the column that a label names. -/
def groupByColumn (q : Query) (label : String) : Lookup Query := do
  return q.addGroup (.ofColumn (← q.column label))

/-- Orders by the column that a label names. -/
def orderByColumn (q : Query) (label : String) (direction : Direction) : Lookup Query := do
  return q.addOrder ⟨.ofColumn (← q.column label), direction⟩

/-! ## Reading a text -/

/-- Splits a text at its last point, if there is one, into what stands before and behind it. -/
def splitAtLastPoint? (cs : List Char) : Option (List Char × List Char) :=
  match cs.reverse.dropWhile (· != '.') with
  | _ :: front => some (front.reverse, (cs.reverse.takeWhile (· != '.')).reverse)
  | [] => none

/-- The query for one column that a text `TABLE.COLUMN` names. -/
def ofPath (text : String) : Lookup Query :=
  match splitAtLastPoint? text.toList with
  | some (t, c) => do (← readTable {} (String.ofList t) none).selectColumn (String.ofList c) none
  | none => .fail (.unsupported s!"cannot parse '{text}'")

end Query

end DataAccess
