import DataAccess.Proofs.NameReader
import DataAccess.Proofs.OwnColumns

/-!
# Column references: what tells columns apart in a query

A table is written behind its schema where it is read, so that tables are written alike only if
their schemas and their names are the same. A column is written behind the name of its table, and
the schema is left out.

* **Columns** (`columnText_eq_iff`): columns of tables that are read without aliases are written
  alike just if the names of the tables and those of the columns are the same. So they make the same
  query.
* **Tables of one name** (`columnText_ambiguous`): columns of different tables may be written alike.
-/

namespace DataAccess

open Catalog Dialect Fragment

/-! ## Columns -/

namespace Query

section Columns

variable {q : Query} {b : Builds} {t t' : Table} {c c' : Column}

/-- What follows the selected items: the sources, the other clauses and the window. It does not
depend on `q.select`. -/
def restFragment (d : SqlDialect) (outside : Holdings) (q : Query) : Fragment :=
  let held := q.holdings.union outside
  clause " FROM " ", " (q.sources.map fun i => ofText (sourceText i)) ++
    (clause " WHERE " " AND " (filterFragments held q.filters) ++
    (clause " GROUP BY " ", " (itemFragments held q.groupBy) ++
    (clause " HAVING " " AND " (filterFragments held q.having) ++
    (clause " ORDER BY " ", " (q.orderBy.map fun o => ofText (orderText held o)) ++
    match d.pagination.suffix? q with
    | some s => ofText s.text
    | none => []))))

/-- The fragment of a query is `selectFragment` and then `restFragment`. -/
theorem fragment_eq (d : SqlDialect) (outside : Holdings) (q : Query) :
    d.fragment outside q = selectFragment (q.holdings.union outside) q ++
      restFragment d outside q := by
  unfold SqlDialect.fragment restFragment queryFragment
  cases d.pagination.suffix? q with
  | none => simp only [List.append_assoc]
  | some s => simp only [List.append_assoc]

/-- The `text` of what is selected stands between the keyword and `restFragment`. -/
theorem sql_compile_of_selectFragment (d : SqlDialect) (outside : Holdings) {q : Query}
    {text : String} (h : selectFragment (q.holdings.union outside) q =
      ofText (if q.distinct then "SELECT DISTINCT " else "SELECT ") ++ ofText text) :
    (d.compile outside q).sql =
      (if q.distinct then "SELECT DISTINCT " else "SELECT ") ++ text ++
        sql (restFragment d outside q) := by
  rw [SqlDialect.compile, fragment_eq, h]
  show sql (ofText _ ++ ofText _ ++ _) = _
  rw [sql_append, sql_append, sql_ofText, sql_ofText]

/-- The SQL of a query that selects the single item `i` is the keyword, `itemText` of it, and
`restFragment`. -/
theorem sql_compile_select (d : SqlDialect) (outside : Holdings) (q : Query) (i : SelectItem) :
    (d.compile outside { q with select := [i] }).sql =
      (if q.distinct then "SELECT DISTINCT " else "SELECT ") ++
        itemText (q.holdings.union outside) i ++
        sql (restFragment d outside q) :=
  sql_compile_of_selectFragment d outside rfl

/-- **Columns** of tables that are read without aliases are written alike by `columnText` just if
the names of the tables and those of the columns are the same, whatever the schemas are. No dialect
tells them apart any further, though the tables themselves are told apart by their schemas where
they are read (`tableText`). -/
theorem columnText_eq_iff (hq : ∀ t ∈ q.tables, b.MadeTable t) (ht : t ∈ q.tables)
    (ht' : t' ∈ q.tables) (hc : c ∈ t.columns) (hc' : c' ∈ t'.columns) :
    (tableText t = tableText t' ↔ t.schemaName = t'.schemaName ∧ t.name = t'.name) ∧ ∀ outside,
      (columnText (q.holdings.union outside) ⟨c, none⟩ =
        columnText (q.holdings.union outside) ⟨c', none⟩ ↔
        t.name = t'.name ∧ c.name = c'.name) ∧
      ∀ d : SqlDialect, (d.compile outside { q with select := [.ofColumn ⟨c, none⟩] }).sql =
          (d.compile outside { q with select := [.ofColumn ⟨c', none⟩] }).sql ↔
        t.name = t'.name ∧ c.name = c'.name := by
  refine ⟨tableText_eq_iff, fun outside => ?_⟩
  have htext {t : Table} {c : Column} (ht : t ∈ q.tables) (hc : c ∈ t.columns) :
      columnText (q.holdings.union outside) ⟨c, none⟩ = identifier t.name ++ "." ++
        identifier c.name :=
    (columnText_of_mem_tables (c := ⟨c, none⟩) ht (hq t ht) hc outside).2.2
  have hcolumn : columnText (q.holdings.union outside) ⟨c, none⟩ =
    columnText (q.holdings.union outside) ⟨c', none⟩ ↔
      t.name = t'.name ∧ c.name = c'.name := by
    rw [htext ht hc, htext ht' hc', identifier_dot_inj, identifier_inj]
  refine ⟨hcolumn, fun d => ?_⟩
  rw [sql_compile_select, sql_compile_select, String.append_left_inj, String.append_right_inj]
  exact hcolumn

end Columns

/-! ## Tables of one name -/

/-- A schema with a table of one column for each pair of names. -/
def columnSchema (schema : String) (names : List (String × String)) : SchemaDecl where
  name := some schema
  tables := names.map fun (table, column) =>
    { name := table, columns := [{ name := column, type := .integer }] }

/-- Two schemas, the first of them with names that are like paths. -/
def dottedSchemas : List SchemaDecl :=
  [columnSchema "A" [("a", "b.c"), ("a.b", "c"), ("T", "x")], columnSchema "B" [("T", "x")]]

/-- The tables of `schemas`, each schema built under its place in the list. -/
def tablesBuilt (schemas : List SchemaDecl) : List Table :=
  schemas.zipIdx.flatMap fun (d, id) => (d.build id).tables

/-- The tables of `tablesBuilt` have been built (`Builds.MadeTable`) if the identities are places in
the list. -/
theorem madeTable_of_mem_tablesBuilt {schemas : List SchemaDecl} {t : Table}
    (h : t ∈ tablesBuilt schemas) :
    Builds.MadeTable (fun id => schemas[id]?) t := by
  obtain ⟨⟨d, id⟩, hd, ht⟩ := List.mem_flatMap.mp h
  exact ⟨d.build id, ⟨d, List.mk_mem_zipIdx_iff_getElem?.mp hd, rfl⟩, ht⟩

/-- The query that reads `tables`, under no aliases. -/
def reading (tables : List Table) : Query := { sources := tables.map FromItem.ofTable }

/-- `(reading tables).tables = tables`. -/
theorem tables_reading (tables : List Table) : (reading tables).tables = tables := by
  rw [Query.tables, reading, List.filterMap_map]
  exact List.filterMap_some

/-- The tables of `dottedSchemas`. -/
def dottedTable (i : Fin 4) : Table := (tablesBuilt dottedSchemas).get i

/-- Their columns. -/
def dottedColumn (i : Fin 4) : Column := (dottedTable i).columns.get ⟨0, by revert i; decide⟩

theorem columnText_eq_iff_dottedSchemas :
    let q (i : Fin 4) : Query :=
      { reading (tablesBuilt dottedSchemas) with select := [.ofColumn ⟨dottedColumn i, none⟩] }
    ∀ (d : SqlDialect) (outside : Holdings),
      (d.compile outside (q 0)).sql ≠ (d.compile outside (q 1)).sql ∧
      (d.compile outside (q 2)).sql = (d.compile outside (q 3)).sql := by
  intro q d outside
  have hmade : ∀ t ∈ (reading (tablesBuilt dottedSchemas)).tables,
      Builds.MadeTable (fun id => dottedSchemas[id]?) t := by
    rw [tables_reading]
    exact fun t ht => madeTable_of_mem_tablesBuilt ht
  have htable (i : Fin 4) : dottedTable i ∈ (reading (tablesBuilt dottedSchemas)).tables := by
    rw [tables_reading]
    exact List.get_mem _ _
  have hcolumn (i : Fin 4) : dottedColumn i ∈ (dottedTable i).columns := List.get_mem _ _
  have hsql (i j : Fin 4) :=
    ((columnText_eq_iff hmade (htable i) (htable j) (hcolumn i) (hcolumn j)).2 outside).2 d
  exact ⟨fun h => absurd ((hsql 0 1).mp h) (by decide), (hsql 2 3).mpr (by decide)⟩

/-- **Tables of one name**: columns of different tables that a query reads may have the same
`columnText`. -/
theorem columnText_ambiguous :
    ¬ ∀ (q : Query) (b : Builds) (outside : Holdings) (t t' : Table) (c c' : Column),
      (∀ t ∈ q.tables, b.MadeTable t) → (∀ i ∈ q.sources, i.asName = none) →
      q.tables.Pairwise (fun t t' => t.schemaName ≠ t'.schemaName ∨ t.name ≠ t'.name) →
      t ∈ q.tables → t' ∈ q.tables → t ≠ t' → c ∈ t.columns → c' ∈ t'.columns →
      columnText (q.holdings.union outside) ⟨c, none⟩ ≠ columnText (q.holdings.union outside)
        ⟨c', none⟩ := by
  intro happ
  have hsame :=
    happ (reading (tablesBuilt dottedSchemas)) (fun id => dottedSchemas[id]?) {} (dottedTable 2)
    (dottedTable 3) (dottedColumn 2) (dottedColumn 3)
    (by rw [tables_reading]; exact fun t ht => madeTable_of_mem_tablesBuilt ht)
    (by decide) (by decide) (by decide) (by decide) (by decide) (by decide) (by decide)
  exact hsame (by decide +kernel)

end Query

end DataAccess
