import DataAccess.Proofs.ProducedRows
import DataAccess.Proofs.StoreConsistency
import DataAccess.Proofs.UpdateAtomicity
import Mathlib.Data.List.Basic

/-!
# Table refinement: a store is a map from tables to rows

Behind its lists of declarations and of contents, a store is a map (`Store.tables`) from the names
of the declared tables to lists of rows, and updates are steps on that map (`Tables.Step`).

* **Tables of the catalog** (`Knows.declared`, `exists_knows`): a table that the catalog gives under
  some spelling of its name is built from the declaration of exactly its name, and all declared
  tables are given.
* **Queries on one table** (`ofQuery_columns`, `returns_columns`): a query and a deletion with the
  same conditions take the same rows.
* **The map after a change** (`tables_createTable`, `tables_dropTable`, `tables_setRows`).
* **Refinement** (`tables_refined`): what is accepted is a step on the map, what fails leaves it as
  it is, and a query for a whole table returns the rows that the map has for it.
-/

namespace DataAccess

open Catalog Execution Streaming

/-! ## Tables of the catalog -/

/-- What `find?` gives by a condition on names is the first element of exactly that name. -/
theorem find?_name_eq {α : Type} (name : α → String) {p : α → Bool} {l : List α} {a : α}
    (hp : ∀ b c, name b = name c → p b = p c) (h : l.find? p = some a) :
    l.find? (fun b => name b == name a) = some a := by
  have ha : p a = true := List.find?_some h
  induction l with
  | nil => cases h
  | cons b rest ih =>
      by_cases hb : p b = true
      · rw [List.find?_cons_of_pos hb] at h
        obtain rfl := Option.some.inj h
        exact List.find?_cons_of_pos (beq_self_eq_true _)
      · rw [List.find?_cons_of_neg hb] at h
        have hother : name b ≠ name a := by
          intro heq
          exact hb ((hp b a heq).trans ha)
        rw [List.find?_cons_of_neg (by simpa using hother)]
        exact ih h

namespace Catalog.SchemaDecl

variable {d : SchemaDecl} {id : SchemaId} {t : Table} {name : String}

/-- A search by name in the tables of a built schema is one in its declarations. -/
theorem find?_build (d : SchemaDecl) (id : SchemaId) (accepts : String → Bool) :
    (d.build id).tables.find? (fun t => accepts t.name) =
      (d.tables.zipIdx.find? fun x => accepts x.1.name).map fun x => x.1.build id d.name x.2 :=
  List.find?_map

/-- `d.table? name`, with the position of the declaration. -/
theorem table?_eq_map_zipIdx (d : SchemaDecl) (name : String) :
    d.table? name = (d.tables.zipIdx.find? fun x => x.1.name == name).map (·.1) := by
  calc d.tables.find? (fun t => t.name == name)
      = (d.tables.zipIdx.map (·.1)).find? (fun t => t.name == name) := by rw [List.zipIdx_map_fst]
    _ = _ := List.find?_map

/-- A table that `s.table?` gives under any spelling is the first one of its own name. -/
theorem find?_of_table? {s : Schema} (h : s.table? name = some t) :
    s.tables.find? (fun t' => t'.name == t.name) = some t := by
  unfold Schema.table? at h
  rcases hexact : s.tables.find? (fun t' => t'.name == name) with _ | t'
  · rw [hexact] at h
    refine find?_name_eq Table.name ?_ h
    intro t₁ t₂ hname
    rw [hname]
  · rw [hexact] at h
    obtain rfl : t' = t := Option.some.inj h
    refine find?_name_eq Table.name ?_ hexact
    intro t₁ t₂ hname
    rw [hname]

/-- A table of a built schema is built from the declaration of exactly its name,
`d.table? t.name`. -/
theorem exists_decl_of_table? (h : (d.build id).table? name = some t) :
    ∃ decl position, d.table? t.name = some decl ∧ t = decl.build id d.name position := by
  have hfound := find?_of_table? h
  rw [find?_build d id (· == t.name)] at hfound
  obtain ⟨⟨decl, position⟩, hdecl, ht⟩ := Option.map_eq_some_iff.mp hfound
  refine ⟨decl, position, ?_, ht.symm⟩
  rw [table?_eq_map_zipIdx, hdecl]
  rfl

/-- A declared table is found in the built schema under its own name. -/
theorem exists_table?_of_decl {decl : TableDecl} (h : d.table? name = some decl) (id : SchemaId) :
    ∃ t, (d.build id).table? name = some t ∧ t.ref.schemaName = d.name ∧ t.name = name := by
  rw [table?_eq_map_zipIdx] at h
  obtain ⟨⟨decl', position⟩, hdecl, -⟩ := Option.map_eq_some_iff.mp h
  have hname := List.find?_some hdecl
  refine ⟨decl'.build id d.name position, ?_, rfl, beq_iff_eq.mp hname⟩
  unfold Schema.table?
  rw [find?_build d id (· == name), hdecl]
  rfl

end Catalog.SchemaDecl

namespace Memory

variable {t : Table} {filters : List FilterItem}

/-! ## Queries on one table -/

/-- The query for all columns of the rows of `t` for which all conditions hold. -/
def allOf (t : Table) (filters : List FilterItem) : Query :=
  ({ sources := [.ofTable t], filters } : Query).selectAll

/-- The items that read `columns`. -/
def itemsOf (columns : List Column) : List SelectItem :=
  columns.map fun c => .ofColumn { column := c }

/-- `allOf` selects the columns of `t` one by one. -/
theorem allOf_eq (t : Table) (filters : List FilterItem) :
    allOf t filters = { select := itemsOf t.columns, sources := [.ofTable t], filters } := by
  unfold allOf Query.selectAll itemsOf
  simp [FromItem.ofTable, FromItem.table?]

/-- `ordinalsOf` gives the ordinals of columns, under whatever alias of their table. -/
theorem ordinalsOf_ofColumn (asName : Option String) (columns : List Column) :
    ordinalsOf (columns.map fun c => .ofColumn ⟨c, asName⟩) = .ok (columns.map (·.ordinal)) := by
  induction columns with
  | nil => rfl
  | cons c rest ih =>
      rw [List.map_cons, ordinalsOf, ih]
      rfl

/-- The conditions of a query, bound without values for parameters. -/
def conditionsOf (filters : List FilterItem) : Except Error (List Predicate × List Value) :=
  bindFilters (.parameterCount (FilterItem.parameterCounts (filters ++ [])) 0) [] filters

/-- **Queries on one table**: what `Evaluation.ofQuery` prepares depends on the columns in its
projection alone. -/
theorem ofQuery_columns (t : Table) (columns : List Column) (filters : List FilterItem) :
    Evaluation.ofQuery { select := itemsOf columns, sources := [.ofTable t], filters } .empty =
      (conditionsOf filters).map fun bound => ⟨t, columns.map (·.ordinal), bound.1, [], false⟩ := by
  have hplain : (itemsOf columns).any (·.isAggregate) = false := by
    rw [List.any_eq_false]
    intro i hi
    obtain ⟨c, -, rfl⟩ := List.mem_map.mp hi
    exact Bool.false_ne_true
  unfold Evaluation.ofQuery
  simp only [Query.isAggregated, hplain]
  show (ordinalsOf (itemsOf columns) >>= _) = _
  rw [itemsOf, ordinalsOf_ofColumn]
  show (conditionsOf filters >>= _) = _
  cases conditionsOf filters with
  | error e => rfl
  | ok bound => rfl

/-- Without an order and without `distinct` the rows that `e.selects` are only projected. -/
theorem apply_unordered (t : Table) (projection : List Nat) (predicates : List Predicate)
    (rows : List Record) :
    let e : Evaluation := ⟨t, projection, predicates, [], false⟩
    e.apply rows = (rows.filter e.selects).map e.project := by
  intro e
  have hsort : e.sortRows (rows.filter e.selects) = rows.filter e.selects := by
    apply List.mergeSort_of_pairwise
    exact List.pairwise_of_forall fun _ _ => rfl
  show (e.sortRows (rows.filter e.selects)).map e.project = _
  rw [hsort]

/-- A row is the list of its cells at `0, 1, …`. -/
theorem map_cell_range (row : Record) : (List.range row.length).map (cell row) = row := by
  apply List.ext_getElem
  · simp
  · intro i hi hi'
    simp [cell, hi']

/-- The columns of a built table have the ordinals `0, 1, …`. -/
theorem ordinals_build (d : TableDecl) (id : SchemaId) (schema : SchemaName) (position : Nat) :
    (d.build id schema position).columns.map (·.ordinal) = List.range d.columns.length := by
  unfold TableDecl.build TableDecl.buildColumns
  rw [List.map_map, List.range_eq_range']
  exact List.zipIdx_map_snd 0 d.columns

namespace Store

variable {s : Store}

/-! ## What is known and returned -/

/-- Whether the catalog of a store gives a table: a schema is loaded and built, and `Schema.table?`
finds the table in it under some spelling of its name. -/
def Knows (s : Store) (t : Table) : Prop :=
  ∃ schema d id spelling, (answer (.load schema) s).1 = .ok (some d) ∧
    (d.build id).table? spelling = some t

/-- Whether an update is about a table that `s.Knows`, or creates one. -/
def Serves (s : Store) : Update → Prop
  | .createTable _ _ => True
  | .dropTable t | .insert t _ | .delete t _ => s.Knows t

/-- Whether the execution of a query streams `rows`, in order, and no errors. -/
def Returns (s : Store) (q : Query) (rows : List Record) : Prop :=
  ∀ sql header, ∃ cursor, s.execute ⟨sql, .empty, q⟩ = .ok cursor ∧
    ((RowStream.ofCursor header cursor).collect).1 = rows.map fun row => .ok ⟨header, row⟩

/-- **Tables of the catalog**: a table that `s.Knows` is built from the declaration of exactly its
name, `s.declared? (nameOf t)`. -/
theorem Knows.declared (h : s.Knows t) :
    ∃ d id position, s.declared? (nameOf t) = some d ∧ t = d.build id t.schemaName position := by
  obtain ⟨schema, d, id, spelling, hload, htable⟩ := h
  have hfound : findDecl? s.schemas schema = some d := Except.ok.inj hload
  obtain ⟨decl, position, hdecl, ht⟩ := SchemaDecl.exists_decl_of_table? htable
  have hname : d.name = schema := by
    have hbeq := List.find?_some hfound
    exact beq_iff_eq.mp hbeq
  have hschema : t.schemaName = schema := by
    rw [ht]
    exact hname
  refine ⟨decl, id, position, ?_, by rw [hschema, ← hname]; exact ht⟩
  show (findDecl? s.schemas t.schemaName).bind (·.table? t.name) = some decl
  rw [hschema, hfound]
  exact hdecl

/-- A declared table is one that `s.Knows`. -/
theorem exists_knows {name : TableName} {decl : TableDecl} (h : s.declared? name = some decl) :
    ∃ t, s.Knows t ∧ nameOf t = name := by
  obtain ⟨d, hfound, hdecl⟩ := Option.bind_eq_some_iff.mp h
  obtain ⟨t, htable, hschema, hname⟩ := SchemaDecl.exists_table?_of_decl hdecl 0
  have hd : d.name = name.1 := by
    have hbeq := List.find?_some hfound
    exact beq_iff_eq.mp hbeq
  refine ⟨t, ⟨name.1, d, 0, name.2, congrArg Except.ok hfound, htable⟩, ?_⟩
  exact Prod.ext (hschema.trans hd) hname

/-- A table that `s.Knows` has the width of its declaration, and its columns are at `0, 1, …`. -/
theorem Knows.width {d : TableDecl} (h : s.Knows t) (hd : s.declared? (nameOf t) = some d) :
    d.columns.length = t.width ∧ t.columns.map (·.ordinal) = List.range t.width := by
  obtain ⟨d', id, position, hd', ht⟩ := h.declared
  obtain rfl : d' = d := Option.some.inj (hd'.symm.trans hd)
  have hwidth : t.width = d'.columns.length := by
    rw [ht]
    simp [TableDecl.build, TableDecl.buildColumns, Table.width]
  refine ⟨hwidth.symm, ?_⟩
  rw [hwidth, ht]
  exact ordinals_build d' id _ position

/-- An update with `s.Serves` is no `Misfit`. -/
theorem Serves.not_misfit {u : Update} (h : s.Serves u) : ¬ s.Misfit u := by
  cases u with
  | insert t rows =>
      rintro ⟨-, hmisfit⟩
      obtain ⟨d, id, position, hd, -⟩ := Knows.declared h
      exact hmisfit ⟨d, hd, .inr (Knows.width h hd).1⟩
  | createTable schema table => exact id
  | dropTable t => exact id
  | delete t filters => exact id

/-- In a `Consistent` store all rows of a table have the width of its declaration. -/
theorem Consistent.length_of_mem {d : TableDecl} {name : TableName} {row : Record}
    (hs : s.Consistent) (hd : s.declared? name = some d) (hrow : row ∈ s.rows name) :
    row.length = d.columns.length := by
  unfold Store.rows at hrow
  rcases hrows : s.rows? name with _ | rows
  · rw [hrows] at hrow
    cases hrow
  · rw [hrows] at hrow
    obtain ⟨d', hd', hwidth⟩ := hs _ (mem_contents_of_rows? hrows)
    obtain rfl : d' = d := Option.some.inj (hd'.symm.trans hd)
    exact hwidth row hrow

/-- `s.Returns` what `s.select` gives. -/
theorem returns_of_select {q : Query} {rows : List Record} (h : s.select q .empty = .ok rows) :
    s.Returns q rows := by
  intro sql header
  refine ⟨.ofActions s.capacity none [.publish rows], ?_, collect_published header s.capacity rows⟩
  unfold execute
  rw [h]
  rfl

/-- **Queries on one table**: `allOf t filters` returns the rows that a deletion with `filters`
takes. -/
theorem returns_allOf {e : Evaluation} (hknown : s.Knows t) (hs : s.Consistent)
    (h : Evaluation.ofQuery { sources := [.ofTable t], filters } .empty = .ok e) :
    s.Returns (allOf t filters) ((s.rows (nameOf t)).filter e.selects) := by
  obtain ⟨d, id, position, hd, -⟩ := hknown.declared
  obtain ⟨hwidth, hordinals⟩ := hknown.width hd
  have hdelete := (ofQuery_columns t [] filters).symm.trans h
  rcases hbound : conditionsOf filters with error | bound
  · rw [hbound] at hdelete
    cases hdelete
  rw [hbound] at hdelete
  obtain rfl : ⟨t, [], bound.1, [], false⟩ = e := Except.ok.inj hdelete
  have hquery : Evaluation.ofQuery (allOf t filters) .empty =
      .ok ⟨t, t.columns.map (·.ordinal), bound.1, [], false⟩ := by
    rw [allOf_eq, ofQuery_columns, hbound]
    rfl
  apply returns_of_select
  unfold select
  rw [hquery]
  show Except.ok (Evaluation.apply _ _) = _
  rw [apply_unordered]
  refine congrArg Except.ok ?_
  have hproject : ∀ row ∈ s.rows (nameOf t), (t.columns.map (·.ordinal)).map (cell row) = row := by
    intro row hrow
    rw [hordinals, ← hwidth, ← hs.length_of_mem hd hrow]
    exact map_cell_range row
  exact (List.map_congr_left fun row hrow => hproject row (List.mem_filter.mp hrow).1).trans
    (List.map_id' _)

end Store

/-! ## The map -/

open Store (nameOf)

/-- The rows of the tables that there are, a partial map from names. -/
abbrev Tables := TableName → Option (List Record)

/-- What an update that is accepted, with the count that it gives, does to a map of tables.
`returns` says which rows a query returns before the update. -/
inductive Tables.Step (returns : Query → List Record → Prop) (m : Tables) :
    Update → Nat → Tables → Prop where
  /-- A table is new and empty. -/
  | createTable {schema : SchemaName} {table : TableDecl} (hfree : m (schema, table.name) = none) :
      Step returns m (.createTable schema table) 0
        (Function.update m (schema, table.name) (some []))
  /-- A table is gone, with its rows. -/
  | dropTable {t : Table} {rows : List Record} (hrows : m (nameOf t) = some rows) :
      Step returns m (.dropTable t) 0 (Function.update m (nameOf t) none)
  /-- Rows are at the end. -/
  | insert {t : Table} {rows new : List Record} (hrows : m (nameOf t) = some rows) :
      Step returns m (.insert t new) new.length (Function.update m (nameOf t) (some (rows ++ new)))
  /-- The rows that a query with the same conditions returns are gone, and the others are left. -/
  | delete {t : Table} {filters : List FilterItem} {rows : List Record} {taken : Record → Bool}
      (hrows : m (nameOf t) = some rows) (htaken : returns (allOf t filters) (rows.filter taken)) :
      Step returns m (.delete t filters) (rows.filter taken).length
        (Function.update m (nameOf t) (some (rows.filter fun row => !taken row)))

namespace Store

/-- A store as a map: the rows of its declared tables, `s.rows name` where `s.declared? name`. -/
def tables (s : Store) : Tables :=
  fun name => (s.declared? name).map fun _ => s.rows name

/-- The stores that come of a new one by updates with `s.Serves` at their time, whether they are
accepted or fail. -/
inductive Reached : Store → Prop where
  /-- A store is new. -/
  | new (capacity : Nat) : Reached { capacity }
  /-- An update is accepted or fails. -/
  | update {s : Store} {u : Update} (h : s.Reached) (hu : s.Serves u) :
    Reached (source.update u s).2

variable {s s' : Store}

/-- The map `s.tables` at a table that `s.Knows`. -/
theorem Knows.tables (h : s.Knows t) : s.tables (nameOf t) = some (s.rows (nameOf t)) := by
  obtain ⟨d, id, position, hd, -⟩ := h.declared
  unfold Store.tables
  rw [hd]
  rfl

/-- The invariant of `Reached`: the store is `Consistent`. -/
theorem Reached.consistent (h : s.Reached) : s.Consistent := by
  induction h with
  | new capacity => exact nofun
  | @update s u _ hu ih =>
      show (updateInPlace u s).2.Consistent
      rw [updateInPlace_eq_update]
      exact (consistent_update_iff ih u).mpr hu.not_misfit

/-- **The map after a change**: `setRows` under a declared name is `Function.update` there. -/
theorem tables_setRows {name : TableName} {d : TableDecl} (hd : s.declared? name = some d)
    (rows : List Record) : (s.setRows name rows).tables =
      Function.update s.tables name (some rows) := by
  funext other
  have hkept : (s.setRows name rows).declared? other = s.declared? other := rfl
  unfold Store.tables Store.rows
  rw [hkept, rows?_setRows]
  by_cases hother : other = name
  · subst hother
    rw [hd, if_pos rfl, Function.update_self]
    rfl
  · rw [if_neg hother, Function.update_of_ne hother]

/-- **The map after a change**: `createTable` takes a name from `none` to `some []`. -/
theorem tables_createTable {schema : SchemaName} {table : TableDecl}
    (h : s.createTable schema table = .ok s') :
    s.tables (schema, table.name) = none ∧
      s'.tables = Function.update s.tables (schema, table.name) (some []) := by
  obtain ⟨schemas, hschemas, rfl⟩ := createTable_eq_ok h
  obtain ⟨hfree, htables⟩ := tableDecl?_declareTable hschemas
  refine ⟨?_, ?_⟩
  · unfold Store.tables Store.declared?
    rw [hfree]
    rfl
  · have hd : Store.declared? { s with schemas } (schema, table.name) = some table :=
      (htables _).trans (if_pos rfl)
    rw [tables_setRows hd]
    funext other
    by_cases hother : other = (schema, table.name)
    · rw [hother, Function.update_self, Function.update_self]
    · rw [Function.update_of_ne hother, Function.update_of_ne hother]
      unfold Store.tables Store.declared?
      rw [htables, if_neg hother]
      rfl

/-- `eraseRows` leaves the rows under other names. -/
theorem rows?_eraseRows {name other : TableName} (hother : other ≠ name) :
    (s.eraseRows name).rows? other = s.rows? other := by
  unfold rows? eraseRows
  induction s.contents with
  | nil => rfl
  | cons entry rest ih =>
      by_cases hentry : entry.1 = name
      · rw [List.filter_cons_of_neg (by simp [hentry]), ih, List.lookup_cons, hentry,
          beq_false_of_ne hother]
      · rw [List.filter_cons_of_pos (by simp [hentry]), List.lookup_cons, List.lookup_cons, ih]

/-- **The map after a change**: `dropTable` takes a name to `none`. -/
theorem tables_dropTable (h : s.dropTable t = .ok s') :
    s'.tables = Function.update s.tables (nameOf t) none := by
  obtain ⟨schemas, hschemas, rfl⟩ := dropTable_eq_ok h
  have htables := tableDecl?_undeclareTable hschemas
  funext other
  unfold Store.tables Store.declared? Store.rows
  show Option.map _ (tableDecl? schemas other) = _
  rw [htables]
  by_cases hother : other = nameOf t
  · rw [hother, Function.update_self]
    show Option.map _ (if nameOf t = nameOf t then none else _) = none
    rw [if_pos rfl]
    rfl
  · rw [Function.update_of_ne hother, rows?_eraseRows hother]
    show Option.map _ (if other = nameOf t then none else _) = _
    rw [if_neg hother]
    rfl

/-- A deletion is a step `Tables.Step.delete`: it takes the rows that `allOf t filters` returns, and
leaves the others. -/
theorem step_of_delete {count : Nat} (hs : s.Consistent) (hknown : s.Knows t)
    (h : s.delete t filters = .ok (count, s')) :
    Tables.Step s.Returns s.tables (.delete t filters) count s'.tables := by
  obtain ⟨_, -, h⟩ := exists_of_bind_eq_ok h
  obtain ⟨e, he, h⟩ := exists_of_bind_eq_ok h
  obtain ⟨d, id, position, hd, -⟩ := hknown.declared
  have hview := hknown.tables
  have hstep := Tables.Step.delete hview (returns_allOf hknown hs he)
  unfold Store.rows at hview hstep
  rcases hrows : s.rows? (nameOf t) with _ | rows
  · -- No rows are held, so that none are taken and none are left.
    rw [hrows] at h hstep hview
    obtain ⟨rfl, rfl⟩ := Prod.mk.inj (Except.ok.inj h)
    have hsame : Function.update s.tables (nameOf t) (some []) = s.tables :=
      Function.update_eq_self_iff.mpr hview.symm
    have hempty : Tables.Step s.Returns s.tables (.delete t filters) 0
        (Function.update s.tables (nameOf t) (some [])) := hstep
    rw [hsame] at hempty
    exact hempty
  · rw [hrows] at h hstep
    obtain ⟨rfl, rfl⟩ := Prod.mk.inj (Except.ok.inj h)
    have hsplit := List.length_eq_length_filter_add (l := rows) e.selects
    have hcount : rows.length - (rows.filter fun row => !e.selects row).length =
        (rows.filter e.selects).length := by
      omega
    rw [tables_setRows hd, hcount]
    exact hstep

/-- **One update**: what is accepted is a `Tables.Step` from `s.tables` to `s'.tables`. -/
theorem step_of_change {u : Update} {count : Nat} (hs : s.Consistent) (hu : s.Serves u)
    (h : s.change u = .ok (count, s')) : Tables.Step s.Returns s.tables u count s'.tables := by
  cases u with
  | createTable schema table =>
      obtain ⟨s'', hcreate, hpair⟩ := exists_of_bind_eq_ok h
      obtain ⟨rfl, rfl⟩ := Prod.mk.inj (Except.ok.inj hpair)
      obtain ⟨hfree, htables⟩ := tables_createTable hcreate
      rw [htables]
      exact .createTable hfree
  | dropTable t =>
      obtain ⟨s'', hdrop, hpair⟩ := exists_of_bind_eq_ok h
      obtain ⟨rfl, rfl⟩ := Prod.mk.inj (Except.ok.inj hpair)
      rw [tables_dropTable hdrop]
      exact .dropTable (Knows.tables hu)
  | insert t rows =>
      obtain ⟨s'', hinsert, hpair⟩ := exists_of_bind_eq_ok h
      obtain ⟨rfl, rfl⟩ := Prod.mk.inj (Except.ok.inj hpair)
      obtain ⟨d, id, position, hd, -⟩ := Knows.declared hu
      obtain ⟨-, rfl⟩ := insert_eq_ok hinsert
      unfold insertRows
      rw [tables_setRows hd]
      exact .insert (Knows.tables hu)
  | delete t filters => exact step_of_delete hs hu h

/-- `allOf t []` returns all rows of `t`. -/
theorem returns_all (hs : s.Consistent) (h : s.Knows t) :
    s.Returns (allOf t []) (s.rows (nameOf t)) := by
  have hnone : Evaluation.ofQuery { sources := [.ofTable t], filters := [] } .empty =
      .ok ⟨t, [], [], [], false⟩ := rfl
  have hreturns := returns_allOf h hs hnone
  have hall : (s.rows (nameOf t)).filter (Evaluation.selects ⟨t, [], [], [], false⟩) =
      s.rows (nameOf t) :=
    List.filter_eq_self.mpr fun _ _ => rfl
  exact hall ▸ hreturns

/-- **Refinement**: a new store is the empty map. In every store that is `Reached`, an update with
`s.Serves` that is accepted is a `Tables.Step` on the map `s.tables`, with the count that it gives,
and one that fails leaves the map. The map has the tables that `s.Knows`, and `allOf t []` returns
the rows that the map has for `t`. -/
theorem tables_refined (h : s.Reached) :
    (∀ capacity name, Store.tables { capacity } name = none) ∧
      (∀ u, s.Serves u → match source.update u s with
        | (.ok count, s') => Tables.Step s.Returns s.tables u count s'.tables
        | (.error _, s') => s'.tables = s.tables) ∧
      (∀ name, (s.tables name).isSome ↔ ∃ t, s.Knows t ∧ nameOf t = name) ∧
      ∀ t, s.Knows t → ∃ rows, s.tables (nameOf t) = some rows ∧ s.Returns (allOf t []) rows := by
  have hs := h.consistent
  refine ⟨fun _ _ => rfl, ?_, ?_, ?_⟩
  · intro u hu
    have hupdate : source.update u s = update u s := updateInPlace_eq_update s u
    rw [hupdate]
    unfold update
    rcases hchange : s.change u with e | ⟨count, s'⟩
    · rfl
    · exact step_of_change hs hu hchange
  · intro name
    constructor
    · intro hsome
      rcases hd : s.declared? name with _ | d
      · unfold Store.tables at hsome
        rw [hd] at hsome
        cases hsome
      · exact exists_knows hd
    · rintro ⟨t, ht, rfl⟩
      rw [ht.tables]
      rfl
  · intro t ht
    exact ⟨s.rows (nameOf t), ht.tables, returns_all hs ht⟩

/-- A table of a catalog in which it is the only one. -/
def onlyTable : Table := (narrow "T").build 0 (some "A") 0

/-- A store whose table has been filled, dropped, created again and filled again. -/
def refilled : Store :=
  let updates : List Update :=
    [.createTable (some "A") (narrow "T"), .insert onlyTable [[.integer 3]], .dropTable onlyTable,
      .createTable (some "A") (narrow "T"),
        .insert onlyTable [[.integer 1], [.integer 2], [.integer 1]]]
  updates.foldl (fun s u => (source.update u s).2) {}

/-- The condition that the first column of `onlyTable` is 1. -/
def firstIsOne : FilterItem :=
  let x : Column := { name := "x", type := .integer, ordinal := 0, owner := onlyTable.ref }
  .compare (.ofColumn { column := x }) .equal (.value (.integer 1))

/-- The table of `refilled` has the rows of the last insertion, and a deletion takes the two of them
that are 1. -/
theorem tables_refined_refilled :
    refilled.Reached ∧ refilled.Serves (.delete onlyTable [firstIsOne]) ∧
      refilled.tables (some "A", "T") = some [[.integer 1], [.integer 2], [.integer 1]] ∧
      refilled.Returns (allOf onlyTable []) [[.integer 1], [.integer 2], [.integer 1]] ∧
      Tables.Step refilled.Returns refilled.tables (.delete onlyTable [firstIsOne]) 2
        (source.update (.delete onlyTable [firstIsOne]) refilled).2.tables := by
  have hknows : ∀ s : Store, s.schemas = [⟨some "A", [narrow "T"]⟩] → s.Knows onlyTable := by
    intro s hschemas
    refine ⟨some "A", ⟨some "A", [narrow "T"]⟩, 0, "t", ?_, rfl⟩
    show Except.ok (findDecl? s.schemas (some "A")) = _
    rw [hschemas]
    rfl
  have hreached : refilled.Reached := by
    have hnew : Reached {} := .new RowChannel.defaultCapacity
    have hcreated := hnew.update (u := .createTable (some "A") (narrow "T")) trivial
    have hfilled := hcreated.update (u := .insert onlyTable [[.integer 3]]) (hknows _ rfl)
    have hdropped := hfilled.update (u := .dropTable onlyTable) (hknows _ rfl)
    have hagain := hdropped.update (u := .createTable (some "A") (narrow "T")) trivial
    exact hagain.update (hknows _ rfl)
  obtain ⟨-, hsteps, -, hreturns⟩ := tables_refined hreached
  have hserves : refilled.Serves (.delete onlyTable [firstIsOne]) := hknows _ rfl
  obtain ⟨rows, hrows, hall⟩ := hreturns onlyTable (hknows _ rfl)
  obtain rfl : [[.integer 1], [.integer 2], [.integer 1]] = rows := Option.some.inj hrows
  exact ⟨hreached, hserves, hrows, hall, hsteps _ hserves⟩

end Store
end Memory
end DataAccess
