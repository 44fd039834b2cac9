import DataAccess.Catalog.Provider
import DataAccess.Dialect.Basic
import DataAccess.Proofs.BuildHistory
import DataAccess.Proofs.LabelSoundness
import DataAccess.Query.Scope
import DataAccess.Sample

/-!
# Own columns: a query reads the tables that it names

A query that is built step by step finds its columns in one of three ways, the last of which leads
through the catalog. Whichever it is, the column is one of a table that the query reads.

* **Columns** (`keeps_column`): a label leads to a column of a table that is read, under the alias
  of that table. For the catalog that is so because a table has an identity.
* **Steps** (`keeps_step`): each step keeps up that all columns are own ones, apart from those that
  its caller has given (`Query.Rooted`).
* **Texts** (`queryFragment_congr`): a query is written alike whatever is held, if its columns are.
  An own column is (`Query.Owns.columnText_eq`).
* **Building** (`Query.Built.reads_own_columns`): all of this for whatever is built while others use
  the registry.
-/

namespace DataAccess

open Catalog Dialect

/-! ## The columns of a query -/

/-- The columns that items read, those of `SelectItem.columnRef?`. -/
def SelectItem.columnRefs (items : List SelectItem) : List ColumnRef :=
  items.flatMap fun i => i.columnRef?.toList

/-- The columns that an operand reads: only an operand `item i` may read one. -/
def Operand.columnRefs : Operand → List ColumnRef
  | item i => i.columnRef?.toList
  | value _ | parameter | list _ => []

mutual

/-- The columns that a condition reads, on both sides of its comparisons. -/
def FilterItem.columnRefs : FilterItem → List ColumnRef
  | .compare left _ operand => left.columnRef?.toList ++ operand.columnRefs
  | .anyOf items => FilterItem.allColumnRefs items
  | .expression _ => []

/-- The columns that conditions read, one after another. -/
def FilterItem.allColumnRefs : List FilterItem → List ColumnRef
  | [] => []
  | item :: rest => item.columnRefs ++ FilterItem.allColumnRefs rest

end

/-- `FilterItem.allColumnRefs` distributes over `++`. -/
theorem FilterItem.allColumnRefs_append (items others : List FilterItem) :
    FilterItem.allColumnRefs (items ++ others) =
      FilterItem.allColumnRefs items ++ FilterItem.allColumnRefs others := by
  induction items with
  | nil => rfl
  | cons item rest ih =>
      simp only [List.cons_append, FilterItem.allColumnRefs, ih, List.append_assoc]

namespace Query

/-- The columns that a query reads: in its selection, groups, order and conditions, those of
`having` included. -/
def columnRefs (q : Query) : List ColumnRef :=
  SelectItem.columnRefs q.select ++ SelectItem.columnRefs q.groupBy ++
    SelectItem.columnRefs (q.orderBy.map (·.item)) ++
    FilterItem.allColumnRefs q.filters ++ FilterItem.allColumnRefs q.having

/-- Whether a query owns a column: an item of `q.sources` reads a table `t` with
`c.column ∈ t.columns`, and `c.tableAlias` is the alias of that item. -/
def Owns (q : Query) (c : ColumnRef) : Prop :=
  ∃ i ∈ q.sources, ∃ t, i.table? = some t ∧ c.column ∈ t.columns ∧ c.tableAlias = i.asName

variable {q q' : Query} {b b' : Builds} {c : ColumnRef} {given : List ColumnRef}

/-- A table that is read through an item of `q.sources` is in `q.tables`. -/
theorem mem_tables {i : FromItem} {t : Table} (hi : i ∈ q.sources) (ht : i.table? = some t) :
    t ∈ q.tables :=
  List.mem_filterMap.mpr ⟨i, hi, ht⟩

/-! ## Columns -/

/-- `FromItem.qualifiedColumn?`: the column that a label names behind a qualifier is owned. -/
theorem owns_of_qualifiedColumn? {i : FromItem} {label : List Char} (hi : i ∈ q.sources)
    (h : i.qualifiedColumn? label = some c) : q.Owns c := by
  obtain ⟨t, ht, h⟩ := Option.bind_eq_some_iff.mp h
  obtain ⟨qualifier, -, h⟩ := List.exists_of_findSome?_eq_some h
  obtain ⟨rest, -, h⟩ := Option.bind_eq_some_iff.mp h
  obtain ⟨column, hcolumn, rfl⟩ := Option.map_eq_some_iff.mp h
  exact ⟨i, hi, t, ht, (mem_of_column? hcolumn).1, rfl⟩

/-- `FromItem.bareColumn?`: the column that a label names by itself is owned. -/
theorem owns_of_bareColumn? {i : FromItem} {label : List Char} (hi : i ∈ q.sources)
    (h : i.bareColumn? label = some c) : q.Owns c := by
  obtain ⟨t, ht, h⟩ := Option.bind_eq_some_iff.mp h
  obtain ⟨column, hcolumn, rfl⟩ := Option.map_eq_some_iff.mp h
  exact ⟨i, hi, t, ht, (mem_of_column? hcolumn).1, rfl⟩

/-- `FromItem.ownColumn?`: a column of the catalog is owned if it belongs to a table that has been
built (`MadeTable`) and has the identity of one that is read. Tables with the same identity are the
same once they have been built. -/
theorem owns_of_ownColumn? {i : FromItem} {t : Table} {column : Column}
    (hq : ∀ t ∈ q.tables, b.MadeTable t) (hi : i ∈ q.sources) (ht : b.MadeTable t)
    (hcolumn : column ∈ t.columns) (h : i.ownColumn? column = some c) : q.Owns c := by
  obtain ⟨own, hown, h⟩ := Option.bind_eq_some_iff.mp h
  split at h
  · rename_i hkey
    obtain rfl := Option.some.inj h
    have hsame : own = t := by
      refine (hq own (mem_tables hi hown)).eq ht ?_
      rw [eq_of_beq hkey, ht.owner_eq hcolumn]
    exact ⟨i, hi, own, hown, hsame ▸ hcolumn, rfl⟩
  · cases h

/-- **Columns**: `q.column label` leads to a column that `q.Owns`, if all tables of `q` have been
built (`b.MadeTable`). -/
theorem keeps_column (hq : ∀ t ∈ q.tables, b.MadeTable t) (label : String) :
    (q.column label).Keeps (fun _ c => q.Owns c) b := by
  unfold column
  dsimp only
  split
  · rename_i c hfound
    rcases (Option.orElse_eq_some _ _ _).mp hfound with hqualified | ⟨-, hbare⟩
    · obtain ⟨i, hi, h⟩ := List.exists_of_findSome?_eq_some hqualified
      exact Lookup.keeps_pure (owns_of_qualifiedColumn? hi h)
    · obtain ⟨i, hi, h⟩ := List.exists_of_findSome?_eq_some hbare
      exact Lookup.keeps_pure (owns_of_bareColumn? hi h)
  · generalize Text.trimChars label.toList = chars
    refine (Lookup.keeps_columnByLabel? (String.ofList chars)).bind fun b' found hb hmade => ?_
    split
    · rename_i c hfound
      obtain ⟨column, hcolumn, h⟩ := Option.bind_eq_some_iff.mp hfound
      obtain ⟨i, hi, h⟩ := List.exists_of_findSome?_eq_some h
      obtain ⟨s, path, hs, hpath⟩ := hmade column hcolumn
      obtain ⟨t, ht, hmem, -⟩ := exists_of_columnByPath? hpath
      exact Lookup.keeps_pure
        (owns_of_ownColumn? (fun t ht => (hq t ht).mono hb) hi ⟨s, hs, ht⟩ hmem h)
    · trivial

/-- `Schema.tableByPath?` gives a table of the schema. -/
theorem mem_of_tableByPath? {s : Schema} {path : List Char} {t : Table}
    (h : s.tableByPath? path = some t) :
    t ∈ s.tables := by
  rcases (Option.orElse_eq_some _ _ _).mp h with hexact | ⟨-, hother⟩
  · exact List.mem_of_find?_eq_some hexact
  · exact List.mem_of_find?_eq_some hother

/-- The lookup `table label` gives a table that has been built, `Builds.MadeTable`. -/
theorem keeps_table (label : String) : (table label).Keeps Builds.MadeTable b := by
  refine (Lookup.keeps_tableByLabel? label).bind fun b' t? _ hmade => ?_
  cases t? with
  | none => trivial
  | some t =>
      obtain ⟨s, path, hs, hpath⟩ := hmade t rfl
      exact Lookup.keeps_pure ⟨s, hs, mem_of_tableByPath? hpath⟩

end Query

/-! ## Steps -/

/-- A step in the building of a query, one constructor for each method of the builder. -/
inductive BuildStep where
  /-- Reads the table that a label names, under an alias or not. -/
  | readTable (label : String) (asName : Option String)
  /-- Reads an item. -/
  | addSource (i : FromItem)
  /-- Selects the column that a label names, under an alias or not. -/
  | selectColumn (label : String) (asName : Option String)
  /-- Selects all columns of all tables that are read so far. -/
  | selectAll
  /-- Selects a function of the column that a label names. -/
  | selectAggregate (f : AggregateFunction) (label : String)
  /-- Selects an item. -/
  | addSelect (i : SelectItem)
  /-- Gives each row once. -/
  | distinct
  /-- Adds a comparison of the column that a label names. -/
  | filterColumn (label : String) (op : Operator) (operand : Operand)
  /-- Adds a condition on rows. -/
  | addFilter (i : FilterItem)
  /-- Groups by the column that a label names. -/
  | groupByColumn (label : String)
  /-- Adds a condition on groups. -/
  | addHaving (i : FilterItem)
  /-- Orders by the column that a label names. -/
  | orderByColumn (label : String) (direction : Direction)
  /-- Sets the largest number of rows. -/
  | maxRows (n : Nat)
  /-- Sets the number of the first row. -/
  | firstRow (n : Nat)

namespace BuildStep

/-- Takes a step of `BuildStep` on a query. The steps with labels look them up and may fail. -/
def take (q : Query) : BuildStep → Lookup Query
  | readTable label asName => q.readTable label asName
  | addSource i => pure (q.addSource i)
  | selectColumn label asName => q.selectColumn label asName
  | selectAll => pure q.selectAll
  | selectAggregate f label => q.selectAggregate f label
  | addSelect i => pure (q.addSelect i)
  | distinct => pure { q with distinct := true }
  | filterColumn label op operand => q.filterColumn label op operand
  | addFilter i => pure (q.addFilter i)
  | groupByColumn label => q.groupByColumn label
  | addHaving i => pure (q.addHaving i)
  | orderByColumn label direction => q.orderByColumn label direction
  | maxRows n => pure { q with maxRows := some n }
  | firstRow n => pure { q with firstRow := some n }

/-- The tables that the caller gives in a step, through the item of `addSource`. -/
def givenTables : BuildStep → List Table
  | addSource i => i.table?.toList
  | _ => []

/-- The columns that the caller gives in a step, through items, operands and conditions. -/
def givenColumns : BuildStep → List ColumnRef
  | addSelect i => i.columnRef?.toList
  | filterColumn _ _ operand => operand.columnRefs
  | addFilter i | addHaving i => i.columnRefs
  | _ => []

end BuildStep

namespace Query

variable {q q' : Query} {b b' : Builds} {c : ColumnRef} {given : List ColumnRef}

/-- Whether a query is rooted: `b.MadeTable` holds of its tables, and its columns are in `given` or
are owned. -/
structure Rooted (q : Query) (b : Builds) (given : List ColumnRef) : Prop where
  /-- The tables. -/
  tables : ∀ t ∈ q.tables, b.MadeTable t
  /-- The columns. -/
  columns : ∀ c ∈ q.columnRefs, c ∈ given ∨ q.Owns c

/-- The empty query `{}` is rooted, with no columns given. -/
theorem rooted_empty (b : Builds) : Rooted {} b [] where
  tables _ h := absurd h List.not_mem_nil
  columns _ h := absurd h List.not_mem_nil

/-- `Rooted` is kept when more is built, `b'.Extends b`. -/
theorem Rooted.extends (h : q.Rooted b given) (hb : b'.Extends b) : q.Rooted b' given :=
  ⟨fun t ht => (h.tables t ht).mono hb, h.columns⟩

/-- `q.Owns c` gives `q'.Owns c` if `q.sources ⊆ q'.sources`. -/
theorem Owns.mono (h : q.Owns c) (hsources : q.sources ⊆ q'.sources) : q'.Owns c := by
  obtain ⟨i, hi, hown⟩ := h
  exact ⟨i, hsources hi, hown⟩

/-- Whether a query `q'` can come of `q` by a step: `q.sources ⊆ q'.sources`, and `q'` is rooted. -/
structure Grows (q : Query) (b : Builds) (given : List ColumnRef) (q' : Query) : Prop where
  /-- The tables of the other are read. -/
  sources : q.sources ⊆ q'.sources
  /-- The query is rooted. -/
  rooted : q'.Rooted b given

/-- **Growth**: `q.Grows b (given ++ more) q'` if the new tables of `q'` have been built, and its
new columns are in `more` or are owned by `q'`. -/
theorem Rooted.grow (h : q.Rooted b given) {more : List ColumnRef}
    (hsources : q.sources ⊆ q'.sources) (htables : ∀ t ∈ q'.tables, t ∈ q.tables ∨ b.MadeTable t)
    (hcolumns : ∀ c ∈ q'.columnRefs, c ∈ q.columnRefs ∨ c ∈ more ∨ q'.Owns c) :
    q.Grows b (given ++ more) q' := by
  refine ⟨hsources, fun t ht => (htables t ht).elim (h.tables t) fun hmade => hmade, fun c hc => ?_⟩
  rcases hcolumns c hc with hold | hmore | hown
  · exact (h.columns c hold).imp (List.mem_append_left _) fun hown => hown.mono hsources
  · exact .inl (List.mem_append_right _ hmore)
  · exact .inr hown

/-- `Rooted.grow` where no table is added: `q'.sources = q.sources`. -/
theorem Rooted.growColumns (h : q.Rooted b given) {more : List ColumnRef}
    (hsources : q'.sources = q.sources)
    (hcolumns : ∀ c ∈ q'.columnRefs, c ∈ q.columnRefs ∨ c ∈ more ∨ q.Owns c) :
    q.Grows b (given ++ more) q' := by
  have hsubset : q.sources ⊆ q'.sources := hsources ▸ List.Subset.refl _
  have htables : q'.tables = q.tables := by rw [Query.tables, Query.tables, hsources]
  refine h.grow hsubset (fun t ht => .inl (htables ▸ ht)) fun c hc => ?_
  exact (hcolumns c hc).imp_right fun hnew => hnew.imp_right fun hown => hown.mono hsubset

/-- The columns of `q.addSelect i` are those of `q` and of `i`. -/
theorem mem_columnRefs_addSelect {i : SelectItem} :
    c ∈ (q.addSelect i).columnRefs ↔ c ∈ q.columnRefs ∨ c ∈ i.columnRef?.toList := by
  simp only [columnRefs, addSelect, SelectItem.columnRefs, List.flatMap_append,
    List.flatMap_singleton, List.mem_append]
  tauto

/-- The columns of `q.addGroup i` are those of `q` and of `i`. -/
theorem mem_columnRefs_addGroup {i : SelectItem} :
    c ∈ (q.addGroup i).columnRefs ↔ c ∈ q.columnRefs ∨ c ∈ i.columnRef?.toList := by
  simp only [columnRefs, addGroup, SelectItem.columnRefs, List.flatMap_append,
    List.flatMap_singleton, List.mem_append]
  tauto

/-- The columns of `q.addOrder i` are those of `q` and of `i.item`. -/
theorem mem_columnRefs_addOrder {i : OrderItem} :
    c ∈ (q.addOrder i).columnRefs ↔ c ∈ q.columnRefs ∨ c ∈ i.item.columnRef?.toList := by
  simp only [columnRefs, addOrder, SelectItem.columnRefs, List.map_append, List.map_singleton,
    List.flatMap_append, List.flatMap_singleton, List.mem_append]
  tauto

/-- The columns of `q.addFilter i` are those of `q` and of `i`. -/
theorem mem_columnRefs_addFilter {i : FilterItem} :
    c ∈ (q.addFilter i).columnRefs ↔ c ∈ q.columnRefs ∨ c ∈ i.columnRefs := by
  simp only [columnRefs, addFilter, FilterItem.allColumnRefs_append, FilterItem.allColumnRefs,
    List.append_nil, List.mem_append]
  tauto

/-- The columns of `q.addHaving i` are those of `q` and of `i`. -/
theorem mem_columnRefs_addHaving {i : FilterItem} :
    c ∈ (q.addHaving i).columnRefs ↔ c ∈ q.columnRefs ∨ c ∈ i.columnRefs := by
  simp only [columnRefs, addHaving, FilterItem.allColumnRefs_append, FilterItem.allColumnRefs,
    List.append_nil, List.mem_append]
  tauto

/-- A column of `q.selectAll` is one of `q` or is owned by `q`. -/
theorem mem_columnRefs_selectAll (h : c ∈ q.selectAll.columnRefs) : c ∈ q.columnRefs ∨
    q.Owns c := by
  simp only [columnRefs, selectAll, SelectItem.columnRefs, List.flatMap_append,
    List.mem_append] at h ⊢
  rcases h with (((((hold | hnew) | h) | h) | h) | h)
  · tauto
  · right
    obtain ⟨selected, hselected, hc⟩ := List.mem_flatMap.mp hnew
    obtain ⟨i, hi, hselected⟩ := List.mem_flatMap.mp hselected
    obtain ⟨column, hcolumn, rfl⟩ := List.mem_map.mp hselected
    obtain ⟨t, ht, hcolumn⟩ := List.mem_flatMap.mp hcolumn
    obtain rfl : c = ⟨column, i.asName⟩ := by simpa [SelectItem.ofColumn,
      SelectItem.columnRef?] using hc
    exact ⟨i, hi, t, Option.mem_toList.mp ht, hcolumn, rfl⟩
  all_goals tauto

/-- The steps that look up a label and `add` the column that it names: they lead to a query that
`q.Grows`, if `add c` reads the tables of `q` and no columns but `c`, those of `q` and `more`. -/
theorem keeps_addColumn (hq : q.Rooted b given) (label : String) (more : List ColumnRef)
    {add : ColumnRef → Query} (hsources : ∀ c, (add c).sources = q.sources)
    (hcolumns : ∀ c, ∀ c' ∈ (add c).columnRefs, c' ∈ q.columnRefs ∨ c' ∈ c :: more) :
    (do return add (← q.column label)).Keeps (fun b' => q.Grows b' (given ++ more)) b := by
  refine (keeps_column hq.tables label).bind fun b' c hb hown => Lookup.keeps_pure ?_
  refine (hq.extends hb).growColumns (hsources c) fun c' hc' =>
    (hcolumns c c' hc').imp_right fun hnew => ?_
  rcases List.mem_cons.mp hnew with rfl | hmore
  · exact .inr hown
  · exact .inl hmore

/-- The step `q.addSource i`, for an item whose table has been built. -/
theorem grows_addSource (hq : q.Rooted b given) {i : FromItem}
    (hi : ∀ t, i.table? = some t → b.MadeTable t) :
    q.Grows b (given ++ []) (q.addSource i) := by
  refine hq.grow (List.subset_append_left _ _) (fun t ht => ?_) fun c hc => .inl hc
  obtain ⟨i', hi', ht⟩ := List.mem_filterMap.mp ht
  rcases List.mem_append.mp hi' with hold | hnew
  · exact .inl (mem_tables hold ht)
  · exact .inr (hi t (List.mem_singleton.mp hnew ▸ ht))

end Query

/-- **Steps**: `s.take q` leads to a query that `q.Grows`, with the columns of `s.givenColumns`
among those given. -/
theorem BuildStep.keeps_take {q : Query} {b : Builds} {given : List ColumnRef}
    (hq : q.Rooted b given) (s : BuildStep) (hs : ∀ t ∈ s.givenTables, b.MadeTable t) :
    (s.take q).Keeps (fun b' => q.Grows b' (given ++ s.givenColumns)) b := by
  open Query in
  cases s with
  | readTable label asName =>
      refine (keeps_table label).bind fun b' t hb ht => Lookup.keeps_pure ?_
      refine grows_addSource (hq.extends hb) ?_
      rintro _ ⟨⟩
      exact ht
  | addSource i => exact grows_addSource hq fun t ht => hs t (Option.mem_toList.mpr ht)
  | selectColumn label asName =>
      exact keeps_addColumn hq label [] (fun _ => rfl) fun _ _ => mem_columnRefs_addSelect.mp
  | selectAll => exact hq.growColumns rfl fun c hc => (mem_columnRefs_selectAll hc).imp_right .inr
  | selectAggregate f label =>
      exact keeps_addColumn hq label [] (fun _ => rfl) fun _ _ => mem_columnRefs_addSelect.mp
  | addSelect i =>
      exact hq.growColumns rfl fun c hc => (mem_columnRefs_addSelect.mp hc).imp_right .inl
  | filterColumn label op operand =>
      exact keeps_addColumn hq label operand.columnRefs (fun _ => rfl) fun _ _ =>
        mem_columnRefs_addFilter.mp
  | addFilter i =>
      exact hq.growColumns rfl fun c hc => (mem_columnRefs_addFilter.mp hc).imp_right .inl
  | groupByColumn label =>
      exact keeps_addColumn hq label [] (fun _ => rfl) fun _ _ => mem_columnRefs_addGroup.mp
  | addHaving i =>
      exact hq.growColumns rfl fun c hc => (mem_columnRefs_addHaving.mp hc).imp_right .inl
  | orderByColumn label direction =>
      exact keeps_addColumn hq label [] (fun _ => rfl) fun _ _ => mem_columnRefs_addOrder.mp
  | distinct | maxRows | firstRow => exact hq.growColumns rfl fun c hc => .inl hc

/-! ## Texts -/

namespace Query

variable {q : Query} {b : Builds} {c : ColumnRef}

/-- A column `c` of a table `t ∈ q.tables` is written as `c.tableAlias.getD (identifier t.name)`, a
dot and the name of the column, whatever else is held `outside`: the table of `c` is found among
those of `q` first. -/
theorem columnText_of_mem_tables {t : Table} (ht : t ∈ q.tables) (hmade : b.MadeTable t)
    (hcolumn : c.column ∈ t.columns) (outside : Holdings) :
    c.column.table? (q.holdings.union outside) = some t.ref ∧
      qualifierText? (q.holdings.union outside) c = some (c.tableAlias.getD (identifier t.name)) ∧
      columnText (q.holdings.union outside) c =
        c.tableAlias.getD (identifier t.name) ++ "." ++ identifier c.column.name := by
  have hheld : (q.holdings.union outside).holdsTable t.ref.key = true := by
    rw [Holdings.holdsTable_union, holdsTable_holdings ht, Bool.true_or]
  have htable : c.column.table? (q.holdings.union outside) = some t.ref := by
    rw [Column.table?, hmade.owner_eq hcolumn, if_pos hheld]
  have hqualifier : qualifierText? (q.holdings.union outside) c =
      some (c.tableAlias.getD (identifier t.name)) := by
    rw [qualifierText?, htable]
    cases c.tableAlias <;> rfl
  exact ⟨htable, hqualifier, by rw [columnText, hqualifier]⟩

/-- `columnText_of_mem_tables` for the columns that `q.Owns`. -/
theorem Owns.columnText_eq (h : q.Owns c) (hq : ∀ t ∈ q.tables, b.MadeTable t) :
    ∃ t ∈ q.tables, c.column ∈ t.columns ∧ ∀ outside,
      c.column.table? (q.holdings.union outside) = some t.ref ∧
      qualifierText? (q.holdings.union outside) c = some (c.tableAlias.getD (identifier t.name)) ∧
      columnText (q.holdings.union outside) c =
        c.tableAlias.getD (identifier t.name) ++ "." ++ identifier c.column.name := by
  obtain ⟨i, hi, t, ht, hcolumn, -⟩ := h
  have hmem := mem_tables hi ht
  exact ⟨t, hmem, hcolumn, columnText_of_mem_tables hmem (hq t hmem) hcolumn⟩

end Query

section Texts

variable {held held' : Holdings}

/-- Whether the columns of `cs` have the same `columnText` under `held` and under `held'`. -/
def WrittenAlike (held held' : Holdings) (cs : List ColumnRef) : Prop :=
  ∀ c ∈ cs, columnText held c = columnText held' c

theorem WrittenAlike.of_subset {cs cs' : List ColumnRef} (h : WrittenAlike held held' cs)
    (hcs : cs' ⊆ cs) :
    WrittenAlike held held' cs' :=
  fun c hc => h c (hcs hc)

/-- `itemText` depends on what is held through the column of the item alone. -/
theorem itemText_congr {i : SelectItem} (h : WrittenAlike held held' i.columnRef?.toList) :
    itemText held i = itemText held' i := by
  have hkind : kindText held i.kind = kindText held' i.kind := by
    unfold SelectItem.columnRef? at h
    cases hi : i.kind with
    | column c => rw [hi] at h; exact h c (List.mem_singleton_self c)
    | aggregate f c => rw [hi] at h; rw [kindText, kindText, h c (List.mem_singleton_self c)]
    | countAll | expression => rfl
  rw [itemText, itemText, hkind]

/-- `itemFragments` depends on what is held through the columns of the items alone. -/
theorem itemFragments_congr {items : List SelectItem}
    (h : WrittenAlike held held' (SelectItem.columnRefs items)) :
    itemFragments held items = itemFragments held' items := by
  refine List.map_congr_left fun i hi => ?_
  rw [itemText_congr (h.of_subset fun c hc => List.mem_flatMap.mpr ⟨i, hi, hc⟩)]

/-- `comparisonFragment` depends on what is held through the columns of the operand alone. -/
theorem comparisonFragment_congr {op : Operator} {operand : Operand}
    (h : WrittenAlike held held' operand.columnRefs) :
    comparisonFragment held op operand = comparisonFragment held' op operand := by
  have hoperand : operandFragment held operand = operandFragment held' operand := by
    cases operand with
    | item i => rw [operandFragment, operandFragment, itemText_congr h]
    | _ => rfl
  have hmembers : membersFragment held operand = membersFragment held' operand := by
    cases operand with
    | list vs => rfl
    | _ => exact hoperand
  unfold comparisonFragment
  split <;> simp only [hoperand, hmembers]

mutual

/-- `filterFragment` depends on what is held through the columns of the condition alone. -/
theorem filterFragment_congr : (item : FilterItem) → WrittenAlike held held' item.columnRefs →
    filterFragment held item = filterFragment held' item
  | .compare left op operand, h => by
      rw [FilterItem.columnRefs] at h
      have hleft : itemText held left.bare = itemText held' left.bare :=
        itemText_congr (h.of_subset (List.subset_append_left _ _))
      rw [filterFragment, filterFragment, hleft,
        comparisonFragment_congr (h.of_subset (List.subset_append_right _ _))]
  | .anyOf items, h => by
      rw [FilterItem.columnRefs] at h
      rw [filterFragment, filterFragment, filterFragments_congr items h]
  | .expression _, _ => rfl

/-- `filterFragments` depends on what is held through the columns of the conditions alone. -/
theorem filterFragments_congr : (items : List FilterItem) →
    WrittenAlike held held' (FilterItem.allColumnRefs items) →
    filterFragments held items = filterFragments held' items
  | [], _ => rfl
  | item :: rest, h => by
      rw [FilterItem.allColumnRefs] at h
      rw [filterFragments, filterFragments,
        filterFragment_congr item (h.of_subset (List.subset_append_left _ _)),
        filterFragments_congr rest (h.of_subset (List.subset_append_right _ _))]

end

/-- **Texts**: `queryFragment held q = queryFragment held' q` if the columns of `q` are
`WrittenAlike`. -/
theorem queryFragment_congr {q : Query} (h : WrittenAlike held held' q.columnRefs) :
    queryFragment held q = queryFragment held' q := by
  unfold WrittenAlike Query.columnRefs at h
  simp only [List.forall_mem_append] at h
  obtain ⟨⟨⟨⟨hselect, hgroup⟩, horder⟩, hfilters⟩, hhaving⟩ := h
  have horderText (o : OrderItem) (ho : o ∈ q.orderBy) : orderText held o = orderText held' o := by
    rw [orderText, orderText, itemText_congr fun c hc =>
      horder c (List.mem_flatMap.mpr ⟨o.item, List.mem_map_of_mem ho, hc⟩)]
  have horders : (q.orderBy.map fun o => Fragment.ofText (orderText held o)) =
      q.orderBy.map fun o => Fragment.ofText (orderText held' o) :=
    List.map_congr_left fun o ho => by rw [horderText o ho]
  rw [queryFragment, queryFragment, selectFragment, selectFragment, itemFragments_congr hselect,
    itemFragments_congr hgroup, filterFragments_congr _ hfilters,
      filterFragments_congr _ hhaving, horders]

end Texts

/-! ## Building -/

namespace Query

/-- `Built w given q`: the query `q` is built, step by step, while others use the registry. The
registry and what has been built are then `w`, and `given` are the columns that the caller has
given. -/
inductive Built : Archive → List ColumnRef → Query → Prop where
  /-- The empty query. -/
  | new {w : Archive} (hw : w.Genuine) : Built w [] {}
  /-- Others do something: they look up, refresh the registry, or build schemas of their own. -/
  | others {w w' : Archive} {given : List ColumnRef} {q : Query} (h : Built w given q)
      (hw : w.Becomes w') :
      Built w' given q
  /-- A step is taken with success. -/
  | step {w w' : Archive} {given : List ColumnRef} {q q' : Query} (h : Built w given q)
      (s : BuildStep) (hs : ∀ t ∈ s.givenTables, w.builds.MadeTable t)
      (htake : (s.take q).Comes w (.ok q') w') :
      Built w' (given ++ s.givenColumns) q'

variable {w w' : Archive} {q q' : Query} {given : List ColumnRef}

theorem stays_grows (q : Query) (given : List ColumnRef) : Lookup.Stays fun b => q.Grows b given :=
  fun _ _ _ hb h => ⟨h.sources, h.rooted.extends hb⟩

/-- The invariant of `Built`: what is cached has been built (`w.Genuine`), and the query is
`Rooted`. It is shown by induction on the steps. -/
theorem Built.rooted (h : Built w given q) : w.Genuine ∧ q.Rooted w.builds given := by
  induction h with
  | new hw => exact ⟨hw, rooted_empty _⟩
  | others _ hw ih => exact ⟨hw.1, ih.2.extends hw.2⟩
  | step _ s hs htake ih =>
      obtain ⟨hw, hgrows⟩ := (s.keeps_take ih.2 hs).comes (stays_grows _ _) ih.1 htake
      exact ⟨hw.1, (hgrows _ rfl).rooted⟩

/-! ## Sessions -/

/-- What happens to a builder and to the registry that it uses. -/
inductive SessionEvent where
  /-- The builder takes a step. -/
  | take (s : BuildStep)
  /-- The registry is refreshed. -/
  | refresh

/-- A session of building, to its end or to the first error. A refresh empties the cache of the
registry and leaves the query. -/
def session {σ : Type} (answer : Answering σ) :
    List SessionEvent → Query → Site σ → Except Error (Query × Site σ)
  | [], q, site => .ok (q, site)
  | .refresh :: rest, q, site =>
      session answer rest q { site with registry := site.registry.refresh }
  | .take s :: rest, q, site => match (s.take q).run answer site with
      | (.ok q, site) => session answer rest q site
      | (.error e, _) => .error e

/-- The columns that are given in a session, those of `BuildStep.givenColumns`. -/
def givenIn (es : List SessionEvent) : List ColumnRef :=
  es.flatMap fun
    | .take s => s.givenColumns
    | .refresh => []

/-- **Sessions**: the query that `session` ends with is `Built`, with the columns of `givenIn es`
among those given. -/
theorem Built.session {σ : Type} {answer : Answering σ} (hanswer : answer.Genuine)
    {es : List SessionEvent}
    (h : Built w given q) {site site' : Site σ} (hsite : site.registry = w.registry)
    (hs : ∀ s, .take s ∈ es → ∀ t ∈ s.givenTables, w.builds.MadeTable t)
    (hsession : q.session answer es site = .ok (q', site')) :
    ∃ b', Built ⟨site'.registry, b'⟩ (given ++ givenIn es) q' := by
  induction es generalizing w given q site with
  | nil =>
      cases hsession
      exact ⟨w.builds, by simpa [givenIn, hsite] using h⟩
  | cons e rest ih =>
      obtain ⟨hw, hrooted⟩ := h.rooted
      have hrest (s : BuildStep) (hmem : .take s ∈ rest) := hs s (List.mem_cons_of_mem _ hmem)
      cases e with
      | refresh =>
          have hrefresh : site.registry.refresh = w.registry.refresh := congrArg _ hsite
          exact ih (h.others hw.refresh) hrefresh hrest hsession
      | take s =>
          obtain ⟨r, b⟩ := w
          obtain rfl : site.registry = r := hsite
          have hgiven := hs s List.mem_cons_self
          have hkeeps := s.keeps_take hrooted hgiven
          obtain ⟨b₁, hcourse⟩ := hkeeps.comes_run hanswer hw
          unfold Query.session at hsession
          rcases hrun : (s.take q).run answer site with ⟨e | q₁, site₁⟩
          · rw [hrun] at hsession
            cases hsession
          · rw [hrun] at hsession hcourse
            have hbecomes := (hkeeps.comes (stays_grows _ _) hw hcourse).1
            obtain ⟨b', hbuilt⟩ := ih (h.step s hgiven hcourse) rfl
              (fun s' hs' t ht => (hrest s' hs' t ht).mono hbecomes.2) hsession
            rw [List.append_assoc] at hbuilt
            exact ⟨b', hbuilt⟩

/-- **Building.** For every query `q` that is `Built`, whatever others have done meanwhile,

* a label that is found by `q.column` leads to a column that `q.Owns`, as it does in a run from any
  source;
* each column of `q.columnRefs` is in `given` or is owned;
* a column that is owned is owned by the query after any further step;
* a column that is owned is written by `columnText` as its qualifier, a dot and its name, whatever
  is held `outside`, before or after a refresh;
* `d.compile outside q` does not depend on `outside` if all columns of `given` are owned. -/
theorem Built.reads_own_columns (h : Built w given q) :
    (∀ label c w', (q.column label).Comes w (.ok c) w' → q.Owns c) ∧
    (∀ (σ : Type) (answer : Answering σ) (site site' : Site σ) label c, answer.Genuine →
      site.registry = w.registry → (q.column label).run answer site = (.ok c, site') → q.Owns c) ∧
    (∀ c ∈ q.columnRefs, c ∈ given ∨ q.Owns c) ∧
    (∀ (s : BuildStep) q' w', (∀ t ∈ s.givenTables, w.builds.MadeTable t) →
      (s.take q).Comes w (.ok q') w' → ∀ c, q.Owns c → q'.Owns c) ∧
    (∀ c, q.Owns c → ∃ t ∈ q.tables, c.column ∈ t.columns ∧ ∀ outside,
      c.column.table? (q.holdings.union outside) = some t.ref ∧
      qualifierText? (q.holdings.union outside) c = some (c.tableAlias.getD (identifier t.name)) ∧
      columnText (q.holdings.union outside) c =
        c.tableAlias.getD (identifier t.name) ++ "." ++ identifier c.column.name) ∧
    ((∀ c ∈ given, q.Owns c) → ∀ (d : SqlDialect) outside outside',
      d.compile outside q = d.compile outside' q) := by
  obtain ⟨hw, hrooted⟩ := h.rooted
  have hcolumn (label : String) := keeps_column hrooted.tables label
  have hcomes (label c w') (hfound : (q.column label).Comes w (.ok c) w') : q.Owns c :=
    ((hcolumn label).comes (fun _ _ _ _ h => h) hw hfound).2 c rfl
  refine ⟨hcomes, ?_, hrooted.columns, ?_, fun c hc => hc.columnText_eq hrooted.tables, ?_⟩
  · intro σ answer site site' label c hanswer hsite hrun
    have hgenuine : Archive.Genuine ⟨site.registry, w.builds⟩ := hsite ▸ hw
    obtain ⟨b', hcourse⟩ := (hcolumn label).comes_run hanswer hgenuine
    rw [hrun, hsite] at hcourse
    exact hcomes label c _ hcourse
  · intro s q' w' hs htake c hown
    have hgrows := ((s.keeps_take hrooted hs).comes (stays_grows _ _) hw htake).2 q' rfl
    exact hown.mono hgrows.sources
  · intro hgiven d outside outside'
    have halike : WrittenAlike (q.holdings.union outside) (q.holdings.union outside')
        q.columnRefs := by
      intro c hc
      have hown : q.Owns c := (hrooted.columns c hc).elim (hgiven c) fun hown => hown
      obtain ⟨t, -, -, htext⟩ := hown.columnText_eq hrooted.tables
      rw [(htext outside).2.2, (htext outside').2.2]
    rw [SqlDialect.compile, SqlDialect.compile, SqlDialect.fragment, SqlDialect.fragment,
      queryFragment_congr halike]

/-- A session that reads a table under the alias `c`, selects a column by its label in the catalog,
refreshes the registry, and filters by the label `c.CUSTOMERNAME` of the query. -/
def countriesSession : List SessionEvent :=
  [.take (.readTable "PUBLIC.CUSTOMERS" (some "c")),
    .take (.selectColumn "PUBLIC.CUSTOMERS.COUNTRY" none),
    .refresh, .take (.filterColumn "c.CUSTOMERNAME" .equal .parameter)]

theorem reads_own_columns_countriesSession :
    ∃ q site, session (.ofSource FixedCatalog.answer) countriesSession {}
        ⟨{}, ⟨[Sample.sampleSchema], [], none, 0, 0⟩⟩ = .ok (q, site) ∧
      q.columnRefs.length = 2 ∧ (∀ c ∈ q.columnRefs, q.Owns c) ∧
      ∀ outside, (SqlDialect.base.compile outside q).sql =
        "SELECT c.COUNTRY FROM PUBLIC.CUSTOMERS c WHERE c.CUSTOMERNAME = ?" := by
  have hevaluated : (session (.ofSource FixedCatalog.answer) countriesSession {}
      ⟨{}, ⟨[Sample.sampleSchema], [], none, 0, 0⟩⟩).toOption.map
        (fun x => (x.1.columnRefs.length, (SqlDialect.base.compile {} x.1).sql)) =
      some (2, "SELECT c.COUNTRY FROM PUBLIC.CUSTOMERS c WHERE c.CUSTOMERNAME = ?") := by
    decide +kernel
  rcases hsession : session (.ofSource FixedCatalog.answer) countriesSession {}
      ⟨{}, ⟨[Sample.sampleSchema], [], none, 0, 0⟩⟩ with e | ⟨q, site⟩
  · rw [hsession] at hevaluated
    cases hevaluated
  · rw [hsession] at hevaluated
    obtain ⟨hlength, hsql⟩ := Prod.mk.inj (Option.some.inj hevaluated)
    obtain ⟨b, hbuilt⟩ := Built.session (genuine_ofSource _) (.new (Archive.genuine_new none 0)) rfl
      (by simp [countriesSession, BuildStep.givenTables]) hsession
    have hgiven : ([] ++ givenIn countriesSession : List ColumnRef) = [] := rfl
    rw [hgiven] at hbuilt
    obtain ⟨-, -, hcolumns, -, -, hcompile⟩ := hbuilt.reads_own_columns
    have hown (c) (hc : c ∈ q.columnRefs) : q.Owns c :=
      (hcolumns c hc).resolve_left List.not_mem_nil
    refine ⟨q, site, rfl, hlength, hown, fun outside => ?_⟩
    rw [hcompile (fun c hc => absurd hc List.not_mem_nil) .base outside {}]
    exact hsql

end Query

end DataAccess
