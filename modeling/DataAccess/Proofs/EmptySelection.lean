import DataAccess.Proofs.ColumnReferences
import DataAccess.Proofs.OrderedRows
import DataAccess.Proofs.StoreRecords
import DataAccess.Proofs.TableRefinement

/-!
# Empty selection: all columns in SQL, none in memory

A query that selects nothing asks for all columns: its SQL has a star in their place. A store that
holds the table gives the rows without their cells.

* **In SQL** (`sql_compile_of_select_nil`): the star stands between the keyword and what does not
  depend on it.
* **Preparation** (`ofQuery_selectAll`): with all columns selected, a query is prepared as it is
  without, but for the projection. It fails if and as it does without.
* **Rows without cells** (`firstOccurrences_const`): they are all the same, so that one of them is
  given at most if each is given once.
* **Both selections** (`empty_selection`): the same rows are found, in the same order and window,
  and they are given with their cells in one case and without in the other. The answers differ then
  (`empty_selection_differs`).
-/

namespace DataAccess

open Catalog Dialect Execution Fragment Memory Streaming

/-! ## In SQL -/

/-- **In SQL** a star stands for an empty selection: the text begins with `SELECT *` or
`SELECT DISTINCT *`. -/
theorem Query.sql_compile_of_select_nil (d : SqlDialect) (outside : Holdings) {q : Query}
    (hselect : q.select = []) :
    (d.compile outside q).sql =
      (if q.distinct then "SELECT DISTINCT *" else "SELECT *") ++
        sql (restFragment d outside q) := by
  have hstar : selectFragment (q.holdings.union outside) q =
      ofText (if q.distinct then "SELECT DISTINCT " else "SELECT ") ++ ofText "*" := by
    unfold selectFragment
    rw [hselect]
    rfl
  rw [sql_compile_of_selectFragment d outside hstar]
  cases q.distinct <;> rfl

/-! ## Preparation -/

namespace Memory

section Preparation

variable {q : Query} {asName : Option String} {t : Table} {params : Params}

/-- `q.selectAll` selects the columns of the table `t` if `t` is all that `q` reads, each under the
alias of `t`. -/
theorem selectAll_select (hselect : q.select = []) (hsources : q.sources = [⟨.table t, asName⟩]) :
    q.selectAll.select = t.columns.map fun c => .ofColumn ⟨c, asName⟩ := by
  show q.select ++ q.sources.flatMap _ = _
  rw [hselect, hsources]
  simp [FromItem.table?]

/-- **Preparation**: `Evaluation.ofQuery q.selectAll` is `Evaluation.ofQuery q`, with the positions
of all columns for the projection. The errors are the same. -/
theorem ofQuery_selectAll (hselect : q.select = []) (hsources : q.sources = [⟨.table t, asName⟩]) :
    Evaluation.ofQuery q.selectAll params =
      (Evaluation.ofQuery q params).map fun e =>
        { e with projection := t.columns.map (·.ordinal) } := by
  have htable : tableOf q.selectAll = tableOf q := rfl
  have hplain : q.selectAll.isAggregated = q.isAggregated := by
    unfold Query.isAggregated
    rw [selectAll_select hselect hsources, hselect, List.any_map]
    congr 1
    exact List.any_eq_false.mpr fun c _ => Bool.false_ne_true
  have hprojection : ordinalsOf q.selectAll.select = .ok (t.columns.map (·.ordinal)) := by
    rw [selectAll_select hselect hsources, ordinalsOf_ofColumn]
  have hhaving : q.selectAll.having = q.having := rfl
  unfold Evaluation.ofQuery
  rw [htable, hplain, hprojection, hselect, hhaving]
  rcases tableOf q with e | table
  · rfl
  · cases q.isAggregated || !q.having.isEmpty with
    | true => rfl
    | false =>
        let missing : Error := .parameterCount q.parameterCount params.size
        have hconditions : bindFilters
          (.parameterCount q.selectAll.parameterCount params.size) params.toList
            q.selectAll.filters = bindFilters missing params.toList q.filters := rfl
        simp only [hconditions]
        rcases bindFilters missing params.toList q.filters with e | ⟨bound, rest⟩
        · rfl
        · have horder : orderOf q.selectAll.orderBy = orderOf q.orderBy := rfl
          simp only [horder]
          rcases orderOf q.orderBy with e | order <;> rfl

end Preparation

/-! ## Rows without cells -/

section Distinct

variable {α : Type} [BEq α]

/-- `firstOccurrences l ⊆ l`. -/
theorem firstOccurrences_subset (l : List α) : firstOccurrences l ⊆ l := by
  induction l using List.reverseRecOn with
  | nil => exact fun _ => id
  | append_singleton l a ih =>
      rw [firstOccurrences_concat]
      split
      · exact fun b hb => List.mem_append_left _ (ih hb)
      · exact List.append_subset.mpr ⟨fun b hb => List.mem_append_left _ (ih hb),
          List.subset_append_right _ _⟩

/-- `firstOccurrences l = []` only for `l = []`. -/
theorem firstOccurrences_eq_nil_iff {l : List α} : firstOccurrences l = [] ↔ l = [] := by
  induction l using List.reverseRecOn with
  | nil => exact Iff.rfl
  | append_singleton l a _ =>
      rw [firstOccurrences_concat]
      constructor
      · intro h
        split at h
        case isTrue hcontains =>
          rw [h] at hcontains
          cases hcontains
        case isFalse => exact absurd h (List.concat_ne_nil _ _)
      · exact fun h => absurd h (List.concat_ne_nil _ _)

/-- `firstOccurrences l` has an element if `l` has one. -/
theorem length_take_one_le (l : List α) : (l.take 1).length ≤ (firstOccurrences l).length := by
  cases l with
  | nil => exact Nat.zero_le _
  | cons a l =>
      exact List.length_pos_iff.mpr (mt firstOccurrences_eq_nil_iff.mp (List.cons_ne_nil a l))

/-- **Rows without cells**: of elements that are equal to one another the first is kept. -/
theorem firstOccurrences_const {β : Type} {a : α} (ha : (a == a) = true) (l : List β) :
    firstOccurrences (l.map fun _ => a) = (l.take 1).map fun _ => a := by
  induction l using List.reverseRecOn with
  | nil => rfl
  | append_singleton l b ih =>
      rw [List.map_append, List.map_singleton, firstOccurrences_concat, ih]
      cases l with
      | nil => rfl
      | cons c l =>
          have hcontains : (((c :: l).take 1).map fun _ => a).contains a = true := by simp [ha]
          rw [if_pos hcontains]
          rfl

end Distinct

end Memory

/-! ## Both selections -/

/-- Whether a query selects nothing of the one table that it reads, whose columns have the ordinals
`0, 1, …` and whose rows in the store have a cell for each of them. -/
structure Memory.Store.SelectsNothing (s : Store) (q : Query) (t : Table) : Prop where
  /-- Nothing is selected. -/
  select_eq : q.select = []
  /-- The table is all that is read. -/
  sources_eq : ∃ asName, q.sources = [⟨.table t, asName⟩]
  /-- The positions of its columns. -/
  ordinals_eq : t.columns.map (·.ordinal) = List.range t.columns.length
  /-- The width of its rows. -/
  length_eq : ∀ row ∈ s.rows (Store.nameOf t), row.length = t.columns.length

namespace Memory

section Selections

variable {s : Store} {q : Query} {t : Table} {params : Params} {e : Evaluation}
    {ctx : Context Store}
variable {site : Site Store}

/-- The rows that a query finds in a store, in its order: those that `e.selects`, sorted by
`e.sortRows`. -/
def Evaluation.found (e : Evaluation) (s : Store) : List Record :=
  e.sortRows ((s.rows (Store.nameOf e.table)).filter e.selects)

/-- `s.select` gives the projection of the rows that are `found`, each result once with
`e.distinct`. -/
theorem select_of_ofQuery (s : Store) (he : Evaluation.ofQuery q params = .ok e) :
    s.select q params = .ok (if e.distinct then firstOccurrences ((e.found s).map e.project)
      else (e.found s).map e.project) := by
  unfold Store.select
  rw [he]
  rfl

namespace Store.SelectsNothing

/-- A row that is `found` has a cell for each column of the table. -/
theorem length_found (h : s.SelectsNothing q t) (he : Evaluation.ofQuery q params = .ok e) :
    ∀ row ∈ e.found s, row.length = t.columns.length := by
  obtain ⟨asName, hsources⟩ := h.sources_eq
  have htable : tableOf q = .ok t := by
    unfold tableOf
    rw [hsources]
  have hname : e.table = t := Except.ok.inj ((ofQuery_eq_ok he).1.symm.trans htable)
  intro row hrow
  have hmem := (List.mem_filter.mp (List.mem_mergeSort.mp hrow)).1
  rw [hname] at hmem
  exact h.length_eq row hmem

/-- With all columns selected the rows that are `found` are given themselves. -/
theorem select_selectAll (h : s.SelectsNothing q t) (he : Evaluation.ofQuery q params = .ok e) :
    s.select q.selectAll params = .ok (if q.distinct then firstOccurrences (e.found s)
      else e.found s) := by
  obtain ⟨asName, hsources⟩ := h.sources_eq
  have hall : Evaluation.ofQuery q.selectAll params =
      .ok { e with projection := t.columns.map (·.ordinal) } := by
    rw [ofQuery_selectAll h.select_eq hsources, he]
    rfl
  have hproject : (e.found s).map
    (Evaluation.project { e with projection := t.columns.map (·.ordinal) }) =
      e.found s := by
    refine (List.map_congr_left fun row hrow => ?_).trans (List.map_id' _)
    show (t.columns.map (·.ordinal)).map (cell row) = row
    rw [h.ordinals_eq, ← h.length_found he row hrow]
    exact map_cell_range row
  have hdistinct : e.distinct = q.distinct := (parts_of_ofQuery he).2.2.2
  rw [select_of_ofQuery s hall, ← hdistinct]
  show Except.ok
    (if e.distinct then firstOccurrences ((e.found s).map _) else (e.found s).map _) = _
  rw [hproject]

/-- With nothing selected as many rows without cells are given, or one of them with `q.distinct`. -/
theorem select_nil (h : s.SelectsNothing q t) (he : Evaluation.ofQuery q params = .ok e) :
    s.select q params =
      .ok ((if q.distinct then (e.found s).take 1 else e.found s).map fun _ => []) := by
  obtain ⟨hprojection, -, -, hdistinct⟩ := parts_of_ofQuery he
  rw [h.select_eq] at hprojection
  have hproject : e.project = fun _ => [] := by
    funext row
    unfold Evaluation.project
    rw [← Except.ok.inj hprojection]
    rfl
  rw [select_of_ofQuery s he, hproject, hdistinct]
  cases q.distinct with
  | false => rfl
  | true => exact congrArg Except.ok (firstOccurrences_const rfl (e.found s))

end Store.SelectsNothing

/-- In any window the rows without cells are those with their cells exactly if there are no cells,
`width = 0`, or no rows. -/
theorem map_nil_eq_iff {found : List Record} {width : Nat}
    (hfound : ∀ row ∈ found, row.length = width) (w : Window) (distinct : Bool) :
    (w.apply (if distinct then found.take 1 else found)).map (fun _ => []) =
        w.apply (if distinct then firstOccurrences found else found) ↔
      width = 0 ∨ w.apply (if distinct then firstOccurrences found else found) = [] := by
  have hsubset : (if distinct then firstOccurrences found else found) ⊆ found := by
    split
    · exact firstOccurrences_subset found
    · exact List.Subset.refl found
  have hlength : (if distinct then found.take 1 else found).length ≤
      (if distinct then firstOccurrences found else found).length := by
    split
    · exact length_take_one_le found
    · exact Nat.le_refl _
  constructor
  · intro hsame
    refine or_iff_not_imp_right.mpr fun hsome => ?_
    obtain ⟨row, hrow⟩ := List.exists_mem_of_ne_nil _ hsome
    have hwidth := hfound row (hsubset (w.apply_subset _ hrow))
    rw [← hsame] at hrow
    obtain ⟨_, -, rfl⟩ := List.mem_map.mp hrow
    exact hwidth.symm
  · rintro (rfl | hnone)
    · have hbare : found = found.map fun _ => [] := by
        refine (List.map_id' found).symm.trans (List.map_congr_left fun row hrow => ?_)
        exact List.eq_nil_of_length_eq_zero (hfound row hrow)
      rw [← Window.apply_map]
      cases distinct with
      | false => exact congrArg w.apply hbare.symm
      | true =>
          have honce := firstOccurrences_const (a := ([] : Record)) rfl found
          rw [← hbare] at honce
          exact congrArg w.apply honce.symm
    · rw [hnone, Window.apply_eq_nil_of_length_le hnone hlength]
      rfl

/-- **Both selections.** Let `q` select nothing of the table `t`. In its SQL a star stands for all
columns. A store answers `q` and `q.selectAll` with the same error, or both without one. Then
`q.selectAll` gives the rows `e.found`, each once with `q.distinct`, in the window of `q`, and `q`
gives rows `[]` instead, where `DISTINCT` leaves one before the window is applied. The two answers
are equal exactly if `t.columns = []` or `given = []`. -/
theorem empty_selection (hsource : ctx.source = Store.source) (h : site.source.SelectsNothing q t)
    (params : Params) :
    (∃ rest, (ctx.compile q site).prepared.sql =
      (if q.distinct then "SELECT DISTINCT *" else "SELECT *") ++ rest) ∧
    ((∃ error, ctx.records q params site = .error error ∧
      ctx.records q.selectAll params site = .error error) ∨
      ∃ e, Evaluation.ofQuery q params = .ok e ∧
        let w := PreparedQuery.windowFor ctx.dialect ctx.config.paginationFallback q
        let found := e.found site.source
        let given := w.apply (if q.distinct then firstOccurrences found else found)
        ctx.records q.selectAll params site = .ok given ∧
        ctx.records q params site =
          .ok ((w.apply (if q.distinct then found.take 1 else found)).map fun _ => []) ∧
        (ctx.records q params site = ctx.records q.selectAll params site ↔ t.columns = [] ∨
          given = [])) := by
  refine ⟨⟨_, Query.sql_compile_of_select_nil ctx.dialect site.registry.holdings h.select_eq⟩, ?_⟩
  obtain ⟨asName, hsources⟩ := h.sources_eq
  have hcount : q.selectAll.parameterCount = q.parameterCount := rfl
  have hwindow : PreparedQuery.windowFor ctx.dialect ctx.config.paginationFallback q.selectAll =
    PreparedQuery.windowFor ctx.dialect ctx.config.paginationFallback q := rfl
  rw [Context.records_of_store hsource, Context.records_of_store hsource, hcount, hwindow]
  by_cases hsize : params.size = q.parameterCount
  · rw [if_neg (not_not.mpr hsize), if_neg (not_not.mpr hsize)]
    rcases he : Evaluation.ofQuery q params with error | e
    · have hall : Evaluation.ofQuery q.selectAll params = .error error := by
        rw [ofQuery_selectAll h.select_eq hsources, he]
        rfl
      unfold Store.select
      rw [he, hall]
      exact .inl ⟨error, rfl, rfl⟩
    · rw [h.select_selectAll he, h.select_nil he]
      refine .inr ⟨e, rfl, rfl, congrArg Except.ok (Window.apply_map _ _ _), ?_⟩
      show Except.ok (Window.apply _ (List.map _ _)) = Except.ok _ ↔ _
      rw [Except.ok.injEq, Window.apply_map, map_nil_eq_iff (h.length_found he),
        List.length_eq_zero_iff]
  · rw [if_pos hsize, if_pos hsize]
    exact .inl ⟨_, rfl, rfl⟩

/-- A table `T` of two columns. -/
def pairTable : Table := (Store.wide "T").build 0 (some "A") 0

/-- A store of `pairTable` with two rows. -/
def pairStore : Store where
  schemas := [⟨some "A", [Store.wide "T"]⟩]
  contents := [((some "A", "T"), [[.integer 1, .integer 10], [.integer 2, .integer 20]])]

/-- A query on `pairTable` that selects nothing meets `SelectsNothing` in `pairStore`. -/
theorem selectsNothing_pairStore {q : Query} {asName : Option String} (hselect : q.select = [])
    (hsources : q.sources = [⟨.table pairTable, asName⟩]) :
    pairStore.SelectsNothing q pairTable where
  select_eq := hselect
  sources_eq := ⟨asName, hsources⟩
  ordinals_eq := ordinals_build (Store.wide "T") 0 (some "A") 0
  length_eq := by
    have hrows : pairStore.rows (Store.nameOf pairTable) =
        [[.integer 1, .integer 10], [.integer 2, .integer 20]] := rfl
    rw [hrows]
    decide

/-- A query that selects nothing of `pairTable`: the second one of its distinct rows, up to a
number. -/
def secondQuery : Query where
  distinct := true
  sources := [⟨.table pairTable, some "p"⟩]
  filters := [.compare (.ofColumn ⟨pairTable.columns[0], some "p"⟩) .lessOrEqual .parameter]
  orderBy := [⟨.ofColumn ⟨pairTable.columns[0], some "p"⟩, .ascending⟩]
  firstRow := some 2
  maxRows := some 1

/-- The second row of `secondQuery` is given if all columns are selected. If none is, the one row
without cells is not in the window. -/
theorem empty_selection_secondQuery :
    let ctx := Context.ofSource Store.source {} pairStore
    let site := ctx.site 0 pairStore
    ctx.source = Store.source ∧ site.source.SelectsNothing secondQuery pairTable ∧
      ctx.records secondQuery.selectAll ⟨[.integer 2]⟩ site = .ok [[.integer 2, .integer 20]] ∧
      ctx.records secondQuery ⟨[.integer 2]⟩ site = .ok [] := by
  intro ctx site
  have h : site.source.SelectsNothing secondQuery pairTable := selectsNothing_pairStore rfl rfl
  have hprepared : Evaluation.ofQuery secondQuery ⟨[.integer 2]⟩ =
      .ok ⟨pairTable, [], [.compare 0 .lessOrEqual (.bound (.integer 2))],
        [(0, .ascending)], true⟩ := rfl
  have hfound : Evaluation.found
      ⟨pairTable, [], [.compare 0 .lessOrEqual (.bound (.integer 2))], [(0, .ascending)], true⟩
      site.source = [[.integer 1, .integer 10], [.integer 2, .integer 20]] :=
    List.mergeSort_of_pairwise (by decide)
  have hsource : ctx.source = Store.source := rfl
  refine ⟨hsource, h, ?_⟩
  obtain ⟨-, ⟨error, herror, -⟩ | ⟨e, he, hall, hnone, -⟩⟩ :=
    empty_selection hsource h ⟨[.integer 2]⟩
  · rw [Context.records_of_store rfl, if_neg (by decide), h.select_nil hprepared] at herror
    cases herror
  · obtain rfl := Except.ok.inj (hprepared.symm.trans he)
    rw [hall, hnone, hfound]
    exact ⟨rfl, rfl⟩

/-- A query that selects nothing of a table need not be answered like `q.selectAll`. -/
theorem empty_selection_differs :
    ¬ ∀ (ctx : Context Store) (site : Site Store) (q : Query) (t : Table) (params : Params),
      ctx.source = Store.source → site.source.SelectsNothing q t →
      ctx.records q params site = ctx.records q.selectAll params site := by
  intro hsame
  let ctx := Context.ofSource Store.source {} pairStore
  let q : Query := { sources := [.ofTable pairTable] }
  have h : pairStore.SelectsNothing q pairTable := selectsNothing_pairStore rfl rfl
  have hprepared : Evaluation.ofQuery q .empty = .ok ⟨pairTable, [], [], [], false⟩ := rfl
  have hfound : Evaluation.found ⟨pairTable, [], [], [], false⟩ pairStore =
      [[.integer 1, .integer 10], [.integer 2, .integer 20]] :=
        List.mergeSort_of_pairwise (by decide)
  have hrecords := hsame ctx (ctx.site 0 pairStore) q pairTable .empty rfl h
  rw [Context.records_of_store rfl, Context.records_of_store rfl, if_neg (by decide),
    if_neg (by decide)] at hrecords
  have hsource : (ctx.site 0 pairStore).source = pairStore := rfl
  rw [hsource, h.select_nil hprepared, h.select_selectAll hprepared, hfound] at hrecords
  have hrows : ([[], []] : List Record) = [[.integer 1, .integer 10], [.integer 2, .integer 20]] :=
    Except.ok.inj hrecords
  cases hrows

end Selections

end Memory

end DataAccess
