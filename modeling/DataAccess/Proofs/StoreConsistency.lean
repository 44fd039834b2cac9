import DataAccess.Memory.Store

/-!
# Store consistency: rows of declared tables

A store keeps the declarations of tables and their rows apart. It is consistent if all rows that it
holds are under the exact name of a declared table and have one value for each of its columns.

* **Declarations** (`tableDecl?_declareTable`, `tableDecl?_undeclareTable`): a table is declared
  under a name that is free, and the other tables stay as they are.
* **One update** (`consistent_update_iff`): only an insertion can make a consistent store
  inconsistent. It is a misfit (`Misfit`): it is accepted for a table that is not declared under
  that very name, or has another number of columns by now.
* **All updates** (`consistent_run_iff`): a store is consistent as long as there is no misfit.
* **Misfits are accepted** (`not_consistent_staleRun`): tables are looked up without regard to case,
  and the width of rows is held against the table that is given, not against the declared one.
* **Tables of the catalog** (`not_misfit_run`): a table that is built from its declaration can be
  filled until it is dropped.
-/

namespace DataAccess

open Catalog

/-- A computation in two steps, `x >>= f`, succeeds if both do. -/
theorem exists_of_bind_eq_ok {ε α β : Type} {x : Except ε α} {f : α → Except ε β} {b : β}
    (h : x >>= f = .ok b) : ∃ a, x = .ok a ∧ f a = .ok b := by
  rcases x with e | a
  · cases h
  · exact ⟨a, rfl, h⟩

/-! ## Declarations -/

namespace Catalog.SchemaDecl

variable {d d' : SchemaDecl}

/-- The first declaration of a table of exactly that name in a schema. -/
def table? (d : SchemaDecl) (name : String) : Option TableDecl :=
  d.tables.find? fun t => t.name == name

/-- `d.contains name = false`, which ignores case, gives `d.table? name = none`. -/
theorem table?_eq_none_of_contains {name : String} (h : d.contains name = false) :
    d.table? name = none := by
  unfold contains at h
  rw [List.any_eq_false] at h
  unfold table?
  rw [List.find?_eq_none]
  intro t ht hname
  rw [beq_iff_eq] at hname
  exact h t ht (Text.equalIgnoringAsciiCase_iff.mpr (congrArg _ (congrArg _ hname)))

/-- `insert?` adds a table under a name that is free, and the others stay. -/
theorem table?_insert? {t : TableDecl} (h : d.insert? t = some d') :
    d'.name = d.name ∧ d.table? t.name = none ∧
      ∀ name, d'.table? name = if name = t.name then some t else d.table? name := by
  unfold insert? at h
  split at h
  case isTrue => cases h
  case isFalse hcontains =>
    have hfree : d.table? t.name = none :=
      table?_eq_none_of_contains (Bool.eq_false_iff.mpr hcontains)
    obtain rfl := Option.some.inj h
    refine ⟨rfl, hfree, ?_⟩
    intro name
    have happend : (d.append t).table? name = (d.table? name).or ([t].find? (·.name == name)) :=
      List.find?_append
    rw [happend]
    by_cases hname : name = t.name
    · subst hname
      rw [hfree, if_pos rfl]
      simp
    · have hother : (t.name == name) = false := beq_false_of_ne (Ne.symm hname)
      rw [if_neg hname, List.find?_cons_of_neg (by simp [hother]), List.find?_nil, Option.or_none]

/-- `erase?` removes the table of a name, and the others stay. -/
theorem table?_erase? {name : String} (h : d.erase? name = some d') :
    d'.name = d.name ∧
      ∀ other, d'.table? other = if other = name then none else d.table? other := by
  unfold erase? at h
  split at h
  case isFalse => cases h
  case isTrue =>
    obtain rfl := Option.some.inj h
    refine ⟨rfl, ?_⟩
    intro other
    unfold table?
    rw [List.find?_filter]
    by_cases hother : other = name
    · subst hother
      rw [if_pos rfl, List.find?_eq_none]
      intro t _
      simp
    · rw [if_neg hother]
      congr 1
      funext t
      by_cases ht : t.name = other
      · simp [ht, hother]
      · simp [ht]

end Catalog.SchemaDecl

namespace Memory.Store

variable {schemas schemas' : List SchemaDecl} {schema : SchemaName}

/-- The declaration of a table by its exact name, that of its schema included. -/
def tableDecl? (schemas : List SchemaDecl) (name : TableName) : Option TableDecl :=
  (findDecl? schemas name.1).bind (·.table? name.2)

/-- The first schema of a name is the one that counts in `tableDecl?`. -/
theorem tableDecl?_cons (d : SchemaDecl) (rest : List SchemaDecl) (name : TableName) :
    tableDecl? (d :: rest) name = if d.name = name.1 then d.table? name.2
      else tableDecl? rest name := by
  unfold tableDecl? findDecl?
  by_cases h : d.name = name.1
  · rw [if_pos h, List.find?_cons_of_pos (by simp [h])]
    rfl
  · rw [if_neg h, List.find?_cons_of_neg (by simp [h])]

/-- A declaration has the name under which `tableDecl?` finds it. -/
theorem name_of_tableDecl? {d : TableDecl} {name : TableName}
    (h : tableDecl? schemas name = some d) :
    d.name = name.2 := by
  obtain ⟨schema, -, htable⟩ := Option.bind_eq_some_iff.mp h
  unfold SchemaDecl.table? at htable
  have hfound := List.find?_some htable
  exact beq_iff_eq.mp hfound

/-- If the first schema changes under the name of one of its tables alone, `tableDecl?` changes
under that name alone. -/
theorem tableDecl?_cons_of_eq {d d' : SchemaDecl} {rest : List SchemaDecl} {table : String}
    {decl : Option TableDecl} (hd : d.name = schema) (hkept : d'.name = d.name)
    (htables : ∀ name, d'.table? name = if name = table then decl else d.table? name)
    (name : TableName) :
    tableDecl? (d' :: rest) name =
      if name = (schema, table) then decl else tableDecl? (d :: rest) name := by
  obtain ⟨other, name⟩ := name
  rw [tableDecl?_cons, tableDecl?_cons, hkept, htables, hd]
  by_cases hother : schema = other
  · subst hother
    simp
  · simp [hother, Ne.symm hother]

/-- `tableDecl?_cons_of_eq` where the table is of a schema behind the first one. -/
theorem tableDecl?_cons_of_ne {d : SchemaDecl} {rest rest' : List SchemaDecl} {table : String}
    {decl : Option TableDecl} (hd : d.name ≠ schema)
    (htables : ∀ name, tableDecl? rest' name =
      if name = (schema, table) then decl else tableDecl? rest name) (name : TableName) :
    tableDecl? (d :: rest') name =
      if name = (schema, table) then decl else tableDecl? (d :: rest) name := by
  rw [tableDecl?_cons, tableDecl?_cons, htables]
  by_cases hother : d.name = name.1
  · have hname : name ≠ (schema, table) := by
      rintro rfl
      exact hd hother
    rw [if_pos hother, if_neg hname, if_pos hother]
  · rw [if_neg hother, if_neg hother]

/-- **Declarations**: `declareTable` finds the name free, and changes `tableDecl?` there alone. -/
theorem tableDecl?_declareTable {table : TableDecl}
    (h : declareTable schema table schemas = some schemas') :
    tableDecl? schemas (schema, table.name) = none ∧
      ∀ name, tableDecl? schemas' name =
        if name = (schema, table.name) then some table else tableDecl? schemas name := by
  induction schemas generalizing schemas' with
  | nil =>
      obtain rfl := Option.some.inj h
      -- The new schema is an empty one in which the table is declared.
      have hempty : ∀ name, tableDecl? [⟨schema, []⟩] name = none := by
        intro name
        rw [tableDecl?_cons]
        split <;> rfl
      have hinsert : (⟨schema, []⟩ : SchemaDecl).insert? table = some ⟨schema, [table]⟩ := rfl
      obtain ⟨hkept, -, htables⟩ := SchemaDecl.table?_insert? hinsert
      refine ⟨rfl, ?_⟩
      intro name
      rw [tableDecl?_cons_of_eq rfl hkept htables name, hempty]
      rfl
  | cons d rest ih =>
      unfold declareTable at h
      split at h
      case isTrue hd =>
        obtain ⟨d', hinsert, rfl⟩ := Option.map_eq_some_iff.mp h
        obtain ⟨hkept, hfree, htables⟩ := SchemaDecl.table?_insert? hinsert
        refine ⟨?_, tableDecl?_cons_of_eq hd hkept htables⟩
        rw [tableDecl?_cons, if_pos hd, hfree]
      case isFalse hd =>
        obtain ⟨rest', hrest, rfl⟩ := Option.map_eq_some_iff.mp h
        obtain ⟨hfree, htables⟩ := ih hrest
        refine ⟨?_, tableDecl?_cons_of_ne hd htables⟩
        rw [tableDecl?_cons, if_neg hd, hfree]

/-- **Declarations**: `undeclareTable` changes `tableDecl?` to `none` under the name, and there
alone. -/
theorem tableDecl?_undeclareTable {table : String}
    (h : undeclareTable schema table schemas = some schemas') (name : TableName) :
    tableDecl? schemas' name = if name = (schema, table) then none
      else tableDecl? schemas name := by
  induction schemas generalizing schemas' name with
  | nil => cases h
  | cons d rest ih =>
      unfold undeclareTable at h
      split at h
      case isTrue hd =>
        obtain ⟨d', herase, rfl⟩ := Option.map_eq_some_iff.mp h
        obtain ⟨hkept, htables⟩ := SchemaDecl.table?_erase? herase
        exact tableDecl?_cons_of_eq hd hkept htables name
      case isFalse hd =>
        obtain ⟨rest', hrest, rfl⟩ := Option.map_eq_some_iff.mp h
        exact tableDecl?_cons_of_ne hd (ih hrest) name

/-! ## What an update does -/

variable {s s' : Store} {name : TableName} {rows : List Record}

/-- The store after `createTable`: one more declaration, and no rows under its name. -/
theorem createTable_eq_ok {table : TableDecl} (h : s.createTable schema table = .ok s') :
    ∃ schemas, declareTable schema table s.schemas = some schemas ∧
      s' = { s with schemas }.setRows (schema, table.name) [] := by
  unfold createTable at h
  split at h
  case h_1 schemas hschemas => exact ⟨schemas, hschemas, (Except.ok.inj h).symm⟩
  case h_2 => cases h

/-- The store after `dropTable`: one declaration less, and no entry under its name. -/
theorem dropTable_eq_ok {t : Table} (h : s.dropTable t = .ok s') :
    ∃ schemas, undeclareTable t.schemaName t.name s.schemas = some schemas ∧
      s' = { s with schemas }.eraseRows (nameOf t) := by
  unfold dropTable at h
  split at h
  case h_1 schemas hschemas => exact ⟨schemas, hschemas, (Except.ok.inj h).symm⟩
  case h_2 => cases h

/-- The store after `insert`, and the width `t.width` of all rows that went in. -/
theorem insert_eq_ok {t : Table} (h : s.insert t rows = .ok s') :
    (∀ row ∈ rows, row.length = t.width) ∧ s' = s.insertRows (nameOf t) rows := by
  obtain ⟨_, -, h⟩ := exists_of_bind_eq_ok h
  obtain ⟨_, hwidth, h⟩ := exists_of_bind_eq_ok h
  refine ⟨?_, (Except.ok.inj h).symm⟩
  unfold Update.checkWidth at hwidth
  split at hwidth
  case h_1 => cases hwidth
  case h_2 hnone =>
    intro row hrow
    simpa using List.find?_eq_none.mp hnone row hrow

/-- The store after `delete`: the rows that are `kept` are among those that were there. -/
theorem delete_eq_ok {t : Table} {filters : List FilterItem} {count : Nat}
    (h : s.delete t filters = .ok (count, s')) :
    s' = s ∨ ∃ rows kept, s.rows? (nameOf t) = some rows ∧ kept ⊆ rows ∧
      s' = s.setRows (nameOf t) kept := by
  obtain ⟨_, -, h⟩ := exists_of_bind_eq_ok h
  obtain ⟨_, -, h⟩ := exists_of_bind_eq_ok h
  split at h
  case h_1 => exact .inl (Prod.mk.inj (Except.ok.inj h)).2.symm
  case h_2 rows hrows =>
    exact .inr ⟨rows, _, hrows, List.filter_sublist.subset, (Prod.mk.inj (Except.ok.inj h)).2.symm⟩

/-- The store after an update that is accepted, one case for each kind of update. -/
theorem change_eq_ok {u : Update} {count : Nat} (h : s.change u = .ok (count, s')) :
    match u with
    | .createTable schema table => s.createTable schema table = .ok s'
    | .dropTable t => s.dropTable t = .ok s'
    | .insert t rows => s.insert t rows = .ok s'
    | .delete t filters => s.delete t filters = .ok (count, s') := by
  have hpair : ∀ {x : Except Error Store} {n : Nat},
      (x >>= fun s => .ok (n, s)) = .ok (count, s') → x = .ok s' := by
    intro x n hx
    obtain ⟨s'', hok, hx⟩ := exists_of_bind_eq_ok hx
    obtain rfl := (Prod.mk.inj (Except.ok.inj hx)).2
    exact hok
  cases u with
  | createTable schema table => exact hpair h
  | dropTable t => exact hpair h
  | insert t rows => exact hpair h
  | delete t filters => exact h

/-! ## Consistency -/

/-- The declaration of a table of a store, by its exact name. -/
def declared? (s : Store) (name : TableName) : Option TableDecl :=
  tableDecl? s.schemas name

/-- Whether rows can be held under a name: it is the exact name of a declared table (`declared?`),
and every row has a value for each of its columns. -/
def Fits (s : Store) (name : TableName) (rows : List Record) : Prop :=
  ∃ d, s.declared? name = some d ∧ ∀ row ∈ rows, row.length = d.columns.length

/-- Whether all entries of `s.contents` have rows that `Fits` under their names. -/
def Consistent (s : Store) : Prop :=
  ∀ entry ∈ s.contents, s.Fits entry.1 entry.2

/-- An entry after `putRows name rows` is `(name, rows)` or was there before. -/
theorem mem_putRows {entry : TableName × List Record} {contents : List (TableName × List Record)}
    (h : entry ∈ putRows name rows contents) : entry = (name, rows) ∨ entry ∈ contents := by
  induction contents with
  | nil => exact .inl (List.mem_singleton.mp h)
  | cons first rest ih =>
      unfold putRows at h
      split at h
      case isTrue =>
        obtain rfl | hrest := List.mem_cons.mp h
        · exact .inl rfl
        · exact .inr (List.mem_cons_of_mem _ hrest)
      case isFalse =>
        obtain rfl | hrest := List.mem_cons.mp h
        · exact .inr List.mem_cons_self
        · exact (ih hrest).imp_right (List.mem_cons_of_mem _)

/-- What `rows?` gives for a name is an entry of `s.contents`. -/
theorem mem_contents_of_rows? (h : s.rows? name = some rows) : (name, rows) ∈ s.contents := by
  obtain ⟨before, after, hcontents, -⟩ := List.lookup_eq_some_iff.mp h
  rw [hcontents]
  exact List.mem_append_right _ List.mem_cons_self

/-- `Fits` is kept by fewer rows. -/
theorem Fits.subset {kept : List Record} (h : s.Fits name rows) (hkept : kept ⊆ rows) :
    s.Fits name kept := by
  obtain ⟨d, hd, hwidth⟩ := h
  exact ⟨d, hd, fun row hrow => hwidth row (hkept hrow)⟩

/-- `setRows` keeps `Consistent` for rows with `Fits`. -/
theorem Consistent.setRows (hs : s.Consistent) (h : s.Fits name rows) :
    (s.setRows name rows).Consistent := by
  intro entry hentry
  obtain rfl | hold := mem_putRows hentry
  · exact h
  · exact hs entry hold

/-- `insertRows` keeps `Consistent` exactly for rows with `Fits`. -/
theorem consistent_insertRows_iff (hs : s.Consistent) :
    (s.insertRows name rows).Consistent ↔ s.Fits name rows := by
  constructor
  · intro h
    have hmem : (name, s.rows name ++ rows) ∈ (s.insertRows name rows).contents := by
      refine mem_contents_of_rows? ?_
      unfold insertRows
      rw [rows?_setRows, if_pos rfl]
    exact (h _ hmem).subset (List.subset_append_right _ _)
  · rintro ⟨d, hd, hwidth⟩
    refine hs.setRows ⟨d, hd, ?_⟩
    intro row hrow
    obtain hold | hnew := List.mem_append.mp hrow
    · unfold Store.rows at hold
      rcases hrows : s.rows? name with _ | rows'
      · rw [hrows] at hold
        cases hold
      · rw [hrows] at hold
        obtain ⟨d', hd', hwidth'⟩ := hs _ (mem_contents_of_rows? hrows)
        obtain rfl := Option.some.inj (hd.symm.trans hd')
        exact hwidth' row hold
    · exact hwidth row hnew

/-- `createTable` keeps `Consistent`: the new table has no rows. -/
theorem consistent_createTable {table : TableDecl} (hs : s.Consistent)
    (h : s.createTable schema table = .ok s') : s'.Consistent := by
  obtain ⟨schemas, hschemas, rfl⟩ := createTable_eq_ok h
  obtain ⟨hfree, htables⟩ := tableDecl?_declareTable hschemas
  intro entry hentry
  obtain rfl | hold := mem_putRows hentry
  · exact ⟨table, (htables _).trans (if_pos rfl), nofun⟩
  · obtain ⟨d, hd, hwidth⟩ := hs entry hold
    have hother : entry.1 ≠ (schema, table.name) := by
      intro heq
      rw [declared?, heq, hfree] at hd
      cases hd
    exact ⟨d, (htables _).trans ((if_neg hother).trans hd), hwidth⟩

/-- `dropTable` keeps `Consistent`: no rows of the table are left. -/
theorem consistent_dropTable {t : Table} (hs : s.Consistent) (h : s.dropTable t = .ok s') :
    s'.Consistent := by
  obtain ⟨schemas, hschemas, rfl⟩ := dropTable_eq_ok h
  intro entry hentry
  obtain ⟨hold, hother⟩ := List.mem_filter.mp hentry
  obtain ⟨d, hd, hwidth⟩ := hs entry hold
  have hne : entry.1 ≠ (t.schemaName, t.name) := bne_iff_ne.mp hother
  exact ⟨d, (tableDecl?_undeclareTable hschemas _).trans ((if_neg hne).trans hd), hwidth⟩

/-- `delete` keeps `Consistent`: the rows that are left fit as before. -/
theorem consistent_delete {t : Table} {filters : List FilterItem} {count : Nat} (hs : s.Consistent)
    (h : s.delete t filters = .ok (count, s')) : s'.Consistent := by
  obtain rfl | ⟨rows, kept, hrows, hkept, rfl⟩ := delete_eq_ok h
  · exact hs
  · exact hs.setRows (Fits.subset (hs _ (mem_contents_of_rows? hrows)) hkept)

/-! ## One update -/

/-- Whether an update is an insertion that is accepted although no table is declared under that
exact name, or although there are rows and the declared table has another number of columns than the
given one, `t.width`. -/
def Misfit (s : Store) : Update → Prop
  | .insert t rows => (∃ s', s.insert t rows = .ok s') ∧
      ¬ ∃ d, s.declared? (nameOf t) = some d ∧ (rows = [] ∨ d.columns.length = t.width)
  | _ => False

/-- An insertion that is refused is no `Misfit`. -/
theorem not_misfit_of_error {u : Update} {e : Error} (h : s.change u = .error e) :
    ¬ s.Misfit u := by
  cases u with
  | insert t rows =>
      rintro ⟨⟨s', hinsert⟩, -⟩
      have hok : s.change (.insert t rows) = .ok (rows.length, s') := by
        show (s.insert t rows >>= fun s => .ok (rows.length, s)) = _
        rw [hinsert]
        rfl
      cases h.symm.trans hok
  | createTable schema table => exact id
  | dropTable t => exact id
  | delete t filters => exact id

/-- The rows of an insertion that is accepted have `Fits` exactly if it is no `Misfit`. -/
theorem fits_iff_not_misfit {t : Table} (h : s.insert t rows = .ok s') :
    s.Fits (nameOf t) rows ↔ ¬ s.Misfit (.insert t rows) := by
  obtain ⟨hrows, -⟩ := insert_eq_ok h
  constructor
  · rintro ⟨d, hd, hwidth⟩ ⟨-, hmisfit⟩
    refine hmisfit ⟨d, hd, ?_⟩
    rcases rows with _ | ⟨row, rest⟩
    · exact .inl rfl
    · have hfirst : row ∈ row :: rest := List.mem_cons_self
      exact .inr ((hwidth row hfirst).symm.trans (hrows row hfirst))
  · intro hfit
    by_cases hdeclared : ∃ d, s.declared? (nameOf t) = some d ∧
      (rows = [] ∨ d.columns.length = t.width)
    · obtain ⟨d, hd, rfl | hwidth⟩ := hdeclared
      · exact ⟨d, hd, nofun⟩
      · exact ⟨d, hd, fun row hrow => (hrows row hrow).trans hwidth.symm⟩
    · exact absurd ⟨⟨s', h⟩, hdeclared⟩ hfit

/-- **One update** keeps `Consistent` exactly if it is no `Misfit`. -/
theorem consistent_update_iff (hs : s.Consistent) (u : Update) :
    (s.update u).2.Consistent ↔ ¬ s.Misfit u := by
  unfold update
  split
  case h_1 count s' h =>
    have hu := change_eq_ok h
    cases u with
    | createTable schema table => exact iff_of_true (consistent_createTable hs hu) id
    | dropTable t => exact iff_of_true (consistent_dropTable hs hu) id
    | insert t rows =>
        rw [← fits_iff_not_misfit hu]
        obtain ⟨-, rfl⟩ := insert_eq_ok hu
        exact consistent_insertRows_iff hs
    | delete t filters => exact iff_of_true (consistent_delete hs hu) id
  case h_2 e h => exact iff_of_true hs (not_misfit_of_error h)

/-! ## All updates -/

/-- The store after updates, one after another, whether they are accepted or not. -/
def run (s : Store) : List Update → Store
  | [] => s
  | u :: us => run (s.update u).2 us

/-- `s.run (us ++ vs) = (s.run us).run vs`. -/
theorem run_append (s : Store) (us vs : List Update) : s.run (us ++ vs) = (s.run us).run vs := by
  induction us generalizing s with
  | nil => rfl
  | cons u us ih => exact ih (s.update u).2

/-- `run` keeps `Consistent` if no update is a `Misfit` at its time. -/
theorem Consistent.run {us : List Update} (hs : s.Consistent)
    (h : ∀ past u, past ++ [u] <+: us → ¬ (s.run past).Misfit u) : (s.run us).Consistent := by
  induction us generalizing s with
  | nil => exact hs
  | cons u us ih =>
      have hfirst : ¬ s.Misfit u := h [] u ⟨us, rfl⟩
      refine ih ((consistent_update_iff hs u).mpr hfirst) ?_
      intro past v hpast
      exact h (u :: past) v (List.prefix_cons_inj u |>.mpr hpast)

/-- **All updates**: a store that was empty at first is `Consistent` after each of the updates
exactly if none of them is a `Misfit` at its time. -/
theorem consistent_run_iff (us : List Update) :
    (∀ past, past <+: us → (Store.run {} past).Consistent) ↔
      ∀ past u, past ++ [u] <+: us → ¬ (Store.run {} past).Misfit u := by
  constructor
  · intro h past u hpast
    have hbefore : (Store.run {} past).Consistent :=
      h past ((List.prefix_append past [u]).trans hpast)
    have hafter : (Store.run {} (past ++ [u])).Consistent := h _ hpast
    rw [run_append] at hafter
    exact (consistent_update_iff hbefore u).mp hafter
  · intro h past hpast
    have hempty : ({} : Store).Consistent := nofun
    exact hempty.run fun before u hbefore => h before u (hbefore.trans hpast)

/-- A table with one column. -/
def narrow (name : String) : TableDecl :=
  { name, columns := [{ name := "x", type := .integer }] }

/-- A table with two columns. -/
def wide (name : String) : TableDecl :=
  { name, columns := [{ name := "x", type := .integer }, { name := "y", type := .integer }] }

/-- The table `first` is dropped and `second` is created in its schema. Then a row goes into
`first`, by a handle from before. -/
def staleRun (first second : TableDecl) : List Update :=
  let stale := first.build 0 (some "A") 0
  [.createTable (some "A") first, .dropTable stale, .createTable (some "A") second,
    .insert stale [[.integer 1]]]

/-- **Misfits are accepted**: `staleRun` leaves a store that is not `Consistent`, with a row of
one value in a table of two columns, or with a row under a name that is declared in other
letters only. -/
theorem not_consistent_staleRun :
    ¬ (Store.run {} (staleRun (narrow "T") (wide "T"))).Consistent ∧
      ¬ (Store.run {} (staleRun (narrow "t") (narrow "T"))).Consistent := by
  refine ⟨?_, ?_⟩
  · intro h
    obtain ⟨d, hd, hwidth⟩ := h ((some "A", "T"), [[.integer 1]]) List.mem_cons_self
    obtain rfl : wide "T" = d := Option.some.inj hd
    have hone := hwidth _ List.mem_cons_self
    cases hone
  · intro h
    obtain ⟨d, hd, -⟩ :=
      h ((some "A", "t"), [[.integer 1]]) (List.mem_cons_of_mem _ List.mem_cons_self)
    cases hd

/-! ## Tables of the catalog -/

/-- `declared? name` stays through all updates but a `dropTable` of that name. -/
theorem declared?_update {d : TableDecl} {u : Update} (h : s.declared? name = some d)
    (hkept : ∀ t, u = .dropTable t → nameOf t ≠ name) : (s.update u).2.declared? name = some d := by
  unfold update
  split
  case h_1 count s' hchange =>
    have hu := change_eq_ok hchange
    cases u with
    | createTable schema table =>
        obtain ⟨schemas, hschemas, rfl⟩ := createTable_eq_ok hu
        obtain ⟨hfree, htables⟩ := tableDecl?_declareTable hschemas
        have hother : name ≠ (schema, table.name) := by
          rintro rfl
          cases hfree.symm.trans h
        exact (htables name).trans ((if_neg hother).trans h)
    | dropTable t =>
        obtain ⟨schemas, hschemas, rfl⟩ := dropTable_eq_ok hu
        have hother : name ≠ (t.schemaName, t.name) := Ne.symm (hkept t rfl)
        exact (tableDecl?_undeclareTable hschemas name).trans ((if_neg hother).trans h)
    | insert t rows =>
        obtain ⟨-, rfl⟩ := insert_eq_ok hu
        exact h
    | delete t filters =>
        obtain rfl | ⟨_, _, -, -, rfl⟩ := delete_eq_ok hu
        · exact h
        · exact h
  case h_2 => exact h

/-- **Tables of the catalog**: an insertion into a table that is built from its declaration is no
`Misfit`, until the table is dropped. -/
theorem not_misfit_run {d : TableDecl} {us : List Update} (h : s.declared? name = some d)
    (hkept : ∀ t, Update.dropTable t ∈ us → nameOf t ≠ name) (id : SchemaId) (position : Nat)
    (rows : List Record) : ¬ (s.run us).Misfit (.insert (d.build id name.1 position) rows) := by
  induction us generalizing s with
  | nil =>
      rintro ⟨-, hmisfit⟩
      have hname : nameOf (d.build id name.1 position) = name :=
        congrArg (Prod.mk name.1) (name_of_tableDecl? h)
      have hwidth : d.columns.length = (d.build id name.1 position).width := by
        simp [TableDecl.build, TableDecl.buildColumns, Table.width]
      exact hmisfit ⟨d, hname.symm ▸ h, .inr hwidth⟩
  | cons u us ih =>
      refine ih (declared?_update h ?_) fun t ht => hkept t (List.mem_cons_of_mem _ ht)
      rintro t rfl
      exact hkept t List.mem_cons_self

end Memory.Store
end DataAccess
