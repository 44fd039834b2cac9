import DataAccess.Context
import DataAccess.Memory.Store

/-!
# Update atomicity: all or nothing

An update changes a store step by step, and what a step has written stays if a later step fails. The
results here say that no step fails after one that has written anything, so that an update is made
as a whole or not at all.

* **Declarations in place** (`editSchema_add_openSchema`, `editSchema_remove`): adding a table to a
  schema that may be new, and removing one, either succeeds or leaves all schemas as they were.
* **All or nothing** (`updateInPlace_eq_update`): the steps of an update come to `Store.update`.
* **Failed updates** (`failed_update_unchanged`): an update that fails leaves the store as it was,
  and through a context the cached names and schemas as well.
-/

namespace DataAccess

open Catalog Execution

/-! ## Declarations in place -/

namespace Catalog.SchemaDecl

/-- Adding in place is `insert?`: a table is added, or the schema stays as it is. -/
theorem add_eq (d : SchemaDecl) (t : TableDecl) :
    d.add t = match d.insert? t with
      | some d' => (true, d')
      | none => (false, d) := by
  unfold add insert?
  split <;> rfl

/-- Removing in place is `erase?`: tables are removed, or there are none of that name and the schema
stays as it is. -/
theorem remove_eq (d : SchemaDecl) (name : String) :
    d.remove name = match d.erase? name with
      | some d' => (true, d')
      | none => (false, d) := by
  unfold remove erase?
  by_cases hany : (d.tables.any fun t => t.name == name) = true
  · have hlength : (d.tables.filter fun t => t.name != name).length ≠ d.tables.length := by
      intro hlength
      rw [List.length_filter_eq_length_iff] at hlength
      obtain ⟨t, ht, hname⟩ := List.any_eq_true.mp hany
      have hother := hlength t ht
      rw [bne, hname] at hother
      cases hother
    rw [if_pos hany]
    simp only [bne_iff_ne.mpr hlength]
  · have hall : (d.tables.filter fun t => t.name != name) = d.tables := by
      rw [List.filter_eq_self]
      intro t ht
      rw [bne, Bool.not_eq_true', Bool.eq_false_iff]
      intro hname
      exact hany (List.any_eq_true.mpr ⟨t, ht, hname⟩)
    rw [if_neg hany]
    simp only [hall, bne_self_eq_false]

end Catalog.SchemaDecl

namespace Memory.Store

/-- **Declarations in place** follow `declareTable`: a table is added to the first schema of a name,
which may be new. If that fails there was a schema of that name before, and all of them stay. -/
theorem editSchema_add_openSchema (schema : SchemaName) (table : TableDecl)
    (schemas : List SchemaDecl) :
    editSchema schema (·.add table) (openSchema schema schemas) =
      match declareTable schema table schemas with
        | some schemas' => (true, schemas')
        | none => (false, schemas) := by
  induction schemas with
  | nil =>
      have hopen : openSchema schema [] = [⟨schema, []⟩] := rfl
      rw [hopen, editSchema, if_pos rfl, SchemaDecl.add_eq]
      rfl
  | cons d rest ih =>
      unfold declareTable
      by_cases hd : d.name = schema
      · have hopen : openSchema schema (d :: rest) = d :: rest := by
          rw [openSchema, List.any_cons, beq_iff_eq.mpr hd, Bool.true_or, if_pos rfl]
        rw [hopen, editSchema, if_pos hd, if_pos hd, SchemaDecl.add_eq]
        cases d.insert? table <;> rfl
      · have hopen : openSchema schema (d :: rest) = d :: openSchema schema rest := by
          unfold openSchema
          rw [List.any_cons, beq_false_of_ne hd, Bool.false_or]
          split <;> rfl
        rw [hopen, editSchema, if_neg hd, if_neg hd, ih]
        cases declareTable schema table rest <;> rfl

/-- **Declarations in place** follow `undeclareTable`: a table is removed from the first schema of a
name, or all schemas stay. -/
theorem editSchema_remove (schema : SchemaName) (name : String) (schemas : List SchemaDecl) :
    editSchema schema (·.remove name) schemas =
      match undeclareTable schema name schemas with
        | some schemas' => (true, schemas')
        | none => (false, schemas) := by
  induction schemas with
  | nil => rfl
  | cons d rest ih =>
      unfold undeclareTable editSchema
      by_cases hd : d.name = schema
      · rw [if_pos hd, if_pos hd, SchemaDecl.remove_eq]
        cases d.erase? name <;> rfl
      · rw [if_neg hd, if_neg hd, ih]
        cases undeclareTable schema name rest <;> rfl

/-! ## All or nothing -/

variable (s : Store)

/-- What comes of a change of `s`: its count and the store after it, or its error and the store `s`
as it was. -/
def settle : Except Error (Nat × Store) → Except Error Nat × Store
  | .ok (count, s') => (.ok count, s')
  | .error e => (.error e, s)

/-- `update u s` settles `s.change u`. -/
theorem update_eq_settle (u : Update) : update u s = s.settle (s.change u) := rfl

/-- The steps of `creating` come to the change `.createTable`. -/
theorem perform_creating (schema : SchemaName) (table : TableDecl) :
    perform (creating schema table) s = s.settle (s.change (.createTable schema table)) := by
  have hedit := editSchema_add_openSchema schema table s.schemas
  show _ = s.settle (s.createTable schema table >>= fun s' => .ok (0, s'))
  unfold createTable
  cases hdeclare : declareTable schema table s.schemas with
  | none =>
      -- The schemas that the failing step leaves are those that were there before the first one.
      rw [hdeclare] at hedit
      simp only [creating, perform_bind, perform_modify, perform_editing, hedit]
      rfl
  | some schemas =>
      rw [hdeclare] at hedit
      simp only [creating, perform_bind, perform_modify, perform_editing, hedit]
      rfl

/-- The steps of `dropping` come to the change `.dropTable`. -/
theorem perform_dropping (t : Table) :
    perform (dropping t) s = s.settle (s.change (.dropTable t)) := by
  have hedit := editSchema_remove t.schemaName t.name s.schemas
  show _ = s.settle (s.dropTable t >>= fun s' => .ok (0, s'))
  unfold dropTable
  cases hundeclare : undeclareTable t.schemaName t.name s.schemas with
  | none =>
      rw [hundeclare] at hedit
      simp only [dropping, perform_bind, perform_editing, hedit]
      rfl
  | some schemas =>
      rw [hundeclare] at hedit
      simp only [dropping, perform_bind, perform_editing, hedit]
      rfl

/-- The steps of `inserting` come to the change `.insert`. -/
theorem perform_inserting (t : Table) (rows : List Record) :
    perform (inserting t rows) s = s.settle (s.change (.insert t rows)) := by
  show _ = s.settle (s.insert t rows >>= fun s' => .ok (rows.length, s'))
  simp only [inserting, perform_bind, perform_get, perform_ofExcept, insert]
  cases s.checkDeclared t with
  | error e => rfl
  | ok =>
      cases Update.checkWidth t rows with
      | error e => rfl
      | ok => rfl

/-- The steps of `deleting` come to the change `.delete`. -/
theorem perform_deleting (t : Table) (filters : List FilterItem) :
    perform (deleting t filters) s = s.settle (s.change (.delete t filters)) := by
  show _ = s.settle (s.delete t filters)
  simp only [deleting, perform_bind, perform_get, perform_ofExcept, delete]
  cases s.checkDeclared t with
  | error e => rfl
  | ok =>
      cases Evaluation.ofQuery { sources := [.ofTable t], filters } .empty with
      | error e => rfl
      | ok e =>
          cases hrows : s.rows? (nameOf t) with
          | none =>
              simp only [hrows]
              rfl
          | some rows =>
              have hleft : ∀ left, (s.setRows (nameOf t) left).rows (nameOf t) = left := by
                intro left
                unfold Store.rows
                rw [rows?_setRows, if_pos rfl]
                rfl
              simp only [hrows, perform_bind, perform_modify, perform_get, perform_pure, hleft]
              rfl

/-- **All or nothing**: `updateInPlace`, whose steps write one after another, is `update`, which
makes the whole change or none. -/
theorem updateInPlace_eq_update (u : Update) : updateInPlace u s = update u s := by
  rw [update_eq_settle]
  cases u with
  | createTable schema table => exact perform_creating s schema table
  | dropTable t => exact perform_dropping s t
  | insert t rows => exact perform_inserting s t rows
  | delete t filters => exact perform_deleting s t filters

/-- What is left of an `update` that fails is the store as it was. -/
theorem eq_of_update_error {s s' : Store} {u : Update} {e : Error}
    (h : update u s = (.error e, s')) :
    s' = s := by
  rw [update_eq_settle] at h
  rcases hu : s.change u with e' | ⟨count, s''⟩
  · rw [hu] at h
    exact (Prod.mk.inj h).2.symm
  · rw [hu] at h
    cases h

/-! ## Failed updates -/

/-- **Failed updates**: an update through `source` that fails leaves all declarations and rows as
they were. If it was made through a context (`executeUpdate`), that has cached the same names and
schemas as before. -/
theorem failed_update_unchanged (u : Update) :
    (∀ e, (source.update u s).1 = .error e → (source.update u s).2 = s) ∧
      ∀ (ctx : Context Store) (r : Registry), ctx.source = source →
        ∀ e, (ctx.executeUpdate u ⟨r, s⟩).1 = .error e →
          (ctx.executeUpdate u ⟨r, s⟩).2 = ⟨r, s⟩ := by
  have hupdate : source.update u s = update u s := updateInPlace_eq_update s u
  refine ⟨?_, ?_⟩
  · intro e he
    rw [hupdate] at he ⊢
    exact eq_of_update_error (Prod.ext he rfl)
  · intro ctx r hsource e he
    unfold Context.executeUpdate at he ⊢
    rw [hsource, hupdate] at he ⊢
    rcases hu : update u s with ⟨e' | count, s'⟩
    · rw [eq_of_update_error hu]
    · rw [hu] at he
      cases he

/-- A schema with one table. -/
def oneTable : SchemaDecl :=
  ⟨some "A", [{ name := "T", columns := [{ name := "x", type := .integer }] }]⟩

/-- A store with one table and one row. -/
def oneRow : Store where
  schemas := [oneTable]
  contents := [((some "A", "T"), [[.integer 1]])]

/-- A registry that has cached the schema of that store. -/
def oneCached : Registry where
  names := some [some "A"]
  schemas := [("A", oneTable.build 0)]
  nextId := 1

/-- The deletion of rows for which one of two conditions holds, the second of which is a group with
a parameter. -/
def nestedDelete : Update :=
  let owner : TableRef := ⟨⟨0, 0⟩, some "A", "T"⟩
  let x : Column := { name := "x", type := .integer, ordinal := 0, owner }
  let isOne : FilterItem := .compare (.ofColumn ⟨x, none⟩) .equal (.value (.integer 1))
  let isGiven : FilterItem := .compare (.ofColumn ⟨x, none⟩) .equal .parameter
  .delete ⟨owner, .table, [x]⟩ [isOne, .anyOf [isOne, .anyOf [isGiven]]]

/-- The parameter of the inner group is found last, and the deletion fails. -/
theorem failed_update_unchanged_nestedDelete :
    let ctx := Context.ofSource source {} oneRow
    let e := Error.parameterCount 1 0
    (source.update nestedDelete oneRow).1 = .error e ∧
      (source.update nestedDelete oneRow).2 = oneRow ∧
      (ctx.executeUpdate nestedDelete ⟨oneCached, oneRow⟩).1 = .error e ∧
      (ctx.executeUpdate nestedDelete ⟨oneCached, oneRow⟩).2 = ⟨oneCached, oneRow⟩ := by
  intro ctx e
  have hfails : (source.update nestedDelete oneRow).1 = .error e := rfl
  have hfailsToo : (ctx.executeUpdate nestedDelete ⟨oneCached, oneRow⟩).1 = .error e := rfl
  obtain ⟨hstore, hcontext⟩ := failed_update_unchanged oneRow nestedDelete
  exact ⟨hfails, hstore e hfails, hfailsToo, hcontext ctx oneCached rfl e hfailsToo⟩

end Memory.Store
end DataAccess
