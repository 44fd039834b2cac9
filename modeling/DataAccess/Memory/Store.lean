import DataAccess.Execution.Source
import DataAccess.Memory.Evaluation

/-!
# Store: tables held in memory

A `Store` declares schemas and holds the rows of their tables, under the exact names of schema and
table. `Store.update` changes tables and rows, and `Store.source` makes a source of a store: its
connections evaluate queries on the rows as they are at that moment, and a producer streams the
result.
-/

namespace DataAccess.Memory

open Catalog Dialect Execution Streaming

/-- The name of a table with the name of its schema: where rows are held (`nameOf`). -/
abbrev TableName := SchemaName × String

/-- Tables held in memory: what is declared, and apart from that the rows by their `TableName`s. A
connection is a number, of which `opened` have been given. -/
structure Store where
  /-- The declared schemas. -/
  schemas : List SchemaDecl := []
  /-- The rows of the tables that have been filled or created, with distinct names. -/
  contents : List (TableName × List Record) := []
  /-- The size of the buffers between producers and streams. -/
  capacity : Nat := RowChannel.defaultCapacity
  /-- The number of connections opened. -/
  opened : Nat := 0
deriving Inhabited

namespace Store

/-! ## Rows -/

/-- The rows of a table, if it was filled or created, whether or not it is declared. -/
def rows? (s : Store) (name : TableName) : Option (List Record) :=
  s.contents.lookup name

/-- The rows of a table, none if there is no entry (`rows?`). -/
def rows (s : Store) (name : TableName) : List Record :=
  (s.rows? name).getD []

/-- Replaces the rows under `name` in a list of contents, or adds them at its end. -/
def putRows (name : TableName) (rows : List Record) :
    List (TableName × List Record) → List (TableName × List Record)
  | [] => [(name, rows)]
  | entry :: rest =>
      if entry.1 = name then (name, rows) :: rest else entry :: putRows name rows rest

/-- Sets the rows of a table. -/
def setRows (s : Store) (name : TableName) (rows : List Record) : Store :=
  { s with contents := putRows name rows s.contents }

/-- Removes a table's rows. -/
def eraseRows (s : Store) (name : TableName) : Store :=
  { s with contents := s.contents.filter fun entry => entry.1 != name }

/-- Appends rows to a table. -/
def insertRows (s : Store) (name : TableName) (rows : List Record) : Store :=
  s.setRows name (s.rows name ++ rows)

theorem lookup_putRows (name other : TableName) (rows : List Record)
    (contents : List (TableName × List Record)) :
    (putRows name rows contents).lookup other =
      if other = name then some rows else contents.lookup other := by
  induction contents with
  | nil =>
      by_cases h : other = name
      · simp [putRows, h]
      · have hb : (other == name) = false := by simpa using h
        simp [putRows, List.lookup_cons, h, hb]
  | cons entry rest ih =>
      obtain ⟨key, old⟩ := entry
      by_cases hk : key = name
      · subst hk
        by_cases h : other = key
        · simp [putRows, h]
        · have hb : (other == key) = false := by simpa using h
          simp [putRows, List.lookup_cons, h, hb]
      · by_cases ho : other = key
        · subst ho
          simp [putRows, hk]
        · have hb : (other == key) = false := by simpa using ho
          simp [putRows, List.lookup_cons, hk, hb, ih]

@[simp]
theorem rows?_setRows (s : Store) (name other : TableName) (rows : List Record) :
    (s.setRows name rows).rows? other = if other = name then some rows else s.rows? other :=
  lookup_putRows name other rows s.contents

/-! ## Tables -/

/-- The name under which the rows of a table are held. -/
def nameOf (t : Table) : TableName := (t.schemaName, t.name)

/-- Checks that a table is declared: `SchemaDecl.contains` in the first schema of exactly its schema
name. It fails with `tableNotFound`. -/
def checkDeclared (s : Store) (t : Table) : Except Error Unit :=
  match findDecl? s.schemas t.schemaName with
  | some d => if d.contains t.name then .ok () else .error (.tableNotFound t.qualifiedLabel)
  | none => .error (.tableNotFound t.qualifiedLabel)

/-- Declares a table in the first schema of a name, or in a new schema. It is `none` if the name of
the table is taken (`SchemaDecl.insert?`). -/
def declareTable (schema : SchemaName) (table : TableDecl) : List SchemaDecl →
    Option (List SchemaDecl)
  | [] => some [⟨schema, [table]⟩]
  | d :: rest =>
      if d.name = schema then (d.insert? table).map (· :: rest)
      else (declareTable schema table rest).map (d :: ·)

/-- Removes a table from the first schema of a name (`SchemaDecl.erase?`). It is `none` if the table
is not there. -/
def undeclareTable (schema : SchemaName) (table : String) : List SchemaDecl →
    Option (List SchemaDecl)
  | [] => none
  | d :: rest =>
      if d.name = schema then (d.erase? table).map (· :: rest)
      else (undeclareTable schema table rest).map (d :: ·)

/-- Creates a table (`declareTable`) without rows, or fails with `illegalState`. -/
def createTable (s : Store) (schema : SchemaName) (table : TableDecl) : Except Error Store :=
  match declareTable schema table s.schemas with
  | some schemas => .ok ({ s with schemas }.setRows (schema, table.name) [])
  | none => .error (.illegalState s!"Table '{table.name}' already exists")

/-- Drops a table (`undeclareTable`) and its rows, or fails with `tableNotFound`. -/
def dropTable (s : Store) (t : Table) : Except Error Store :=
  match undeclareTable t.schemaName t.name s.schemas with
  | some schemas => .ok ({ s with schemas }.eraseRows (nameOf t))
  | none => .error (.tableNotFound t.qualifiedLabel)

/-- Appends rows to a table, after `checkDeclared` and `Update.checkWidth`. -/
def insert (s : Store) (t : Table) (rows : List Record) : Except Error Store := do
  s.checkDeclared t
  Update.checkWidth t rows
  return s.insertRows (nameOf t) rows

/-- Deletes the rows of a table for which all conditions hold, and counts them. The conditions are
bound without values (`Evaluation.ofQuery`). -/
def delete (s : Store) (t : Table) (filters : List FilterItem) : Except Error (Nat × Store) := do
  s.checkDeclared t
  let e ← Evaluation.ofQuery { sources := [.ofTable t], filters } .empty
  match s.rows? (nameOf t) with
  | none => return (0, s)
  | some rows =>
      let kept := rows.filter fun row => !e.selects row
      return (rows.length - kept.length, s.setRows (nameOf t) kept)

/-- Makes a change and counts the rows it touches, as a function on stores. See `updateInPlace` for
the same change step by step. -/
def change (s : Store) : Update → Except Error (Nat × Store)
  | .createTable schema table => do return (0, ← s.createTable schema table)
  | .dropTable t => do return (0, ← s.dropTable t)
  | .insert t rows => do return (rows.length, ← s.insert t rows)
  | .delete t filters => s.delete t filters

/-- Makes a change, or leaves the store as it is: `change`, with the store also where it fails. -/
def update (u : Update) (s : Store) : Except Error Nat × Store :=
  match s.change u with
  | .ok (count, s) => (.ok count, s)
  | .error e => (.error e, s)

/-! ## Changes in place -/

/-- Steps on a store, one after another, as `ExceptT` over `StateM`: a step that fails is the last
one, and what the steps before it have written stays. -/
abbrev Steps := ExceptT Error (StateM Store)

/-- Takes steps, one after another. -/
def perform (steps : Steps α) (s : Store) : Except Error α × Store :=
  StateT.run (ExceptT.run steps) s

@[simp]
theorem perform_bind {β : Type} (x : Steps α) (f : α → Steps β) (s : Store) :
    perform (x >>= f) s = match perform x s with
      | (.ok a, s) => perform (f a) s
      | (.error e, s) => (.error e, s) := by
  unfold perform
  rw [ExceptT.run_bind, StateT.run_bind]
  rcases StateT.run (ExceptT.run x) s with ⟨_ | a, s⟩ <;> rfl

@[simp]
theorem perform_pure (a : α) (s : Store) : perform (pure a) s = (.ok a, s) := rfl

@[simp]
theorem perform_throw (e : Error) (s : Store) : perform (throw e : Steps α) s = (.error e, s) := rfl

@[simp]
theorem perform_get (s : Store) : perform get s = (.ok s, s) := rfl

@[simp]
theorem perform_modify (f : Store → Store) (s : Store) : perform (modify f) s = (.ok ⟨⟩, f s) := rfl

@[simp]
theorem perform_ofExcept (x : Except Error α) (s : Store) :
    perform (MonadExcept.ofExcept x) s = (x, s) := by
  cases x <;> rfl

/-- The schemas with one of that name, which is new and at the end if there was none. -/
def openSchema (schema : SchemaName) (schemas : List SchemaDecl) : List SchemaDecl :=
  if schemas.any fun d => d.name == schema then schemas else schemas ++ [⟨schema, []⟩]

/-- Changes the first schema of a name where it stands, and says whether `edit` did anything. -/
def editSchema (schema : SchemaName) (edit : SchemaDecl → Bool × SchemaDecl) :
    List SchemaDecl → Bool × List SchemaDecl
  | [] => (false, [])
  | d :: rest =>
      if d.name = schema then ((edit d).1, (edit d).2 :: rest)
      else ((editSchema schema edit rest).1, d :: (editSchema schema edit rest).2)

/-- Changes the first schema of a name as one step (`editSchema`). -/
def editing (schema : SchemaName) (edit : SchemaDecl → Bool × SchemaDecl) : Steps Bool :=
  modifyGet fun s =>
    ((editSchema schema edit s.schemas).1,
      { s with schemas := (editSchema schema edit s.schemas).2 })

@[simp]
theorem perform_editing (schema : SchemaName) (edit : SchemaDecl → Bool × SchemaDecl) (s : Store) :
    perform (editing schema edit) s =
      (.ok (editSchema schema edit s.schemas).1,
        { s with schemas := (editSchema schema edit s.schemas).2 }) := rfl

/-- Creates a table in place: its schema comes first (`openSchema`), then the table, then its
rows. -/
def creating (schema : SchemaName) (table : TableDecl) : Steps Nat := do
  modify fun s => { s with schemas := openSchema schema s.schemas }
  if ← editing schema (·.add table) then
    modify (·.setRows (schema, table.name) [])
    return 0
  else
    throw (.illegalState s!"Table '{table.name}' already exists")

/-- Drops a table in place (`SchemaDecl.remove`), and then its rows. -/
def dropping (t : Table) : Steps Nat := do
  if ← editing t.schemaName (·.remove t.name) then
    modify (·.eraseRows (nameOf t))
    return 0
  else
    throw (.tableNotFound t.qualifiedLabel)

/-- Appends rows to a table in place, after both checks. -/
def inserting (t : Table) (rows : List Record) : Steps Nat := do
  MonadExcept.ofExcept ((← get).checkDeclared t)
  MonadExcept.ofExcept (Update.checkWidth t rows)
  modify (·.insertRows (nameOf t) rows)
  return rows.length

/-- Deletes the rows of a table for which all conditions hold, in place, and counts what is gone. -/
def deleting (t : Table) (filters : List FilterItem) : Steps Nat := do
  MonadExcept.ofExcept ((← get).checkDeclared t)
  let e ← MonadExcept.ofExcept (Evaluation.ofQuery { sources := [.ofTable t], filters } .empty)
  match (← get).rows? (nameOf t) with
  | none => return 0
  | some rows =>
      modify (·.setRows (nameOf t) (rows.filter fun row => !e.selects row))
      return rows.length - ((← get).rows (nameOf t)).length

/-- The steps of an update. -/
def stepsOf : Update → Steps Nat
  | .createTable schema table => creating schema table
  | .dropTable t => dropping t
  | .insert t rows => inserting t rows
  | .delete t filters => deleting t filters

/-- Makes a change in place: the steps of `stepsOf u`, each of which writes to the store at once. -/
def updateInPlace (u : Update) (s : Store) : Except Error Nat × Store :=
  perform (stepsOf u) s

/-! ## Queries -/

/-- The result of a query on the rows as they are: `Evaluation.apply` on the rows of its table,
whether or not that is declared. -/
def select (s : Store) (q : Query) (params : Params) : Except Error (List Record) := do
  let e ← Evaluation.ofQuery q params
  return e.apply (s.rows (nameOf e.table))

/-! ## As a source -/

/-- What a store reports about itself. -/
def product : Product := ⟨"Tabula Memory", "1.0"⟩

/-- Answers a question about schemas from what is declared. -/
def answer : (call : SourceCall) → Store → Except Error call.Answer × Store
  | .listNames, s => (.ok (s.schemas.map (·.name)), s)
  | .defaultName, s => (.ok none, s)
  | .load name, s => (.ok (findDecl? s.schemas name), s)

/-- Executes a statement: a producer streams the result of its query, which is there before the
first row is taken. -/
def execute (s : Store) (statement : Statement) : Except Error Cursor := do
  let result ← s.select statement.query statement.params
  return .ofActions s.capacity none [.publish result]

/-- A store as a source: changes are made by `updateInPlace`, and a connection that is closed leaves
no trace. -/
def source : Source Store where
  product _ := .ok product
  answer := .ofSource answer
  connect s := ({ outcome := .ok s.opened }, { s with opened := s.opened + 1 })
  execute _ statement s := (s.execute statement, s)
  close _ s := s
  update := updateInPlace

end Store

end DataAccess.Memory
