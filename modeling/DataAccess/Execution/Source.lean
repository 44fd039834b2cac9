import DataAccess.Catalog.Lookup
import DataAccess.Dialect.Product
import DataAccess.Execution.LeasePool
import DataAccess.Params
import DataAccess.Streaming.Cursor
import DataAccess.Update

/-!
# Sources: where rows come from

A `Source` describes its schemas, opens connections that execute statements, and may accept updates.
Its functions act on a state of the source's own.
-/

namespace DataAccess.Execution

open Catalog Dialect Streaming

/-- What is executed: SQL, the values of its parameters, and the query that it says. -/
structure Statement where
  /-- The SQL. -/
  sql : String
  /-- The values of the parameters. -/
  params : Params
  /-- The query. -/
  query : Query
deriving Inhabited

/-- What came of opening a connection. -/
structure Opening where
  /-- The connection. -/
  outcome : Except Error ConnectionId
  /-- Whether the pool for which it was opened was closed meanwhile. -/
  closedMeanwhile : Bool := false

/-- A place where rows come from, as functions on its state `σ`: it may change with each of its
answers. -/
structure Source (σ : Type) where
  /-- The product that the source reports. -/
  product : σ → Except Error Product
  /-- Answers questions about schemas. -/
  answer : Answering σ
  /-- Opens a connection. -/
  connect : σ → Opening × σ
  /-- Executes a statement on a connection. -/
  execute : ConnectionId → Statement → σ → Except Error Cursor × σ
  /-- Closes a connection. -/
  close : ConnectionId → σ → σ
  /-- Makes a change and counts the rows it touches. -/
  update : Update → σ → Except Error Nat × σ

/-- Closes connections one after another (`src.close`). -/
def Source.closeAll (src : Source σ) (cs : List ConnectionId) (s : σ) : σ :=
  cs.foldl (fun s c => src.close c s) s

end DataAccess.Execution
