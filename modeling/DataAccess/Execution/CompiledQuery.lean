import DataAccess.Dialect.Basic
import DataAccess.Execution.Source
import DataAccess.Streaming.RowStream

/-!
# Compiled queries: executed any number of times

A `PreparedQuery` is a query in the SQL of one source, with the window that its streams have to
apply. A `CompiledQuery` adds the connections that its executions use and the streams that they
gave. Each stream holds one connection until it is closed; then the connection goes back to the
pool, or is closed if the query is.

Several callers may share a compiled query. When the last has dropped it and no stream holds a
connection any more, the idle connections are closed.
-/

namespace DataAccess.Execution

open Catalog Streaming

/-- A query in the SQL of one source, with the places of its markers, the labels of its results and
the part of its window that is left to the streams. -/
structure PreparedQuery where
  /-- The query. -/
  query : Query
  /-- The SQL. -/
  sql : String
  /-- The places of the parameter markers. -/
  markers : List Nat
  /-- The labels of the result. -/
  header : Header
  /-- The window for the streams to apply. -/
  window : Window
deriving Inhabited

namespace PreparedQuery

/-- The part of the window of a query that its SQL leaves to the streams: all of it if the dialect
does not write it (`Pagination.isRendered`) and `fallback` allows that. -/
def windowFor (d : SqlDialect) (fallback : Bool) (q : Query) : Window :=
  if fallback && !d.pagination.isRendered q then ⟨q.offset, q.maxRows⟩ else {}

/-- Compiles a query. With `fallback` the streams apply a window that the SQL leaves out. -/
def ofQuery (d : SqlDialect) (outside : Holdings) (fallback : Bool) (q : Query) : PreparedQuery :=
  let rendered := d.compile outside q
  ⟨q, rendered.sql, rendered.markers, ⟨q.labels⟩, windowFor d fallback q⟩

/-- The number of parameters. -/
def parameterCount (p : PreparedQuery) : Nat := p.markers.length

/-- A stream of the rows of one execution: `RowStream.ofCursor` with the window `p.window`, which
holds the connection `c`. -/
def stream (p : PreparedQuery) (c : ConnectionId) (cursor : Cursor) : RowStream Cursor :=
  { RowStream.ofCursor p.header cursor with window := p.window, lease := some c }

end PreparedQuery

/-- The number of a stream among those of one query. -/
abbrev StreamId := Nat

/-- A query with its connections (`LeasePool`) and streams. The callers that hold it are counted in
`handles`. -/
structure CompiledQuery where
  /-- The query. -/
  prepared : PreparedQuery
  /-- The connections. -/
  pool : LeasePool := {}
  /-- The streams, those that are closed included. -/
  streams : List (RowStream Cursor) := []
  /-- The number of callers that hold the query. -/
  handles : Nat := 1
deriving Inhabited

namespace CompiledQuery

/-- The number of streams that hold a connection. -/
def openStreams (q : CompiledQuery) : Nat :=
  q.streams.countP fun s => s.lease.isSome

/-! ## Execution -/

/-- Executes on the connection `c`, which has been lent. It goes back if that fails
(`LeasePool.release`). -/
def executeOn (src : Source σ) (params : Params) (c : ConnectionId) (q : CompiledQuery) (s : σ) :
    Except Error StreamId × CompiledQuery × σ :=
  match src.execute c ⟨q.prepared.sql, params, q.prepared.query⟩ s with
  | (.ok cursor, s) =>
      (.ok q.streams.length, { q with streams := q.streams ++ [q.prepared.stream c cursor] }, s)
  | (.error e, s) =>
      let (closing, pool) := q.pool.release c
      (.error e, { q with pool }, src.closeAll closing s)

/-- Opens a connection for a lease that is set aside and executes on it. The pool may be closed
meanwhile, and the lease is settled then (`LeasePool.complete`). -/
def executeOnNew (src : Source σ) (params : Params) (q : CompiledQuery) (s : σ) :
    Except Error StreamId × CompiledQuery × σ :=
  let (opening, s) := src.connect s
  let (closing, pool) := if opening.closedMeanwhile then q.pool.close else ([], q.pool)
  let s := src.closeAll closing s
  match pool.complete opening.outcome with
  | (.ok c, closing, pool) =>
      executeOn src params c { q with pool } (src.closeAll closing s)
  | (.error e, closing, pool) => (.error e, { q with pool }, src.closeAll closing s)

/-- Executes a query with values for its parameters and gives the number of the new stream. It fails
with `closedQuery` on a closed pool, and with `parameterCount` if `params.size` is not the number of
markers, before a lease is reserved. -/
def execute (src : Source σ) (params : Params) (q : CompiledQuery) (s : σ) :
    Except Error StreamId × CompiledQuery × σ :=
  if q.pool.closed then (.error closedQuery, q, s)
  else if params.size ≠ q.prepared.parameterCount then
    (.error (.parameterCount q.prepared.parameterCount params.size), q, s)
  else match q.pool.reserve with
    | (.error e, pool) => (.error e, { q with pool }, s)
    | (.ok (.reused c), pool) => executeOn src params c { q with pool } s
    | (.ok .opening, pool) => executeOnNew src params { q with pool } s

/-- Closes a query: its idle connections at once (`LeasePool.close`), the others when their streams
are closed. -/
def close (src : Source σ) (q : CompiledQuery) (s : σ) : CompiledQuery × σ :=
  let (closing, pool) := q.pool.close
  ({ q with pool }, src.closeAll closing s)

/-! ## Streams -/

/-- Closes the idle connections if nobody can use them any more: `q.handles = 0` and
`q.openStreams = 0`. -/
def reap (src : Source σ) (q : CompiledQuery) (s : σ) : CompiledQuery × σ :=
  if q.handles = 0 ∧ q.openStreams = 0 then
    let (closing, pool) := q.pool.drop
    ({ q with pool }, src.closeAll closing s)
  else
    (q, s)

/-- Uses a stream. If it gives up its connection, that goes back to the pool (`LeasePool.release`),
which may be the last use of the query (`reap`). -/
def useStream (src : Source σ) (id : StreamId) (use : RowStream Cursor → α × RowStream Cursor)
    (q : CompiledQuery) (s : σ) : Option α × CompiledQuery × σ :=
  match q.streams[id]? with
  | none => (none, q, s)
  | some stream =>
      let (a, used) := use stream
      let q := { q with streams := q.streams.set id used }
      match stream.lease, used.lease with
      | some c, none =>
          let (closing, pool) := q.pool.release c
          let (q, s) := reap src { q with pool } (src.closeAll closing s)
          (some a, q, s)
      | _, _ => (some a, q, s)

/-- Closes a stream. -/
def closeStream (src : Source σ) (id : StreamId) (q : CompiledQuery) (s : σ) : CompiledQuery × σ :=
  (useStream src id (fun stream => ((), stream.close)) q s).2

/-- Reads a stream to its end or to its first error (`RowStream.collect`), and closes it. -/
def drain (src : Source σ) (id : StreamId) (q : CompiledQuery) (s : σ) :
    (List Row × Option Error) × CompiledQuery × σ :=
  let (items, q, s) := useStream src id (·.collect) q s
  let items := items.getD []
  let error := items.findSome? fun
    | .ok _ => none
    | .error e => some e
  ((items.filterMap (·.toOption), error), closeStream src id q s)

/-! ## Callers -/

/-- Shares a query with one more caller. -/
def share (q : CompiledQuery) : CompiledQuery := { q with handles := q.handles + 1 }

/-- Drops a query for one caller, and closes what nobody can use any more (`reap`). -/
def dropHandle (src : Source σ) (q : CompiledQuery) (s : σ) : CompiledQuery × σ :=
  reap src { q with handles := q.handles - 1 } s

/-- A query as it is shown for inspection. -/
def inspect (q : CompiledQuery) : String :=
  "CompiledQuery \x7b sql: " ++ Text.escaped q.prepared.sql ++ ", markers: [" ++
    ", ".intercalate (q.prepared.markers.map toString) ++ "], leases: " ++ q.pool.inspect ++ " \x7d"

end CompiledQuery

end DataAccess.Execution
