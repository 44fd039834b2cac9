import DataAccess.Context
import DataAccess.Memory.Store
import DataAccess.Proofs.ParameterBinding
import DataAccess.Proofs.ProducedRows

/-!
# Store records: what a context answers from tables held in memory

A context compiles a query, executes it and reads the stream to its end. `Context.records` is what a
caller gets of that: the values of the rows, or the error that comes in their place.

* **Streams** (`drain_of_collect`): a stream that gives rows only is read to its end.
* **Connections** (`execute_store`, `executeOn_store_ok`, `executeOn_store_error`): a query opens a
  connection to a store, which streams the rows that are selected.
* **Records** (`records_of_store`): the answer is what the store selects, in the window that is left
  to the stream.
-/

namespace DataAccess

open Catalog Dialect Execution Fragment Memory Streaming

/-- The values of the rows that the execution of a query gives (`CompiledQuery.drain`), or the error
that comes in their place. -/
def Context.records {σ : Type} (ctx : Context σ) (q : Query) (params : Params) (site : Site σ) :
    Except Error (List Record) :=
  let (outcome, compiled, s) := (ctx.compile q site).execute ctx.source params site.source
  match outcome with
  | .error e => .error e
  | .ok id => match (compiled.drain ctx.source id s).1 with
      | (rows, none) => .ok (rows.map (·.values))
      | (_, some e) => .error e

namespace Execution.CompiledQuery

/-! ## Streams -/

section Drain

variable {σ α : Type} {src : Source σ} {q : CompiledQuery} {id : StreamId}
    {stream : RowStream Cursor}

/-- What the use of a stream gives is told, whatever becomes of its connection. -/
theorem useStream_fst (hi : q.streams[id]? = some stream)
    (use : RowStream Cursor → α × RowStream Cursor) (s : σ) :
    (q.useStream src id use s).1 = some (use stream).1 := by
  unfold useStream
  rw [hi]
  dsimp only
  split <;> rfl

/-- **Streams**: a stream whose `collect` gives rows only is read to its end by `drain`. -/
theorem drain_of_collect {rows : List Row} (hi : q.streams[id]? = some stream)
    (hrows : stream.collect.1 = rows.map .ok) (s : σ) : (q.drain src id s).1 = (rows, none) := by
  have hitems : (q.useStream src id (·.collect) s).1 =
    some (rows.map .ok) := by rw [useStream_fst hi, hrows]
  unfold drain
  rcases hused : q.useStream src id (·.collect) s with ⟨items, used, s'⟩
  rw [hused] at hitems
  obtain rfl : items = some (rows.map .ok) := hitems
  simp [List.filterMap_map, List.findSome?_map, Function.comp_def, Except.toOption]

end Drain

/-! ## Connections -/

/-- **Connections**: a query that has not been executed yet opens a connection to a store and
executes on it (`executeOn`). -/
theorem execute_store {p : PreparedQuery} {params : Params}
    (hsize : params.size = p.parameterCount) (s : Store) :
    ({ prepared := p } : CompiledQuery).execute Store.source params s =
      executeOn Store.source params s.opened { prepared := p, pool :=
        { active := 1, created := 1 } }
        { s with opened := s.opened + 1 } := by
  have hnone : ¬ params.size ≠ p.parameterCount := not_not.mpr hsize
  unfold execute
  rw [if_neg Bool.false_ne_true, if_neg hnone]
  rfl

/-- A store answers a statement with a cursor on the rows that it selects (`Store.select`). -/
theorem source_execute (c : ConnectionId) (statement : Statement) (s : Store) :
    Store.source.execute c statement s =
      ((s.select statement.query statement.params).map fun rows =>
        .ofActions s.capacity none [.publish rows], s) := by
  show (s.execute statement, s) = _
  unfold Store.execute
  cases s.select statement.query statement.params <;> rfl

/-- On a connection to a store a query fails if its rows cannot be selected. -/
theorem executeOn_store_error {q : CompiledQuery} {params : Params} {s : Store} {e : Error}
    (h : s.select q.prepared.query params = .error e) (c : ConnectionId) :
    q.executeOn Store.source params c s =
      (.error e, { q with pool := (q.pool.release c).2 },
        Store.source.closeAll (q.pool.release c).1 s) := by
  unfold executeOn
  rw [source_execute, h]
  rfl

/-- On a connection to a store a query gives a stream of the rows that are selected. -/
theorem executeOn_store_ok {q : CompiledQuery} {params : Params} {s : Store} {rows : List Record}
    (h : s.select q.prepared.query params = .ok rows) (c : ConnectionId) :
    q.executeOn Store.source params c s =
      (.ok q.streams.length, { q with streams :=
        q.streams ++ [q.prepared.stream c (.ofActions s.capacity none [.publish rows])] }, s) := by
  unfold executeOn
  rw [source_execute, h]
  rfl

end Execution.CompiledQuery

/-! ## Records -/

/-- **Records**: a context answers from a store what `Store.select` gives, in the window that is
left to the stream (`windowFor`), if the number of values is right. -/
theorem Context.records_of_store {ctx : Context Store} (hsource : ctx.source = Store.source)
    (q : Query) (params : Params) (site : Site Store) :
    ctx.records q params site =
      if params.size ≠ q.parameterCount then .error (.parameterCount q.parameterCount params.size)
      else (site.source.select q params).map
        (PreparedQuery.windowFor ctx.dialect ctx.config.paginationFallback q).apply := by
  let p := (ctx.compile q site).prepared
  have hcompile : ctx.compile q site = { prepared := p } := rfl
  have hcount : p.parameterCount = q.parameterCount :=
    (length_markers _).trans (ctx.dialect.count_fragment site.registry.holdings q)
  unfold Context.records
  rw [hsource, hcompile]
  by_cases hsize : params.size = q.parameterCount
  · rw [CompiledQuery.execute_store (hsize.trans hcount.symm), if_neg (not_not.mpr hsize)]
    rcases hselect : site.source.select q params with e | rows
    · rw [CompiledQuery.executeOn_store_error hselect]
      rfl
    · let stream :=
        p.stream site.source.opened (.ofActions site.source.capacity none [.publish rows])
      have hcollect : stream.collect.1 =
          ((p.window.apply rows).map fun row => ⟨p.header, row⟩).map .ok :=
        (collect_of_published rfl rfl).trans List.map_map.symm
      rw [CompiledQuery.executeOn_store_ok hselect]
      dsimp only
      rw [CompiledQuery.drain_of_collect rfl hcollect]
      exact congrArg Except.ok (List.map_map.trans (List.map_id' _))
  · rw [if_pos hsize]
    unfold CompiledQuery.execute
    rw [if_neg Bool.false_ne_true, hcount, if_pos hsize]

end DataAccess
