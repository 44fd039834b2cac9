import DataAccess.Context
import DataAccess.Execution.Scripted
import DataAccess.Proofs.QueryConnections

/-!
# Connection owners: one at a time, and one closing

A `Workload` is a source together with the compiled queries that use it, each with its callers and
its streams. A run is any list of things that callers do: they compile, execute, share, close and
drop queries, and read and close streams.

* **Every function keeps account** (`Sound.step`, `sound_run`): the connections that are outstanding
  are held by the queries, and by the others that held some before.
* **Open streams have connections of their own** (`Sound.pairwise_openStreams`).
* **One execution** (`outstanding_of_executeQuery_error`, `outstanding_of_executeQuery_ok`): a query
  that is executed once leaves no connection open, neither when that fails nor after its stream was
  closed.
* **One owner, one closing** (`connections_have_one_owner`): for a pool and all that use it at once,
  for the streams of many queries, and for one execution.
-/

namespace DataAccess.Streaming

/-- What can be done with a `RowStream`. -/
inductive StreamUse where
  /-- Come to the next row. -/
  | advance
  /-- Take the next row. -/
  | next
  /-- Take some rows. -/
  | take (fuel : Nat)
  /-- Take all rows. -/
  | collect
  /-- Close the stream. -/
  | close

namespace StreamUse

/-- A stream after it was used, whatever it answered. -/
def apply : StreamUse → RowStream Cursor → RowStream Cursor
  | advance, s => s.advance.2
  | next, s => s.next.2
  | take fuel, s => (s.take fuel).2
  | collect, s => s.collect.2
  | close, s => s.close

/-- A stream after it was used some times, one use after another (`apply`). -/
def applyAll (us : List StreamUse) (s : RowStream Cursor) : RowStream Cursor :=
  us.foldl (fun s u => u.apply s) s

/-- A stream that is used keeps its connection, or is closed and has given it up
(`RowStream.Yields`). -/
theorem yields (u : StreamUse) (s : RowStream Cursor) : s.Yields (u.apply s) := by
  cases u with
  | advance => exact .advance s
  | next => exact .next s
  | take fuel => exact .take s fuel
  | collect => exact .collect s
  | close => exact .close s

end StreamUse

end DataAccess.Streaming

namespace DataAccess.Execution

open Streaming

variable {σ : Type}

/-! ## Queries that share a source -/

/-- A source and the compiled queries that use it. A query that was dropped stays in `queries`,
since its streams may be used. -/
structure Workload (σ : Type) where
  /-- The queries, those that were dropped included. -/
  queries : List CompiledQuery := []
  /-- The state of the source. -/
  source : σ

/-- What a caller can do: with the query `k`, and there with the stream `id`. -/
inductive WorkloadEvent where
  /-- A query is compiled. -/
  | compile (p : PreparedQuery)
  /-- A query is executed. -/
  | execute (k : Nat) (params : Params)
  /-- A query is closed. -/
  | close (k : Nat)
  /-- A query gets one more caller. -/
  | share (k : Nat)
  /-- A query is dropped by one of its callers. -/
  | drop (k : Nat)
  /-- A stream of a query is used. -/
  | use (k : Nat) (id : StreamId) (u : StreamUse)

namespace CompiledQuery

/-- Uses a stream, whatever it answers (`CompiledQuery.useStream` with `StreamUse.apply`). -/
def useAs (src : Source σ) (id : StreamId) (u : StreamUse) (q : CompiledQuery) (s : σ) :
    CompiledQuery × σ :=
  (q.useStream src id (fun stream => ((), u.apply stream)) s).2

/-- `useAs` keeps the books, `CompiledQuery.Keeps`. -/
theorem useAs_keeps {src : Source σ} (L : src.Ledger) (id : StreamId) (u : StreamUse)
    (q : CompiledQuery) (s : σ) : Keeps L (q, s) (q.useAs src id u s) :=
  useStream_keeps L u.yields q id s

/-- `useAs` puts `u.apply stream` in the place of the stream, and leaves the others. -/
theorem streams_useAs (src : Source σ) {q : CompiledQuery} {id : StreamId}
    {stream : RowStream Cursor} (hi : q.streams[id]? = some stream) (u : StreamUse) (s : σ) :
    (q.useAs src id u s).1.streams = q.streams.set id (u.apply stream) := by
  unfold useAs
  exact streams_useStream hi (u.yields stream) s

/-- Uses a stream some times. -/
def useAll (src : Source σ) (id : StreamId) (us : List StreamUse) (q : CompiledQuery) (s : σ) :
    CompiledQuery × σ :=
  us.foldl (fun b u => b.1.useAs src id u b.2) (q, s)

/-- `useAll` keeps the books, `CompiledQuery.Keeps`. -/
theorem useAll_keeps {src : Source σ} (L : src.Ledger) (id : StreamId) (us : List StreamUse)
    (q : CompiledQuery) (s : σ) : Keeps L (q, s) (q.useAll src id us s) :=
  List.foldlRecOn us _ (Keeps.refl _) fun b hb u _ => hb.trans (useAs_keeps L id u b.1 b.2)

/-- The only stream of a query is used. -/
theorem streams_useAll (src : Source σ) {q : CompiledQuery} {stream : RowStream Cursor}
    (hq : q.streams = [stream]) (us : List StreamUse) (s : σ) :
    (q.useAll src 0 us s).1.streams = [StreamUse.applyAll us stream] := by
  induction us generalizing q stream s with
  | nil => exact hq
  | cons u us ih =>
      have hi : q.streams[0]? = some stream := by rw [hq]; rfl
      have hused := streams_useAs src hi u s
      rw [hq] at hused
      exact ih hused _

/-- Executes a query, closes it and drops it. This is what `Context.executeQuery` does
(`executeQuery_eq`). -/
def executeOnce (src : Source σ) (params : Params) (q : CompiledQuery) (s : σ) :
    Except Error StreamId × CompiledQuery × σ :=
  let executed := q.execute src params s
  let closed := executed.2.1.close src executed.2.2
  (executed.1, closed.1.dropHandle src closed.2)

/-- `executeOnce` keeps the books, `CompiledQuery.Keeps`. -/
theorem executeOnce_keeps {src : Source σ} (L : src.Ledger) (params : Params) {q : CompiledQuery}
    (hheld : 0 < q.handles) (s : σ) : Keeps L (q, s) (q.executeOnce src params s).2 :=
  ((execute_keeps L params hheld s).trans (close_keeps L ..)).trans (dropHandle_keeps L ..)

section ExecuteOnce

variable (src : Source σ) (params : Params) (q : CompiledQuery) (s : σ)

/-- `executeOnce` leaves a pool that is closed. -/
theorem closed_executeOnce : (q.executeOnce src params s).2.1.pool.closed = true := by
  unfold executeOnce
  exact (closed_reap ..).trans (LeasePool.closed_close _)

/-- `executeOnce` adds a stream, if it succeeds. -/
theorem executeOnce_adds : Adds q.prepared q.streams (q.executeOnce src params s) := by
  have hadds : Adds q.prepared q.streams (q.execute src params s) := execute_adds params q s
  have hsame : (q.executeOnce src params s).2.1.streams = (q.execute src params s).2.1.streams :=
    streams_reap ..
  exact ⟨fun e h => hsame.trans (hadds.of_error e h), fun id h => hsame ▸ hadds.of_ok id h⟩

end ExecuteOnce

end CompiledQuery

namespace Workload

/-- Does something with a query. -/
def on (k : Nat) (f : CompiledQuery → σ → CompiledQuery × σ) (w : Workload σ) : Workload σ :=
  match w.queries[k]? with
  | none => w
  | some q => ⟨w.queries.set k (f q w.source).1, (f q w.source).2⟩

/-- Does something with the query `k` for one of its callers, if it has any: `0 < q.handles`. -/
def onHeld (k : Nat) (f : CompiledQuery → σ → CompiledQuery × σ) (w : Workload σ) : Workload σ :=
  w.on k fun q s => if 0 < q.handles then f q s else (q, s)

/-- Takes one step. What is not possible changes nothing: a query without callers can only have its
streams used. -/
def step (src : Source σ) (w : Workload σ) : WorkloadEvent → Workload σ
  | .compile p => { w with queries := w.queries ++ [{ prepared := p }] }
  | .execute k params => w.onHeld k fun q s => (q.execute src params s).2
  | .close k => w.onHeld k fun q s => q.close src s
  | .share k => w.onHeld k fun q s => (q.share, s)
  | .drop k => w.onHeld k fun q s => q.dropHandle src s
  | .use k id u => w.on k fun q s => q.useAs src id u s

/-- Takes steps one after another. -/
def run (src : Source σ) (w : Workload σ) (es : List WorkloadEvent) : Workload σ :=
  es.foldl (step src) w

/-- The connections of all queries. -/
def held (w : Workload σ) : List ConnectionId := w.queries.flatMap (·.held)

/-- The streams of all queries. -/
def streams (w : Workload σ) : List (RowStream Cursor) := w.queries.flatMap (·.streams)

/-! ## Every function keeps account -/

variable {src : Source σ} {L : src.Ledger} {others : List ConnectionId} {w : Workload σ}

/-- What holds of the queries that share a source, whoever else holds connections of it: all
connections that are `Outstanding` are held by the queries or by the `others`. -/
structure Sound (L : src.Ledger) (others : List ConnectionId) (w : Workload σ) : Prop where
  /-- The connections that are outstanding are held by the queries and by the others. -/
  outstanding : L.Outstanding (others ++ w.held) w.source
  /-- The queries are tidy. -/
  tidy : ∀ q ∈ w.queries, q.Tidy

/-- What `Keeps` account for each query keeps it for all. -/
theorem Sound.on (h : Sound L others w) (k : Nat) {f : CompiledQuery → σ → CompiledQuery × σ}
    (hf : ∀ q s, CompiledQuery.Keeps L (q, s) (f q s)) : Sound L others (w.on k f) := by
  unfold Workload.on
  split
  case h_1 => exact h
  case h_2 q hq =>
    have hkeeps := hf q w.source
    -- The other queries count among those who hold connections.
    have hbefore : (others ++ w.held).Perm
        (others ++ (w.queries.eraseIdx k).flatMap (·.held) ++ q.leases ++ q.pool.idle) := by
      rw [List.append_assoc, List.append_assoc]
      exact ((flatMap_perm_eraseIdx _ hq).trans List.perm_append_comm).append_left others
    have hafter := hkeeps.outstanding _ (h.outstanding.of_perm hbefore)
    refine ⟨hafter.of_perm ?_, fun q' hq' => ?_⟩
    · rw [List.append_assoc, List.append_assoc]
      exact (List.perm_append_comm.trans (flatMap_set_perm _ hq _).symm).append_left others
    · rcases List.mem_or_eq_of_mem_set hq' with hother | rfl
      · exact h.tidy q' hother
      · exact hkeeps.tidy (h.tidy q (List.mem_of_getElem? hq))

/-- What keeps the books of one query that has callers (`CompiledQuery.Keeps`) keeps `Sound` for
all. -/
theorem Sound.onHeld (h : Sound L others w) (k : Nat) {f : CompiledQuery → σ → CompiledQuery × σ}
    (hf : ∀ q s, 0 < q.handles → CompiledQuery.Keeps L (q, s) (f q s)) :
    Sound L others (w.onHeld k f) := by
  refine h.on k fun q s => ?_
  split
  case isTrue hheld => exact hf q s hheld
  case isFalse => exact .refl _

/-- **Every step keeps account**: each `WorkloadEvent` keeps `Sound`. -/
theorem Sound.step (h : Sound L others w) (e : WorkloadEvent) : Sound L others (w.step src e) := by
  cases e with
  | compile p =>
      refine ⟨?_, fun q hq => ?_⟩
      · have hsame : held { w with queries := w.queries ++ [{ prepared := p }] } = w.held := by
          rw [held, List.flatMap_append]
          exact List.append_nil _
        exact hsame ▸ h.outstanding
      · rcases List.mem_append.mp hq with hold | hnew
        · exact h.tidy q hold
        · rw [List.mem_singleton.mp hnew]
          exact CompiledQuery.tidy_new p
  | execute k params =>
      exact h.onHeld k fun q s hheld => CompiledQuery.execute_keeps L params hheld s
  | close k => exact h.onHeld k fun q s _ => CompiledQuery.close_keeps L q s
  | share k => exact h.onHeld k fun q s _ => CompiledQuery.share_keeps L q s
  | drop k => exact h.onHeld k fun q s _ => CompiledQuery.dropHandle_keeps L q s
  | use k id u => exact h.on k fun q s => CompiledQuery.useAs_keeps L id u q s

/-- **Account is kept along every run**: from no queries on, a workload is `Sound`. -/
theorem sound_run {s : σ} (hs : L.Outstanding others s) (es : List WorkloadEvent) :
    Sound L others (run src ⟨[], s⟩ es) := by
  have hstart : Sound L others ⟨[], s⟩ :=
    ⟨(List.append_nil others).symm ▸ hs, fun _ h => absurd h List.not_mem_nil⟩
  exact List.foldlRecOn es (Workload.step src) hstart fun _ h e _ => h.step e

/-- The connections of the streams are among those of the queries. -/
theorem filterMap_lease_streams_perm (w : Workload σ) :
    (w.streams.filterMap (·.lease) ++ w.queries.flatMap (·.pool.idle)).Perm w.held := by
  rw [streams, List.filterMap_flatMap]
  exact List.flatMap_append_perm w.queries CompiledQuery.leases (·.pool.idle)

/-- A stream that is open holds a connection (`lease`). -/
theorem Sound.exists_lease (h : Sound L others w) {stream : RowStream Cursor}
    (hstream : stream ∈ w.streams) (hopen : stream.isClosed = false) :
    ∃ c, stream.lease = some c := by
  obtain ⟨q, hq, hmem⟩ := List.mem_flatMap.mp hstream
  have hattached := (h.tidy q hq).attached stream hmem
  rw [hopen] at hattached
  exact Option.isSome_iff_exists.mp hattached

/-- **Open streams have connections of their own**: two of them have leases `c ≠ d`. -/
theorem Sound.pairwise_openStreams (h : Sound L others w) :
    w.streams.Pairwise fun a b => a.isClosed = false → b.isClosed = false →
      ∃ c d, a.lease = some c ∧ b.lease = some d ∧ c ≠ d := by
  have hheld : w.held.Nodup :=
    (List.nodup_append.mp (List.nodup_append.mp h.outstanding.nodup_append).1).2.1
  have hleases : (w.streams.filterMap (·.lease)).Nodup :=
    (List.nodup_append.mp (w.filterMap_lease_streams_perm.nodup_iff.mpr hheld)).1
  refine (List.pairwise_filterMap.mp hleases).imp_of_mem ?_
  intro a b ha hb hne hopena hopenb
  obtain ⟨c, hc⟩ := h.exists_lease ha hopena
  obtain ⟨d, hd⟩ := h.exists_lease hb hopenb
  exact ⟨c, d, hc, hd, hne c hc d hd⟩

/-- A query that is closed, or that nobody can use any more (`q.handles = 0`), holds no connection
once its streams are closed. -/
theorem Sound.held_eq_nil (h : Sound L others w) {q : CompiledQuery} (hq : q ∈ w.queries)
    (hover : q.pool.closed = true ∨ q.handles = 0)
    (hstreams : ∀ stream ∈ q.streams, stream.isClosed = true) : q.held = [] :=
  (h.tidy q hq).held_eq_nil hover ((h.tidy q hq).leases_eq_nil hstreams)

end Workload

end DataAccess.Execution

/-! ## One execution -/

namespace DataAccess.Context

open Catalog Execution Streaming

variable {σ : Type} {ctx : Context σ} {L : ctx.source.Ledger} {others : List ConnectionId}
    {q : Query} {site : Site σ}

/-- A query is executed once: `Context.executeQuery` compiles it and does `executeOnce`. -/
theorem executeQuery_eq (ctx : Context σ) (q : Query) (site : Site σ) :
    ctx.executeQuery q site =
      let once := (ctx.compile q site).executeOnce ctx.source .empty site.source
      (once.1.map fun _ => once.2.1, { site with source := once.2.2 }) := by
  simp only [executeQuery, CompiledQuery.executeOnce]

/-- What holds of a query that was executed once and of its source: only the `leases` of its streams
may be left, since it is closed. -/
structure Spent (L : ctx.source.Ledger) (others : List ConnectionId) (spent : CompiledQuery × σ) :
    Prop where
  /-- The connections that are outstanding are held by the query and by the others. -/
  outstanding : L.Outstanding (others ++ spent.1.leases ++ spent.1.pool.idle) spent.2
  /-- The query is tidy. -/
  tidy : spent.1.Tidy
  /-- It is closed. -/
  closed : spent.1.pool.closed = true

namespace Spent

variable {spent : CompiledQuery × σ}

/-- A query that is `Spent` and that has no open stream leaves no connection open. -/
theorem outstanding_of_closed (h : Spent L others spent)
    (hstreams : ∀ stream ∈ spent.1.streams, stream.isClosed = true) :
    L.Outstanding others spent.2 := by
  have hheld : spent.1.held = [] :=
    h.tidy.held_eq_nil (.inl h.closed) (h.tidy.leases_eq_nil hstreams)
  have hsource := h.outstanding
  rw [List.append_assoc] at hsource
  change L.Outstanding (others ++ spent.1.held) spent.2 at hsource
  rwa [hheld, List.append_nil] at hsource

/-- Its stream may be used. -/
theorem useAll (h : Spent L others spent) (id : StreamId) (us : List StreamUse) :
    Spent L others (spent.1.useAll ctx.source id us spent.2) :=
  have hkeeps := CompiledQuery.useAll_keeps L id us spent.1 spent.2
  ⟨hkeeps.outstanding others h.outstanding, hkeeps.tidy h.tidy, hkeeps.closed h.closed⟩

end Spent

/-- A query is spent when it has been executed once. -/
theorem spent_executeOnce (h : L.Outstanding others site.source) (q : Query) :
    Spent L others ((ctx.compile q site).executeOnce ctx.source .empty site.source).2 := by
  have hkeeps :=
    CompiledQuery.executeOnce_keeps L .empty (q := ctx.compile q site) Nat.one_pos site.source
  have hnone : L.Outstanding
    (others ++ (ctx.compile q site).leases ++ (ctx.compile q site).pool.idle)
      site.source := by
    rw [List.append_assoc]
    exact (List.append_nil others).symm ▸ h
  exact ⟨hkeeps.outstanding others hnone, hkeeps.tidy (CompiledQuery.tidy_new _),
    CompiledQuery.closed_executeOnce ctx.source .empty (ctx.compile q site) site.source⟩

/-- **A query whose execution fails leaves no connection open**: the `others` hold what they
held. -/
theorem outstanding_of_executeQuery_error (h : L.Outstanding others site.source) {e : Error}
    (he : (ctx.executeQuery q site).1 = .error e) :
    L.Outstanding others (ctx.executeQuery q site).2.source := by
  have hspent := spent_executeOnce h q
  have hadds := CompiledQuery.executeOnce_adds ctx.source .empty (ctx.compile q site) site.source
  rw [executeQuery_eq] at he ⊢
  generalize (ctx.compile q site).executeOnce ctx.source .empty site.source =
    once at he hspent hadds ⊢
  obtain ⟨e' | id, used, s⟩ := once
  · have hstreams : used.streams = [] := hadds.of_error e' rfl
    exact hspent.outstanding_of_closed (by simp [hstreams])
  · cases he

/-- **A query whose execution succeeds** has one stream, and leaves no connection open after that
was closed, however it was used (`applyAll`). -/
theorem outstanding_of_executeQuery_ok (h : L.Outstanding others site.source) {used : CompiledQuery}
    (hused : (ctx.executeQuery q site).1 = .ok used) :
    ∃ stream, used.streams = [stream] ∧ ∀ us, (StreamUse.applyAll us stream).isClosed = true →
      L.Outstanding others (used.useAll ctx.source 0 us (ctx.executeQuery q site).2.source).2 := by
  have hspent := spent_executeOnce h q
  have hadds := CompiledQuery.executeOnce_adds ctx.source .empty (ctx.compile q site) site.source
  rw [executeQuery_eq] at hused ⊢
  generalize (ctx.compile q site).executeOnce ctx.source .empty site.source =
    once at hused hspent hadds ⊢
  obtain ⟨e' | id, once, s⟩ := once
  · cases hused
  · cases hused
    obtain ⟨c, cursor, hstreams⟩ := hadds.of_ok id rfl
    refine ⟨_, hstreams, fun us hclosed => (hspent.useAll 0 us).outstanding_of_closed ?_⟩
    intro stream hstream
    rw [CompiledQuery.streams_useAll ctx.source hstreams us s] at hstream
    rwa [List.mem_singleton.mp hstream]

end DataAccess.Context

/-! ## One owner, one closing -/

namespace DataAccess.Execution

open Catalog Streaming

/-- **Every connection has one owner and is closed once.**

* A pool, all that use it and all calls that close its connections, in any order
  (`Custody.run`): every connection that was opened is in an acquire under way, in a lease,
  idle, closed, or given up to be closed, and this once; what was closed stays closed; and when
  the pool was closed or dropped (`Over`) and nobody holds or awaits a lease (`Unused`), the
  calls that are left close what is left, so that every connection has been closed once.
* Compiled queries and their streams (`Workload.run`): whatever their callers do, the
  connections that are outstanding are held by the queries and by those who held some before;
  two open streams have different connections; and a query that is closed, or that nobody can
  use any more, holds none once its streams are closed.
* A query that is executed once (`executeQuery`): if that fails, the connections that are
  outstanding are those that were before, and if it succeeds they are so once its stream was
  closed. -/
theorem connections_have_one_owner :
    (∀ es : List CustodyEvent,
      let m := Custody.run {} es
      (∀ c, m.system.inFlight.count c + m.system.leased.count c + m.system.pool.idle.count c +
        (m.closed.count c + m.closing.count c) = if c < m.system.opened then 1 else 0) ∧
      (∀ later, m.closed <+: (m.run later).closed) ∧
      (m.Over → m.Unused → ∀ last : List ConnectionId, last.Perm m.closing →
        (m.run (last.map .closeConnection)).closed.Perm (List.range m.system.opened))) ∧
    (∀ {σ : Type} (src : Source σ) (L : src.Ledger) (others : List ConnectionId) (s : σ),
      L.Outstanding others s → ∀ es : List WorkloadEvent,
      let w := Workload.run src ⟨[], s⟩ es
      L.Outstanding (others ++ w.held) w.source ∧
      (w.streams.Pairwise fun a b => a.isClosed = false → b.isClosed = false →
        ∃ c d, a.lease = some c ∧ b.lease = some d ∧ c ≠ d) ∧
      (∀ q ∈ w.queries, q.pool.closed = true ∨ q.handles = 0 →
        (∀ stream ∈ q.streams, stream.isClosed = true) → q.held = [])) ∧
    (∀ {σ : Type} (ctx : Context σ) (L : ctx.source.Ledger) (others : List ConnectionId) (q : Query)
      (site : Site σ), L.Outstanding others site.source →
      (∀ e, (ctx.executeQuery q site).1 = .error e →
        L.Outstanding others (ctx.executeQuery q site).2.source) ∧
      (∀ used, (ctx.executeQuery q site).1 = .ok used →
        ∃ stream, used.streams = [stream] ∧ ∀ us, (StreamUse.applyAll us stream).isClosed = true →
          L.Outstanding others
            (used.useAll ctx.source 0 us (ctx.executeQuery q site).2.source).2)) := by
  refine ⟨fun es => ?_, fun src L others s hs es => ?_, fun ctx L others q site hs => ?_⟩
  · have hsound := Custody.sound_run es
    refine ⟨hsound.count_places, Custody.closed_prefix_run _, fun hover hunused last hlast => ?_⟩
    rw [Custody.run_closings hlast.subperm]
    exact (hlast.append_left _).trans (hsound.closed_of_over hover hunused)
  · have hsound := Workload.sound_run hs es
    exact ⟨hsound.outstanding, hsound.pairwise_openStreams,
      fun q hq hover hstreams => hsound.held_eq_nil hq hover hstreams⟩
  · exact ⟨fun e => Context.outstanding_of_executeQuery_error hs,
      fun used => Context.outstanding_of_executeQuery_ok hs⟩

/-- A pool that lends one connection and is closed before that comes back. -/
def lateReturn : List CustodyEvent :=
  [.use .reserve, .use (.connect 0 none), .use (.complete 0), .use .close, .use (.release 0)]

/-- Callers who execute a query twice and close it, and then the streams. -/
def twoStreams : List WorkloadEvent :=
  [.compile default, .execute 0 .empty, .execute 0 .empty, .close 0, .use 0 0 .advance,
    .use 0 1 .close]

/-- A source whose connections open and whose statements give no rows. -/
def quietSource : ScriptedSource where
  catalog := { entries := [] }
  product := .error closedQuery

/-- A context of such a source. -/
def quietContext : Context ScriptedSource := { source := ScriptedSource.source, dialect := {} }

/-- A context of a store of rows in memory. -/
def storeContext : Context (Memory.Store × List ConnectionId) :=
  { source := Memory.Store.source.noting, dialect := {} }

/-- One owner and one closing: for a connection that comes back late, for two streams of one
query, for an execution that succeeds, and for one that a store in memory refuses since there is
no table. -/
theorem connections_have_one_owner_lateReturn :
    let m := Custody.run {} lateReturn
    let w := Workload.run ScriptedSource.source ⟨[], quietSource⟩ twoStreams
    let answer := quietContext.executeQuery {} ⟨{}, quietSource⟩
    let refused := storeContext.executeQuery {} ⟨{}, {}, []⟩
    (m.Over ∧ m.Unused ∧ [0].Perm m.closing ∧
      (m.run [.closeConnection 0]).closed.Perm (List.range m.system.opened)) ∧
    (w.streams.length = 2 ∧ ScriptedSource.ledger.Outstanding ([] ++ w.held) w.source ∧
      ∀ q ∈ w.queries, q.held = []) ∧
    (∃ used, answer.1 = .ok used ∧ ScriptedSource.ledger.Outstanding []
      (used.useAll ScriptedSource.source 0 [.close] answer.2.source).2) ∧
    (∃ e, refused.1 = .error e ∧ refused.2.source.2 = [0] ∧
      storeNumbering.ledger.Outstanding [] refused.2.source) := by
  intro m w answer refused
  have hquiet : ScriptedSource.ledger.Outstanding [] quietSource := ⟨List.Pairwise.nil, .refl _⟩
  have hstore : storeNumbering.ledger.Outstanding [] ({}, []) := ⟨List.Pairwise.nil, .refl _⟩
  obtain ⟨hpool, hstreams, honce⟩ := connections_have_one_owner
  refine ⟨?_, ?_, ?_, ?_⟩
  · have hover : m.Over := .inl rfl
    have hclosing : [0].Perm m.closing := .refl _
    exact ⟨hover, ⟨rfl, rfl⟩, hclosing, (hpool lateReturn).2.2 hover ⟨rfl, rfl⟩ [0] hclosing⟩
  · obtain ⟨houtstanding, -, hheld⟩ := hstreams ScriptedSource.source ScriptedSource.ledger []
      quietSource hquiet twoStreams
    have hclosed : ∀ q ∈ w.queries,
        q.pool.closed = true ∧ ∀ stream ∈ q.streams, stream.isClosed = true := by
      decide +kernel
    exact ⟨by decide +kernel, houtstanding,
      fun q hq => hheld q hq (.inl (hclosed q hq).1) (hclosed q hq).2⟩
  · obtain ⟨-, hok⟩ := honce quietContext ScriptedSource.ledger [] {} ⟨{}, quietSource⟩ hquiet
    have hsome : answer.1.toOption.isSome = true := by decide +kernel
    cases hused : answer.1 with
    | error e => simp [hused, Except.toOption] at hsome
    | ok used =>
        obtain ⟨stream, -, hclosed⟩ := hok used hused
        exact ⟨used, rfl, hclosed [.close] rfl⟩
  · obtain ⟨herror, -⟩ := honce storeContext storeNumbering.ledger [] {} ⟨{}, {}, []⟩ hstore
    have hnone : refused.1.toOption.isSome = false := by decide +kernel
    cases hrefused : refused.1 with
    | error e => exact ⟨e, rfl, by decide +kernel, herror e hrefused⟩
    | ok used => simp [hrefused, Except.toOption] at hnone

end DataAccess.Execution
