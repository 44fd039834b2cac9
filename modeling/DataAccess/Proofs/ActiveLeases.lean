import DataAccess.Proofs.ConnectionOwners
import DataAccess.Proofs.StreamWindow

/-!
# Active leases: one for each open stream

A lease becomes active when it is set aside for an execution, and it ends when the execution fails
or when its stream is closed, be that at the end of the rows, at the end of the window, or by a
call. So the number of active leases of a compiled query is that of its open streams.

* **The pool** (`active_release` and the others): what each function of a pool does to that number.
* **Tallies** (`CompiledQuery.Tallies`): each function of a compiled query keeps the two numbers
  equal, and keeps a closed query closed. No function of the source comes into this.
* **One release** (`useAs_of_closes`, `useAll_of_isClosed`): a stream that is closed by a use gives
  up one lease by it, and none by any later use.
* **Runs** (`Workload.tallies_run`, `active_leases_are_open_streams`).
-/

namespace DataAccess.Execution

open Streaming

variable {σ : Type}

/-! ## The pool -/

namespace LeasePool

variable (p : LeasePool)

/-- A lease that ends is taken off: `(p.release c).2.active = p.active - 1`. -/
@[simp]
theorem active_release (c : ConnectionId) : (p.release c).2.active = p.active - 1 := by
  unfold release
  split <;> rfl

/-- Closing a pool ends no lease. -/
@[simp]
theorem active_close : p.close.2.active = p.active := by
  unfold close
  split <;> rfl

/-- A pool that may be closed ends no lease. -/
theorem active_closeIf (closes : Bool) :
    (if closes then p.close else ([], p)).2.active = p.active := by
  cases closes with
  | true => exact p.active_close
  | false => rfl

/-- A lease is set aside by `reserve`, unless that is refused. -/
theorem active_reserve : p.reserve.2.active = p.active + (if p.reserve.1.isOk then 1 else 0) := by
  unfold reserve
  split
  · rfl
  · split <;> rfl

/-- A lease that is settled stays active, or ends if `complete` has no connection for it. -/
theorem active_complete (outcome : Except Error ConnectionId) :
    (p.complete outcome).2.2.active =
      p.active - (if (p.complete outcome).1.isOk then 0 else 1) := by
  unfold complete
  cases outcome with
  | error => rfl
  | ok c => dsimp only; split <;> rfl

end LeasePool

/-! ## Tallies -/

namespace CompiledQuery

variable {src : Source σ} {q : CompiledQuery} {id : StreamId} {stream : RowStream Cursor}

/-- Whether the leases of a query are accounted for: `q.pool.active` is the number of streams that
hold a connection (`openStreams`), and the open streams hold one (`Attached`). -/
structure Accounted (q : CompiledQuery) : Prop where
  /-- The active leases are those of the streams. -/
  active_eq : q.pool.active = q.openStreams
  /-- The streams are open as long as they hold a connection. -/
  attached : q.Attached

/-- The active leases are those of the streams that are not closed: `q.pool.active` counts
`stream.isClosed = false`. -/
theorem Accounted.active_eq_countP (h : q.Accounted) :
    q.pool.active = q.streams.countP fun stream => !stream.isClosed := by
  rw [h.active_eq]
  exact List.countP_congr fun stream hstream => by rw [h.attached stream hstream]

/-- A new stream is one more for `openStreams`. -/
theorem openStreams_append_stream (q : CompiledQuery) (c : ConnectionId) (cursor : Cursor) :
    openStreams { q with streams := q.streams ++ [q.prepared.stream c cursor] } =
      q.openStreams + 1 := by
  rw [openStreams_eq_length, openStreams_eq_length, leases_append_stream, List.length_append]
  rfl

/-- The streams that hold a connection when the stream `id` was used: those there were, with `used`
in the place of `stream`. -/
theorem openStreams_putStream (hi : q.streams[id]? = some stream) (used : RowStream Cursor) :
    stream.lease.toList.length + (q.putStream id used).openStreams =
      used.lease.toList.length + q.openStreams := by
  rw [openStreams_eq_length, openStreams_eq_length, ← List.length_append, ← List.length_append]
  exact (leases_putStream_perm hi used).length_eq

/-- What a function that takes the query `q` to `q'` does with its leases: it keeps them
`Accounted`, and a closed pool closed. -/
structure Tallies (q q' : CompiledQuery) : Prop where
  /-- Leases that were accounted for are so. -/
  accounted : q.Accounted → q'.Accounted
  /-- A query that was closed is so. -/
  closed : q.pool.closed = true → q'.pool.closed = true

namespace Tallies

theorem refl (q : CompiledQuery) : q.Tallies q := ⟨id, id⟩

theorem trans {q q' q'' : CompiledQuery} (h : q.Tallies q') (h' : q'.Tallies q'') : q.Tallies q'' :=
  ⟨fun hq => h'.accounted (h.accounted hq), fun hq => h'.closed (h.closed hq)⟩

end Tallies

section Execute

variable (params : Params)

/-- A lease that was set aside goes to the new stream, or ends: `executeOn` ends with
`active = openStreams` if it begins with one more. -/
theorem active_executeOn (h : q.pool.active = q.openStreams + 1) (c : ConnectionId) (s : σ) :
    (q.executeOn src params c s).2.1.pool.active =
      (q.executeOn src params c s).2.1.openStreams := by
  unfold executeOn
  rcases src.execute c ⟨q.prepared.sql, params, q.prepared.query⟩ s with ⟨e | cursor, s'⟩
  · show (q.pool.release c).2.active = q.openStreams
    rw [LeasePool.active_release, h, Nat.add_sub_cancel]
  · exact h.trans (openStreams_append_stream q c cursor).symm

/-- So does `executeOnNew`, where the connection has yet to be opened. -/
theorem active_executeOnNew (h : q.pool.active = q.openStreams + 1) (s : σ) :
    (q.executeOnNew src params s).2.1.pool.active =
      (q.executeOnNew src params s).2.1.openStreams := by
  unfold executeOnNew
  generalize src.connect s = answer
  obtain ⟨opening, s₁⟩ := answer
  have hshut := q.pool.active_closeIf opening.closedMeanwhile
  dsimp only
  generalize (if opening.closedMeanwhile then q.pool.close else ([], q.pool)) = shut at hshut ⊢
  obtain ⟨closing, pool₁⟩ := shut
  have hsettled := pool₁.active_complete opening.outcome
  dsimp only at hshut ⊢
  generalize pool₁.complete opening.outcome = settled at hsettled ⊢
  rw [hshut, h] at hsettled
  obtain ⟨e | c, late, pool₂⟩ := settled
  · exact hsettled
  · exact active_executeOn (q := { q with pool := pool₂ }) params hsettled c _

/-- **Executing** keeps the leases accounted for (`Tallies`), whether or not it succeeds. -/
theorem execute_tallies (q : CompiledQuery) (s : σ) : q.Tallies (q.execute src params s).2.1 where
  closed := (follows_execute params q s).pool.closed
  accounted h := by
    refine ⟨?_, (follows_execute params q s).attached h.attached⟩
    unfold execute
    split
    · exact h.active_eq
    split
    · exact h.active_eq
    have hreserved := q.pool.active_reserve
    rw [h.active_eq] at hreserved
    generalize q.pool.reserve = reserved at hreserved ⊢
    obtain ⟨e | c | _, pool⟩ := reserved
    · exact hreserved
    · exact active_executeOn (q := { q with pool }) params hreserved c s
    · exact active_executeOnNew (q := { q with pool }) params hreserved s

/-- An execution that fails leaves `q.pool.active` as it was. -/
theorem Accounted.active_execute_of_error (h : q.Accounted) {s : σ} {e : Error}
    (he : (q.execute src params s).1 = .error e) :
    (q.execute src params s).2.1.pool.active = q.pool.active := by
  have hstreams := (execute_adds params q s).of_error e he
  have hopen : (q.execute src params s).2.1.openStreams = q.openStreams := by
    unfold openStreams
    rw [hstreams]
  rw [((execute_tallies params q s).accounted h).active_eq, hopen, h.active_eq]

/-- A query whose pool is closed is not executed: the answer is `closedQuery`, and nothing
changes. -/
theorem execute_of_closed (src : Source σ) (h : q.pool.closed = true) (s : σ) :
    q.execute src params s = (.error closedQuery, q, s) := by
  unfold execute
  rw [if_pos h]

/-- A query is not executed with a wrong number of values: the answer is `parameterCount`, and
nothing changes. -/
theorem execute_of_size_ne (src : Source σ) (h : q.pool.closed = false)
    (hsize : params.size ≠ q.prepared.parameterCount) (s : σ) :
    q.execute src params s =
      (.error (.parameterCount q.prepared.parameterCount params.size), q, s) := by
  unfold execute
  rw [h, if_neg Bool.false_ne_true, if_pos hsize]

end Execute

/-- **Closing** keeps the leases accounted for. -/
theorem close_tallies (src : Source σ) (q : CompiledQuery) (s : σ) : q.Tallies (q.close src s).1 :=
  ⟨fun h => ⟨q.pool.active_close.trans h.active_eq, h.attached⟩,
    (LeasePool.Follows.close q.pool).closed⟩

/-- **Sharing** keeps the leases accounted for. -/
theorem share_tallies (q : CompiledQuery) : q.Tallies q.share :=
  ⟨fun h => ⟨h.active_eq, h.attached⟩, id⟩

/-- Closing idle connections that nobody can use keeps the leases accounted for. -/
theorem reap_tallies (src : Source σ) (q : CompiledQuery) (s : σ) : q.Tallies (q.reap src s).1 := by
  unfold reap
  split
  · exact ⟨fun h => ⟨h.active_eq, h.attached⟩, id⟩
  · exact .refl q

/-- Closing idle connections that nobody can use ends no lease. -/
theorem active_reap (src : Source σ) (q : CompiledQuery) (s : σ) :
    (q.reap src s).1.pool.active = q.pool.active := by
  unfold reap
  split <;> rfl

/-- **Dropping** keeps the leases accounted for. -/
theorem dropHandle_tallies (src : Source σ) (q : CompiledQuery) (s : σ) :
    q.Tallies (q.dropHandle src s).1 := by
  have hdropped : q.Tallies { q with handles := q.handles - 1 } :=
    ⟨fun h => ⟨h.active_eq, h.attached⟩, id⟩
  exact hdropped.trans (reap_tallies src _ s)

/-! ## One release -/

/-- A stream that keeps its connection (`used.lease = stream.lease`) keeps its lease. -/
theorem putStream_tallies (hi : q.streams[id]? = some stream) {used : RowStream Cursor}
    (hused : stream.Yields used) (hlease : used.lease = stream.lease) :
    q.Tallies (q.putStream id used) where
  closed h := h
  accounted h := by
    have hopen := openStreams_putStream hi used
    rw [hlease, Nat.add_left_cancel_iff] at hopen
    exact ⟨h.active_eq.trans hopen.symm, attached_putStream hi hused h.attached⟩

/-- A stream that gives its connection up ends its lease, by `LeasePool.release`. -/
theorem release_tallies {c : ConnectionId} (hi : q.streams[id]? = some stream)
    {used : RowStream Cursor} (hused : stream.Yields used) (hlease : stream.lease = some c)
    (hnone : used.lease = none) :
    q.Tallies { q.putStream id used with pool := (q.pool.release c).2 } where
  closed h := (LeasePool.Follows.release q.pool c).closed h
  accounted h := by
    have hopen := openStreams_putStream hi used
    rw [hlease, hnone] at hopen
    refine ⟨?_, attached_putStream hi hused h.attached⟩
    show (q.pool.release c).2.active = (q.putStream id used).openStreams
    rw [LeasePool.active_release, h.active_eq]
    simp only [Option.toList_some, Option.toList_none, List.length_singleton,
      List.length_nil] at hopen
    omega

/-- **Using a stream** keeps the leases accounted for. -/
theorem useAs_tallies (src : Source σ) (id : StreamId) (u : StreamUse) (q : CompiledQuery) (s : σ) :
    q.Tallies (q.useAs src id u s).1 := by
  unfold useAs
  cases hi : q.streams[id]? with
  | none =>
      simp only [useStream, hi]
      exact .refl q
  | some stream =>
      have hused := u.yields stream
      rcases hused.lease_cases with hsame | ⟨c, hlease, hnone⟩
      · rw [useStream_of_lease_eq hi hsame]
        exact putStream_tallies hi hused hsame
      · rw [useStream_of_lease_none hi hlease hnone]
        exact (release_tallies hi hused hlease hnone).trans (reap_tallies src _ _)

/-- A stream that is closed by the use `u` gives its lease up by it: `active` is one less then, and
its connection goes to the pool. -/
theorem useAs_of_closes (h : q.Accounted) (hi : q.streams[id]? = some stream)
    (hopen : stream.isClosed = false) {u : StreamUse} (hclosed : (u.apply stream).isClosed = true)
    (s : σ) :
    ∃ c, stream.lease = some c ∧ (q.useAs src id u s).1.pool.active + 1 = q.pool.active ∧
      (0 < q.handles → (q.useAs src id u s).1.pool = (q.pool.release c).2) := by
  have hused := u.yields stream
  have hmem := List.mem_of_getElem? hi
  have hattached := h.attached stream hmem
  rw [hopen] at hattached
  obtain ⟨c, hlease⟩ := Option.isSome_iff_exists.mp hattached
  have hnone : (u.apply stream).lease = none := by
    have hafter := hused.attached (h.attached stream hmem)
    rw [hclosed] at hafter
    exact Option.not_isSome_iff_eq_none.mp (Bool.eq_false_iff.mp hafter)
  have hpositive : 0 < q.pool.active := by
    rw [h.active_eq]
    exact List.countP_pos_iff.mpr ⟨stream, hmem, hattached⟩
  refine ⟨c, hlease, ?_, fun hheld => ?_⟩
  · unfold useAs
    rw [useStream_of_lease_none hi hlease hnone, active_reap]
    show (q.pool.release c).2.active + 1 = q.pool.active
    rw [LeasePool.active_release]
    omega
  · unfold useAs
    rw [useStream_of_lease_none hi hlease hnone]
    unfold reap
    rw [if_neg fun hnobody => Nat.ne_of_gt hheld hnobody.1]

/-- A stream that is closed has no lease to give up: `useAs` changes that stream alone. -/
theorem useAs_of_isClosed (h : q.Attached) (hi : q.streams[id]? = some stream)
    (hclosed : stream.isClosed = true) (u : StreamUse) (s : σ) :
    q.useAs src id u s = (q.putStream id (u.apply stream), s) := by
  have hattached := h stream (List.mem_of_getElem? hi)
  rw [hclosed] at hattached
  have hnone : stream.lease = none :=
    Option.not_isSome_iff_eq_none.mp (Bool.eq_false_iff.mp hattached)
  refine useStream_of_lease_eq hi ?_ s
  rcases (u.yields stream).lease_cases with hsame | ⟨c, hlease, -⟩
  · exact hsame
  · cases hnone.symm.trans hlease

/-- **One release**: no uses `us` of a closed stream do anything to the pool or to the source. -/
theorem useAll_of_isClosed (h : q.Attached) (hi : q.streams[id]? = some stream)
    (hclosed : stream.isClosed = true) (us : List StreamUse) (s : σ) :
    (q.useAll src id us s).1.pool = q.pool ∧ (q.useAll src id us s).2 = s := by
  induction us generalizing q stream with
  | nil => exact ⟨rfl, rfl⟩
  | cons u us ih =>
      have hused := u.yields stream
      have hlength : id < q.streams.length := (List.getElem?_eq_some_iff.mp hi).1
      have hnext : (u.apply stream).isClosed = true := by
        rcases hused with ⟨-, hsame⟩ | ⟨-, hnow⟩
        · rw [hsame, hclosed]
        · exact hnow
      have hrest := ih (attached_putStream hi hused h) (List.getElem?_set_self hlength) hnext
      have hfirst : q.useAll src id (u :: us) s = (q.putStream id (u.apply stream)).useAll
          src id us s := by
        rw [useAll, List.foldl_cons, useAs_of_isClosed h hi hclosed]
        rfl
      rw [hfirst]
      exact hrest

end CompiledQuery

/-! ## Runs -/

namespace Workload

variable {src : Source σ} {w : Workload σ} {k : Nat} {q : CompiledQuery}

/-- A step compiles a query, or does with one of them an `f` that `Tallies` for each query. -/
theorem step_cases (src : Source σ) (w : Workload σ) (e : WorkloadEvent) :
    (∃ p, e = .compile p) ∨
      ∃ j f, (∀ (q : CompiledQuery) s, q.Tallies (f q s).1) ∧ w.step src e = w.on j f := by
  have hheld {f : CompiledQuery → σ → CompiledQuery × σ}
    (hf : ∀ q s, CompiledQuery.Tallies q (f q s).1)
      (q : CompiledQuery) (s : σ) : q.Tallies (if 0 < q.handles then f q s else (q, s)).1 := by
    split
    case isTrue => exact hf q s
    case isFalse => exact .refl q
  cases e with
  | compile p => exact .inl ⟨p, rfl⟩
  | execute j params => exact .inr ⟨j, _, hheld (CompiledQuery.execute_tallies params), rfl⟩
  | close j => exact .inr ⟨j, _, hheld (CompiledQuery.close_tallies src), rfl⟩
  | share j => exact .inr ⟨j, _, hheld fun q _ => q.share_tallies, rfl⟩
  | drop j => exact .inr ⟨j, _, hheld (CompiledQuery.dropHandle_tallies src), rfl⟩
  | use j id u => exact .inr ⟨j, _, CompiledQuery.useAs_tallies src id u, rfl⟩

/-- **Every step tallies**: the query `k` before and after it are related by `Tallies`. -/
theorem tallies_step (src : Source σ) (e : WorkloadEvent) (hq : w.queries[k]? = some q) :
    ∃ q', (w.step src e).queries[k]? = some q' ∧ q.Tallies q' := by
  rcases step_cases src w e with ⟨p, rfl⟩ | ⟨j, f, hf, hstep⟩
  · have hlength := (List.getElem?_eq_some_iff.mp hq).1
    exact ⟨q, (List.getElem?_append_left hlength).trans hq, .refl q⟩
  · rw [hstep, Workload.on]
    split
    case h_1 => exact ⟨q, hq, .refl q⟩
    case h_2 p hp =>
      by_cases hjk : j = k
      · subst hjk
        cases hq.symm.trans hp
        exact ⟨_, List.getElem?_set_self (List.getElem?_eq_some_iff.mp hp).1, hf q w.source⟩
      · exact ⟨q, (List.getElem?_set_ne hjk).trans hq, .refl q⟩

/-- **Every run tallies** in the same way, by induction on its steps. -/
theorem tallies_run (src : Source σ) (es : List WorkloadEvent) (hq : w.queries[k]? = some q) :
    ∃ q', (w.run src es).queries[k]? = some q' ∧ q.Tallies q' := by
  induction es generalizing w q with
  | nil => exact ⟨q, hq, .refl q⟩
  | cons e es ih =>
      obtain ⟨q₁, hq₁, hfirst⟩ := tallies_step src e hq
      obtain ⟨q₂, hq₂, hrest⟩ := ih hq₁
      exact ⟨q₂, hq₂, hfirst.trans hrest⟩

/-- A step leaves the leases of all queries `Accounted`. -/
theorem accounted_step (h : ∀ q ∈ w.queries, q.Accounted) (e : WorkloadEvent) :
    ∀ q ∈ (w.step src e).queries, q.Accounted := by
  intro q hq
  rcases step_cases src w e with ⟨p, rfl⟩ | ⟨j, f, hf, hstep⟩
  · rcases List.mem_append.mp hq with hold | hnew
    · exact h q hold
    · rw [List.mem_singleton.mp hnew]
      exact ⟨rfl, fun _ hstream => absurd hstream List.not_mem_nil⟩
  · rw [hstep, Workload.on] at hq
    split at hq
    case h_1 => exact h q hq
    case h_2 p hp =>
      rcases List.mem_or_eq_of_mem_set hq with hold | rfl
      · exact h q hold
      · exact (hf p w.source).accounted (h p (List.mem_of_getElem? hp))

/-- **A run from no queries** leaves the leases of all queries `Accounted`. -/
theorem accounted_run (src : Source σ) (s : σ) (es : List WorkloadEvent) :
    ∀ q ∈ (run src ⟨[], s⟩ es).queries, q.Accounted :=
  List.foldlRecOn (motive := fun w => ∀ q ∈ w.queries, q.Accounted) es (Workload.step src)
    (fun _ h => absurd h List.not_mem_nil) fun _ h e _ => accounted_step h e

/-- A query that is closed by one of its callers (`.close k`) is closed after any run `es`. -/
theorem closed_run (src : Source σ) (es : List WorkloadEvent) (hq : w.queries[k]? = some q)
    (hheld : 0 < q.handles) :
    ∃ q', (w.run src (.close k :: es)).queries[k]? = some q' ∧ q'.pool.closed = true := by
  have hclosing : (w.step src (.close k)).queries[k]? = some (q.close src w.source).1 := by
    show (w.on k _).queries[k]? = _
    rw [Workload.on, hq]
    simp only [if_pos hheld]
    exact List.getElem?_set_self (List.getElem?_eq_some_iff.mp hq).1
  obtain ⟨q', hq', htallies⟩ := tallies_run src es hclosing
  exact ⟨q', hq', htallies.closed (LeasePool.closed_close q.pool)⟩

end Workload

/-! ## Active leases -/

/-- **Active leases are the open streams.** Let callers compile, execute, share, close and drop
queries and use their streams, in any order and whatever the source answers. Then for every
query

* its active leases are as many as its streams that are not closed;
* an execution that fails, for whatever reason, leaves that number as it was, and one that fails
  since the query is closed or since the number of values is wrong leaves all four counters, the
  streams and the source;
* a stream is closed when it comes to its end; the use by which an open stream is closed ends
  one lease and gives the connection of the stream to the pool; and no later use of it does
  anything to the pool or to the source;
* after one of its callers has closed it, no later execution succeeds, whatever happens in
  between. -/
theorem active_leases_are_open_streams (src : Source σ) (s : σ) (es : List WorkloadEvent) (k : Nat)
    (q : CompiledQuery) (hq : (Workload.run src ⟨[], s⟩ es).queries[k]? = some q) :
    q.pool.active = (q.streams.countP fun stream => !stream.isClosed) ∧
    (∀ params t,
      (∀ e, (q.execute src params t).1 = .error e →
        (q.execute src params t).2.1.pool.active = q.pool.active) ∧
      (q.pool.closed = true → q.execute src params t = (.error closedQuery, q, t)) ∧
      (q.pool.closed = false → params.size ≠ q.prepared.parameterCount →
        q.execute src params t =
          (.error (.parameterCount q.prepared.parameterCount params.size), q, t))) ∧
    (∀ id stream, q.streams[id]? = some stream →
      (stream.advance.1 = .ok false → (StreamUse.advance.apply stream).isClosed = true) ∧
      (StreamUse.close.apply stream).isClosed = true ∧
      (∀ u t, stream.isClosed = false → (u.apply stream).isClosed = true →
        let used := q.useAs src id u t
        used.1.pool.active + 1 = q.pool.active ∧
        (∃ c, stream.lease = some c ∧ (0 < q.handles → used.1.pool = (q.pool.release c).2)) ∧
        ∀ us, (used.1.useAll src id us used.2).1.pool = used.1.pool ∧
          (used.1.useAll src id us used.2).2 = used.2) ∧
      (stream.isClosed = true → ∀ us t,
        (q.useAll src id us t).1.pool = q.pool ∧ (q.useAll src id us t).2 = t)) ∧
    (0 < q.handles → ∀ later, ∃ q',
      (Workload.run src ⟨[], s⟩ (es ++ .close k :: later)).queries[k]? = some q' ∧
      ∀ params t, q'.execute src params t = (.error closedQuery, q', t)) := by
  have haccounted := Workload.accounted_run src s es q (List.mem_of_getElem? hq)
  refine ⟨haccounted.active_eq_countP, fun params t => ⟨fun e he => ?_, fun hclosed => ?_,
    fun hopen hsize => ?_⟩, fun id stream hi => ⟨fun hend => ?_, rfl, fun u t hopen hclosed => ?_,
    fun hclosed us t => ?_⟩, fun hheld later => ?_⟩
  · exact haccounted.active_execute_of_error params he
  · exact CompiledQuery.execute_of_closed params src hclosed t
  · exact CompiledQuery.execute_of_size_ne params src hopen hsize t
  · exact RowStream.isClosed_of_advance_false hend
  · obtain ⟨c, hlease, hactive, hpool⟩ :=
      CompiledQuery.useAs_of_closes haccounted hi hopen hclosed t
    have hused := (CompiledQuery.useAs_tallies src id u q t).accounted haccounted
    have hnow : (q.useAs src id u t).1.streams[id]? = some (u.apply stream) := by
      rw [CompiledQuery.streams_useAs src hi u t]
      exact List.getElem?_set_self (List.getElem?_eq_some_iff.mp hi).1
    exact ⟨hactive, ⟨c, hlease, hpool⟩,
      fun us => CompiledQuery.useAll_of_isClosed hused.attached hnow hclosed us _⟩
  · exact CompiledQuery.useAll_of_isClosed haccounted.attached hi hclosed us t
  · obtain ⟨q', hq', hclosed⟩ := Workload.closed_run src later hq hheld
    refine ⟨q', ?_, fun params t => CompiledQuery.execute_of_closed params src hclosed t⟩
    rw [Workload.run, List.foldl_append]
    exact hq'

/-- A source whose first statement gives no rows and whose second one fails. -/
def failingSecond : ScriptedSource :=
  { quietSource with executes := [.ok [], .error (.source "gone")] }

/-- Callers who execute a query twice. -/
def twoExecutions : List WorkloadEvent := [.compile default, .execute 0 .empty, .execute 0 .empty]

/-- A query with an open stream, which holds one connection, and with another one that is idle. -/
def openAndIdle : CompiledQuery where
  prepared := default
  pool := { idle := [1], active := 1, created := 2 }
  streams := [PreparedQuery.stream default 0 (.script [])]

/-- One lease is active after an execution that succeeds and one that fails, none after the stream
came to its end, and the query is not executed once it was closed. -/
theorem active_leases_are_open_streams_failingSecond :
    let w := Workload.run ScriptedSource.source ⟨[], failingSecond⟩ twoExecutions
    let used := openAndIdle.useAs ScriptedSource.source 0 .advance w.source
    w.queries[0]? = some openAndIdle ∧
    (openAndIdle.streams.countP fun stream => !stream.isClosed) = 1 ∧
    used.1.pool.active = 0 ∧ used.1.pool.idle = [0, 1] ∧
    (used.1.useAll ScriptedSource.source 0 [.advance, .close, .close] used.2).1.pool = used.1.pool ∧
    ∀ later, ∃ q',
      (Workload.run ScriptedSource.source ⟨[], failingSecond⟩
        (twoExecutions ++ .close 0 :: later)).queries[0]? = some q' ∧
      ∀ params t, q'.execute ScriptedSource.source params t = (.error closedQuery, q', t) := by
  intro w used
  have hq : w.queries[0]? = some openAndIdle := rfl
  obtain ⟨hactive, -, hstreams, hclosing⟩ :=
    active_leases_are_open_streams ScriptedSource.source failingSecond twoExecutions 0
      openAndIdle hq
  obtain ⟨hend, -, huse, -⟩ := hstreams 0 _ rfl
  obtain ⟨hless, ⟨c, hlease, hpool⟩, hrest⟩ := huse .advance w.source rfl (hend rfl)
  cases hlease
  refine ⟨hq, hactive.symm, Nat.succ.inj hless, ?_, (hrest _).1, hclosing Nat.one_pos⟩
  rw [hpool Nat.one_pos]
  rfl

end DataAccess.Execution
