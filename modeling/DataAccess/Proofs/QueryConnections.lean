import DataAccess.Execution.CompiledQuery
import DataAccess.Proofs.ConnectionLedger

/-!
# Query connections: what compiled queries and their streams do with connections

A compiled query holds the connections of its streams and the idle ones. Whatever is done with the
query or with one of its streams, it holds afterwards what it held, what it opened and not what it
closed; all of this is said beside any other connections that others hold (`CompiledQuery.Keeps`).

* **Streams** (`RowStream.Yields`): each function of a stream keeps its connection, unless it closes
  the stream and gives the connection up.
* **Executing** (`executeOn_outstanding`, `executeOnNew_outstanding`, `execute_keeps`): the
  connection that is lent goes to the new stream, or back to the pool, or is closed.
* **The other functions** (`close_keeps`, `useStream_keeps`, `dropHandle_keeps`): connections are
  closed when they are given up, and not otherwise.
* **Nothing is left** (`Tidy.held_eq_nil`): a query that is closed, or that nobody can use any more,
  holds no connection once its streams hold none.
-/

/-! ## The functions of a stream -/

namespace DataAccess.Streaming.RowStream

variable {κ : Type}

/-- What becomes of a stream `s` that is used: `s'` keeps its connection and is as open as before,
or it is closed and has given the connection up. -/
def Yields (s s' : RowStream κ) : Prop :=
  (s'.lease = s.lease ∧ s'.isClosed = s.isClosed) ∨ (s'.lease = none ∧ s'.isClosed = true)

namespace Yields

theorem refl (s : RowStream κ) : s.Yields s := .inl ⟨rfl, rfl⟩

theorem trans {s s' s'' : RowStream κ} (h : s.Yields s') (h' : s'.Yields s'') : s.Yields s'' := by
  rcases h' with ⟨hlease', hclosed'⟩ | hend
  · rcases h with ⟨hlease, hclosed⟩ | ⟨hlease, hclosed⟩
    · exact .inl ⟨hlease'.trans hlease, hclosed'.trans hclosed⟩
    · exact .inr ⟨hlease'.trans hlease, hclosed'.trans hclosed⟩
  · exact .inr hend

/-- A stream that is open as long as it holds a connection goes on so, if `s.Yields s'`. -/
theorem attached {s s' : RowStream κ} (h : s.Yields s') (hs : s.lease.isSome = !s.isClosed) :
    s'.lease.isSome = !s'.isClosed := by
  rcases h with ⟨hlease, hclosed⟩ | ⟨hlease, hclosed⟩
  · rw [hlease, hclosed, hs]
  · rw [hlease, hclosed]
    rfl

/-- A stream holds what it held, or has given its connection up. -/
theorem lease_cases {s s' : RowStream κ} (h : s.Yields s') :
    s'.lease = s.lease ∨ ∃ c, s.lease = some c ∧ s'.lease = none := by
  rcases h with ⟨hlease, -⟩ | ⟨hlease, -⟩
  · exact .inl hlease
  · cases hs : s.lease with
    | none => exact .inl hlease
    | some c => exact .inr ⟨c, rfl, hlease⟩

theorem close (s : RowStream κ) : s.Yields s.close := .inr ⟨rfl, rfl⟩

variable [RowCursor κ]

theorem pull (s : RowStream κ) : s.Yields s.pull.2 := by
  unfold RowStream.pull
  split
  case h_1 => exact refl s
  case h_2 cursor hcursor =>
    split <;> exact .inl ⟨rfl, by simp [isClosed, hcursor]⟩

theorem skipRows (s : RowStream κ) (n : Nat) : s.Yields (s.skipRows n).2 := by
  induction n generalizing s with
  | zero => exact .inl ⟨rfl, rfl⟩
  | succ n ih =>
      have hpull := pull s
      unfold RowStream.skipRows
      generalize s.pull = answer at hpull ⊢
      obtain ⟨⟨e⟩ | _ | row, s'⟩ := answer
      · exact hpull.trans (.inl ⟨rfl, rfl⟩)
      · exact hpull.trans (close s')
      · exact hpull.trans (ih s')

theorem advanceInWindow (s : RowStream κ) : s.Yields s.advanceInWindow.2 := by
  unfold RowStream.advanceInWindow
  split
  · exact close s
  · have hpull := pull s
    generalize s.pull = answer at hpull ⊢
    obtain ⟨⟨e⟩ | _ | row, s'⟩ := answer
    · exact hpull
    · exact hpull.trans (close s')
    · exact hpull.trans (.inl ⟨rfl, rfl⟩)

theorem advance (s : RowStream κ) : s.Yields s.advance.2 := by
  have hreset : s.Yields { s with current := none } := .inl ⟨rfl, rfl⟩
  refine hreset.trans ?_
  unfold RowStream.advance
  dsimp only
  split
  · exact refl _
  · have hskip := skipRows { s with current := none } s.window.skip
    generalize ({ s with current := none } : RowStream κ).skipRows s.window.skip = answer at hskip ⊢
    obtain ⟨⟨e⟩ | _ | _, s'⟩ := answer
    · exact hskip
    · exact hskip
    · exact hskip.trans (advanceInWindow s')

theorem next (s : RowStream κ) : s.Yields s.next.2 := by
  unfold RowStream.next
  split
  · exact refl s
  · have hadvance := advance s
    generalize s.advance = answer at hadvance ⊢
    obtain ⟨⟨e⟩ | _ | _, s'⟩ := answer
    · exact hadvance
    · exact hadvance
    · exact hadvance.trans (.inl ⟨rfl, rfl⟩)

theorem take (s : RowStream κ) (fuel : Nat) : s.Yields (s.take fuel).2 := by
  induction fuel generalizing s with
  | zero => exact refl s
  | succ fuel ih =>
      have hnext := next s
      unfold RowStream.take
      generalize s.next = answer at hnext ⊢
      obtain ⟨_ | item, s'⟩ := answer
      · exact hnext
      · exact hnext.trans (ih s')

theorem collect (s : RowStream Cursor) : s.Yields s.collect.2 := take s _

end Yields

end DataAccess.Streaming.RowStream

/-! ## The connections of a compiled query -/

namespace DataAccess.Execution.CompiledQuery

open Streaming

variable {σ : Type} {src : Source σ}

/-- The connections of the streams of a query. -/
def leases (q : CompiledQuery) : List ConnectionId :=
  q.streams.filterMap (·.lease)

/-- The connections of a query: those of its streams (`leases`) and the idle ones. -/
def held (q : CompiledQuery) : List ConnectionId :=
  q.leases ++ q.pool.idle

/-- The number `openStreams` is the length of `leases`. -/
theorem openStreams_eq_length (q : CompiledQuery) : q.openStreams = q.leases.length :=
  (List.length_filterMap_eq_countP ..).symm

/-- No stream is open if none holds a connection. -/
theorem openStreams_eq_zero_iff (q : CompiledQuery) : q.openStreams = 0 ↔ q.leases = [] := by
  rw [openStreams_eq_length, List.length_eq_zero_iff]

/-- A new stream holds the connection that it reads from. -/
theorem leases_append_stream (q : CompiledQuery) (c : ConnectionId) (cursor : Cursor) :
    leases { q with streams := q.streams ++ [q.prepared.stream c cursor] } = q.leases ++ [c] := by
  rw [leases, List.filterMap_append]
  rfl

/-- Whether the streams of a query are open as long as they hold a connection:
`stream.lease.isSome = !stream.isClosed`. -/
def Attached (q : CompiledQuery) : Prop :=
  ∀ stream ∈ q.streams, stream.lease.isSome = !stream.isClosed

/-- What holds of a compiled query at every moment: no connection is kept idle that nobody can use
any more. -/
structure Tidy (q : CompiledQuery) : Prop where
  /-- Once it is closed it keeps no connection for later. -/
  idle_of_closed : q.pool.closed = true → q.pool.idle = []
  /-- It keeps none either when nobody can use it any more. -/
  idle_of_unreachable : q.handles = 0 → q.leases = [] → q.pool.idle = []
  /-- Its streams are open as long as they hold a connection. -/
  attached : q.Attached

/-- A query that was just compiled is `Tidy`. -/
theorem tidy_new (p : PreparedQuery) : Tidy { prepared := p } :=
  ⟨fun _ => rfl, fun _ _ => rfl, fun _ h => absurd h List.not_mem_nil⟩

/-- Streams that are closed hold no connection. -/
theorem Tidy.leases_eq_nil {q : CompiledQuery} (h : q.Tidy)
    (hstreams : ∀ stream ∈ q.streams, stream.isClosed = true) : q.leases = [] := by
  refine List.filterMap_eq_nil_iff.mpr fun stream hstream => ?_
  have hattached := h.attached stream hstream
  rw [hstreams stream hstream] at hattached
  exact Option.not_isSome_iff_eq_none.mp (by rw [hattached]; decide)

/-- **Nothing is left**: a query that is closed, or that nobody can use any more, has `held = []`
once its streams hold none. -/
theorem Tidy.held_eq_nil {q : CompiledQuery} (h : q.Tidy)
    (hover : q.pool.closed = true ∨ q.handles = 0) (hleases : q.leases = []) : q.held = [] := by
  have hidle : q.pool.idle = [] :=
    hover.elim h.idle_of_closed fun h' => h.idle_of_unreachable h' hleases
  rw [held, hleases, hidle, List.append_nil]

/-- What becomes of a query `q` in `q'`: its pool goes on (`LeasePool.Follows`), its callers are the
same, and its streams stay `Attached`. -/
structure Follows (q q' : CompiledQuery) : Prop where
  /-- What becomes of its pool. -/
  pool : q.pool.Follows q'.pool
  /-- Nobody takes a share in it or drops one. -/
  handles : q'.handles = q.handles
  /-- Its streams are open as long as they hold a connection. -/
  attached : q.Attached → q'.Attached

namespace Follows

theorem refl (q : CompiledQuery) : q.Follows q := ⟨.refl _, rfl, id⟩

theorem trans {q q' q'' : CompiledQuery} (h : q.Follows q') (h' : q'.Follows q'') : q.Follows q'' :=
  ⟨h.pool.trans h'.pool, h'.handles.trans h.handles, fun hq => h'.attached (h.attached hq)⟩

theorem of_pool {q : CompiledQuery} {pool : LeasePool} (h : q.pool.Follows pool) :
    q.Follows { q with pool } := ⟨h, rfl, id⟩

/-- A query that someone holds stays `Tidy`, if `q.Follows q'`. -/
theorem tidy {q q' : CompiledQuery} (h : q.Follows q') (hheld : 0 < q.handles) (hq : q.Tidy) :
    q'.Tidy where
  idle_of_closed := h.pool.idle hq.idle_of_closed
  idle_of_unreachable := fun hnone => absurd (h.handles ▸ hnone) (Nat.ne_of_gt hheld)
  attached := h.attached hq.attached

end Follows

/-- What a function that leads from `before` to `after` does with the connections of a query,
whoever else holds others: the query holds afterwards what it held, what was opened for it and not
what was closed (`Outstanding`). -/
structure Keeps (L : src.Ledger) (before after : CompiledQuery × σ) : Prop where
  /-- The connections that are outstanding are held by the query and by the others. -/
  outstanding : ∀ others, L.Outstanding (others ++ before.1.leases ++ before.1.pool.idle) before.2 →
    L.Outstanding (others ++ after.1.leases ++ after.1.pool.idle) after.2
  /-- It stays tidy. -/
  tidy : before.1.Tidy → after.1.Tidy
  /-- It stays closed. -/
  closed : before.1.pool.closed = true → after.1.pool.closed = true

namespace Keeps

variable {L : src.Ledger}

theorem refl (b : CompiledQuery × σ) : Keeps L b b := ⟨fun _ => id, id, id⟩

theorem trans {b b' b'' : CompiledQuery × σ} (h : Keeps L b b') (h' : Keeps L b' b'') :
    Keeps L b b'' :=
  ⟨fun others hb => h'.outstanding others (h.outstanding others hb), fun hb => h'.tidy (h.tidy hb),
    fun hb => h'.closed (h.closed hb)⟩

end Keeps

/-! ## Executing -/

section Execute

variable (L : src.Ledger) (params : Params) {others : List ConnectionId} {s : σ}

/-- The connection `c` that is lent for an execution goes to the new stream, or back to the pool, or
is closed. -/
theorem executeOn_outstanding {q : CompiledQuery} {c : ConnectionId}
    (h : L.Outstanding (others ++ q.leases ++ c :: q.pool.idle) s) :
    L.Outstanding (others ++ (q.executeOn src params c s).2.1.leases ++
      (q.executeOn src params c s).2.1.pool.idle) (q.executeOn src params c s).2.2 := by
  have hexecuted := h.execute c ⟨q.prepared.sql, params, q.prepared.query⟩
  unfold executeOn
  generalize src.execute c ⟨q.prepared.sql, params, q.prepared.query⟩ s = answer at hexecuted ⊢
  obtain ⟨e | cursor, s'⟩ := answer
  · exact hexecuted.handOver (q.pool.release_perm c)
  · dsimp only
    rw [leases_append_stream]
    simpa only [List.append_assoc, List.singleton_append] using hexecuted

/-- What an execution does to the query besides. -/
theorem follows_executeOn (q : CompiledQuery) (c : ConnectionId) (s : σ) :
    q.Follows (q.executeOn src params c s).2.1 := by
  unfold executeOn
  rcases src.execute c ⟨q.prepared.sql, params, q.prepared.query⟩ s with ⟨e | cursor, s'⟩
  · exact .of_pool (.release q.pool c)
  · refine ⟨.refl _, rfl, fun hq stream hstream => ?_⟩
    rcases List.mem_append.mp hstream with hold | hnew
    · exact hq stream hold
    · rw [List.mem_singleton.mp hnew]
      rfl

/-- The connection that is opened for an execution goes to the new stream, or to the pool, or is
closed. -/
theorem executeOnNew_outstanding {q : CompiledQuery}
    (h : L.Outstanding (others ++ q.leases ++ q.pool.idle) s) :
    L.Outstanding (others ++ (q.executeOnNew src params s).2.1.leases ++
      (q.executeOnNew src params s).2.1.pool.idle) (q.executeOnNew src params s).2.2 := by
  have hopened := h.connect.of_perm (List.perm_append_comm_assoc ..)
  unfold executeOnNew
  generalize src.connect s = answer at hopened ⊢
  obtain ⟨opening, s₁⟩ := answer
  -- The pool may be closed while the connection is opened: its idle connections are closed.
  have hshut := q.pool.closeIf_perm opening.closedMeanwhile
  dsimp only at hopened ⊢
  generalize (if opening.closedMeanwhile then q.pool.close else ([], q.pool)) = shut at hshut ⊢
  obtain ⟨closing, pool₁⟩ := shut
  have hshut := hopened.handOver
    ((List.perm_append_comm_assoc ..).trans (hshut.append_left opening.outcome.toOption.toList))
  -- The lease is settled: what was opened is lent or closed.
  have hsettled := pool₁.complete_perm opening.outcome
  dsimp only at hshut ⊢
  generalize pool₁.complete opening.outcome = settled at hsettled ⊢
  obtain ⟨e | c, late, pool₂⟩ := settled
  · exact hshut.handOver hsettled
  · exact executeOn_outstanding L params (q := { q with pool := pool₂ })
      (hshut.handOver ((List.perm_append_comm_assoc ..).trans hsettled))

/-- What such an execution does to the query besides. -/
theorem follows_executeOnNew (q : CompiledQuery) (s : σ) :
    q.Follows (q.executeOnNew src params s).2.1 := by
  unfold executeOnNew
  generalize src.connect s = answer
  obtain ⟨opening, s₁⟩ := answer
  have hshut := LeasePool.Follows.closeIf q.pool opening.closedMeanwhile
  dsimp only
  generalize (if opening.closedMeanwhile then q.pool.close else ([], q.pool)) = shut at hshut ⊢
  obtain ⟨closing, pool₁⟩ := shut
  have hsettled := hshut.trans (.complete pool₁ opening.outcome)
  dsimp only
  generalize pool₁.complete opening.outcome = settled at hsettled ⊢
  obtain ⟨e | c, late, pool₂⟩ := settled
  · exact .of_pool hsettled
  · exact (Follows.of_pool hsettled).trans (follows_executeOn params _ c _)

/-- What an execution does to the query besides. -/
theorem follows_execute (q : CompiledQuery) (s : σ) : q.Follows (q.execute src params s).2.1 := by
  unfold execute
  split
  · exact .refl q
  split
  · exact .refl q
  have hreserved := LeasePool.Follows.reserve q.pool
  generalize q.pool.reserve = reserved at hreserved ⊢
  obtain ⟨e | c | _, pool⟩ := reserved
  · exact .of_pool hreserved
  · exact (Follows.of_pool hreserved).trans (follows_executeOn params _ c s)
  · exact (Follows.of_pool hreserved).trans (follows_executeOnNew params _ s)

/-- **Executing keeps account of the connections** (`Keeps`), whether or not it succeeds. -/
theorem execute_keeps {q : CompiledQuery} (hheld : 0 < q.handles) (s : σ) :
    Keeps L (q, s) (q.execute src params s).2 where
  outstanding others h := by
    unfold execute
    split
    · exact h
    split
    · exact h
    have hreserved := q.pool.lent_append_idle_reserve
    dsimp only at h
    rw [← hreserved] at h
    generalize q.pool.reserve = reserved at h ⊢
    obtain ⟨e | c | _, pool⟩ := reserved
    · exact h
    · exact executeOn_outstanding L params (q := { q with pool }) h
    · exact executeOnNew_outstanding L params (q := { q with pool }) h
  tidy := (follows_execute params q s).tidy hheld
  closed := (follows_execute params q s).pool.closed

/-- What comes of an execution for the `streams` of a query: one new `PreparedQuery.stream` behind
them if it succeeds, and none if it fails. -/
structure Adds (p : PreparedQuery) (streams : List (RowStream Cursor))
    (answer : Except Error StreamId × CompiledQuery × σ) : Prop where
  /-- No stream comes of a failure. -/
  of_error : ∀ e, answer.1 = .error e → answer.2.1.streams = streams
  /-- One stream comes of a success. -/
  of_ok : ∀ id, answer.1 = .ok id → ∃ c cursor, answer.2.1.streams = streams ++ [p.stream c cursor]

/-- A failure that leaves the streams as they are. -/
theorem adds_error (q : CompiledQuery) (e : Error) (s : σ) :
    Adds q.prepared q.streams (.error e, q, s) :=
  ⟨fun _ _ => rfl, fun _ h => nomatch h⟩

theorem executeOn_adds (q : CompiledQuery) (c : ConnectionId) (s : σ) :
    Adds q.prepared q.streams (q.executeOn src params c s) := by
  unfold executeOn
  rcases src.execute c ⟨q.prepared.sql, params, q.prepared.query⟩ s with ⟨e | cursor, s'⟩
  · exact adds_error { q with pool := (q.pool.release c).2 } e _
  · exact ⟨fun _ h => (nomatch h), fun _ _ => ⟨c, cursor, rfl⟩⟩

theorem executeOnNew_adds (q : CompiledQuery) (s : σ) :
    Adds q.prepared q.streams (q.executeOnNew src params s) := by
  unfold executeOnNew
  dsimp only
  split
  case h_1 c _ pool _ => exact executeOn_adds params { q with pool } c _
  case h_2 e _ pool _ => exact adds_error { q with pool } e _

theorem execute_adds (q : CompiledQuery) (s : σ) :
    Adds q.prepared q.streams (q.execute src params s) := by
  unfold execute
  split
  · exact adds_error q _ s
  split
  · exact adds_error q _ s
  rcases q.pool.reserve with ⟨e | c | _, pool⟩
  · exact adds_error { q with pool } e s
  · exact executeOn_adds params { q with pool } c s
  · exact executeOnNew_adds params { q with pool } s

end Execute

/-! ## Closing, sharing and dropping -/

section Closing

variable (L : src.Ledger)

/-- **Closing a query keeps account of the connections** (`Keeps`). -/
theorem close_keeps (q : CompiledQuery) (s : σ) : Keeps L (q, s) (q.close src s) where
  outstanding others h := h.handOver q.pool.close_perm
  tidy hq := by
    have hidle : q.pool.close.2.idle = [] :=
      (LeasePool.Follows.close q.pool).idle hq.idle_of_closed q.pool.closed_close
    exact ⟨fun _ => hidle, fun _ _ => hidle, hq.attached⟩
  closed := (LeasePool.Follows.close q.pool).closed

/-- One more caller changes nothing for the connections. -/
theorem share_keeps (q : CompiledQuery) (s : σ) : Keeps L (q, s) (q.share, s) where
  outstanding _ h := h
  tidy hq := ⟨hq.idle_of_closed, fun hnone => absurd hnone (Nat.succ_ne_zero _), hq.attached⟩
  closed := id

/-- Idle connections that nobody can use any more are closed (`reap`), and are no longer held. -/
theorem reap_outstanding {q : CompiledQuery} {s : σ} {others : List ConnectionId}
    (h : L.Outstanding (others ++ q.leases ++ q.pool.idle) s) :
    L.Outstanding (others ++ (q.reap src s).1.leases ++ (q.reap src s).1.pool.idle)
      (q.reap src s).2 := by
  unfold reap
  split
  · exact h.handOver q.pool.drop_perm
  · exact h

/-- A query from which the idle connections that nobody can use were taken is tidy. -/
theorem tidy_reap {q : CompiledQuery} (hclosed : q.pool.closed = true → q.pool.idle = [])
    (hattached : q.Attached) (s : σ) : (q.reap src s).1.Tidy := by
  unfold reap
  split
  case isTrue => exact ⟨fun _ => rfl, fun _ _ => rfl, hattached⟩
  case isFalse hused =>
    exact ⟨hclosed, fun hnone hleases =>
      absurd ⟨hnone, q.openStreams_eq_zero_iff.mpr hleases⟩ hused,
      hattached⟩

/-- Such a query is closed as before. -/
theorem closed_reap (q : CompiledQuery) (s : σ) : (q.reap src s).1.pool.closed = q.pool.closed := by
  unfold reap
  split <;> rfl

/-- The streams of such a query are as before. -/
theorem streams_reap (q : CompiledQuery) (s : σ) : (q.reap src s).1.streams = q.streams := by
  unfold reap
  split <;> rfl

/-- **Dropping a query keeps account of the connections** (`Keeps`). -/
theorem dropHandle_keeps (q : CompiledQuery) (s : σ) : Keeps L (q, s) (q.dropHandle src s) where
  outstanding _ h := reap_outstanding L (q := { q with handles := q.handles - 1 }) h
  tidy hq := tidy_reap (q := { q with handles := q.handles - 1 }) hq.idle_of_closed hq.attached s
  closed h := (closed_reap { q with handles := q.handles - 1 } s).trans h

end Closing

/-! ## Using a stream -/

section UseStream

variable (L : src.Ledger) {α : Type} {id : StreamId} {use : RowStream Cursor → α × RowStream Cursor}
    {q : CompiledQuery} {stream : RowStream Cursor}

/-- The query `q` when its stream `id` has become `used`. -/
def putStream (q : CompiledQuery) (id : StreamId) (used : RowStream Cursor) : CompiledQuery :=
  { q with streams := q.streams.set id used }

/-- The connections of the streams when one was used: that of `used` in the place of that of
`stream`. -/
theorem leases_putStream_perm (hi : q.streams[id]? = some stream) (used : RowStream Cursor) :
    (stream.lease.toList ++ (q.putStream id used).leases).Perm (used.lease.toList ++ q.leases) := by
  have hold := filterMap_perm_eraseIdx (fun st : RowStream Cursor => st.lease) hi
  have hnew := filterMap_set_perm (fun st : RowStream Cursor => st.lease) hi used
  have hboth := (hnew.append_left stream.lease.toList).trans (List.perm_append_comm_assoc ..)
  exact hboth.trans (hold.symm.append_left used.lease.toList)

/-- The streams are open as long as they hold a connection when one was used. -/
theorem attached_putStream (hi : q.streams[id]? = some stream) {used : RowStream Cursor}
    (hused : stream.Yields used) (hq : q.Attached) : (q.putStream id used).Attached := by
  intro st hst
  rcases List.mem_or_eq_of_mem_set hst with hother | rfl
  · exact hq st hother
  · exact hused.attached (hq stream (List.mem_of_getElem? hi))

/-- For a stream that keeps its connection, `useStream` is `putStream`, and the source stays as it
is. -/
theorem useStream_of_lease_eq (hi : q.streams[id]? = some stream)
    (hlease : (use stream).2.lease = stream.lease) (s : σ) :
    (q.useStream src id use s).2 = (q.putStream id (use stream).2, s) := by
  simp only [useStream, hi, hlease]
  cases stream.lease <;> rfl

/-- For a stream that gives its connection `c` up, `useStream` is `putStream`, then
`LeasePool.release`, then `reap`. -/
theorem useStream_of_lease_none {c : ConnectionId} (hi : q.streams[id]? = some stream)
    (hlease : stream.lease = some c) (hused : (use stream).2.lease = none) (s : σ) :
    (q.useStream src id use s).2 =
      reap src { q.putStream id (use stream).2 with pool := (q.pool.release c).2 }
        (src.closeAll (q.pool.release c).1 s) := by
  simp only [useStream, hi, hlease, hused]
  rfl

/-- A stream that keeps its connection keeps account of it. -/
theorem putStream_keeps (hi : q.streams[id]? = some stream) {used : RowStream Cursor}
    (hused : stream.Yields used) (hlease : used.lease = stream.lease) (s : σ) :
    Keeps L (q, s) (q.putStream id used, s) := by
  have hleases := leases_putStream_perm hi used
  rw [hlease, List.perm_append_left_iff] at hleases
  exact {
    outstanding := fun others h => h.of_perm ((hleases.symm.append_left others).append_right _)
    tidy := fun hq => ⟨hq.idle_of_closed,
      fun hnone hput => hq.idle_of_unreachable hnone (hput ▸ hleases.symm).eq_nil,
      attached_putStream hi hused hq.attached⟩
    closed := fun h => h }

/-- A stream that gives its connection up gives it back to the pool. -/
theorem release_keeps {c : ConnectionId} (hi : q.streams[id]? = some stream)
    {used : RowStream Cursor} (hused : stream.Yields used) (hlease : stream.lease = some c)
    (hnone : used.lease = none) (s : σ) :
    Keeps L (q, s) (reap src { q.putStream id used with pool := (q.pool.release c).2 }
      (src.closeAll (q.pool.release c).1 s)) := by
  have hleases := leases_putStream_perm hi used
  rw [hlease, hnone] at hleases
  have hpool := LeasePool.Follows.release q.pool c
  exact {
    outstanding := fun others h => by
      have hgiven : (others ++ q.leases ++ q.pool.idle).Perm
          (others ++ (q.putStream id used).leases ++ c :: q.pool.idle) := by
        rw [List.append_assoc, List.append_assoc]
        exact ((hleases.symm.append_right q.pool.idle).trans List.perm_middle.symm).append_left
          others
      exact reap_outstanding L ((h.of_perm hgiven).handOver (q.pool.release_perm c))
    tidy := fun hq => tidy_reap (q := { q.putStream id used with pool := (q.pool.release c).2 })
      (hpool.idle hq.idle_of_closed) (attached_putStream hi hused hq.attached) _
    closed := fun h => (closed_reap _ _).trans (hpool.closed h) }

/-- The streams of a query when one was used. -/
theorem streams_useStream (hi : q.streams[id]? = some stream)
    (hused : stream.Yields (use stream).2) (s : σ) :
    (q.useStream src id use s).2.1.streams = q.streams.set id (use stream).2 := by
  rcases hused.lease_cases with hsame | ⟨c, hlease, hnone⟩
  · rw [useStream_of_lease_eq hi hsame]
    rfl
  · rw [useStream_of_lease_none hi hlease hnone]
    exact streams_reap ..

/-- **Using a stream keeps account of the connections** (`Keeps`), if what is done with it always
`Yields`. -/
theorem useStream_keeps (huse : ∀ stream : RowStream Cursor, stream.Yields (use stream).2)
    (q : CompiledQuery) (id : StreamId) (s : σ) : Keeps L (q, s) (q.useStream src id use s).2 := by
  cases hi : q.streams[id]? with
  | none =>
      simp only [useStream, hi]
      exact .refl _
  | some stream =>
      rcases (huse stream).lease_cases with hsame | ⟨c, hlease, hnone⟩
      · rw [useStream_of_lease_eq hi hsame]
        exact putStream_keeps L hi (huse stream) hsame s
      · rw [useStream_of_lease_none hi hlease hnone]
        exact release_keeps L hi (huse stream) hlease hnone s

end UseStream

end DataAccess.Execution.CompiledQuery
