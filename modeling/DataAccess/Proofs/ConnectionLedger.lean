import DataAccess.Execution.Scripted
import DataAccess.Memory.Store
import DataAccess.Proofs.ConnectionCustody

/-!
# Connection ledgers: the books of a source, and what a pool does with them

What is done with the connections of a source is told by its books: a `Source.Ledger` says which
connections were opened and which were closed, one entry for each call. The only thing that it asks
of a source is that a connection that opens is a new one. A source that does not remember what was
closed has a ledger when the calls are noted beside it (`Source.noting`, `Source.Numbering.ledger`).

* **Outstanding connections** (`Source.Ledger.Outstanding`): the connections that were opened and
  not closed are those in certain hands, each once. Opening, executing and closing say whose hands
  these are afterwards (`Outstanding.connect`, `Outstanding.execute`, `Outstanding.closeAll`).
* **The functions of a pool** (`LeasePool.release_perm` and the others): each hands connections
  around and loses none, so that what it gives up can be closed (`Outstanding.handOver`).
* **Once closed** (`LeasePool.Follows`): a pool stays closed, and keeps no connection then.
-/

namespace DataAccess.Execution

open Catalog Streaming

variable {σ : Type}

/-! ## The books of a source -/

/-- How a source numbers its connections: `opened s` are those it has opened so far, and one that
opens is new. -/
structure Source.Numbering (src : Source σ) where
  /-- The connections that were opened. -/
  opened : σ → List ConnectionId
  /-- A connection that opens was not opened before. -/
  fresh : ∀ s c, (src.connect s).1.outcome = .ok c → c ∉ opened s
  /-- What opens is opened. -/
  opened_connect : ∀ s, opened (src.connect s).2 = opened s ++
    (src.connect s).1.outcome.toOption.toList
  /-- Executing a statement opens nothing. -/
  opened_execute : ∀ c statement s, opened (src.execute c statement s).2 = opened s
  /-- Closing a connection opens nothing. -/
  opened_close : ∀ c s, opened (src.close c s) = opened s

/-- The books of a source on its connections: what it has opened (`Numbering`), and `closed s` with
an entry for each call of `close`. -/
structure Source.Ledger (src : Source σ) extends src.Numbering where
  /-- The connections that were closed, with an entry for each call. -/
  closed : σ → List ConnectionId
  /-- Opening a connection closes nothing. -/
  closed_connect : ∀ s, closed (src.connect s).2 = closed s
  /-- Executing a statement closes nothing. -/
  closed_execute : ∀ c statement s, closed (src.execute c statement s).2 = closed s
  /-- Every call that closes a connection is noted. -/
  closed_close : ∀ c s, closed (src.close c s) = closed s ++ [c]

/-- The books of a source that follows a script: `List.range s.opened`, and the `closed` events. -/
def ScriptedSource.ledger : ScriptedSource.source.Ledger where
  opened s := List.range s.opened
  closed s := s.events.reverse.filterMap fun
    | .closed c => some c
    | _ => none
  fresh s c := by
    intro h
    simp only [source, connect] at h
    split at h <;> cases h <;> simp
  opened_connect s := by
    simp only [source, connect]
    split <;> simp [accept, record, Except.toOption, List.range_succ]
  opened_execute _ _ _ := rfl
  opened_close _ _ := rfl
  closed_connect s := by
    simp only [source, connect]
    split <;> simp [accept, record]
  closed_execute _ _ _ := by simp [source, execute, record]
  closed_close _ _ := by simp [source, record]

/-- How a store of rows in memory numbers its connections. It does not remember what was closed. -/
def storeNumbering : Memory.Store.source.Numbering where
  opened s := List.range s.opened
  fresh s c := by
    rintro ⟨⟩
    exact List.not_mem_range_self
  opened_connect s := by simp [Memory.Store.source, Except.toOption, List.range_succ]
  opened_execute _ _ _ := rfl
  opened_close _ _ := rfl

/-- A source with the calls that close its connections noted beside its state. So a `Numbering` is
enough for a `Ledger` (`Source.Numbering.ledger`). -/
def Source.noting (src : Source σ) : Source (σ × List ConnectionId) where
  product s := src.product s.1
  answer call site :=
    let (reply, inner) := src.answer call ⟨site.registry, site.source.1⟩
    (reply, ⟨inner.registry, inner.source, site.source.2⟩)
  connect s := ((src.connect s.1).1, (src.connect s.1).2, s.2)
  execute c statement s := ((src.execute c statement s.1).1, (src.execute c statement s.1).2, s.2)
  close c s := (src.close c s.1, s.2 ++ [c])
  update u s := ((src.update u s.1).1, (src.update u s.1).2, s.2)

/-- The books of a source whose closings are noted beside it. -/
def Source.Numbering.ledger {src : Source σ} (n : src.Numbering) : src.noting.Ledger where
  opened s := n.opened s.1
  closed s := s.2
  fresh s := n.fresh s.1
  opened_connect s := n.opened_connect s.1
  opened_execute c statement s := n.opened_execute c statement s.1
  opened_close c s := n.opened_close c s.1
  closed_connect _ := rfl
  closed_execute _ _ _ := rfl
  closed_close _ _ := rfl

/-! ## Outstanding connections -/

namespace Source.Ledger

variable {src : Source σ} (L : src.Ledger)

/-- Whether certain hands hold the connections that were opened and not closed, each once, and
none was closed twice: `held ++ L.closed s` is a permutation of `L.opened s`, which has no
repetitions. -/
structure Outstanding (held : List ConnectionId) (s : σ) : Prop where
  /-- No connection was opened twice. -/
  nodup : (L.opened s).Nodup
  /-- What was opened is held or was closed. -/
  perm : (held ++ L.closed s).Perm (L.opened s)

namespace Outstanding

variable {L} {held held' : List ConnectionId} {s : σ}

/-- It does not matter in what order the hands are named. -/
theorem of_perm (h : L.Outstanding held s) (hperm : held.Perm held') : L.Outstanding held' s :=
  ⟨h.nodup, (hperm.symm.append_right _).trans h.perm⟩

/-- No connection is held twice, or closed twice, or held and closed: `held ++ L.closed s` has no
repetitions. -/
theorem nodup_append (h : L.Outstanding held s) : (held ++ L.closed s).Nodup :=
  h.perm.nodup_iff.mpr h.nodup

/-- A connection that opens is in the hands of the one who asked for it: `Outstanding` with it in
front of `held`. -/
theorem connect (h : L.Outstanding held s) :
    L.Outstanding ((src.connect s).1.outcome.toOption.toList ++ held) (src.connect s).2 where
  nodup := by
    rw [L.opened_connect]
    cases hc : (src.connect s).1.outcome with
    | error => simpa [Except.toOption] using h.nodup
    | ok c =>
        refine List.nodup_append.mpr ⟨h.nodup, List.pairwise_singleton _ c, ?_⟩
        rintro a ha b hb rfl
        exact L.fresh s c hc (List.mem_singleton.mp hb ▸ ha)
  perm := by
    rw [L.opened_connect, L.closed_connect, List.append_assoc]
    exact (h.perm.append_left _).trans List.perm_append_comm

/-- Executing a statement moves no connection. -/
theorem execute (h : L.Outstanding held s) (c : ConnectionId) (statement : Statement) :
    L.Outstanding held (src.execute c statement s).2 where
  nodup := by rw [L.opened_execute]; exact h.nodup
  perm := by rw [L.opened_execute, L.closed_execute]; exact h.perm

/-- A connection that is closed leaves the hands that held it. -/
theorem close {c : ConnectionId} (h : L.Outstanding (c :: held) s) :
    L.Outstanding held (src.close c s) where
  nodup := by rw [L.opened_close]; exact h.nodup
  perm := by
    rw [L.opened_close, L.closed_close, ← List.append_assoc]
    exact (List.perm_append_singleton c _).trans h.perm

/-- Connections that are closed one after another (`Source.closeAll`) leave the hands that held
them. -/
theorem closeAll {closing : List ConnectionId} (h : L.Outstanding (closing ++ held) s) :
    L.Outstanding held (src.closeAll closing s) := by
  induction closing generalizing s with
  | nil => exact h
  | cons c closing ih => exact ih (close h)

/-- What someone gives up of what they held is closed: `kept` becomes `kept'`, and `closing` is the
rest. -/
theorem handOver {closing kept kept' : List ConnectionId} (h : L.Outstanding (held ++ kept) s)
    (hperm : (closing ++ kept').Perm kept) :
    L.Outstanding (held ++ kept') (src.closeAll closing s) := by
  have hmoved := List.perm_append_comm_assoc held closing kept'
  exact closeAll (h.of_perm ((hperm.symm.append_left held).trans hmoved))

end Outstanding

end Source.Ledger

/-! ## The functions of a pool -/

namespace LeasePool

/-- The connections that a reservation lends: the one that was idle, if it is `reused`. -/
def lent : Except Error Reservation → List ConnectionId
  | .ok (.reused c) => [c]
  | _ => []

/-- A connection that is lent again was idle. -/
theorem lent_append_idle_reserve (p : LeasePool) :
    lent p.reserve.1 ++ p.reserve.2.idle = p.idle := by
  unfold reserve
  split
  · rfl
  · split
    case h_1 hidle => exact hidle.symm
    case h_2 => rfl

/-- A connection whose lease ends is given up or idle, by `LeasePool.release`. -/
theorem release_perm (p : LeasePool) (c : ConnectionId) :
    ((p.release c).1 ++ (p.release c).2.idle).Perm (c :: p.idle) := by
  unfold release
  split <;> exact List.Perm.refl _

/-- The idle connections of a pool that is closed are given up. -/
theorem close_perm (p : LeasePool) : (p.close.1 ++ p.close.2.idle).Perm p.idle := by
  unfold close
  split
  · exact List.Perm.refl _
  · exact (List.append_nil _).symm ▸ List.reverse_perm _

/-- The idle connections of a pool are given up if it is closed. -/
theorem closeIf_perm (p : LeasePool) (closes : Bool) :
    ((if closes then p.close else ([], p)).1 ++ (if closes then p.close else ([], p)).2.idle).Perm
      p.idle := by
  cases closes with
  | true => exact p.close_perm
  | false => exact List.Perm.refl _

/-- The idle connections of a pool that is dropped are given up. -/
theorem drop_perm (p : LeasePool) : (p.drop.1 ++ p.drop.2.idle).Perm p.idle :=
  (List.append_nil _).symm ▸ List.reverse_perm _

/-- A connection that was opened is lent or given up, by `LeasePool.complete`. -/
theorem complete_perm (p : LeasePool) (outcome : Except Error ConnectionId) :
    ((p.complete outcome).1.toOption.toList ++
      ((p.complete outcome).2.1 ++ (p.complete outcome).2.2.idle)).Perm
      (outcome.toOption.toList ++ p.idle) := by
  unfold complete
  cases outcome with
  | error => exact List.Perm.refl _
  | ok c => dsimp only; split <;> exact List.Perm.refl _

/-- What becomes of a pool `p` in `p'`: once closed it stays closed, and it keeps no connection
then. -/
structure Follows (p p' : LeasePool) : Prop where
  /-- It stays closed. -/
  closed : p.closed = true → p'.closed = true
  /-- If it keeps no connection once it is closed, it goes on so. -/
  idle : (p.closed = true → p.idle = []) → p'.closed = true → p'.idle = []

namespace Follows

theorem refl (p : LeasePool) : p.Follows p := ⟨id, id⟩

theorem trans {p p' p'' : LeasePool} (h : p.Follows p') (h' : p'.Follows p'') : p.Follows p'' :=
  ⟨fun hp => h'.closed (h.closed hp), fun hp => h'.idle (h.idle hp)⟩

theorem reserve (p : LeasePool) : p.Follows p.reserve.2 := by
  unfold LeasePool.reserve
  split
  case isTrue => exact refl p
  case isFalse hopen =>
    split <;> exact ⟨fun h => absurd h hopen, fun _ h => absurd h hopen⟩

theorem complete (p : LeasePool) (outcome : Except Error ConnectionId) :
    p.Follows (p.complete outcome).2.2 := by
  unfold LeasePool.complete
  cases outcome with
  | error => exact ⟨id, id⟩
  | ok c => dsimp only; split <;> exact ⟨id, id⟩

theorem release (p : LeasePool) (c : ConnectionId) : p.Follows (p.release c).2 := by
  unfold LeasePool.release
  split
  case isTrue => exact ⟨id, id⟩
  case isFalse hopen => exact ⟨fun h => absurd h hopen, fun _ h => absurd h hopen⟩

theorem close (p : LeasePool) : p.Follows p.close.2 := by
  unfold LeasePool.close
  split
  · exact refl p
  · exact ⟨fun _ => rfl, fun _ _ => rfl⟩

theorem closeIf (p : LeasePool) (closes : Bool) :
    p.Follows (if closes then p.close else ([], p)).2 := by
  cases closes with
  | true => exact close p
  | false => exact refl p

end Follows

/-- Closing a pool closes it. -/
theorem closed_close (p : LeasePool) : p.close.2.closed = true := by
  unfold close
  split
  case isTrue h => exact h
  case isFalse => rfl

end LeasePool

end DataAccess.Execution
