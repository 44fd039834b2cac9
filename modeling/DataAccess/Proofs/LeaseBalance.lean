import DataAccess.Execution.LeasePool
import Mathlib.Data.List.Basic

/-!
# Lease balance: the counters of a pool under concurrent use

`LeaseSystem` is a pool together with everybody who uses it: the acquires that have set a lease
aside and wait for their connection, and the leases that were granted. A `LeaseEvent` is one
critical section of one of them, or the moment when a connection is opened or refused, which no lock
covers. A run is any list of events, so all interleavings of any number of callers are runs.

* **What a step can do** (`LeaseStep`, `step_eq_or_leaseStep`): an event either is not possible, and
  changes nothing, or it is one of ten transitions. Whatever holds along all runs is shown by cases
  of `LeaseStep`.
* **The balance** (`Balanced`, `balanced_run`): every lease that is active belongs to an acquire
  under way or to a granted lease, and every connection that counts as created is active, idle or
  destroyed. A connection is counted from the moment its lease is set aside; if it cannot be opened
  it is taken off again, and never counts as destroyed.
* **The counters always balance** (`counters_balance`), and nothing is taken off a counter that is
  zero.
-/

namespace DataAccess.Execution

/-! ## Pools in use -/

/-- A pool and those who use it. The pool counts leases in `active`; here the acquires under way and
the leases that were granted are listed, which is what the counts are about. -/
structure LeaseSystem where
  /-- The pool. -/
  pool : LeasePool := {}
  /-- The acquires that wait for a connection, each with what came of opening it, once it did. -/
  acquiring : List (Option (Except Error ConnectionId)) := []
  /-- The connections of the leases that were granted and have not ended. -/
  leased : List ConnectionId := []
  /-- The number of connections that were opened, which is also the identity of the next. -/
  opened : Nat := 0
  /-- The connections that were given up to be closed, in order. -/
  discarded : List ConnectionId := []
deriving Inhabited

/-- One atomic step of one of the users of a pool. Between `reserve` and `complete` of one user
there may be steps of others. -/
inductive LeaseEvent where
  /-- Someone begins to acquire a lease. -/
  | reserve
  /-- An acquire that waits is told that its connection is open, or why it is not. -/
  | connect (i : Nat) (refusal : Option Error)
  /-- An acquire that was told is settled. -/
  | complete (i : Nat)
  /-- The lease of a connection ends. -/
  | release (c : ConnectionId)
  /-- Someone closes the pool. -/
  | close

namespace LeaseSystem

/-- Takes one step, by `LeasePool.reserve`, `complete`, `release` and `close`. What is not possible
changes nothing. -/
def step (s : LeaseSystem) : LeaseEvent → LeaseSystem
  | .reserve =>
      match s.pool.reserve with
      | (.ok (.reused c), pool) => { s with pool, leased := c :: s.leased }
      | (.ok .opening, pool) => { s with pool, acquiring := s.acquiring ++ [none] }
      | (.error _, pool) => { s with pool }
  | .connect i refusal =>
      match s.acquiring[i]?, refusal with
      | some none, none =>
          { s with acquiring := s.acquiring.set i (some (.ok s.opened)), opened := s.opened + 1 }
      | some none, some e => { s with acquiring := s.acquiring.set i (some (.error e)) }
      | _, _ => s
  | .complete i =>
      match s.acquiring[i]? with
      | some (some outcome) =>
          let acquiring := s.acquiring.eraseIdx i
          match s.pool.complete outcome with
          | (.ok c, closing, pool) =>
              { s with pool, acquiring, leased := c :: s.leased, discarded :=
                s.discarded ++ closing }
          | (.error _, closing, pool) =>
              { s with pool, acquiring, discarded := s.discarded ++ closing }
      | _ => s
  | .release c =>
      if c ∈ s.leased then
        let (closing, pool) := s.pool.release c
        { s with pool, leased := s.leased.erase c, discarded := s.discarded ++ closing }
      else s
  | .close =>
      let (closing, pool) := s.pool.close
      { s with pool, discarded := s.discarded ++ closing }

/-- Takes steps one after another. -/
def run (s : LeaseSystem) (es : List LeaseEvent) : LeaseSystem := es.foldl step s

end LeaseSystem

/-! ## What a step can do -/

/-- The transitions of a pool in use: what `step` can do, one constructor for each outcome, with its
guards. -/
inductive LeaseStep : LeaseSystem → LeaseSystem → Prop where
  /-- An idle connection is lent again. -/
  | reuse {s : LeaseSystem} {c : ConnectionId} {rest : List ConnectionId}
      (hopen : s.pool.closed = false) (hidle : s.pool.idle = c :: rest) :
      LeaseStep s { s with
        pool := { s.pool with active := s.pool.active + 1, idle := rest }
        leased := c :: s.leased }
  /-- A lease is set aside for a new connection. -/
  | setAside {s : LeaseSystem} (hopen : s.pool.closed = false) (hidle : s.pool.idle = []) :
      LeaseStep s { s with
        pool := { s.pool with active := s.pool.active + 1, created := s.pool.created + 1 }
        acquiring := s.acquiring ++ [none] }
  /-- A connection is opened. -/
  | connected {s : LeaseSystem} {i : Nat} (hi : s.acquiring[i]? = some none) :
      LeaseStep s { s with
        acquiring := s.acquiring.set i (some (.ok s.opened))
        opened := s.opened + 1 }
  /-- A connection is refused. -/
  | refused {s : LeaseSystem} {i : Nat} {e : Error} (hi : s.acquiring[i]? = some none) :
      LeaseStep s { s with acquiring := s.acquiring.set i (some (.error e)) }
  /-- A new connection is lent. -/
  | granted {s : LeaseSystem} {i : Nat} {c : ConnectionId} (hopen : s.pool.closed = false)
      (hi : s.acquiring[i]? = some (some (.ok c))) :
      LeaseStep s { s with
        acquiring := s.acquiring.eraseIdx i
        leased := c :: s.leased }
  /-- A new connection comes too late, since the pool was closed while it was opened. -/
  | tooLate {s : LeaseSystem} {i : Nat} {c : ConnectionId} (hclosed : s.pool.closed = true)
      (hi : s.acquiring[i]? = some (some (.ok c))) :
      LeaseStep s { s with
        pool := { s.pool with active := s.pool.active - 1, destroyed := s.pool.destroyed + 1 }
        acquiring := s.acquiring.eraseIdx i
        discarded := s.discarded ++ [c] }
  /-- A lease is taken back, since its connection was refused. -/
  | failed {s : LeaseSystem} {i : Nat} {e : Error}
      (hi : s.acquiring[i]? = some (some (.error e))) :
      LeaseStep s { s with
        pool := { s.pool with active := s.pool.active - 1, created := s.pool.created - 1 }
        acquiring := s.acquiring.eraseIdx i }
  /-- A lease ends, and its connection is idle. -/
  | returned {s : LeaseSystem} {c : ConnectionId} (hopen : s.pool.closed = false)
      (hc : c ∈ s.leased) :
      LeaseStep s { s with
        pool := { s.pool with active := s.pool.active - 1, idle := c :: s.pool.idle }
        leased := s.leased.erase c }
  /-- A lease ends in a closed pool, and its connection with it. -/
  | destroyed {s : LeaseSystem} {c : ConnectionId} (hclosed : s.pool.closed = true)
      (hc : c ∈ s.leased) :
      LeaseStep s { s with
        pool := { s.pool with active := s.pool.active - 1, destroyed := s.pool.destroyed + 1 }
        leased := s.leased.erase c
        discarded := s.discarded ++ [c] }
  /-- The pool is closed, with its idle connections. -/
  | shut {s : LeaseSystem} (hopen : s.pool.closed = false) :
      LeaseStep s { s with
        pool := { s.pool with
          idle := []
          destroyed := s.pool.destroyed + s.pool.idle.length
          closed := true }
        discarded := s.discarded ++ s.pool.idle.reverse }

namespace LeaseSystem

/-- **What a step can do**: `s.step e` is `s`, or a `LeaseStep` leads to it. -/
theorem step_eq_or_leaseStep (s : LeaseSystem) (e : LeaseEvent) :
    s.step e = s ∨ LeaseStep s (s.step e) := by
  cases e with
  | reserve =>
      cases hclosed : s.pool.closed with
      | true => exact .inl (by simp [step, LeasePool.reserve, hclosed])
      | false =>
          right
          cases hidle : s.pool.idle with
          | nil =>
              simpa [step, LeasePool.reserve, hclosed, hidle] using LeaseStep.setAside hclosed hidle
          | cons c rest =>
              simpa [step, LeasePool.reserve, hclosed, hidle] using LeaseStep.reuse hclosed hidle
  | connect i refusal =>
      rcases hi : s.acquiring[i]? with _ | _ | outcome
      · exact .inl (by simp [step, hi])
      · right
        cases refusal with
        | none => simpa [step, hi] using LeaseStep.connected hi
        | some e => simpa [step, hi] using LeaseStep.refused hi
      · exact .inl (by simp [step, hi])
  | complete i =>
      rcases hi : s.acquiring[i]? with _ | _ | _ | c
      · exact .inl (by simp [step, hi])
      · exact .inl (by simp [step, hi])
      · right
        simpa [step, hi, LeasePool.complete] using LeaseStep.failed hi
      · right
        cases hclosed : s.pool.closed with
        | true => simpa [step, hi, LeasePool.complete, hclosed] using LeaseStep.tooLate hclosed hi
        | false => simpa [step, hi, LeasePool.complete, hclosed] using LeaseStep.granted hclosed hi
  | release c =>
      by_cases hc : c ∈ s.leased
      · right
        cases hclosed : s.pool.closed with
        | true => simpa [step, hc, LeasePool.release, hclosed] using LeaseStep.destroyed hclosed hc
        | false => simpa [step, hc, LeasePool.release, hclosed] using LeaseStep.returned hclosed hc
      · exact .inl (by simp [step, hc])
  | close =>
      cases hclosed : s.pool.closed with
      | true => exact .inl (by simp [step, LeasePool.close, hclosed])
      | false =>
          right
          simpa [step, LeasePool.close, hclosed] using LeaseStep.shut hclosed

/-- What every `LeaseStep` keeps holds along every run. -/
theorem run_induction {P : LeaseSystem → Prop} (h : ∀ {s s'}, LeaseStep s s' → P s → P s')
    {s : LeaseSystem} (hs : P s) (es : List LeaseEvent) : P (s.run es) := by
  refine List.foldlRecOn es step hs ?_
  intro t ht e _
  rcases t.step_eq_or_leaseStep e with heq | hstep
  · rwa [heq]
  · exact h hstep ht

/-! ## The balance -/

/-- Whether the counters of a pool agree with each other and with those who use it: `active` are the
acquires under way and the leases, and `created = destroyed + active + idle.length`. -/
structure Balanced (s : LeaseSystem) : Prop where
  /-- A lease is active for an acquire under way, or granted. -/
  active_eq : s.pool.active = s.acquiring.length + s.leased.length
  /-- A connection that counts as created is destroyed, active or idle. -/
  created_eq : s.pool.created = s.pool.destroyed + s.pool.active + s.pool.idle.length
  /-- A closed pool has no idle connections. -/
  idle_of_closed : s.pool.closed = true → s.pool.idle = []

/-- A new pool is balanced. -/
theorem balanced_new : Balanced {} := ⟨rfl, rfl, fun _ => rfl⟩

/-- The acquire that is settled was one of those under way. -/
theorem length_acquiring_eraseIdx {s : LeaseSystem} {i : Nat}
    {told : Option (Except Error ConnectionId)} (hi : s.acquiring[i]? = some told) :
    (s.acquiring.eraseIdx i).length + 1 = s.acquiring.length := by
  obtain ⟨hlt, -⟩ := List.getElem?_eq_some_iff.mp hi
  exact List.length_eraseIdx_add_one hlt

/-- The step lemma: every `LeaseStep` keeps a system `Balanced`. -/
theorem balanced_of_leaseStep {s s' : LeaseSystem} (hstep : LeaseStep s s') (hs : Balanced s) :
    Balanced s' := by
  obtain ⟨hactive, hcreated, hidle⟩ := hs
  -- An acquire or a lease that ends was one of those counted, so the truncated differences are
  -- exact.
  cases hstep with
  | @reuse c rest hopen hc =>
      rw [hc, List.length_cons] at hcreated
      refine ⟨?_, ?_, by simp [hopen]⟩
      · show s.pool.active + 1 = s.acquiring.length + (s.leased.length + 1)
        omega
      · show s.pool.created = s.pool.destroyed + (s.pool.active + 1) + rest.length
        omega
  | setAside hopen hnone =>
      refine ⟨?_, ?_, hidle⟩
      · show s.pool.active + 1 = (s.acquiring ++ [none]).length + s.leased.length
        rw [List.length_append, List.length_singleton]
        omega
      · show s.pool.created + 1 = s.pool.destroyed + (s.pool.active + 1) + s.pool.idle.length
        omega
  | connected hi => exact ⟨by rw [List.length_set]; exact hactive, hcreated, hidle⟩
  | refused hi => exact ⟨by rw [List.length_set]; exact hactive, hcreated, hidle⟩
  | granted hopen hi =>
      have hsettled := length_acquiring_eraseIdx hi
      refine ⟨?_, hcreated, hidle⟩
      show s.pool.active = (s.acquiring.eraseIdx _).length + (s.leased.length + 1)
      omega
  | tooLate hclosed hi =>
      have hsettled := length_acquiring_eraseIdx hi
      refine ⟨?_, ?_, hidle⟩
      · show s.pool.active - 1 = (s.acquiring.eraseIdx _).length + s.leased.length
        omega
      · show s.pool.created = s.pool.destroyed + 1 + (s.pool.active - 1) + s.pool.idle.length
        omega
  | failed hi =>
      have hsettled := length_acquiring_eraseIdx hi
      refine ⟨?_, ?_, hidle⟩
      · show s.pool.active - 1 = (s.acquiring.eraseIdx _).length + s.leased.length
        omega
      · show s.pool.created - 1 = s.pool.destroyed + (s.pool.active - 1) + s.pool.idle.length
        omega
  | returned hopen hc =>
      have hended := List.length_erase_add_one hc
      refine ⟨?_, ?_, by simp [hopen]⟩
      · show s.pool.active - 1 = s.acquiring.length + (s.leased.erase _).length
        omega
      · show s.pool.created = s.pool.destroyed + (s.pool.active - 1) + (s.pool.idle.length + 1)
        omega
  | destroyed hclosed hc =>
      have hended := List.length_erase_add_one hc
      refine ⟨?_, ?_, hidle⟩
      · show s.pool.active - 1 = s.acquiring.length + (s.leased.erase _).length
        omega
      · show s.pool.created = s.pool.destroyed + 1 + (s.pool.active - 1) + s.pool.idle.length
        omega
  | shut hopen =>
      refine ⟨hactive, ?_, fun _ => rfl⟩
      show s.pool.created = s.pool.destroyed + s.pool.idle.length + s.pool.active + 0
      omega

/-- **The balance**: a pool is `Balanced` at every moment of every run. -/
theorem balanced_run (es : List LeaseEvent) : Balanced (run {} es) :=
  run_induction balanced_of_leaseStep balanced_new es

/-- No `LeaseStep` opens a closed pool. -/
theorem closed_of_leaseStep {s s' : LeaseSystem} (hstep : LeaseStep s s')
    (hs : s.pool.closed = true) : s'.pool.closed = true := by
  cases hstep with
  | shut hopen => rfl
  | _ => exact hs

/-- A pool that is closed at one moment of a run is closed and without idle connections after any
further run `es`. -/
theorem idle_run_of_closed {s : LeaseSystem} (hs : Balanced s) (hclosed : s.pool.closed = true)
    (es : List LeaseEvent) : (s.run es).pool.closed = true ∧ (s.run es).pool.idle = [] := by
  have hstill : (s.run es).pool.closed = true :=
    run_induction (P := fun s => s.pool.closed = true) closed_of_leaseStep hclosed es
  exact ⟨hstill, (run_induction balanced_of_leaseStep hs es).idle_of_closed hstill⟩

/-! ## What is taken off the counters -/

/-- Whether an event takes one off `active`: an acquire is settled without a connection, or a lease
ends. -/
def EndsLease (s : LeaseSystem) : LeaseEvent → Prop
  | .complete i => ∃ outcome e, s.acquiring[i]? = some (some outcome) ∧
      (s.pool.complete outcome).1 = .error e
  | .release c => c ∈ s.leased
  | _ => False

/-- Whether an event takes one off `created`: an acquire is settled whose connection was refused. -/
def TakesBack (s : LeaseSystem) : LeaseEvent → Prop
  | .complete i => ∃ e, s.acquiring[i]? = some (some (.error e))
  | _ => False

/-- An event that `EndsLease` does take one off `active`. -/
theorem active_step_of_endsLease {s : LeaseSystem} {e : LeaseEvent} (h : s.EndsLease e) :
    (s.step e).pool.active = s.pool.active - 1 := by
  cases e with
  | complete i =>
      obtain ⟨outcome, e, hi, he⟩ := h
      cases outcome with
      | error _ => simp [step, hi, LeasePool.complete]
      | ok c =>
          cases hclosed : s.pool.closed with
          | true => simp [step, hi, LeasePool.complete, hclosed]
          | false => simp [LeasePool.complete, hclosed] at he
  | release c =>
      have hc : c ∈ s.leased := h
      cases hclosed : s.pool.closed <;> simp [step, hc, LeasePool.release, hclosed]
  | reserve | connect | close => exact h.elim

/-- An event that `TakesBack` does take one off `created`. -/
theorem created_step_of_takesBack {s : LeaseSystem} {e : LeaseEvent} (h : s.TakesBack e) :
    (s.step e).pool.created = s.pool.created - 1 := by
  cases e with
  | complete i =>
      obtain ⟨e, hi⟩ := h
      simp [step, hi, LeasePool.complete]
  | reserve | connect | release | close => exact h.elim

/-- Nothing else is ever taken off: `active` and `created` do not decrease otherwise, and
`destroyed` never does. -/
theorem counters_le_step (s : LeaseSystem) (e : LeaseEvent) :
    (¬ s.EndsLease e → s.pool.active ≤ (s.step e).pool.active) ∧
    (¬ s.TakesBack e → s.pool.created ≤ (s.step e).pool.created) ∧
    s.pool.destroyed ≤ (s.step e).pool.destroyed := by
  cases e with
  | reserve =>
      cases hclosed : s.pool.closed <;> cases hidle : s.pool.idle <;>
        simp [step, LeasePool.reserve, hclosed, hidle]
  | connect i refusal =>
      rcases hi : s.acquiring[i]? with _ | _ | outcome <;> cases refusal <;> simp [step, hi]
  | complete i =>
      rcases hi : s.acquiring[i]? with _ | _ | _ | c
      · simp [step, hi]
      · simp [step, hi]
      · refine ⟨fun h => absurd ⟨_, _, hi, rfl⟩ h, fun h => absurd ⟨_, hi⟩ h, ?_⟩
        simp [step, hi, LeasePool.complete]
      · cases hclosed : s.pool.closed with
        | true =>
            have hlate : (s.pool.complete (.ok c)).1 = .error closedQuery := by
              simp [LeasePool.complete, hclosed]
            refine ⟨fun h => absurd ⟨_, _, hi, hlate⟩ h, fun _ => ?_, ?_⟩ <;>
              simp [step, hi, LeasePool.complete, hclosed]
        | false => simp [step, hi, LeasePool.complete, hclosed]
  | release c =>
      by_cases hc : c ∈ s.leased
      · refine ⟨fun h => absurd hc h, fun _ => ?_, ?_⟩ <;>
          cases hclosed : s.pool.closed <;> simp [step, hc, LeasePool.release, hclosed]
      · simp [step, hc]
  | close => cases hclosed : s.pool.closed <;> simp [step, LeasePool.close, hclosed]

/-- An event that `EndsLease` finds an active lease, `0 < s.pool.active`, if the system is
`Balanced`. -/
theorem active_pos_of_endsLease {s : LeaseSystem} (hs : Balanced s) {e : LeaseEvent}
    (h : s.EndsLease e) : 0 < s.pool.active := by
  rw [hs.active_eq]
  cases e with
  | complete i =>
      obtain ⟨outcome, e, hi, -⟩ := h
      have hlt : i < s.acquiring.length := (List.getElem?_eq_some_iff.1 hi).1
      omega
  | release c =>
      have hpos : 0 < s.leased.length := List.length_pos_of_mem h
      omega
  | reserve | connect | close => exact h.elim

/-- An event that takes a connection back ends a lease. -/
theorem endsLease_of_takesBack {s : LeaseSystem} {e : LeaseEvent} (h : s.TakesBack e) :
    s.EndsLease e := by
  cases e with
  | complete i =>
      obtain ⟨e, hi⟩ := h
      exact ⟨_, e, hi, rfl⟩
  | reserve | connect | release | close => exact h.elim

/-- **The counters always balance**: in every run of any number of users, at every moment,

* the connections created and not destroyed are those that are active or idle;
* the events that take one off a counter, which are those that end a lease and those that take a
  connection back, find something to take off;
* once closed, the pool is closed and without idle connections for good;
* a closed pool that nobody uses any more has nothing active, nothing idle, and has destroyed all
  that it created. -/
theorem counters_balance (es : List LeaseEvent) :
    let s := run {} es
    (s.pool.destroyed ≤ s.pool.created ∧
      s.pool.created - s.pool.destroyed = s.pool.active + s.pool.idle.length) ∧
    (∀ e, (s.EndsLease e → (s.step e).pool.active + 1 = s.pool.active) ∧
      (¬ s.EndsLease e → s.pool.active ≤ (s.step e).pool.active) ∧
      (s.TakesBack e → (s.step e).pool.created + 1 = s.pool.created) ∧
      (¬ s.TakesBack e → s.pool.created ≤ (s.step e).pool.created) ∧
      s.pool.destroyed ≤ (s.step e).pool.destroyed) ∧
    (s.pool.closed = true →
      ∀ later, (s.run later).pool.closed = true ∧ (s.run later).pool.idle = []) ∧
    (s.pool.closed = true → s.acquiring = [] → s.leased = [] →
      s.pool.active = 0 ∧ s.pool.idle = [] ∧ s.pool.created = s.pool.destroyed) := by
  intro s
  have hs : Balanced s := balanced_run es
  have hcreated := hs.created_eq
  refine ⟨⟨by omega, by omega⟩, fun e => ?_, fun hclosed => idle_run_of_closed hs hclosed, ?_⟩
  · obtain ⟨hactive, htaken, hdestroyed⟩ := counters_le_step s e
    refine ⟨fun h => ?_, hactive, fun h => ?_, htaken, hdestroyed⟩
    · have hpos := active_pos_of_endsLease hs h
      rw [active_step_of_endsLease h]
      omega
    · have hpos := active_pos_of_endsLease hs (endsLease_of_takesBack h)
      rw [created_step_of_takesBack h]
      omega
  · intro hclosed hacquiring hleased
    have hidle : s.pool.idle = [] := hs.idle_of_closed hclosed
    have hactive : s.pool.active = 0 := by rw [hs.active_eq, hacquiring, hleased]; rfl
    refine ⟨hactive, hidle, ?_⟩
    rw [hcreated, hactive, hidle]
    rfl

/-- Two users of one pool: the first has its connection, the second was just refused its own. -/
def contendedRun : List LeaseEvent :=
  [.reserve, .reserve, .connect 0 none, .complete 0, .connect 0 (some closedQuery)]

/-- How the two end, when the pool is closed before. -/
def contendedEnd : List LeaseEvent := [.close, .complete 0, .release 0]

/-- The balance of the two users, while they use the pool and after. -/
theorem counters_balance_contendedRun :
    let s := run {} contendedRun
    let t := run {} (contendedRun ++ contendedEnd)
    (s.EndsLease (.release 0) ∧ (s.step (.release 0)).pool.active + 1 = s.pool.active) ∧
    (s.TakesBack (.complete 0) ∧ (s.step (.complete 0)).pool.created + 1 = s.pool.created) ∧
    (¬ s.EndsLease .close ∧ s.pool.active ≤ (s.step .close).pool.active) ∧
    (¬ s.TakesBack .close ∧ s.pool.created ≤ (s.step .close).pool.created) ∧
    (t.pool.closed = true ∧ t.acquiring = [] ∧ t.leased = []) ∧
    (t.run [.reserve]).pool.idle = [] ∧
    t.pool.active = 0 ∧ t.pool.idle = [] ∧ t.pool.created = t.pool.destroyed := by
  intro s t
  obtain ⟨-, hs, -, -⟩ := counters_balance contendedRun
  obtain ⟨-, -, hclosed, hended⟩ := counters_balance (contendedRun ++ contendedEnd)
  have hlease : s.EndsLease (.release 0) := by
    show 0 ∈ [0]
    decide
  have htaken : s.TakesBack (.complete 0) := ⟨closedQuery, rfl⟩
  have hkept : ¬ s.EndsLease .close ∧ ¬ s.TakesBack .close := ⟨fun h => h, fun h => h⟩
  exact ⟨⟨hlease, (hs (.release 0)).1 hlease⟩, ⟨htaken, (hs (.complete 0)).2.2.1 htaken⟩,
    ⟨hkept.1, (hs .close).2.1 hkept.1⟩, ⟨hkept.2, (hs .close).2.2.2.1 hkept.2⟩,
    ⟨rfl, rfl, rfl⟩, (hclosed rfl [.reserve]).2, hended rfl rfl rfl⟩

end LeaseSystem

end DataAccess.Execution
