import DataAccess.Proofs.ConnectionCustody
import Mathlib.Data.List.Induction
import Mathlib.Data.List.Infix
import Mathlib.Order.Bounds.Basic
import Mathlib.Order.MinMax

/-!
# Lease peak: as many connections as leases at one time

A pool opens a connection only where none is idle, so that it has opened as many as there were
leases at one time when there were most. This number, the peak, is stored nowhere. It is read off
the run: `activeCounts` are the numbers of active leases at all its moments, and the peak is the
greatest of them.

* **One step** (`created_le_of_leaseStep`, `created_step`): a step counts a new connection only if
  that makes as many connections as there are active leases then. If no connection was refused, none
  is ever taken off the count.
* **A run** (`exists_created_le`, `isGreatest_created`): so the connections that count as created
  are at most the peak and, without refusals, the peak itself.
* **Connections** (`opened_le_created`): every connection that was opened counts as created.
* **The peak** (`created_eq_peak`): what that means for the idle connections, for one user after
  another, and for many at a time.
-/

namespace DataAccess.Execution

namespace LeaseSystem

variable {s s' : LeaseSystem}

/-! ## The moments of a run -/

/-- The number of leases in use, those that are being acquired included. It is `active` in every run
(`active_run_eq_inUse`). -/
def inUse (s : LeaseSystem) : Nat := s.acquiring.length + s.leased.length

/-- The numbers of active leases at all moments of a run: `(run {} past).pool.active` for every
prefix `past` of `es`. -/
def activeCounts (es : List LeaseEvent) : Set Nat :=
  {n | ∃ past, past <+: es ∧ (run {} past).pool.active = n}

/-- The last step of a run. -/
theorem run_concat (s : LeaseSystem) (es : List LeaseEvent) (e : LeaseEvent) :
    s.run (es ++ [e]) = (s.run es).step e := by
  rw [run, List.foldl_append]
  rfl

/-- Before the first step nothing is active. -/
theorem activeCounts_nil : activeCounts [] = {0} := by
  ext n
  simp only [activeCounts, List.prefix_nil, exists_eq_left, Set.mem_ofPred_eq,
    Set.mem_singleton_iff]
  exact eq_comm

/-- A step adds one moment to `activeCounts`, the last one. -/
theorem activeCounts_concat (es : List LeaseEvent) (e : LeaseEvent) :
    activeCounts (es ++ [e]) = insert ((run {} es).step e).pool.active (activeCounts es) := by
  ext n
  rw [← run_concat]
  constructor
  · rintro ⟨past, hpast, rfl⟩
    obtain rfl | hpast := List.prefix_concat_iff.mp hpast
    · exact .inl rfl
    · exact .inr ⟨past, hpast, rfl⟩
  · rintro (rfl | ⟨past, hpast, rfl⟩)
    · exact ⟨es ++ [e], List.prefix_rfl, rfl⟩
    · exact ⟨past, hpast.trans (List.prefix_append ..), rfl⟩

/-- What is `active` is in use, at every moment of a run. -/
theorem active_run_eq_inUse (es : List LeaseEvent) : (run {} es).pool.active = (run {} es).inUse :=
  (balanced_run es).active_eq

/-! ## One step -/

/-- An open pool that has `destroyed = 0` has it after each `LeaseStep` that leaves it open. -/
theorem destroyed_of_leaseStep (hstep : LeaseStep s s')
    (hs : s.pool.closed = false → s.pool.destroyed = 0) : s'.pool.closed = false →
      s'.pool.destroyed = 0 := by
  cases hstep with
  | tooLate hclosed | destroyed hclosed => exact fun hopen => nomatch hclosed.symm.trans hopen
  | shut => exact nofun
  | _ => exact hs

/-- An open pool has destroyed nothing so far. -/
theorem destroyed_run (es : List LeaseEvent) :
    (run {} es).pool.closed = false → (run {} es).pool.destroyed = 0 :=
  run_induction (P := fun s => s.pool.closed = false → s.pool.destroyed = 0) destroyed_of_leaseStep
    (fun _ => rfl) es

/-- The connections of an open pool are active or idle: `created = active + idle.length`. -/
theorem created_run_eq {es : List LeaseEvent} (hopen : (run {} es).pool.closed = false) :
    (run {} es).pool.created = (run {} es).pool.active + (run {} es).pool.idle.length := by
  rw [(balanced_run es).created_eq, destroyed_run es hopen, Nat.zero_add]

/-- **One step** counts a new connection only where none is idle, and then all of them are active.
So `created` is at most what it was, or `active` if that is more. -/
theorem created_le_of_leaseStep (hstep : LeaseStep s s') (hs : Balanced s)
    (hdestroyed : s.pool.closed = false → s.pool.destroyed = 0) :
    s'.pool.created ≤ max s'.pool.active s.pool.created := by
  cases hstep with
  | setAside hopen hidle =>
      refine le_trans ?_ (le_max_left _ _)
      show s.pool.created + 1 ≤ s.pool.active + 1
      rw [hs.created_eq, hdestroyed hopen, hidle, List.length_nil, Nat.zero_add, Nat.add_zero]
  | failed => exact (Nat.sub_le _ _).trans (le_max_right _ _)
  | _ => exact le_max_right _ _

/-- Only a connection that was refused is taken off `created`. -/
theorem created_mono_of_leaseStep (hstep : LeaseStep s s')
    (hs : ∀ e, some (.error e) ∉ s.acquiring) :
    s.pool.created ≤ s'.pool.created := by
  cases hstep with
  | setAside => exact Nat.le_succ _
  | failed hi => exact absurd (List.mem_of_getElem? hi) (hs _)
  | _ => exact le_rfl

/-- **One step** without refusals: `created` is then the greater one of `active` now and `created`
before. -/
theorem created_step (hs : Balanced s) (hdestroyed : s.pool.closed = false → s.pool.destroyed = 0)
    (hacquiring : ∀ e, some (.error e) ∉ s.acquiring) (e : LeaseEvent) :
    (s.step e).pool.created = max (s.step e).pool.active s.pool.created := by
  have hactive {s : LeaseSystem} (hs : Balanced s) : s.pool.active ≤ s.pool.created := by
    have hcreated := hs.created_eq
    omega
  obtain heq | hstep := s.step_eq_or_leaseStep e
  · rw [heq, max_eq_right (hactive hs)]
  · apply le_antisymm (created_le_of_leaseStep hstep hs hdestroyed)
    exact max_le (hactive (balanced_of_leaseStep hstep hs))
      (created_mono_of_leaseStep hstep hacquiring)

/-- Nobody is told of a refusal as long as no connection is refused. -/
theorem acquiring_step {e : LeaseEvent} (he : ∀ i error, e ≠ .connect i (some error))
    (hs : ∀ error, some (.error error) ∉ s.acquiring) (error : Error) :
    some (.error error) ∉ (s.step e).acquiring := by
  intro hmem
  cases e with
  | reserve =>
      simp only [step] at hmem
      split at hmem
      · exact hs error hmem
      · simp only [List.mem_append, List.mem_singleton, reduceCtorEq, or_false] at hmem
        exact hs error hmem
      · exact hs error hmem
  | connect i refusal =>
      obtain rfl : refusal = none :=
        Option.eq_none_iff_forall_ne_some.mpr fun error h => he i error (h ▸ rfl)
      simp only [step] at hmem
      split at hmem
      · obtain hmem | heq := List.mem_or_eq_of_mem_set hmem
        · exact hs error hmem
        · cases heq
      · contradiction
      · exact hs error hmem
  | complete i =>
      simp only [step] at hmem
      split at hmem
      · split at hmem <;> exact hs error (List.mem_of_mem_eraseIdx hmem)
      · exact hs error hmem
  | release c =>
      simp only [step] at hmem
      split at hmem <;> exact hs error hmem
  | close => exact hs error hmem

/-! ## A run -/

/-- **A run** never has more `created` than there were active leases at one moment, some
`n ∈ activeCounts es`. -/
theorem exists_created_le (es : List LeaseEvent) :
    ∃ n ∈ activeCounts es, (run {} es).pool.created ≤ n := by
  induction es using List.reverseRecOn with
  | nil => exact ⟨0, ⟨[], List.prefix_rfl, rfl⟩, le_rfl⟩
  | append_singleton es e ih =>
      obtain ⟨n, hn, hle⟩ := ih
      rw [activeCounts_concat, run_concat]
      obtain heq | hstep := (run {} es).step_eq_or_leaseStep e
      · rw [heq]
        exact ⟨n, .inr hn, hle⟩
      · obtain hnew | hold := le_max_iff.mp
          (created_le_of_leaseStep hstep (balanced_run es) (destroyed_run es))
        · exact ⟨_, .inl rfl, hnew⟩
        · exact ⟨n, .inr hn, hold.trans hle⟩

/-- Without refusals nobody is told of one. -/
theorem acquiring_run {es : List LeaseEvent} (hes : ∀ i error, .connect i (some error) ∉ es)
    (error : Error) :
    some (.error error) ∉ (run {} es).acquiring := by
  induction es using List.reverseRecOn generalizing error with
  | nil => exact List.not_mem_nil
  | append_singleton es e ih =>
      simp only [List.mem_append, List.mem_singleton, not_or] at hes
      rw [run_concat]
      exact acquiring_step (fun i error => Ne.symm (hes i error).2)
        (ih fun i error => (hes i error).1) error

/-- **A run** without refusals has as many `created` as there were active leases at one moment when
there were most (`IsGreatest`). -/
theorem isGreatest_created {es : List LeaseEvent} (hes : ∀ i error, .connect i (some error) ∉ es) :
    IsGreatest (activeCounts es) (run {} es).pool.created := by
  induction es using List.reverseRecOn with
  | nil =>
      rw [activeCounts_nil]
      exact isGreatest_singleton
  | append_singleton es e ih =>
      have hbefore (i : Nat) (error : Error) : .connect i (some error) ∉ es :=
        fun hmem => hes i error (List.mem_append_left _ hmem)
      rw [activeCounts_concat, run_concat,
        created_step (balanced_run es) (destroyed_run es) (acquiring_run hbefore) e]
      exact (ih hbefore).insert _

/-! ## Connections -/

/-- Each connection that was given up is `destroyed`: the two counts stay the same. -/
theorem discarded_of_leaseStep (hstep : LeaseStep s s')
    (hs : s.discarded.length = s.pool.destroyed) :
    s'.discarded.length = s'.pool.destroyed := by
  cases hstep with
  | tooLate | destroyed =>
      show (s.discarded ++ [_]).length = s.pool.destroyed + 1
      rw [List.length_append, List.length_singleton, hs]
  | shut =>
      show (s.discarded ++ s.pool.idle.reverse).length = s.pool.destroyed + s.pool.idle.length
      rw [List.length_append, List.length_reverse, hs]
  | _ => exact hs

/-- **Connections** that were opened count as `created`, by where they are (`Placed`) and the
balance. -/
theorem opened_le_created (es : List LeaseEvent) :
    (run {} es).opened ≤ (run {} es).pool.created := by
  have hbalanced := balanced_run es
  have hplaced : Placed (run {} es) := run_induction placed_of_leaseStep placed_new es
  have hdiscarded : (run {} es).discarded.length = (run {} es).pool.destroyed :=
    run_induction (P := fun s => s.discarded.length = s.pool.destroyed)
      discarded_of_leaseStep rfl es
  have hinFlight : (run {} es).inFlight.length ≤ (run {} es).acquiring.length :=
    List.length_filterMap_le ..
  have hplaces := hplaced.length_eq
  rw [List.length_append, List.length_append, List.length_append, List.length_range] at hplaces
  rw [hbalanced.created_eq, hbalanced.active_eq]
  omega

/-! ## The peak -/

/-- A pool that is open at the end of a run was open at every moment of it. -/
theorem closed_of_prefix {past es : List LeaseEvent} (hpast : past <+: es)
    (hopen : (run {} es).pool.closed = false) : (run {} past).pool.closed = false := by
  obtain ⟨later, rfl⟩ := hpast
  rw [run, List.foldl_append] at hopen
  by_contra hclosed
  have hstill := (idle_run_of_closed (balanced_run past) (Bool.of_not_eq_false hclosed) later).1
  exact absurd (hstill.symm.trans hopen) (by decide)

/-- Whoever begins to acquire a lease of an open pool uses it: `0 < inUse` at some moment. -/
theorem exists_inUse_pos {es : List LeaseEvent} (hopen : (run {} es).pool.closed = false)
    (hmem : .reserve ∈ es) :
    ∃ past, past <+: es ∧ 0 < (run {} past).inUse := by
  obtain ⟨past, later, rfl⟩ := List.append_of_mem hmem
  have hbegun : past ++ [.reserve] <+: past ++ .reserve :: later := by simp
  have hstill := closed_of_prefix ((List.prefix_append past [.reserve]).trans hbegun) hopen
  refine ⟨past ++ [.reserve], hbegun, ?_⟩
  rw [← active_run_eq_inUse, run_concat]
  cases hidle : (run {} past).pool.idle <;> simp [step, LeasePool.reserve, hstill, hidle]

/-- Without refusals `created = k`, if at least `k` leases were in use at one moment and at most `k`
at every moment. -/
theorem created_eq_of_inUse {es : List LeaseEvent} {k : Nat}
    (hes : ∀ i error, .connect i (some error) ∉ es)
    (hk : ∃ past, past <+: es ∧ k ≤ (run {} past).inUse)
    (hle : ∀ past, past <+: es → (run {} past).inUse ≤ k) :
    (run {} es).pool.created = k := by
  obtain ⟨past, hpast, hmany⟩ := hk
  obtain ⟨⟨most, hmost, heq⟩, hgreatest⟩ := isGreatest_created hes
  apply le_antisymm
  · rw [← heq, active_run_eq_inUse]
    exact hle most hmost
  · apply hmany.trans
    rw [← active_run_eq_inUse]
    exact hgreatest ⟨past, hpast, rfl⟩

/-- **The peak.** In every run of any number of users, at every moment, no more connections have
been opened than count as created, and no more count as created than there were leases in use at one
moment of the run. If no connection was refused,

* as many count as created as there were active leases at one moment when there were most;
* as long as the pool is open, those that are not active now are idle;
* if there was a lease at all in an open pool, and at no moment more than one in use, there is one
  connection;
* if at one moment `k` leases were granted, and at no moment more were in use, there are `k`
  connections. -/
theorem created_eq_peak (es : List LeaseEvent) :
    let s := run {} es
    (s.opened ≤ s.pool.created ∧ ∃ past, past <+: es ∧ s.pool.created ≤ (run {} past).inUse) ∧
    ((∀ i error, .connect i (some error) ∉ es) →
      IsGreatest {n | ∃ past, past <+: es ∧ (run {} past).pool.active = n} s.pool.created ∧
      (s.pool.closed = false → s.pool.idle.length = s.pool.created - s.pool.active) ∧
      (s.pool.closed = false → .reserve ∈ es → (∀ past, past <+: es → (run {} past).inUse ≤ 1) →
        s.pool.created = 1) ∧
      ∀ k, (∃ past, past <+: es ∧ (run {} past).leased.length = k) →
        (∀ past, past <+: es → (run {} past).inUse ≤ k) → s.pool.created = k) := by
  intro s
  refine ⟨⟨opened_le_created es, ?_⟩, fun hes => ?_⟩
  · obtain ⟨n, ⟨past, hpast, rfl⟩, hle⟩ := exists_created_le es
    exact ⟨past, hpast, active_run_eq_inUse past ▸ hle⟩
  refine ⟨isGreatest_created hes, fun hopen => ?_, fun hopen hmem hle => ?_, fun k hk hle => ?_⟩
  · rw [created_run_eq hopen, Nat.add_sub_cancel_left]
  · exact created_eq_of_inUse hes (exists_inUse_pos hopen hmem) hle
  · obtain ⟨past, hpast, rfl⟩ := hk
    exact created_eq_of_inUse hes ⟨past, hpast, Nat.le_add_left _ _⟩ hle

/-- Two users at a time, whose connections are opened in the other order, and a third one after the
first has ended. -/
def overlappingRun : List LeaseEvent :=
  [.reserve, .reserve, .connect 1 none, .connect 0 none, .complete 0, .complete 0,
    .release 1, .reserve]

/-- One user after another. -/
def sequentialRun : List LeaseEvent :=
  [.reserve, .connect 0 none, .complete 0, .release 0, .reserve, .release 0]

/-- The connections of three users, two of them at a time, and of two, one after another. -/
theorem created_eq_peak_overlappingRun :
    let s := run {} overlappingRun
    let t := run {} sequentialRun
    (s.opened ≤ 2 ∧ s.pool.created = 2 ∧ s.pool.idle.length = s.pool.created - s.pool.active) ∧
    IsGreatest {n | ∃ past, past <+: overlappingRun ∧ (run {} past).pool.active = n} 2 ∧
    t.pool.created = 1 ∧ t.pool.idle.length = 1 := by
  intro s t
  obtain ⟨⟨hopened, -⟩, hs⟩ := created_eq_peak overlappingRun
  obtain ⟨-, ht⟩ := created_eq_peak sequentialRun
  obtain ⟨hpeak, hidle, -, hmany⟩ := hs (by simp [overlappingRun])
  obtain ⟨-, hidle', hone, -⟩ := ht (by simp [sequentialRun])
  have hatMost : ∀ past ∈ overlappingRun.inits, (run {} past).inUse ≤ 2 := by decide
  have hatMost' : ∀ past ∈ sequentialRun.inits, (run {} past).inUse ≤ 1 := by decide
  have htwo : s.pool.created = 2 :=
    hmany 2 ⟨overlappingRun, List.prefix_rfl, rfl⟩ fun past hpast =>
      hatMost past ((List.mem_inits _ _).mpr hpast)
  have hsingle : t.pool.created = 1 :=
    hone rfl List.mem_cons_self fun past hpast => hatMost' past ((List.mem_inits _ _).mpr hpast)
  refine ⟨⟨htwo ▸ hopened, htwo, hidle rfl⟩, htwo ▸ hpeak, hsingle, ?_⟩
  rw [hidle' rfl, hsingle]
  rfl

end LeaseSystem

end DataAccess.Execution
