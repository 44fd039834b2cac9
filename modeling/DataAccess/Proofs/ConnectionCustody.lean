import DataAccess.Proofs.LeaseBalance
import Mathlib.Data.List.Perm.Basic
import Mathlib.Data.List.Perm.Subperm

/-!
# Connection custody: where the connections of a pool are, and who closes them

The counters of a pool can balance while a connection is lost, lent twice or closed twice. So this
module follows the connections themselves. A `Custody` is a pool in use together with the calls that
close its connections, each of which is a step of its own: a connection that a pool gives up is
first in the hands of someone who has to close it. The pool is dropped when nobody uses it any more.

* **One place** (`LeaseSystem.Placed`, `placed_of_leaseStep`): what every transition keeps is that
  the connections opened so far are, each once, those of the acquires under way, those of the
  leases, the idle ones and those given up.
* **One closing** (`Custody.Sound`, `sound_run`, `Sound.count_places`): nothing is closed that was
  not given up, and no pool that is closed or dropped keeps a connection.
* **The end** (`Sound.closed_of_over`, `run_closings`): when nothing can be acquired any more and
  nobody uses the pool, the calls that are left close what is left, in whatever order they come.
-/

namespace DataAccess.Execution

/-! ## Lists from which one entry is taken -/

section OneEntry

variable {α β : Type} {l : List α} {i : Nat} {a : α}

/-- What the entries of a list hold, `l.flatMap f`, is what the entry `i` holds and what the others
hold. -/
theorem flatMap_perm_eraseIdx (f : α → List β) (hi : l[i]? = some a) :
    (l.flatMap f).Perm (f a ++ (l.eraseIdx i).flatMap f) := by
  obtain ⟨hlt, rfl⟩ := List.getElem?_eq_some_iff.mp hi
  exact ((List.getElem_cons_eraseIdx_perm hlt).flatMap_right f).symm

/-- What the entries of a list hold under `f` when one is replaced by `b`: what `b` holds and what
the others hold. -/
theorem flatMap_set_perm (f : α → List β) (hi : l[i]? = some a) (b : α) :
    ((l.set i b).flatMap f).Perm (f b ++ (l.eraseIdx i).flatMap f) := by
  obtain ⟨hlt, -⟩ := List.getElem?_eq_some_iff.mp hi
  exact (List.set_perm_cons_eraseIdx hlt b).flatMap_right f

/-- `flatMap_set_perm` for an entry that is erased, where entries hold one thing at most. -/
theorem filterMap_perm_eraseIdx (f : α → Option β) (hi : l[i]? = some a) :
    (l.filterMap f).Perm ((f a).toList ++ (l.eraseIdx i).filterMap f) := by
  simpa only [List.filterMap_eq_flatMap_toList] using flatMap_perm_eraseIdx
    (fun a => (f a).toList) hi

/-- `flatMap_set_perm` where entries hold one thing at most. -/
theorem filterMap_set_perm (f : α → Option β) (hi : l[i]? = some a) (b : α) :
    ((l.set i b).filterMap f).Perm ((f b).toList ++ (l.eraseIdx i).filterMap f) := by
  simpa only [List.filterMap_eq_flatMap_toList] using flatMap_set_perm (fun a => (f a).toList) hi b

end OneEntry

/-! ## Where the connections are -/

namespace LeaseSystem

/-- The connection that an acquire under way was told about, `none` if it was told of none. -/
def given (told : Option (Except Error ConnectionId)) : Option ConnectionId :=
  told.bind (·.toOption)

@[simp] theorem toList_given_none : (given none).toList = [] := rfl

@[simp] theorem toList_given_ok (c : ConnectionId) : (given (some (.ok c))).toList = [c] := rfl

@[simp] theorem toList_given_error (e : Error) : (given (some (.error e))).toList = [] := rfl

/-- The connections that acquires under way were told about (`given`). -/
def inFlight (s : LeaseSystem) : List ConnectionId :=
  s.acquiring.filterMap given

/-- Whether every connection that was opened is in one place: in an acquire under way, in a lease,
idle, or given up. The four lists together are a permutation of `List.range s.opened`. -/
def Placed (s : LeaseSystem) : Prop :=
  (s.inFlight ++ s.leased ++ s.pool.idle ++ s.discarded).Perm (List.range s.opened)

/-- The places of a connection, counted: a system is `Placed` iff each `c` is in the four lists as
often as in `List.range s.opened`. -/
theorem placed_iff_count {s : LeaseSystem} :
    s.Placed ↔ ∀ c, s.inFlight.count c + s.leased.count c + s.pool.idle.count c +
      s.discarded.count c = (List.range s.opened).count c := by
  simp only [Placed, List.perm_iff_count, List.count_append]

/-- `Placed` holds of a new pool. -/
theorem placed_new : Placed {} := List.Perm.refl _

/-- An acquire that is settled takes its connection with it. -/
theorem count_given_eraseIdx {s : LeaseSystem} {i : Nat} {told : Option (Except Error ConnectionId)}
    (hi : s.acquiring[i]? = some told) (c : ConnectionId) :
    (s.acquiring.filterMap given).count c =
      (given told).toList.count c + ((s.acquiring.eraseIdx i).filterMap given).count c := by
  rw [(filterMap_perm_eraseIdx given hi).count_eq, List.count_append]

/-- An acquire that is told has the connection that it is told about. -/
theorem count_given_set {s : LeaseSystem} {i : Nat} (hi : s.acquiring[i]? = some none)
    (told : Option (Except Error ConnectionId)) (c : ConnectionId) :
    ((s.acquiring.set i told).filterMap given).count c =
      (given told).toList.count c + (s.acquiring.filterMap given).count c := by
  rw [(filterMap_set_perm given hi told).count_eq, List.count_append, count_given_eraseIdx hi]
  simp

/-- A lease that ends leaves its connection to someone else. -/
theorem count_leased_erase {s : LeaseSystem} {c : ConnectionId} (hc : c ∈ s.leased)
    (d : ConnectionId) : s.leased.count d = [c].count d + (s.leased.erase c).count d := by
  rw [(List.perm_cons_erase hc).count_eq, ← List.count_append, List.singleton_append]

/-- **Every transition keeps the connections in their places**: a `LeaseStep` opens one, or moves
some. -/
theorem placed_of_leaseStep {s s' : LeaseSystem} (hstep : LeaseStep s s') (hs : s.Placed) :
    s'.Placed := by
  rw [placed_iff_count] at hs ⊢
  intro d
  have hd := hs d
  simp only [inFlight] at hd ⊢
  -- What is left of each case is the entry that moves, counted where it was and where it is.
  cases hstep with
  | reuse hopen hidle =>
      simp only [hidle, List.count_cons] at hd ⊢
      omega
  | setAside hopen hidle =>
      rw [List.filterMap_append, List.count_append]
      exact hd
  | connected hi =>
      simp only [count_given_set hi, toList_given_ok, List.range_succ, List.count_append]
      omega
  | refused hi =>
      simp only [count_given_set hi, toList_given_error, List.count_nil]
      omega
  | granted hopen hi =>
      simp only [count_given_eraseIdx hi, toList_given_ok, List.count_cons, List.count_nil] at hd ⊢
      omega
  | tooLate hclosed hi =>
      simp only [count_given_eraseIdx hi, toList_given_ok, List.count_append] at hd ⊢
      omega
  | failed hi =>
      simp only [count_given_eraseIdx hi, toList_given_error, List.count_nil, Nat.zero_add] at hd
      exact hd
  | returned hopen hc =>
      simp only [count_leased_erase hc, List.count_cons, List.count_nil] at hd ⊢
      omega
  | destroyed hclosed hc =>
      simp only [count_leased_erase hc, List.count_append] at hd ⊢
      omega
  | shut hopen =>
      simp only [List.count_append, List.count_reverse, List.count_nil]
      omega

/-- What was given up stays given up: `s.discarded` is a prefix of `s'.discarded`. -/
theorem discarded_prefix_of_leaseStep {s s' : LeaseSystem} (hstep : LeaseStep s s') :
    s.discarded <+: s'.discarded := by
  cases hstep with
  | tooLate | destroyed | shut => exact List.prefix_append ..
  | _ => exact List.prefix_rfl

/-- The invariant that a closed pool keeps no connection idle, through one `LeaseStep`. -/
theorem idle_of_leaseStep {s s' : LeaseSystem} (hstep : LeaseStep s s')
    (hs : s.pool.closed = true → s.pool.idle = []) : s'.pool.closed = true → s'.pool.idle = [] := by
  cases hstep with
  | reuse hopen | returned hopen =>
      exact fun hclosed => absurd (hopen.symm.trans hclosed) Bool.false_ne_true
  | shut => exact fun _ => rfl
  | _ => exact hs

end LeaseSystem

/-! ## The calls that close connections -/

/-- A pool in use and what became of the connections that it gave up. Giving up (`discarded`) and
closing (`closed`) are two steps, since the pool is let go in between. -/
structure Custody where
  /-- The pool and those who use it. -/
  system : LeaseSystem := {}
  /-- The connections that were closed, in order: one entry for each call. -/
  closed : List ConnectionId := []
  /-- Whether the pool was dropped. -/
  dropped : Bool := false

/-- One atomic step of a user of a pool, of a call that closes a connection, or of the last owner of
the pool. -/
inductive CustodyEvent where
  /-- Someone uses the pool. -/
  | use (e : LeaseEvent)
  /-- A connection is closed that the pool has given up. -/
  | closeConnection (c : ConnectionId)
  /-- The pool is dropped. -/
  | drop

namespace Custody

/-- The connections that were given up and whose closing has yet to be called:
`m.system.discarded.diff m.closed`. -/
def closing (m : Custody) : List ConnectionId :=
  m.system.discarded.diff m.closed

/-- Whether nothing can be acquired any more: the pool is `closed` or was `dropped`. -/
def Over (m : Custody) : Prop :=
  m.system.pool.closed = true ∨ m.dropped = true

/-- Whether nobody holds a lease or waits for one: `acquiring` and `leased` are empty. -/
def Unused (m : Custody) : Prop :=
  m.system.acquiring = [] ∧ m.system.leased = []

instance (m : Custody) : Decidable m.Unused :=
  decidable_of_iff (m.system.acquiring.isEmpty ∧ m.system.leased = []) <| by
    rw [Unused, List.isEmpty_iff]

/-- Takes one step. What is not possible changes nothing: a pool that was dropped has no users, and
one that has users is not dropped. -/
def step (m : Custody) : CustodyEvent → Custody
  | .use e => if m.dropped then m else { m with system := m.system.step e }
  | .closeConnection c => if c ∈ m.closing then { m with closed := m.closed ++ [c] } else m
  | .drop =>
      if m.dropped = false ∧ m.Unused then
        let (closing, pool) := m.system.pool.drop
        { m with
          system := { m.system with pool, discarded := m.system.discarded ++ closing }
          dropped := true }
      else m

/-- Takes steps one after another. -/
def run (m : Custody) (es : List CustodyEvent) : Custody := es.foldl step m

/-- What holds of a pool and its connections at every moment (`sound_run`). -/
structure Sound (m : Custody) : Prop where
  /-- Every connection is in one place. -/
  placed : m.system.Placed
  /-- No call closes what was not given up to be closed by that call. -/
  closed_subperm : m.closed.Subperm m.system.discarded
  /-- A pool that is closed or dropped keeps no connection. -/
  idle_of_over : m.Over → m.system.pool.idle = []
  /-- A pool that was dropped has no users. -/
  unused_of_dropped : m.dropped = true → m.Unused

/-- A new pool is sound. -/
theorem sound_new : Sound {} :=
  ⟨LeaseSystem.placed_new, List.Subperm.refl _, fun _ => rfl, fun _ => ⟨rfl, rfl⟩⟩

/-- What was given up was closed or is still to be closed: `m.closed ++ m.closing` is a permutation
of `m.system.discarded`. -/
theorem Sound.closed_append_closing {m : Custody} (h : m.Sound) :
    (m.closed ++ m.closing).Perm m.system.discarded :=
  List.subperm_append_diff_self_of_count_le fun c _ => h.closed_subperm.count_le c

/-- A connection of `m.closing` is closed once, by the call it was given to. -/
theorem Sound.closed_concat_subperm {m : Custody} (h : m.Sound) {c : ConnectionId}
    (hc : c ∈ m.closing) : (m.closed ++ [c]).Subperm m.system.discarded :=
  ((List.subperm_append_left m.closed).mpr (List.singleton_subperm_iff.mpr hc)).trans
    h.closed_append_closing.subperm

/-- The users of a pool keep it sound: each `LeaseStep` does. -/
theorem Sound.use {m : Custody} (h : m.Sound) (hlive : m.dropped = false) {s : LeaseSystem}
    (hstep : LeaseStep m.system s) : Sound { m with system := s } where
  placed := LeaseSystem.placed_of_leaseStep hstep h.placed
  closed_subperm :=
    h.closed_subperm.trans (LeaseSystem.discarded_prefix_of_leaseStep hstep).sublist.subperm
  idle_of_over := by
    rintro (hclosed | hdropped)
    · exact LeaseSystem.idle_of_leaseStep hstep (fun h' => h.idle_of_over (.inl h')) hclosed
    · exact absurd (hlive.symm.trans hdropped) Bool.false_ne_true
  unused_of_dropped := fun hdropped => absurd (hlive.symm.trans hdropped) Bool.false_ne_true

/-- `Sound` is kept when a pool that nobody uses is dropped: its idle connections are given up. -/
theorem Sound.drop {m : Custody} (h : m.Sound) (hunused : m.Unused) :
    Sound { m with
      system := { m.system with
        pool := { m.system.pool with idle := [] }
        discarded := m.system.discarded ++ m.system.pool.idle.reverse }
      dropped := true } where
  placed := by
    rw [LeaseSystem.placed_iff_count]
    intro c
    have hc := LeaseSystem.placed_iff_count.mp h.placed c
    simp only [LeaseSystem.inFlight, List.count_append, List.count_reverse, List.count_nil] at hc ⊢
    omega
  closed_subperm := h.closed_subperm.trans (List.prefix_append ..).sublist.subperm
  idle_of_over := fun _ => rfl
  unused_of_dropped := fun _ => hunused

/-- The step lemma: every `CustodyEvent` keeps a pool sound. -/
theorem Sound.step {m : Custody} (h : m.Sound) (e : CustodyEvent) : (m.step e).Sound := by
  cases e with
  | use e =>
      rw [Custody.step]
      split
      case isTrue => exact h
      case isFalse hlive =>
          rcases m.system.step_eq_or_leaseStep e with heq | hstep
          · rwa [heq]
          · exact h.use (Bool.eq_false_iff.mpr hlive) hstep
  | closeConnection c =>
      rw [Custody.step]
      split
      case isTrue hc => exact { h with closed_subperm := h.closed_concat_subperm hc }
      case isFalse => exact h
  | drop =>
      rw [Custody.step]
      split
      case isTrue hdrop => exact h.drop hdrop.2
      case isFalse => exact h

/-- **A pool and its connections are `Sound` at every moment of every run.** -/
theorem sound_run (es : List CustodyEvent) : (run {} es).Sound :=
  List.foldlRecOn es Custody.step sound_new fun _ h e _ => h.step e

/-! ## One place at a time -/

/-- The places of all connections that were opened, `List.range m.system.opened`: each is in flight,
leased, idle, closed or to be closed, and this once. -/
theorem Sound.perm_range {m : Custody} (h : m.Sound) :
    (m.system.inFlight ++ m.system.leased ++ m.system.pool.idle ++ (m.closed ++ m.closing)).Perm
      (List.range m.system.opened) :=
  (h.closed_append_closing.append_left _).trans h.placed

/-- A connection `c < m.system.opened` is in one place, once, and any other one is in none. -/
theorem Sound.count_places {m : Custody} (h : m.Sound) (c : ConnectionId) :
    m.system.inFlight.count c + m.system.leased.count c + m.system.pool.idle.count c +
      (m.closed.count c + m.closing.count c) = if c < m.system.opened then 1 else 0 := by
  have hc := h.perm_range.count_eq c
  simpa only [List.count_append, List.count_range] using hc

/-- `m.closed` only grows at its end, by one connection in a step at most. -/
theorem closed_prefix_step (m : Custody) (e : CustodyEvent) : m.closed <+: (m.step e).closed := by
  cases e <;> rw [step] <;> split
  case closeConnection.isTrue => exact List.prefix_append ..
  all_goals exact List.prefix_rfl

/-- `m.closed` only grows at its end along a run. -/
theorem closed_prefix_run (m : Custody) (es : List CustodyEvent) :
    m.closed <+: (m.run es).closed := by
  induction es generalizing m with
  | nil => exact List.prefix_rfl
  | cons e es ih => exact (m.closed_prefix_step e).trans (ih (m.step e))

/-! ## The end -/

/-- What a pool that is `Over` and `Unused` has opened is closed or about to be. -/
theorem Sound.closed_of_over {m : Custody} (h : m.Sound) (hover : m.Over) (hunused : m.Unused) :
    (m.closed ++ m.closing).Perm (List.range m.system.opened) := by
  have hperm := h.perm_range
  rwa [h.idle_of_over hover, hunused.2, LeaseSystem.inFlight, hunused.1] at hperm

/-- What is left to close when a connection has been closed. -/
theorem closing_concat (m : Custody) (c : ConnectionId) :
    closing { m with closed := m.closed ++ [c] } = m.closing.erase c := by
  rw [closing, List.diff_append, List.diff_cons, List.diff_nil]
  rfl

/-- The calls that are left close what is left, in whatever order `cs` they come. -/
theorem run_closings {m : Custody} {cs : List ConnectionId} (hcs : cs.Subperm m.closing) :
    m.run (cs.map .closeConnection) = { m with closed := m.closed ++ cs } := by
  induction cs generalizing m with
  | nil => simp [run]
  | cons c cs ih =>
      have hc : c ∈ m.closing := hcs.subset List.mem_cons_self
      have hstep : m.step (.closeConnection c) = { m with closed := m.closed ++ [c] } := by
        rw [Custody.step, if_pos hc]
      have hrest : cs.Subperm (closing { m with closed := m.closed ++ [c] }) := by
        have herase := hcs.erase c
        rwa [List.erase_cons_head, ← closing_concat] at herase
      calc m.run ((c :: cs).map .closeConnection)
          = (m.step (.closeConnection c)).run (cs.map .closeConnection) := rfl
        _ = { m with closed := m.closed ++ [c] ++ cs } := by rw [hstep, ih hrest]
        _ = { m with closed :=
          m.closed ++ c :: cs } := by rw [List.append_assoc, List.singleton_append]

end Custody

end DataAccess.Execution
