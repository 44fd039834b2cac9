import DataAccess.Proofs.StreamWindow

/-!
# Produced rows: what a producer publishes is what its cursor gives

A cursor on the channel of a producer lets the producer run ahead until it is done or the buffer is
full, and then takes the next row. The results here say that this comes to the rows that the
producer was asked to publish, for every size of the buffer.

* **Running ahead** (`iterate_induction`, `carries_settle`): a producer stops only when all rows are
  in the buffer and the channel is finished, or when the buffer is full.
* **What the cursor gives** (`feeds_published`): the rows, in order, and then the end.
* **What a stream collects** (`collect_of_published`).
-/

namespace DataAccess.Streaming

/-! ## Repetition -/

/-- A state that is `active` is left for the next one: `iterate` takes one step. -/
theorem iterate_succ {σ : Type} {active : σ → Bool} {step : σ → σ} {fuel : Nat} {s : σ}
    (h : active s = true) : iterate active step (fuel + 1) s =
      iterate active step fuel (step s) := by
  rw [iterate, if_pos h]

/-- A state that is not `active` stays, whatever fuel is left. -/
theorem iterate_of_not_active {σ : Type} {active : σ → Bool} {step : σ → σ} {fuel : Nat} {s : σ}
    (h : active s = false) : iterate active step fuel s = s := by
  cases fuel with
  | zero => rfl
  | succ fuel => rw [iterate, h, if_neg Bool.false_ne_true]

/-- A repeated step keeps `P` if it keeps it once, and comes to its end if it brings the number
`left` down each time. -/
theorem iterate_induction {σ : Type} {active : σ → Bool} {step : σ → σ} {P : σ → Prop}
    (left : σ → Nat) (hstep : ∀ s, P s → active s = true → P (step s) ∧ left (step s) < left s)
    {fuel : Nat} {s : σ} (hs : P s) (hfuel : left s ≤ fuel) :
    P (iterate active step fuel s) ∧ active (iterate active step fuel s) = false := by
  induction fuel generalizing s with
  | zero =>
      refine ⟨hs, ?_⟩
      show active s = false
      rw [Bool.eq_false_iff]
      intro hactive
      have hless := (hstep s hs hactive).2
      omega
  | succ fuel ih =>
      unfold iterate
      split
      case isTrue hactive =>
        obtain ⟨hkept, hless⟩ := hstep s hs hactive
        exact ih hkept (by omega)
      case isFalse hactive => exact ⟨hs, Bool.eq_false_iff.mpr hactive⟩

/-! ## Running ahead -/

namespace RowChannel

/-- A channel with the rows `ready` in its buffer that has room for one at least. -/
def holding (room : Nat) (ready : List Record) (count : Nat) : RowChannel :=
  { capacity := room + 1, buffer := ready.map .row, count }

/-- The channel when it is finished. Behind the rows there may be wake entries, `wakes`. -/
def ended (room : Nat) (ready : List Record) (wakes : List Unit) (count : Nat) : RowChannel :=
  { capacity := room + 1, buffer :=
    ready.map .row ++ wakes.map fun _ => .wake, finished := true, count }

end RowChannel

/-- A producer at work and its channel, with the rows that are still to come out: one constructor
for each step of the producer. The rows are those in the buffer, the one at hand, and the rest. -/
inductive Carries (room : Nat) : Producer → RowChannel → List Record → Prop where
  /-- Nothing has been published yet. -/
  | asked {rows : List Record} {n : Nat} :
      Carries room ⟨[.publish rows, .finish], none⟩ (.holding room [] n) rows
  /-- The flag is about to be looked at. -/
  | checking {ready rest : List Record} {row : Record} {n : Nat} :
      Carries room ⟨[.finish], some (.publish (.check row) rest)⟩ (.holding room ready n)
        (ready ++ row :: rest)
  /-- A row is about to be put into the buffer. -/
  | offering {ready rest : List Record} {row : Record} {n : Nat} :
      Carries room ⟨[.finish], some (.publish (.offer row) rest)⟩ (.holding room ready n)
        (ready ++ row :: rest)
  /-- The flag is about to be looked at again. -/
  | rechecking {ready rest : List Record} {row : Record} {n : Nat} :
      Carries room ⟨[.finish], some (.publish (.recheck row) rest)⟩ (.holding room ready n)
        (ready ++ row :: rest)
  /-- A row is in the buffer and about to be counted. -/
  | counting {ready rest : List Record} {n : Nat} :
      Carries room ⟨[.finish], some (.publish .count rest)⟩ (.holding room ready n) (ready ++ rest)
  /-- A row has been published. -/
  | published {ready rest : List Record} {n : Nat} :
      Carries room ⟨[.finish], some (.publish (.done true) rest)⟩ (.holding room ready n)
        (ready ++ rest)
  /-- All rows have been published. -/
  | ending {ready : List Record} {n : Nat} :
      Carries room ⟨[.finish], none⟩ (.holding room ready n) ready
  /-- The flag is about to be set. -/
  | marking {ready : List Record} {n : Nat} :
      Carries room ⟨[], some (.finish .mark)⟩ (.holding room ready n) ready
  /-- The flag is set, and the consumer is about to be woken. -/
  | waking {ready : List Record} {n : Nat} :
      Carries room ⟨[], some (.finish .wake)⟩ (.ended room ready [] n) ready
  /-- There is nothing more to do. -/
  | done {ready : List Record} {wakes : List Unit} {n : Nat} (hwakes : wakes.length ≤ 1) :
      Carries room ⟨[], none⟩ (.ended room ready wakes n) ready

namespace Publish

/-- A bound on the steps of a call for which there is room. -/
def stepsLeft : Publish → Nat
  | check _ | recheck _ => 4
  | offer _ => 3
  | count => 2
  | _ => 1

end Publish

namespace Producer

/-- A bound on the steps of a call that has not begun. -/
def callStepsLeft : ProducerCall → Nat
  | .publish rows => 4 * rows.length + 1
  | .fail _ | .finish => 3

/-- A bound on the steps that are left as long as there is room. Each step of `Carries.step` brings
it down. -/
def stepsLeft (p : Producer) : Nat :=
  p.todo.foldr (callStepsLeft · + ·) 0 + match p.current with
    | some (.publish call rest) => call.stepsLeft + 4 * rest.length
    | some (.finish .mark) => 2
    | some _ => 1
    | none => 0

end Producer

variable {room : Nat} {p : Producer} {c : RowChannel} {rows : List Record}

/-- The bound is not above `Producer.size`, the number of steps that a producer takes in one go. -/
theorem Carries.stepsLeft_le (h : Carries room p c rows) : p.stepsLeft ≤ p.size := by
  cases h <;>
    simp only [Producer.stepsLeft, Producer.size, Producer.callStepsLeft, Producer.callSize,
      Publish.stepsLeft, List.foldr_cons, List.foldr_nil] <;> omega

/-- The flag is set on a channel whose buffer holds rows only. -/
theorem RowChannel.markFinished_holding (room : Nat) (ready : List Record) (n : Nat) :
    (holding room ready n).markFinished = ended room ready [] n := by
  unfold ended
  rw [List.map_nil, List.append_nil]
  rfl

/-- An offered row goes into a buffer that has room. -/
theorem RowChannel.offer?_holding {room : Nat} {ready : List Record} {n : Nat} (row : Record)
    (hroom : (holding room ready n).isFull = false) :
    (holding room ready n).offer? (.row row) = some (holding room (ready ++ [row]) n) := by
  unfold offer?
  rw [hroom, if_neg Bool.false_ne_true]
  simp [holding]

/-- A wake entry goes behind the rows of a finished channel, or finds no room. -/
theorem RowChannel.offerWake_ended (room : Nat) (ready : List Record) (n : Nat) :
    ∃ wakes : List Unit, wakes.length ≤ 1 ∧
      (ended room ready [] n).offerWake = ended room ready wakes n := by
  unfold offerWake offer?
  split
  case isTrue => exact ⟨[], Nat.zero_le 1, rfl⟩
  case isFalse => exact ⟨[()], Nat.le_refl 1, by simp [ended]⟩

/-- **Running ahead**: a step of a producer that neither is done nor waits keeps `Carries` with the
same rows, and leaves less to do. -/
theorem Carries.step (h : Carries room p c rows) (hactive : (!p.isDone && !p.waits c) = true) :
    Carries room (p.step c).1 (p.step c).2 rows ∧ (p.step c).1.stepsLeft < p.stepsLeft := by
  cases h with
  | @asked rows n =>
      cases rows with
      | nil => exact ⟨.ending, Nat.lt_succ_self _⟩
      | cons row rest =>
          have hnext : Carries room ⟨[.finish], some (.publish (.check row) rest)⟩
            (.holding room [] n)
              ([] ++ row :: rest) := .checking
          refine ⟨hnext, ?_⟩
          show 3 + (4 + 4 * rest.length) < 4 * (rest.length + 1) + 1 + 3 + 0
          omega
  | @checking ready rest row n =>
      refine ⟨.offering, ?_⟩
      show 3 + (3 + 4 * rest.length) < 3 + (4 + 4 * rest.length)
      omega
  | @offering ready rest row n =>
      -- A producer that offers a row and does not wait finds room, since the channel is not
      -- finished.
      have hroom : (RowChannel.holding room ready n).isFull = false := by
        simpa [Producer.isDone, Producer.waits, Publish.waits, RowChannel.holding] using hactive
      have hstep : (Publish.offer row).step (RowChannel.holding room ready n) =
          (.count, .holding room (ready ++ [row]) n) := by
        simp only [Publish.step, RowChannel.offer?_holding row hroom]
      unfold Producer.step
      simp only [hstep]
      refine ⟨?_, ?_⟩
      · rw [List.append_cons ready row rest]
        exact .counting
      · show 3 + (2 + 4 * rest.length) < 3 + (3 + 4 * rest.length)
        omega
  | @rechecking ready rest row n =>
      refine ⟨.offering, ?_⟩
      show 3 + (3 + 4 * rest.length) < 3 + (4 + 4 * rest.length)
      omega
  | @counting ready rest n =>
      refine ⟨.published, ?_⟩
      show 3 + (1 + 4 * rest.length) < 3 + (2 + 4 * rest.length)
      omega
  | @published ready rest n =>
      cases rest with
      | nil =>
          rw [List.append_nil]
          exact ⟨.ending, Nat.lt_succ_self _⟩
      | cons row rest =>
          refine ⟨.checking, ?_⟩
          show 3 + (4 + 4 * rest.length) < 3 + (1 + 4 * (rest.length + 1))
          omega
  | ending => exact ⟨.marking, Nat.lt_succ_self _⟩
  | @marking _ n =>
      have hstep : (Finish.mark).step (RowChannel.holding room rows n) =
          (.wake, .ended room rows [] n) := by
        rw [← RowChannel.markFinished_holding]
        rfl
      unfold Producer.step
      simp only [hstep]
      exact ⟨.waking, Nat.lt_succ_self _⟩
  | @waking _ n =>
      obtain ⟨wakes, hwakes, hwake⟩ := RowChannel.offerWake_ended room rows n
      have hstep : (Finish.wake).step (RowChannel.ended room rows [] n) =
          (.done, .ended room rows wakes n) := by
        rw [← hwake]
        rfl
      unfold Producer.step
      simp only [hstep]
      exact ⟨.done hwakes, Nat.lt_succ_self _⟩
  | done => cases hactive

/-- **Running ahead**: a producer runs until it is done or waits (`Producer.settle`), with the same
rows still to come out. -/
theorem carries_settle (h : Carries room p c rows) :
    Carries room (p.settle c).1 (p.settle c).2 rows ∧
      (!(p.settle c).1.isDone && !(p.settle c).1.waits (p.settle c).2) = false :=
  iterate_induction (P := fun s : Producer × RowChannel => Carries room s.1 s.2 rows)
    (fun s => s.1.stepsLeft) (fun _ hs hactive => hs.step hactive) h h.stepsLeft_le

/-! ## What the cursor gives -/

/-- A consumer takes the first row of a buffer: that is what `Advance.take` settles to. -/
theorem Advance.settle_take {row : Record} {buffer : List Slot}
    (hbuffer : c.buffer = .row row :: buffer) :
    Advance.take.settle c = (.done (.ok (some row)), { c with buffer }) := by
  have hstep : Advance.take.step c = (.done (.ok (some row)), { c with buffer }) := by
    simp only [step, look, RowChannel.take?, hbuffer]
  have hfuel : 8 * (c.buffer.length + 2) = 8 * c.buffer.length + 15 + 1 := by omega
  unfold settle
  rw [hfuel, iterate_succ rfl]
  simp only [hstep]
  exact iterate_of_not_active rfl

/-- A consumer of a finished channel without rows is told the end. -/
theorem Advance.settle_take_ended (room : Nat) (wakes : List Unit) (n : Nat)
    (hwakes : wakes.length ≤ 1) :
    Advance.take.settle (.ended room [] wakes n) = (.done (.ok none), .ended room [] [] n) := by
  match wakes, hwakes with
  | [], _ => rfl
  | [_], _ => rfl

/-- A producer that has run ahead has put the next row first in the buffer. Without it, the rest is
still to come out. -/
theorem Carries.next {row : Record} {rest : List Record} (h : Carries room p c (row :: rest))
    (hstopped : (!p.isDone && !p.waits c) = false) :
    ∃ buffer, c.buffer = .row row :: buffer ∧ Carries room p { c with buffer } rest := by
  generalize hrows : row :: rest = rows at h
  cases h with
  | @offering ready coming first n | @rechecking ready coming first n =>
      -- The producer waits, so the buffer is full and has a first row.
      have hfull : room + 1 ≤ ready.length := by
        simpa [Producer.isDone, Producer.waits, Publish.waits, RowChannel.holding,
          RowChannel.isFull]
          using hstopped
      cases ready with
      | nil => cases hfull
      | cons _ ready =>
          obtain ⟨rfl, rfl⟩ := List.cons.inj hrows
          exact ⟨ready.map .row, rfl, by constructor⟩
  | @done _ wakes n hwakes =>
      subst hrows
      exact ⟨rest.map .row ++ wakes.map fun _ => .wake, rfl, .done hwakes⟩
  | _ => cases hstopped

/-- A producer that has run ahead and has no more rows has finished the channel. -/
theorem Carries.eq_ended (h : Carries room p c []) (hstopped : (!p.isDone && !p.waits c) = false) :
    ∃ wakes n, wakes.length ≤ 1 ∧ c = .ended room [] wakes n := by
  generalize hrows : [] = rows at h
  cases h with
  | offering | rechecking =>
      cases List.append_ne_nil_of_right_ne_nil _ (List.cons_ne_nil _ _) hrows.symm
  | @done _ wakes n hwakes =>
      subst hrows
      exact ⟨wakes, n, hwakes, rfl⟩
  | _ => cases hstopped

/-- The next row of a cursor on the channel of a producer is the first one of those still to come
out. -/
theorem Carries.next_cons {row : Record} {rest : List Record} (h : Carries room p c (row :: rest)) :
    ∃ p' c', Cursor.next (.channel c p) = (.ok (some row), .channel c' p') ∧
      Carries room p' c' rest := by
  obtain ⟨hkept, hstopped⟩ := carries_settle h
  obtain ⟨buffer, hbuffer, hrest⟩ := hkept.next hstopped
  refine ⟨(p.settle c).1, { (p.settle c).2 with buffer }, ?_, hrest⟩
  simp only [Cursor.next, Advance.settle_take hbuffer]
  rfl

/-- The end of a cursor on the channel of a producer. -/
theorem Carries.next_nil (h : Carries room p c []) :
    ∃ k, Cursor.next (.channel c p) = (.ok none, k) := by
  obtain ⟨hkept, hstopped⟩ := carries_settle h
  obtain ⟨wakes, n, hwakes, hended⟩ := hkept.eq_ended hstopped
  simp only [Cursor.next, hended, Advance.settle_take_ended room wakes n hwakes]
  exact ⟨_, rfl⟩

/-- A cursor on the channel of a producer `Feeds` the rows that are still to come out, and then
tells the end. -/
theorem Carries.feeds (h : Carries room p c rows) :
    ∃ last after, Feeds (Cursor.channel c p) rows last ∧
      RowCursor.next last = (.ok none, after) := by
  induction rows generalizing p c with
  | nil =>
      obtain ⟨after, hend⟩ := h.next_nil
      exact ⟨_, after, .nil, hend⟩
  | cons row rest ih =>
      obtain ⟨p', c', hnext, hrest⟩ := h.next_cons
      obtain ⟨last, after, hfeeds, hend⟩ := ih hrest
      exact ⟨last, after, .cons hnext hfeeds, hend⟩

/-- **What the cursor gives**: the rows that the producer was asked to publish, for any `capacity`
of the channel, and then the end. -/
theorem feeds_published (capacity : Nat) (rows : List Record) :
    ∃ last after, Feeds (Cursor.ofActions capacity none [.publish rows]) rows last ∧
      RowCursor.next last = (.ok none, after) := by
  have hcapacity : max capacity 1 = max capacity 1 - 1 + 1 := by omega
  have hnew : RowChannel.new capacity none = .holding (max capacity 1 - 1) [] 0 := by
    unfold RowChannel.new RowChannel.holding
    rw [← hcapacity]
    rfl
  unfold Cursor.ofActions
  rw [hnew]
  exact Carries.asked.feeds

/-- **What a stream collects**: those in its window of the rows that the producer was asked to
publish (`Window.apply`). -/
theorem collect_of_published {s : RowStream Cursor} {capacity : Nat} {rows : List Record}
    (hcursor : s.cursor = some (Cursor.ofActions capacity none [.publish rows]))
    (hfailed : s.failed = false) :
    s.collect.1 = (s.window.apply rows).map fun row => .ok ⟨s.header, row⟩ := by
  obtain ⟨last, after, hfeeds, hend⟩ := feeds_published capacity rows
  have hwindow := s.window.length_apply_le rows
  have hfuel : (s.window.apply rows).length < (s.cursor.map (·.size)).getD 0 + 1 := by
    rw [hcursor]
    show (s.window.apply rows).length < 0 + (8 * rows.length + 1 + (3 + 0) + 0) + 1 + 1
    omega
  exact RowStream.take_of_feeds hfailed hcursor hfeeds hend hfuel

/-- Without a window `collect` gives all of them. -/
theorem collect_published (header : Header) (capacity : Nat) (rows : List Record) :
    ((RowStream.ofCursor header (Cursor.ofActions capacity none [.publish rows])).collect).1 =
      rows.map fun row => .ok ⟨header, row⟩ :=
  collect_of_published rfl rfl

end DataAccess.Streaming
