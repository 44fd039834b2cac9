import DataAccess.Proofs.StreamWindow
import Mathlib.Data.List.TakeDrop

/-!
# Stream answers: what a stream says when it is advanced again and again

A cursor gives rows, and then it settles: it is at its end, or it reports one error whenever it is
asked. A stream that reads it says what the cursor says, as far as its window goes, and after that
it is closed.

* **Endings** (`Settled`, `Window.ending`): how the rows of a cursor end, and how those in a window
  end. A window that is filled hides what comes behind it.
* **One advance** (`Reads.advance_of_cons`, `Reads.advance_of_exhausted`,
  `Reads.advance_of_failed`): what a stream answers, and what it is then.
* **All advances** (`Reads.answers_eq`, `Reads.items_eq`): the rows in the window, and then one
  answer for ever. The iterator reports an error once.
* **Any cursor** (`window_answers`): all of this, and that nothing behind a filled window is asked
  for.
-/

namespace DataAccess.Streaming

/-! ## Endings -/

/-- How the rows of a cursor end. -/
inductive Ending where
  /-- There are no more rows. -/
  | exhausted
  /-- An error stands in the place of the next row. -/
  | failed (e : Error)

/-- What a cursor gives at its end: `.ok none`, or the error. -/
def Ending.delivery : Ending → Delivery
  | exhausted => .ok none
  | failed e => .error e

section Cursors

variable {κ : Type} [RowCursor κ] {k : κ} {ending : Ending}

/-- The cursor that is left after `n` calls of `next`. -/
def RowCursor.after (k : κ) : Nat → κ
  | 0 => k
  | n + 1 => after (RowCursor.next k).2 n

/-- Whether a cursor has come to its end, and says so whenever it is asked: `next` answers
`ending.delivery` after any number of calls. -/
def Settled (k : κ) (ending : Ending) : Prop :=
  ∀ n, (RowCursor.next (RowCursor.after k n)).1 = ending.delivery

/-- A cursor that has `Settled` gives its ending, and stays so. -/
theorem Settled.next (h : Settled k ending) :
    ∃ k', RowCursor.next k = (ending.delivery, k') ∧ Settled k' ending :=
  ⟨(RowCursor.next k).2, Prod.ext (h 0) rfl, fun n => h (n + 1)⟩

/-- A cursor has `Settled` if `RowCursor.next` leaves it as it was. -/
theorem settled_of_next_eq (h : RowCursor.next k = (ending.delivery, k)) : Settled k ending := by
  have hsame (n : Nat) : RowCursor.after k n = k := by
    induction n with
    | zero => rfl
    | succ n ih =>
        unfold RowCursor.after
        rw [h]
        exact ih
  intro n
  rw [hsame, h]

end Cursors

namespace Window

/-- Whether a window with a limit has all its rows among `count` rows. -/
def isFilledBy (w : Window) (count : Nat) : Bool :=
  match w.limit with
  | none => false
  | some n => w.skip + n ≤ count

/-- How the rows in a window end, if `count` rows are followed by an ending. -/
def ending (w : Window) (count : Nat) (ending : Ending) : Ending :=
  if w.isFilledBy count then .exhausted else ending

/-- No row is in a window of no rows. -/
@[simp] theorem apply_nil {α : Type} (w : Window) : w.apply ([] : List α) = [] :=
  apply_eq_nil_of_drop List.drop_nil

/-- An error is seen only behind a window that is not filled (`isFilledBy`). -/
theorem ending_eq_failed_iff {w : Window} {count : Nat} {behind : Ending} {e : Error} :
    w.ending count behind = .failed e ↔ w.isFilledBy count = false ∧ behind = .failed e := by
  unfold ending
  cases w.isFilledBy count with
  | true => exact ⟨nofun, fun h => nomatch h.1⟩
  | false => exact ⟨fun h => ⟨rfl, h⟩, fun h => h.2⟩

/-- The first row of a window takes a place in it: `afterFirst` is filled by the rows behind that
one iff the window was filled. -/
theorem isFilledBy_afterFirst {α : Type} {w : Window} {row : α} {rows rest : List α}
    (hlimit : w.limit ≠ some 0) (hdrop : rows.drop w.skip = row :: rest) :
    w.afterFirst.isFilledBy rest.length = w.isFilledBy rows.length := by
  have hlength := congrArg List.length hdrop
  rw [List.length_drop, List.length_cons] at hlength
  unfold isFilledBy afterFirst
  rcases hn : w.limit with _ | _ | n
  · rfl
  · exact absurd hn hlimit
  · simp only [Option.map_some, decide_eq_decide]
    omega

/-- A window without rows that `isFilledBy` them has the limit 0. -/
theorem limit_of_isFilledBy {α : Type} {w : Window} {rows : List α} (hwindow : w.apply rows = [])
    (hfilled : w.isFilledBy rows.length = true) : w.limit = some 0 ∧ w.skip ≤ rows.length := by
  unfold isFilledBy at hfilled
  unfold apply at hwindow
  rcases hn : w.limit with _ | n <;> simp only [hn] at hfilled hwindow
  · cases hfilled
  · have hle : w.skip + n ≤ rows.length := of_decide_eq_true hfilled
    have hlength := congrArg List.length hwindow
    rw [List.length_take, List.length_drop, List.length_nil] at hlength
    have hzero : n = 0 := by omega
    exact ⟨congrArg some hzero, by omega⟩

/-- A window without rows that is not filled skips all of them, though it would admit more. -/
theorem length_le_of_not_isFilledBy {α : Type} {w : Window} {rows : List α}
    (hwindow : w.apply rows = []) (hfilled : w.isFilledBy rows.length = false) :
    rows.length ≤ w.skip ∧ (rows.length = w.skip → w.limit ≠ some 0) := by
  unfold isFilledBy at hfilled
  unfold apply at hwindow
  rcases hn : w.limit with _ | n <;> simp only [hn] at hfilled hwindow
  · exact ⟨List.drop_eq_nil_iff.mp hwindow, fun _ => nofun⟩
  · have hlt : ¬ w.skip + n ≤ rows.length := of_decide_eq_false hfilled
    have hlength := congrArg List.length hwindow
    rw [List.length_take, List.length_drop, List.length_nil] at hlength
    refine ⟨by omega, fun hskip hzero => ?_⟩
    obtain rfl := Option.some.inj hzero
    omega

/-- Rows that have been skipped are no longer counted, neither as skipped nor as seen. -/
theorem isFilledBy_skipped {w : Window} {count : Nat} (h : count ≤ w.skip) :
    (⟨w.skip - count, w.limit⟩ : Window).isFilledBy 0 = w.isFilledBy count := by
  unfold isFilledBy
  cases w.limit with
  | none => rfl
  | some n =>
      simp only [decide_eq_decide]
      omega

/-- A window with the limit `n` holds the same of `rows` and of its first `w.skip + n`. -/
theorem apply_take {α : Type} {w : Window} {n : Nat} (hlimit : w.limit = some n) (rows : List α) :
    w.apply (rows.take (w.skip + n)) = w.apply rows := by
  unfold apply
  rw [hlimit]
  simp only [List.drop_take, List.take_take]
  congr 1
  omega

end Window

/-! ## Answers -/

/-- What is seen of one `advance` of a stream. -/
structure Answer where
  /-- Whether there is a row, or the error in its place. -/
  result : Except Error Bool
  /-- The row that the stream has come to. -/
  row : Option Row
  /-- Whether the stream is closed. -/
  closed : Bool

/-- The stream has come to a row. -/
def Answer.given (header : Header) (values : Record) : Answer :=
  ⟨.ok true, some ⟨header, values⟩, false⟩

/-- What is seen of each advance at the end of the rows. -/
def Ending.answer : Ending → Answer
  | exhausted => ⟨.ok false, none, true⟩
  | failed e => ⟨.error e, none, false⟩

/-- What an iterator gives at the end of the rows. -/
def Ending.items : Ending → List (Option (Except Error Row))
  | exhausted => []
  | failed e => [some (.error e)]

namespace RowStream

variable {κ : Type} [RowCursor κ] {s : RowStream κ} {k last : κ} {rows : List Record}
    {ending : Ending}

/-- What is seen of `n` advances, one after another. -/
def answers (s : RowStream κ) : Nat → List Answer
  | 0 => []
  | n + 1 => ⟨s.advance.1, s.advance.2.current, s.advance.2.isClosed⟩ :: s.advance.2.answers n

/-- What `n` calls of the iterator `next` give, one after another. -/
def items (s : RowStream κ) : Nat → List (Option (Except Error Row))
  | 0 => []
  | n + 1 => s.next.1 :: s.next.2.items n

/-- Whether a stream is open on a cursor that gives `rows` and then settles with `ending`. What
comes behind a filled window does not matter. -/
def Reads (s : RowStream κ) (rows : List Record) (ending : Ending) : Prop :=
  ∃ k last, s.cursor = some k ∧ Feeds k rows last ∧
    (s.window.isFilledBy rows.length = false → Settled last ending)

/-! ## One advance -/

/-- A stream that `Reads` rows comes to the first row of its window, and reads the rows behind
it. -/
theorem Reads.advance_of_cons {row : Record} {others : List Record} (h : s.Reads rows ending)
    (hwindow : s.window.apply rows = row :: others) :
    ∃ s' : RowStream κ, ∃ rest, s.advance = (.ok true, s') ∧ s'.current = some ⟨s.header, row⟩ ∧
      s'.header = s.header ∧ s'.failed = s.failed ∧ s'.isClosed = false ∧ s'.Reads rest ending ∧
      s'.window.apply rest = others ∧
      s'.window.ending rest.length ending = s.window.ending rows.length ending := by
  obtain ⟨k, last, hk, hrows, hlast⟩ := h
  obtain ⟨hlimit, rest, hdrop, hothers⟩ := Window.drop_of_apply_cons hwindow
  obtain ⟨k', hrest, hadvance⟩ := advance_of_drop_cons hk hrows hlimit hdrop
  have hfilled := Window.isFilledBy_afterFirst hlimit hdrop
  refine ⟨_, rest, hadvance, rfl, rfl, rfl, rfl, ⟨k', last, rfl, hrest, ?_⟩, hothers, ?_⟩
  · rw [hfilled]
    exact hlast
  · unfold Window.ending
    rw [hfilled]

/-- A stream whose window is empty is closed by `advance`, if the window is filled or there are no
more rows. -/
theorem Reads.advance_of_exhausted (h : s.Reads rows ending) (hwindow : s.window.apply rows = [])
    (hend : s.window.ending rows.length ending = .exhausted) :
    ∃ s' : RowStream κ, s.advance = (.ok false, s'.close) := by
  obtain ⟨k, last, hk, hrows, hlast⟩ := h
  unfold Window.ending at hend
  cases hfilled : s.window.isFilledBy rows.length with
  | true =>
      obtain ⟨hlimit, hskip⟩ := Window.limit_of_isFilledBy hwindow hfilled
      obtain ⟨k', -, hskipped⟩ := skipRows_of_le (s := { s with current := none }) hk hrows hskip
      rw [advance_of_cursor hk, hskipped]
      simp only [advanceInWindow, if_pos hlimit]
      exact ⟨_, rfl⟩
  | false =>
      rw [hfilled] at hend
      obtain ⟨after, hnext, -⟩ := (hlast hfilled).next
      obtain rfl : ending = .exhausted := hend
      exact advance_of_apply_nil hk hrows hnext hwindow

/-- Taking an error from the cursor of an open stream. -/
theorem pull_of_error {e : Error} {after : κ} (hk : s.cursor = some k)
    (hnext : RowCursor.next k = (.error e, after)) :
    s.pull = (.error e, { s with cursor := some after, failed := true }) := by
  unfold pull
  rw [hk]
  simp only [hnext]

/-- If an error stands behind too few rows, a stream that skips them reports it. The rows that it
has skipped are not skipped again: `window.skip` is what is left. -/
theorem skipRows_of_error {e : Error} {after : κ} {n : Nat} (hk : s.cursor = some k)
    (hrows : Feeds k rows last)
    (hnext : RowCursor.next last = (.error e, after)) (hn : rows.length < n) :
    s.skipRows n = (.error e, { s with
      cursor := some after
      window := { s.window with skip := n - rows.length }
      failed := true }) := by
  induction n generalizing s k rows with
  | zero => cases hn
  | succ n ih =>
      unfold skipRows
      cases hrows with
      | nil =>
          rw [pull_of_error hk hnext]
          rfl
      | @cons _ next _ row rest hfirst hrest =>
          rw [pull_of_next hk hfirst]
          have hskip :=
            ih (s := { s with cursor := some next }) rfl hrest (Nat.lt_of_succ_lt_succ hn)
          rw [List.length_cons, Nat.add_sub_add_right]
          exact hskip

/-- A stream whose window is empty and not filled answers `advance` with the error behind its rows,
and comes to it again. -/
theorem Reads.advance_of_failed {e : Error} (h : s.Reads rows (.failed e))
    (hwindow : s.window.apply rows = []) (hfilled : s.window.isFilledBy rows.length = false) :
    ∃ s' : RowStream κ, s.advance = (.error e, s') ∧ s'.current = none ∧ s'.failed = true ∧
      s'.isClosed = false ∧ s'.Reads [] (.failed e) ∧ s'.window.isFilledBy 0 = false := by
  obtain ⟨k, last, hk, hrows, hlast⟩ := h
  obtain ⟨after, hnext, hafter⟩ := (hlast hfilled).next
  obtain ⟨hle, hlimit⟩ := Window.length_le_of_not_isFilledBy hwindow hfilled
  have hleft := (Window.isFilledBy_skipped hle).trans hfilled
  rw [advance_of_cursor hk]
  rcases Nat.lt_or_eq_of_le hle with hlt | heq
  · rw [skipRows_of_error (s := { s with current := none }) hk hrows hnext hlt]
    exact ⟨_, rfl, rfl, rfl, rfl, ⟨after, after, rfl, .nil, fun _ => hafter⟩, hleft⟩
  · obtain ⟨k', hk', hskip⟩ :=
      skipRows_of_le (s := { s with current := none }) hk hrows (Nat.le_of_eq heq.symm)
    rw [← heq, List.drop_length] at hk'
    cases hk'
    rw [hskip]
    simp only [advanceInWindow, if_neg (hlimit heq)]
    rw [pull_of_error rfl hnext]
    rw [← heq, Nat.sub_self] at hleft
    exact ⟨_, rfl, rfl, rfl, rfl, ⟨after, after, rfl, .nil, fun _ => hafter⟩, hleft⟩

/-- A closed stream is at its end. -/
theorem advance_of_isClosed (h : s.isClosed = true) :
    s.advance = (.ok false, { s with current := none }) := by
  unfold advance
  exact if_pos h

/-! ## All advances -/

/-- A closed stream is at its end whenever it is advanced: `n` times `Ending.exhausted.answer`. -/
theorem answers_of_isClosed (h : s.isClosed = true) (n : Nat) :
    s.answers n = List.replicate n Ending.exhausted.answer := by
  induction n generalizing s with
  | zero => rfl
  | succ n ih =>
      have hclosed : ({ s with current := none } : RowStream κ).isClosed = true := h
      unfold answers
      rw [advance_of_isClosed h, ih hclosed, hclosed]
      rfl

/-- **All advances**: a stream comes to the rows in its window, and then it answers in one way for
ever (`Ending.answer`), by induction on the advances. -/
theorem Reads.answers_eq (h : s.Reads rows ending) (n : Nat) :
    s.answers n = ((s.window.apply rows).map (Answer.given s.header)).takeD n
      (s.window.ending rows.length ending).answer := by
  induction n generalizing s rows with
  | zero => rfl
  | succ n ih =>
      unfold answers
      cases hwindow : s.window.apply rows with
      | cons row others =>
          obtain ⟨s', rest, hadvance, hcurrent, hheader, -, hopen, hreads, hothers, hending⟩ :=
            h.advance_of_cons hwindow
          rw [hadvance, ih hreads, hothers, hending, hheader, hcurrent, hopen]
          rfl
      | nil =>
          cases hending : s.window.ending rows.length ending with
          | exhausted =>
              obtain ⟨s', hadvance⟩ := h.advance_of_exhausted hwindow hending
              rw [hadvance, answers_of_isClosed rfl, List.map_nil, List.takeD_nil]
              rfl
          | failed e =>
              obtain ⟨hfilled, rfl⟩ := Window.ending_eq_failed_iff.mp hending
              obtain ⟨s', hadvance, hcurrent, -, hopen, hreads, hleft⟩ :=
                h.advance_of_failed hwindow hfilled
              have hagain : s'.window.ending 0 (.failed e) = .failed e :=
                Window.ending_eq_failed_iff.mpr ⟨hleft, rfl⟩
              rw [hadvance, ih hreads, hcurrent, hopen, Window.apply_nil, List.length_nil, hagain]
              rfl

/-- `next` gives nothing behind an error, and nothing when the stream is closed. -/
theorem next_of_over (h : s.failed = true ∨ s.isClosed = true) :
    ∃ s' : RowStream κ, s.next = (none, s') ∧ (s'.failed = true ∨ s'.isClosed = true) := by
  unfold next
  cases hfailed : s.failed with
  | true => exact ⟨s, rfl, .inl hfailed⟩
  | false =>
      have hclosed : s.isClosed = true := h.resolve_left (by rw [hfailed]; nofun)
      rw [advance_of_isClosed hclosed]
      exact ⟨_, rfl, .inr hclosed⟩

/-- `items` are `none` from then on. -/
theorem items_of_over (h : s.failed = true ∨ s.isClosed = true) (n : Nat) :
    s.items n = List.replicate n none := by
  induction n generalizing s with
  | zero => rfl
  | succ n ih =>
      obtain ⟨s', hnext, hover⟩ := next_of_over h
      unfold items
      rw [hnext, ih hover]
      rfl

/-- **All advances**: the iterator gives the rows in the window, at most one error, and then `none`
ever after. -/
theorem Reads.items_eq (h : s.Reads rows ending) (hfailed : s.failed = false) (n : Nat) :
    s.items n = ((s.window.apply rows).map (fun row => some (Except.ok (Row.mk s.header row))) ++
      (s.window.ending rows.length ending).items).takeD n none := by
  induction n generalizing s rows with
  | zero => rfl
  | succ n ih =>
      unfold items next
      rw [hfailed]
      cases hwindow : s.window.apply rows with
      | cons row others =>
          obtain ⟨s', rest, hadvance, hcurrent, hheader, hfailed', -, hreads, hothers, hending⟩ :=
            h.advance_of_cons hwindow
          rw [hadvance]
          simp only [Bool.false_eq_true, if_false, hcurrent]
          rw [ih (s := { s' with current := none }) hreads (hfailed'.trans hfailed)]
          simp only [hothers, hending, hheader]
          rfl
      | nil =>
          cases hending : s.window.ending rows.length ending with
          | exhausted =>
              obtain ⟨s', hadvance⟩ := h.advance_of_exhausted hwindow hending
              rw [hadvance]
              simp only [Bool.false_eq_true, if_false]
              rw [items_of_over (.inr rfl)]
              exact List.takeD_nil (n + 1) none |>.symm
          | failed e =>
              obtain ⟨hfilled, rfl⟩ := Window.ending_eq_failed_iff.mp hending
              obtain ⟨s', hadvance, -, hfailed', -, -, -⟩ := h.advance_of_failed hwindow hfilled
              rw [hadvance]
              simp only [Bool.false_eq_true, if_false]
              rw [items_of_over (.inl hfailed'), ← List.takeD_nil]
              rfl

/-! ## Any stream -/

/-- A row that is taken from the cursor is not yet the one that the stream has come to. -/
theorem pull_frame (s : RowStream κ) : s.pull.2.current = s.current ∧
    s.pull.2.window = s.window := by
  unfold pull
  cases s.cursor with
  | none => exact ⟨rfl, rfl⟩
  | some k =>
      dsimp only
      rcases RowCursor.next k with ⟨_ | _, _⟩ <;> exact ⟨rfl, rfl⟩

/-- Skipping leaves the limit of the window, and comes to no row (`current = none`). -/
theorem skipRows_frame (s : RowStream κ) (hcurrent : s.current = none) (n : Nat) :
    (s.skipRows n).2.current = none ∧ (s.skipRows n).2.window.limit = s.window.limit := by
  induction n generalizing s with
  | zero => exact ⟨hcurrent, rfl⟩
  | succ n ih =>
      obtain ⟨hpulled, hwindow⟩ := s.pull_frame
      rw [hcurrent] at hpulled
      unfold skipRows
      rcases hpull : s.pull with ⟨e | _ | row, pulled⟩ <;> rw [hpull] at hpulled hwindow
      · have hlimit : pulled.window.limit = s.window.limit := congrArg Window.limit hwindow
        exact ⟨hpulled, hlimit⟩
      · have hlimit : pulled.window.limit = s.window.limit := congrArg Window.limit hwindow
        exact ⟨rfl, hlimit⟩
      · obtain ⟨hskipped, hlimit⟩ := ih pulled hpulled
        exact ⟨hskipped, hlimit.trans (congrArg Window.limit hwindow)⟩

/-- Behind the rows to skip there is a row exactly if the stream says so, and it takes one of the
places that are left in the window. -/
theorem advanceInWindow_row (s : RowStream κ) (hcurrent : s.current = none) :
    (s.advanceInWindow.2.current.isSome = true ↔ s.advanceInWindow.1 = .ok true) ∧
    (s.advanceInWindow.1 = .ok true →
      s.window.limit = s.advanceInWindow.2.window.limit.map (· + 1)) := by
  obtain ⟨hpulled, hwindow⟩ := s.pull_frame
  rw [hcurrent] at hpulled
  unfold advanceInWindow
  by_cases hzero : s.window.limit = some 0
  · rw [if_pos hzero]
    exact ⟨⟨nofun, nofun⟩, nofun⟩
  · rw [if_neg hzero]
    rcases hpull : s.pull with ⟨e | _ | row, pulled⟩ <;> rw [hpull] at hpulled hwindow
    · have hnone : pulled.current = none := hpulled
      simp [hnone]
    · exact ⟨⟨nofun, nofun⟩, nofun⟩
    · have hlimit : pulled.window.limit = s.window.limit := congrArg Window.limit hwindow
      refine ⟨⟨fun _ => rfl, fun _ => rfl⟩, fun _ => ?_⟩
      show s.window.limit = (pulled.window.limit.map (· - 1)).map (· + 1)
      rw [hlimit]
      rcases hn : s.window.limit with _ | _ | n
      · rfl
      · exact absurd hn hzero
      · rfl

/-- **Any stream**: `current` is a row right after an advance exactly if the stream said so, and
each row takes one of the places that are left in the window, of which there is at least one. -/
theorem advance_row (s : RowStream κ) :
    (s.advance.2.current.isSome = true ↔ s.advance.1 = .ok true) ∧
    (s.advance.1 = .ok true → s.window.limit = s.advance.2.window.limit.map (· + 1)) := by
  cases hk : s.cursor with
  | none =>
      have hclosed : s.isClosed = true := by rw [isClosed, hk]; rfl
      rw [advance_of_isClosed hclosed]
      simp
  | some k =>
      obtain ⟨hskipped, hlimit⟩ := skipRows_frame { s with current := none } rfl s.window.skip
      rw [advance_of_cursor hk]
      rcases hskip : ({ s with current := none } : RowStream κ).skipRows s.window.skip with
        ⟨e | _ | _, skipped⟩ <;> rw [hskip] at hskipped hlimit
      · have hnone : skipped.current = none := hskipped
        simp [hnone]
      · have hnone : skipped.current = none := hskipped
        simp [hnone]
      · have hwindow := advanceInWindow_row skipped hskipped
        rw [show skipped.window.limit = s.window.limit from hlimit] at hwindow
        exact hwindow

/-- **Any cursor.** Let a stream be open on a cursor that `Feeds` some rows, and then is `Settled`
with the end or an error. Then

* its `answers` are the rows in its window, one after another, and then one and the same for ever:
  it is closed if the window is filled or the cursor ends, and it reports the error otherwise;
* its `items` are the rows in its window, at most one error, and nothing ever after;
* if the window is filled by the rows, all of this is the same for any other cursor, of any kind,
  that begins with the rows that are skipped and given, whatever it would do if it were asked for
  more;
* whatever a stream is like, it is closed when it has come to its end, it has a row right after an
  `advance` exactly if that is what it answered, and there was a place for that row within the
  limit. -/
theorem window_answers (hk : s.cursor = some k) (hfailed : s.failed = false)
    (hrows : Feeds k rows last) (hlast : Settled last ending) :
    (∀ n, s.answers n = ((s.window.apply rows).map (Answer.given s.header)).takeD n
      (s.window.ending rows.length ending).answer) ∧
    (∀ n,
      s.items n = ((s.window.apply rows).map (fun row => some (Except.ok (Row.mk s.header row))) ++
      (s.window.ending rows.length ending).items).takeD n none) ∧
    (∀ m, s.window.limit = some m → s.window.skip + m ≤ rows.length →
      ∀ {κ' : Type} [RowCursor κ'] {k' last' : κ'}, Feeds k' (rows.take (s.window.skip + m)) last' →
        ∀ n, RowStream.answers { s with cursor := some k' } n = s.answers n ∧
          RowStream.items { s with cursor := some k' } n = s.items n) ∧
    (∀ t : RowStream κ, (t.advance.1 = .ok false → t.advance.2.isClosed = true) ∧
      (t.advance.2.current.isSome = true ↔ t.advance.1 = .ok true) ∧
      (t.advance.1 = .ok true → t.window.limit = t.advance.2.window.limit.map (· + 1))) := by
  have hreads : s.Reads rows ending := ⟨k, last, hk, hrows, fun _ => hlast⟩
  refine ⟨hreads.answers_eq, hreads.items_eq hfailed, ?_,
    fun t => ⟨isClosed_of_advance_false, t.advance_row⟩⟩
  intro m hlimit hm κ' _ k' last' hrows' n
  have hfirst : (rows.take (s.window.skip + m)).length = s.window.skip + m :=
    List.length_take_of_le hm
  have hfilled : s.window.isFilledBy rows.length = true := by
    unfold Window.isFilledBy
    rw [hlimit]
    exact decide_eq_true hm
  have hfilled' : s.window.isFilledBy (rows.take (s.window.skip + m)).length = true := by
    unfold Window.isFilledBy
    rw [hlimit, hfirst]
    exact decide_eq_true (Nat.le_refl _)
  let s' : RowStream κ' := { s with cursor := some k' }
  have hreads' : s'.Reads (rows.take (s.window.skip + m)) ending :=
    ⟨k', last', rfl, hrows', fun hnot => absurd (hfilled'.symm.trans hnot) nofun⟩
  rw [hreads.answers_eq, hreads.items_eq hfailed, hreads'.answers_eq, hreads'.items_eq hfailed]
  unfold Window.ending
  simp only [s', hfilled, hfilled', Window.apply_take hlimit, if_true, and_self]

/-- A producer publishes three rows and fails. Of a window that skips one of them, two places are
filled before the failure is seen, and three are not. -/
theorem window_answers_failingProducer :
    let k := Cursor.ofActions 1 none
      [.publish [[.integer 1], [.integer 2], [.integer 3]], .stop (.stream "source went away")]
    let s (limit : Nat) : RowStream Cursor :=
      { RowStream.ofCursor ⟨["N"]⟩ k with window := ⟨1, some limit⟩ }
    let given (n : Int64) : Row := ⟨⟨["N"]⟩, [.integer n]⟩
    Feeds k [[.integer 1], [.integer 2], [.integer 3]] (RowCursor.after k 3) ∧
    Settled (RowCursor.after k 3) (.failed (.stream "source went away")) ∧
    (s 2).answers 4 = [⟨.ok true, some (given 2), false⟩, ⟨.ok true, some (given 3), false⟩,
      ⟨.ok false, none, true⟩, ⟨.ok false, none, true⟩] ∧
    (s 3).answers 4 = [⟨.ok true, some (given 2), false⟩, ⟨.ok true, some (given 3), false⟩,
      ⟨.error (.stream "source went away"), none, false⟩,
        ⟨.error (.stream "source went away"), none, false⟩] ∧
    (s 3).items 4 = [some (.ok (given 2)), some (.ok (given 3)),
      some (.error (.stream "source went away")),
      none] := by
  intro k s given
  have hrows : Feeds k [[.integer 1], [.integer 2], [.integer 3]] (RowCursor.after k 3) :=
    .cons rfl (.cons rfl (.cons rfl .nil))
  have hlast : Settled (RowCursor.after k 3) (.failed (.stream "source went away")) :=
    settled_of_next_eq rfl
  obtain ⟨hfilled, -⟩ := window_answers (s := s 2) rfl rfl hrows hlast
  obtain ⟨hanswers, hitems, -⟩ := window_answers (s := s 3) rfl rfl hrows hlast
  exact ⟨hrows, hlast, hfilled 4, hanswers 4, hitems 4⟩

end RowStream

end DataAccess.Streaming
