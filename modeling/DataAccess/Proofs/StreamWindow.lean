import DataAccess.Streaming.RowStream
import Mathlib.Tactic.SplitIfs

/-!
# Stream window: which rows a stream gives

A stream skips rows and then gives rows up to a limit. `Window.apply` says the same of a whole list
of rows, and the results here connect the two, for any kind of cursor.

* **What a cursor gives** (`Feeds`): rows one after another, and the cursor that is left then.
* **One row** (`advance_of_apply_nil`, `advance_of_drop_cons`): a stream comes to the first row of
  its window, or to its end if the window is empty.
* **All rows** (`take_of_feeds`): what a stream gives until there is nothing more are the rows of
  its window.
-/

namespace DataAccess.Streaming

/-! ## Windows of lists -/

namespace Window

variable {α : Type}

/-- The rows in a window: `rows.drop w.skip`, and of these the first `n` if there is a limit `n`. -/
def apply (w : Window) (rows : List α) : List α :=
  match w.limit with
  | none => rows.drop w.skip
  | some n => (rows.drop w.skip).take n

/-- The window after its first row: nothing is skipped, and the limit is one less. -/
def afterFirst (w : Window) : Window := ⟨0, w.limit.map (· - 1)⟩

/-- The window without limits is the whole list. -/
@[simp] theorem apply_default (rows : List α) : Window.apply {} rows = rows := rfl

/-- A window that admits rows begins with the first row that is not skipped, and goes on with
`afterFirst` of the rows behind it. -/
theorem apply_eq_cons {w : Window} {rows rest : List α} {row : α} (hlimit : w.limit ≠ some 0)
    (hrows : rows.drop w.skip = row :: rest) :
    w.apply rows = row :: w.afterFirst.apply rest := by
  unfold apply afterFirst
  rcases hn : w.limit with _ | _ | n
  · exact hrows
  · exact absurd hn hlimit
  · rw [hrows]
    rfl

/-- A window is empty if it admits no rows. -/
theorem apply_eq_nil_of_limit {w : Window} {rows : List α} (hlimit : w.limit = some 0) :
    w.apply rows = [] := by
  unfold apply
  rw [hlimit]
  rfl

/-- A window is empty if all rows are skipped. -/
theorem apply_eq_nil_of_drop {w : Window} {rows : List α} (hrows : rows.drop w.skip = []) :
    w.apply rows = [] := by
  unfold apply
  rw [hrows]
  cases w.limit with
  | none => rfl
  | some n => exact List.take_nil

/-- A window that is not empty admits rows, and there are rows that are not skipped: the converse of
`apply_eq_cons`. -/
theorem drop_of_apply_cons {w : Window} {rows others : List α} {row : α}
    (hwindow : w.apply rows = row :: others) :
    w.limit ≠ some 0 ∧ ∃ rest, rows.drop w.skip = row :: rest ∧
      w.afterFirst.apply rest = others := by
  have hlimit : w.limit ≠ some 0 := by
    intro hzero
    rw [apply_eq_nil_of_limit hzero] at hwindow
    cases hwindow
  refine ⟨hlimit, ?_⟩
  cases hdrop : rows.drop w.skip with
  | nil =>
      rw [apply_eq_nil_of_drop hdrop] at hwindow
      cases hwindow
  | cons first rest =>
      rw [apply_eq_cons hlimit hdrop] at hwindow
      obtain ⟨rfl, hothers⟩ := List.cons.inj hwindow
      exact ⟨rest, rfl, hothers⟩

/-- A window leaves out rows and adds none. -/
theorem length_apply_le (w : Window) (rows : List α) : (w.apply rows).length ≤ rows.length := by
  have hdrop : (rows.drop w.skip).length ≤ rows.length := by
    rw [List.length_drop]
    exact Nat.sub_le _ _
  unfold apply
  cases w.limit with
  | none => exact hdrop
  | some n => exact Nat.le_trans (List.length_take_le' _ _) hdrop

/-- A window leaves out the same of a list whatever becomes of its elements: `apply` commutes with
`List.map`. -/
theorem apply_map {β : Type} (w : Window) (f : α → β) (rows : List α) :
    w.apply (rows.map f) = (w.apply rows).map f := by
  unfold apply
  cases w.limit with
  | none => exact List.map_drop.symm
  | some n => rw [← List.map_drop, List.map_take]

/-- What is in a window is in the list. -/
theorem apply_subset (w : Window) (rows : List α) : w.apply rows ⊆ rows := by
  unfold apply
  cases w.limit with
  | none => exact List.drop_subset _ _
  | some n => exact fun a ha => List.drop_subset _ _ (List.take_subset _ _ ha)

/-- A window of a list is empty if that of a longer one is. -/
theorem apply_eq_nil_of_length_le {β : Type} {w : Window} {rows : List α} {others : List β}
    (h : w.apply others = []) (hlength : rows.length ≤ others.length) : w.apply rows = [] := by
  unfold apply at h ⊢
  cases hlimit : w.limit with
  | none =>
      rw [hlimit] at h
      exact List.drop_eq_nil_iff.mpr (Nat.le_trans hlength (List.drop_eq_nil_iff.mp h))
  | some n =>
      rw [hlimit] at h
      refine List.take_eq_nil_iff.mpr ((List.take_eq_nil_iff.mp h).imp_right fun h => ?_)
      exact List.drop_eq_nil_iff.mpr (Nat.le_trans hlength (List.drop_eq_nil_iff.mp h))

end Window

/-! ## What a cursor gives -/

/-- Whether the cursor `k` gives `rows`, one after another, and then the cursor `last` is left. -/
inductive Feeds {κ : Type} [RowCursor κ] : κ → List Record → κ → Prop where
  /-- It gives nothing and is left itself. -/
  | nil {k : κ} : Feeds k [] k
  /-- It gives a row first. -/
  | cons {k next last : κ} {row : Record} {rows : List Record}
      (hnext : RowCursor.next k = (.ok (some row), next)) (hrest : Feeds next rows last) :
      Feeds k (row :: rows) last

/-- A cursor on rows feeds these, and `.rows []` is left. -/
theorem feeds_rows (rows : List Record) : Feeds (Cursor.rows rows) rows (.rows []) := by
  induction rows with
  | nil => exact .nil
  | cons row rows ih => exact .cons rfl ih

namespace RowStream

variable {κ : Type} [RowCursor κ] {s : RowStream κ} {k next last after : κ} {rows : List Record}

/-- Taking a row from the cursor of an open stream. -/
theorem pull_of_next {row : Option Record} (hk : s.cursor = some k)
    (hnext : RowCursor.next k = (.ok row, next)) :
    s.pull = (.ok row, { s with cursor := some next }) := by
  unfold pull
  rw [hk]
  simp only [hnext]

/-- If there are rows enough, a stream skips `n` of them, and its cursor feeds the others. -/
theorem skipRows_of_le {n : Nat} (hk : s.cursor = some k) (hrows : Feeds k rows last)
    (hn : n ≤ rows.length) :
    ∃ k', Feeds k' (rows.drop n) last ∧ s.skipRows n =
      (.ok true, { s with cursor := some k', window := { s.window with skip := 0 } }) := by
  induction n generalizing s k rows with
  | zero =>
      refine ⟨k, hrows, ?_⟩
      unfold skipRows
      rw [← hk]
  | succ n ih =>
      cases hrows with
      | nil => cases hn
      | @cons _ next _ row rest hnext hrest =>
          have hpull := pull_of_next hk hnext
          obtain ⟨k', hk', hskip⟩ := ih (s := { s with cursor := some next }) rfl hrest
            (Nat.le_of_succ_le_succ hn)
          refine ⟨k', hk', ?_⟩
          unfold skipRows
          rw [hpull]
          exact hskip

/-- If there are fewer than `n` rows, a stream that skips them is closed. -/
theorem skipRows_of_lt {n : Nat} (hk : s.cursor = some k) (hrows : Feeds k rows last)
    (hend : RowCursor.next last = (.ok none, after)) (hn : rows.length < n) :
    s.skipRows n = (.ok false, s.close) := by
  induction n generalizing s k rows with
  | zero => cases hn
  | succ n ih =>
      unfold skipRows
      cases hrows with
      | nil =>
          rw [pull_of_next hk hend]
          rfl
      | @cons _ next _ row rest hnext hrest =>
          rw [pull_of_next hk hnext]
          exact ih (s := { s with cursor := some next }) rfl hrest (Nat.lt_of_succ_lt_succ hn)

/-- An open stream skips rows and then comes to the next row of its window. -/
theorem advance_of_cursor (hk : s.cursor = some k) :
    s.advance = match ({ s with current := none } : RowStream κ).skipRows s.window.skip with
      | (.ok true, s) => s.advanceInWindow
      | (.ok false, s) => (.ok false, s)
      | (.error e, s) => (.error e, s) := by
  have hopen : ¬ s.cursor.isNone = true := by simp [hk]
  unfold advance
  exact if_neg hopen

/-- A stream that has not rows enough to skip is closed. -/
theorem isClosed_of_skipRows_false {n : Nat} (h : (s.skipRows n).1 = .ok false) :
    (s.skipRows n).2.isClosed = true := by
  induction n generalizing s with
  | zero => cases h
  | succ n ih =>
      unfold skipRows at h ⊢
      rcases hpull : s.pull with ⟨e | _ | row, pulled⟩ <;> rw [hpull] at h
      · cases h
      · rfl
      · exact ih h

/-- A stream that comes to the end of its window is closed. -/
theorem isClosed_of_advanceInWindow_false (h : s.advanceInWindow.1 = .ok false) :
    s.advanceInWindow.2.isClosed = true := by
  unfold advanceInWindow at h ⊢
  by_cases hlimit : s.window.limit = some 0
  · rw [if_pos hlimit]
    rfl
  · rw [if_neg hlimit] at h ⊢
    rcases hpull : s.pull with ⟨e | _ | row, pulled⟩ <;> rw [hpull] at h
    · cases h
    · rfl
    · cases h

/-- A stream that comes to its end (`.ok false`) is closed. -/
theorem isClosed_of_advance_false (h : s.advance.1 = .ok false) : s.advance.2.isClosed = true := by
  cases hk : s.cursor with
  | none => simp only [advance, isClosed, hk, Option.isNone_none, if_true]
  | some k =>
      rw [advance_of_cursor hk] at h ⊢
      have hskipped :=
        isClosed_of_skipRows_false (s := { s with current := none }) (n := s.window.skip)
      rcases hskip : ({ s with current := none } : RowStream κ).skipRows s.window.skip with
        ⟨e | _ | _, skipped⟩ <;> rw [hskip] at h hskipped
      · cases h
      · exact hskipped rfl
      · exact isClosed_of_advanceInWindow_false h

/-- **One row**: a stream whose window is empty comes to its end and is closed by `advance`. -/
theorem advance_of_apply_nil (hk : s.cursor = some k) (hrows : Feeds k rows last)
    (hend : RowCursor.next last = (.ok none, after)) (hwindow : s.window.apply rows = []) :
    ∃ s' : RowStream κ, s.advance = (.ok false, s'.close) := by
  rw [advance_of_cursor hk]
  rcases Nat.lt_or_ge rows.length s.window.skip with hlt | hge
  · rw [skipRows_of_lt (s := { s with current := none }) hk hrows hend hlt]
    exact ⟨_, rfl⟩
  · obtain ⟨k', hk', hskip⟩ := skipRows_of_le (s := { s with current := none }) hk hrows hge
    rw [hskip]
    simp only [advanceInWindow]
    split_ifs with hlimit
    · exact ⟨_, rfl⟩
    · cases hdrop : rows.drop s.window.skip with
      | nil =>
          rw [hdrop] at hk'
          cases hk'
          rw [pull_of_next rfl hend]
          exact ⟨_, rfl⟩
      | cons row rest =>
          rw [Window.apply_eq_cons hlimit hdrop] at hwindow
          cases hwindow

/-- **One row**: a stream comes to the first row that is not skipped, if its window admits rows, and
is left with `window.afterFirst` for the rows behind it. -/
theorem advance_of_drop_cons {row : Record} {rest : List Record} (hk : s.cursor = some k)
    (hrows : Feeds k rows last) (hlimit : s.window.limit ≠ some 0)
    (hdrop : rows.drop s.window.skip = row :: rest) :
    ∃ k', Feeds k' rest last ∧ s.advance = (.ok true, { s with
      cursor := some k'
      window := s.window.afterFirst
      current := some ⟨s.header, row⟩ }) := by
  have hge : s.window.skip ≤ rows.length := by
    have hlength := congrArg List.length hdrop
    rw [List.length_drop, List.length_cons] at hlength
    omega
  obtain ⟨k', hk', hskip⟩ := skipRows_of_le (s := { s with current := none }) hk hrows hge
  rw [hdrop] at hk'
  cases hk' with
  | @cons _ next _ _ _ hnext hrest =>
      refine ⟨next, hrest, ?_⟩
      rw [advance_of_cursor hk, hskip]
      simp only [advanceInWindow, if_neg hlimit]
      rw [pull_of_next rfl hnext]
      rfl

/-- **All rows**: until there is nothing more, a stream gives the rows of its window, by induction
on `fuel`. -/
theorem take_of_feeds {fuel : Nat} (hfailed : s.failed = false) (hk : s.cursor = some k)
    (hrows : Feeds k rows last) (hend : RowCursor.next last = (.ok none, after))
    (hfuel : (s.window.apply rows).length < fuel) :
    (s.take fuel).1 = (s.window.apply rows).map fun row => .ok ⟨s.header, row⟩ := by
  induction fuel generalizing s k rows with
  | zero => cases hfuel
  | succ fuel ih =>
      unfold take RowStream.next
      rw [hfailed]
      cases hwindow : s.window.apply rows with
      | nil =>
          obtain ⟨s', hadvance⟩ := advance_of_apply_nil hk hrows hend hwindow
          rw [hadvance]
          rfl
      | cons row others =>
          obtain ⟨hlimit, rest, hdrop, hothers⟩ := Window.drop_of_apply_cons hwindow
          obtain ⟨k', hrest, hadvance⟩ := advance_of_drop_cons hk hrows hlimit hdrop
          rw [hadvance]
          subst hothers
          rw [hwindow, List.length_cons] at hfuel
          have htail := ih (s := { s with
              cursor := some k'
              window := s.window.afterFirst
              current := none }) hfailed rfl hrest (Nat.lt_of_succ_lt_succ hfuel)
          exact congrArg (_ :: ·) htail

end RowStream

end DataAccess.Streaming
