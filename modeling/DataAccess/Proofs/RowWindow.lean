import DataAccess.Execution.CompiledQuery
import DataAccess.Proofs.LiteralReader
import DataAccess.Proofs.StreamWindow

/-!
# Row window: applied once

The window of a query is written in its SQL, or left to the stream of its rows. `Window.ofClause?`
reads from the clause at the end of the SQL which rows a database gives then, so that the two can be
taken together.

* **The clause can be read** (`Suffix.ofClause?_text`): the text of a written window gives its
  numbers back, the rows to skip and the rows to give after that each in its place.
* **One of the two** (`written_of_isRendered`, `written_of_not_isRendered`): what is written is the
  whole window or nothing, and the stream does the rest.
* **The window is applied once** (`collect_stream_written`): through the clause and then through the
  stream, the rows from the first row of a query on are left, and no more than its largest number.
-/

namespace DataAccess

open Catalog Dialect Execution Streaming

/-! ## Reading a clause -/

namespace Streaming.Window

/-- The window that the words of a clause ask for: all rows, some rows, or some rows from a place
on. Numbers are read by `Text.readNumber?`. -/
def ofWords? : List String → Option Window
  | [""] => some {}
  | ["", "LIMIT", rows] => do
      return ⟨0, some (← Text.readNumber? rows)⟩
  | ["", "LIMIT", rows, "OFFSET", offset] => do
      return ⟨← Text.readNumber? offset, some (← Text.readNumber? rows)⟩
  | ["", "OFFSET", offset, "ROWS", "FETCH", "NEXT", rows, "ROWS", "ONLY"] => do
      return ⟨← Text.readNumber? offset, some (← Text.readNumber? rows)⟩
  | _ => none

/-- The window that a clause at the end of a query asks for, read from its words between blanks
(`ofWords?`). -/
def ofClause? (clause : String) : Option Window :=
  ofWords? ((clause.toList.splitOn ' ').map String.ofList)

/-- Without a clause all rows are asked for. -/
theorem ofClause?_empty : ofClause? "" = some {} := rfl

end Streaming.Window

namespace Dialect.Pagination

/-- The words of a written window, the empty one before the first blank included. -/
def Suffix.words : Suffix → List String
  | .offsetFetch offset rows =>
      ["", "OFFSET", toString offset, "ROWS", "FETCH", "NEXT", toString rows, "ROWS", "ONLY"]
  | .limitOffset rows 0 => ["", "LIMIT", toString rows]
  | .limitOffset rows (offset + 1) => ["", "LIMIT", toString rows, "OFFSET", toString (offset + 1)]

/-- The window that is written. -/
def Suffix.window : Suffix → Window
  | .offsetFetch offset rows => ⟨offset, some rows⟩
  | .limitOffset rows offset => ⟨offset, some rows⟩

/-- The words of a written window stand between blanks. -/
theorem Suffix.toList_text (s : Suffix) :
    s.text.toList = [' '].intercalate (s.words.map String.toList) := by
  have htext : ∀ text : String, toString text = text := fun _ => rfl
  cases s with
  | offsetFetch offset rows => simp [text, words, htext, List.intercalate_cons_cons]
  | limitOffset rows offset =>
      cases offset <;> simp [text, words, htext, List.intercalate_cons_cons]

/-- There is no blank in a word. -/
theorem Suffix.blank_not_mem_words (s : Suffix) : ∀ word ∈ s.words, ' ' ∉ word.toList := by
  have hnumber : ∀ n : Nat, ' ' ∉ Nat.toDigits 10 n := by
    intro n hmem
    exact absurd (Text.isDigit_of_mem_toDigits hmem) (by decide)
  cases s with
  | offsetFetch offset rows => simp [words, hnumber]
  | limitOffset rows offset => cases offset <;> simp [words, hnumber]

/-- There are words. -/
theorem Suffix.words_ne_nil (s : Suffix) : s.words ≠ [] := by
  unfold words
  split <;> exact List.cons_ne_nil _ _

/-- The words of a written window ask for it. -/
theorem Suffix.ofWords?_words (s : Suffix) : Window.ofWords? s.words = some s.window := by
  cases s with
  | offsetFetch offset rows => simp [words, window, Window.ofWords?]
  | limitOffset rows offset => cases offset <;> simp [words, window, Window.ofWords?]

/-- **The clause can be read**: `Window.ofClause? s.text` is `s.window`. -/
theorem Suffix.ofClause?_text (s : Suffix) : Window.ofClause? s.text = some s.window := by
  have hne : s.words.map String.toList ≠ [] := mt List.map_eq_nil_iff.mp s.words_ne_nil
  have hsplit : s.text.toList.splitOn ' ' = s.words.map String.toList := by
    rw [s.toList_text]
    refine List.splitOn_intercalate ' ' ?_ hne
    intro cs hcs
    obtain ⟨word, hword, rfl⟩ := List.mem_map.mp hcs
    exact s.blank_not_mem_words word hword
  have hwords : (s.words.map String.toList).map String.ofList = s.words := by
    simp [List.map_map, Function.comp_def]
  rw [Window.ofClause?, hsplit, hwords, s.ofWords?_words]

example : Window.ofClause? " LIMIT 5 OFFSET 20" = some ⟨20, some 5⟩ := by decide

end Dialect.Pagination

/-! ## One of the two -/

namespace Query

/-- The window of a query: `q.offset` rows are skipped, and at most `q.maxRows` given. -/
def window (q : Query) : Window := ⟨q.offset, q.maxRows⟩

/-- The rows before the window are those before the first row, which is at least the row of number
one: a `firstRow` of zero counts as one. -/
theorem offset_eq (q : Query) : q.offset = max (q.firstRow.getD 0) 1 - 1 := by
  unfold offset
  rcases q.firstRow with _ | first
  · rfl
  · show first - 1 = max first 1 - 1
    omega

/-- A query that leaves out no rows has the window of all rows. -/
theorem window_of_not_isPaginated {q : Query} (h : q.isPaginated = false) : q.window = {} := by
  unfold isPaginated at h
  obtain ⟨hmax, hoffset⟩ := Bool.or_eq_false_iff.mp h
  unfold window
  rw [Option.isSome_eq_false_iff, Option.isNone_iff_eq_none] at hmax
  rw [decide_eq_false_iff_not, Nat.not_lt, Nat.le_zero] at hoffset
  rw [hmax, hoffset]

end Query

namespace Dialect.Pagination

variable {p : Pagination} {q : Query}

/-- The clause that a query ends with, the empty one if nothing is written (`suffix?`). -/
def clause (p : Pagination) (q : Query) : String :=
  ((p.suffix? q).map Suffix.text).getD ""

/-- The window that a query ends with, all rows if nothing is written. -/
def written (p : Pagination) (q : Query) : Window :=
  ((p.suffix? q).map Suffix.window).getD {}

/-- The clause of a query asks for the window that is `written`. -/
theorem ofClause?_clause (p : Pagination) (q : Query) :
    Window.ofClause? (p.clause q) = some (p.written q) := by
  unfold clause written
  rcases p.suffix? q with _ | s
  · exact Window.ofClause?_empty
  · exact s.ofClause?_text

/-- What is written is the window of the query. -/
theorem window_of_suffix? {s : Suffix} (h : p.suffix? q = some s) : s.window = q.window := by
  unfold suffix? at h
  split at h
  case h_1 hmax _ =>
    obtain rfl := Option.some.inj h
    simp only [Suffix.window, Query.window, hmax]
  case h_2 hmax =>
    obtain rfl := Option.some.inj h
    simp only [Suffix.window, Query.window, hmax]
  case h_3 => cases h

/-- A window `isRendered` if there is none or if anything is written (`suffix?`). -/
theorem isRendered_eq (p : Pagination) (q : Query) :
    p.isRendered q = (!q.isPaginated || (p.suffix? q).isSome) := by
  unfold isRendered suffix?
  cases p <;> cases q.maxRows <;> cases q.firstRow <;> rfl

/-- **One of the two**: if the window of a query is rendered, `p.written q = q.window`. -/
theorem written_of_isRendered (h : p.isRendered q = true) : p.written q = q.window := by
  rw [isRendered_eq, Bool.or_eq_true, Bool.not_eq_true'] at h
  unfold written
  rcases hs : p.suffix? q with _ | s
  · rw [hs] at h
    obtain hall | hsome := h
    · exact (Query.window_of_not_isPaginated hall).symm
    · cases hsome
  · exact window_of_suffix? hs

/-- **One of the two**: if it is not rendered, `p.written q = {}`, so nothing is written. -/
theorem written_of_not_isRendered (h : p.isRendered q = false) : p.written q = {} := by
  rw [isRendered_eq, Bool.or_eq_false_iff, Option.isSome_eq_false_iff,
    Option.isNone_iff_eq_none] at h
  unfold written
  rw [h.2]
  rfl

end Dialect.Pagination

/-! ## Applied once -/

/-- The rows in the window of a query, in terms of `firstRow` and `maxRows`. -/
theorem Query.apply_window {α : Type} (q : Query) (rows : List α) :
    q.window.apply rows =
      (rows.drop (max (q.firstRow.getD 0) 1 - 1)).take (q.maxRows.getD rows.length) := by
  have hlength : (rows.drop q.offset).length ≤ rows.length := by
    rw [List.length_drop]
    exact Nat.sub_le _ _
  rw [← q.offset_eq]
  unfold window Window.apply
  rcases q.maxRows with _ | n
  · exact (List.take_of_length_le hlength).symm
  · rfl

namespace Execution.PreparedQuery

/-- The SQL of a compiled query ends with the clause for its window. -/
theorem sql_ofQuery (d : SqlDialect) (outside : Holdings) (fallback : Bool) (q : Query) :
    (ofQuery d outside fallback q).sql =
      (queryFragment (q.holdings.union outside) q).sql ++ d.pagination.clause q := by
  show Fragment.sql (d.fragment outside q) = _
  unfold SqlDialect.fragment Pagination.clause
  rw [Fragment.sql_append]
  rcases d.pagination.suffix? q with _ | s
  · rfl
  · exact congrArg _ (Fragment.sql_ofText s.text)

/-- A stream of rows gives those in its window. -/
theorem collect_stream_rows (p : PreparedQuery) (c : ConnectionId) (rows : List Record) :
    ((p.stream c (.rows rows)).collect).1 =
      (p.window.apply rows).map fun row => .ok ⟨p.header, row⟩ := by
  have hfuel : (p.window.apply rows).length < rows.length + 1 :=
    Nat.lt_succ_of_le (p.window.length_apply_le rows)
  exact RowStream.take_of_feeds (s := p.stream c (.rows rows)) rfl rfl (feeds_rows rows) rfl hfuel

/-- What is `written` of a window and what is left to the streams (`windowFor`), one after the
other, are the window of the query. -/
theorem apply_windowFor_written (d : SqlDialect) (q : Query) (rows : List Record) :
    (windowFor d true q).apply ((d.pagination.written q).apply rows) = q.window.apply rows := by
  unfold windowFor
  rcases h : d.pagination.isRendered q with _ | _
  · rw [Pagination.written_of_not_isRendered h, Window.apply_default]
    rfl
  · rw [Pagination.written_of_isRendered h]
    exact Window.apply_default _

/-- **The window is applied once**: the SQL of a query ends with a clause that asks for a window `w`
of the rows (`Window.ofClause?`). A stream of the rows in `w` gives the rows from the first row of
the query on, and no more than its largest number of rows. -/
theorem collect_stream_written (d : SqlDialect) (outside : Holdings) (q : Query) (c : ConnectionId)
    (rows : List Record) :
    (ofQuery d outside true q).sql =
        (queryFragment (q.holdings.union outside) q).sql ++ d.pagination.clause q ∧
      ∃ w, Window.ofClause? (d.pagination.clause q) = some w ∧
        (((ofQuery d outside true q).stream c (.rows (w.apply rows))).collect).1 =
          ((rows.drop (max (q.firstRow.getD 0) 1 - 1)).take (q.maxRows.getD rows.length)).map
            fun row => .ok ⟨⟨q.labels⟩, row⟩ := by
  refine ⟨sql_ofQuery d outside true q, d.pagination.written q, d.pagination.ofClause?_clause q, ?_⟩
  rw [collect_stream_rows, ← q.apply_window]
  exact congrArg _ (apply_windowFor_written d q rows)

end Execution.PreparedQuery
end DataAccess
