import DataAccess.Streaming.Producer

/-!
# Cursors: rows one by one

A `RowCursor` gives one row after another and then the end, or an error. A `Cursor` reads from a
list of rows, from a script that may hold errors, or from a channel that a producer fills.
-/

namespace DataAccess.Streaming

/-- What gives rows one by one. -/
class RowCursor (κ : Type) where
  /-- The next row, the end, or an error. -/
  next : κ → Delivery × κ

/-- A cursor on rows that are there, on a script, or on a channel. -/
inductive Cursor where
  /-- The rows that are left. -/
  | rows (rest : List Record)
  /-- The rows and errors that are left. -/
  | script (rest : List (Except Error Record))
  /-- A channel and the producer that fills it. -/
  | channel (c : RowChannel) (p : Producer)
deriving Inhabited

namespace Cursor

/-- A cursor on what a producer publishes: a new channel, and a producer that has not begun. -/
def ofActions (capacity : Nat) (maxRows : Option Nat) (actions : List ProducerAction) : Cursor :=
  channel (.new capacity maxRows) (.ofActions actions)

/-- The next row, the end, or an error. The producer of a channel runs ahead as far as it can. -/
def next : Cursor → Delivery × Cursor
  | rows [] => (.ok none, rows [])
  | rows (row :: rest) => (.ok (some row), rows rest)
  | script [] => (.ok none, script [])
  | script (.ok row :: rest) => (.ok (some row), script rest)
  | script (.error e :: rest) => (.error e, script rest)
  | channel c p =>
      let (p, c) := p.settle c
      let (a, c) := Advance.take.settle c
      (a.result?.getD (.ok none), channel c p)

instance : RowCursor Cursor := ⟨next⟩

/-- A bound on the rows and errors that are left, as fuel for whoever reads all of them. -/
def size : Cursor → Nat
  | rows rest => rest.length
  | script rest => rest.length
  | channel c p => c.buffer.length + p.size + 1

end Cursor

end DataAccess.Streaming
