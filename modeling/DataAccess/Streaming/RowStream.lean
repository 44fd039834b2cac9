import DataAccess.Row
import DataAccess.Streaming.Cursor

/-!
# Row streams: the rows of one execution

A `RowStream` reads a cursor through a window: it skips rows first and gives no more than a limit
after that. It is closed when it comes to the end of its rows or of its window, or by a call; an
error leaves it open. As long as it is open it holds the connection that it reads from.
-/

namespace DataAccess.Streaming

/-- The rows to skip and the rows to give after that, `none` for all of them. -/
structure Window where
  /-- The number of rows to skip. -/
  skip : Nat := 0
  /-- The largest number of rows to give. -/
  limit : Option Nat := none
deriving DecidableEq, Inhabited

/-- The rows of one execution. -/
structure RowStream (κ : Type) where
  /-- The labels of the rows. -/
  header : Header
  /-- The cursor, as long as the stream is open. -/
  cursor : Option κ
  /-- What is left of the window. -/
  window : Window := {}
  /-- The row that the stream has come to. -/
  current : Option Row := none
  /-- The number of the connection that is held. -/
  lease : Option Nat := none
  /-- Whether the cursor has reported an error. -/
  failed : Bool := false
deriving Inhabited

namespace RowStream

variable {κ : Type} [RowCursor κ]

/-- A stream of the rows of a cursor. -/
def ofCursor (header : Header) (cursor : κ) : RowStream κ :=
  { header, cursor := some cursor }

/-- Closes a stream: the cursor, the present row and the connection are given up, the window is
not. -/
def close (s : RowStream κ) : RowStream κ :=
  { s with cursor := none, current := none, lease := none }

/-- Whether a stream is closed. -/
def isClosed (s : RowStream κ) : Bool := s.cursor.isNone

/-- Takes a row from the cursor (`RowCursor.next`), and notes in `failed` whether that reported an
error. -/
def pull (s : RowStream κ) : Delivery × RowStream κ :=
  match s.cursor with
  | none => (.ok none, s)
  | some cursor => match RowCursor.next cursor with
      | (.ok row, cursor) => (.ok row, { s with cursor := some cursor })
      | (.error e, cursor) => (.error e, { s with cursor := some cursor, failed := true })

/-- Skips `n` rows, and says whether there were as many. What is left to skip is kept, so that
skipping goes on after an error. -/
def skipRows (s : RowStream κ) : Nat → Except Error Bool × RowStream κ
  | 0 => (.ok true, { s with window := { s.window with skip := 0 } })
  | n + 1 => match s.pull with
      | (.ok (some _), s) => skipRows s n
      | (.ok none, s) => (.ok false, s.close)
      | (.error e, s) => (.error e, { s with window := { s.window with skip := n + 1 } })

/-- Comes to the next row of the window, behind the rows to skip. A limit of zero closes the stream
without a look at the cursor. -/
def advanceInWindow (s : RowStream κ) : Except Error Bool × RowStream κ :=
  if s.window.limit = some 0 then (.ok false, s.close)
  else match s.pull with
    | (.ok (some values), s) =>
        (.ok true, { s with
          window := { s.window with limit := s.window.limit.map (· - 1) }
          current := some ⟨s.header, values⟩ })
    | (.ok none, s) => (.ok false, s.close)
    | (.error e, s) => (.error e, s)

/-- Comes to the next row, and says whether there is one: first what is left to skip (`skipRows`),
then one row (`advanceInWindow`). An error leaves the stream open. -/
def advance (s : RowStream κ) : Except Error Bool × RowStream κ :=
  let s := { s with current := none }
  if s.isClosed then (.ok false, s)
  else match s.skipRows s.window.skip with
    | (.ok true, s) => s.advanceInWindow
    | (.ok false, s) => (.ok false, s)
    | (.error e, s) => (.error e, s)

/-- Gives the next row or the error that stands in its place. After an error there is nothing
more. -/
def next (s : RowStream κ) : Option (Except Error Row) × RowStream κ :=
  if s.failed then (none, s)
  else match s.advance with
    | (.ok true, s) => (s.current.map .ok, { s with current := none })
    | (.ok false, s) => (none, s)
    | (.error e, s) => (some (.error e), s)

/-- Gives rows and errors until there is nothing more, but at most `fuel` of them. -/
def take (s : RowStream κ) : Nat → List (Except Error Row) × RowStream κ
  | 0 => ([], s)
  | fuel + 1 => match s.next with
      | (none, s) => ([], s)
      | (some item, s) =>
          let (rest, s) := s.take fuel
          (item :: rest, s)

/-- Gives rows and errors until there is nothing more. -/
def collect (s : RowStream Cursor) : List (Except Error Row) × RowStream Cursor :=
  s.take ((s.cursor.map (·.size)).getD 0 + 1)

end RowStream

end DataAccess.Streaming
