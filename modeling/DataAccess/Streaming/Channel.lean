import DataAccess.Error
import DataAccess.Value

/-!
# Row channel: a bounded buffer between two threads

A `RowChannel` hands rows from a producer to a consumer. It has a bounded buffer, a flag that says
that no more rows are wanted or to come, a count of the rows accepted so far, and a place for an
error. The four are changed independently of each other: there is no common lock.

So the calls on a channel are given as machines that take one atomic step at a time: `Publish`,
`Finish` and `Fail` for the producer and `Advance` for the consumer. Steps of different calls may
interleave in any order. A call `waits` when its next steps would change nothing until another call
has done something; `settle` carries a call on until it returns or waits.
-/

namespace DataAccess.Streaming

/-! ## The channel -/

/-- An entry of the buffer. -/
inductive Slot where
  /-- A row. -/
  | row (values : Record)
  /-- No row, but a reason to look at the flag and the error again. -/
  | wake
deriving Inhabited

/-- A bounded `buffer` with a flag, a count and an error. Producer and consumer read and write each
of these in a step of its own, so their calls are machines (`Publish`, `Finish`, `Fail`, `Advance`)
that take one `step` after another. -/
structure RowChannel where
  /-- The size of the buffer. -/
  capacity : Nat
  /-- The number of rows after which the channel finishes by itself. -/
  limit : Option Nat := none
  /-- The entries, the oldest first. -/
  buffer : List Slot := []
  /-- Whether the channel is finished. -/
  finished : Bool := false
  /-- The number of rows accepted. -/
  count : Nat := 0
  /-- The first error recorded. -/
  error : Option Error := none
deriving Inhabited

namespace RowChannel

/-- A new channel. Its buffer has room for one entry at least, and a limit of zero is none:
`max capacity 1` and `maxRows.filter (0 < ·)`. -/
def new (capacity : Nat) (maxRows : Option Nat) : RowChannel :=
  { capacity := max capacity 1, limit := maxRows.filter (0 < ·) }

/-- The size of the buffer when none is asked for. -/
def defaultCapacity : Nat := 20

/-- Whether the buffer has no room, `capacity ≤ buffer.length`. -/
def isFull (c : RowChannel) : Bool := c.capacity ≤ c.buffer.length

/-- Puts an entry into the buffer, or gives `none` if it is full (`isFull`). -/
def offer? (c : RowChannel) (slot : Slot) : Option RowChannel :=
  if c.isFull then none else some { c with buffer := c.buffer ++ [slot] }

/-- Puts a wake entry into the buffer, if there is room. Otherwise the consumer will look again
anyway. -/
def offerWake (c : RowChannel) : RowChannel :=
  (c.offer? .wake).getD c

/-- Takes the oldest entry out of the buffer, if there is one. -/
def take? (c : RowChannel) : Option (Slot × RowChannel) :=
  match c.buffer with
  | [] => none
  | slot :: rest => some (slot, { c with buffer := rest })

/-- Sets the flag `finished`. -/
def markFinished (c : RowChannel) : RowChannel := { c with finished := true }

/-- Counts one more row in `count`. -/
def countRow (c : RowChannel) : RowChannel := { c with count := c.count + 1 }

/-- Whether `count` has reached the limit. -/
def atLimit (c : RowChannel) : Bool := c.limit.any (· ≤ c.count)

/-- Records an error, unless there is one: the first `error` stays. -/
def recordError (c : RowChannel) (e : Error) : RowChannel :=
  { c with error := c.error.getD e }

end RowChannel

/-! ## Repetition -/

/-- Takes steps as long as a state is active, but at most `fuel` steps. -/
def iterate (active : σ → Bool) (step : σ → σ) : Nat → σ → σ
  | 0, s => s
  | fuel + 1, s => if active s then iterate active step fuel (step s) else s

/-! ## Publishing a row -/

/-- A call that publishes a row, at one of its steps. The row is offered as long as the channel is
not `finished`, and is counted after it is in the buffer. -/
inductive Publish where
  /-- About to look at the flag. -/
  | check (row : Record)
  /-- About to put the row into the buffer. -/
  | offer (row : Record)
  /-- About to look at the flag after the buffer was full. -/
  | recheck (row : Record)
  /-- About to count the row. -/
  | count
  /-- About to set the flag, since the limit is reached. -/
  | mark
  /-- About to put a wake entry into the buffer, since the flag was set. -/
  | wake
  /-- Returned, saying whether the producer should go on. -/
  | done (more : Bool)
deriving Inhabited

namespace Publish

/-- Takes one step. -/
def step : Publish → RowChannel → Publish × RowChannel
  | check row, c => (if c.finished then done false else offer row, c)
  | offer row, c => match c.offer? (.row row) with
      | some c => (count, c)
      | none => (recheck row, c)
  | recheck row, c => (if c.finished then done false else offer row, c)
  | count, c =>
      let c := c.countRow
      (if c.atLimit then mark else done true, c)
  | mark, c => (if c.finished then done false else wake, c.markFinished)
  | wake, c => (done false, c.offerWake)
  | done more, c => (done more, c)

/-- The result, once returned. -/
def result? : Publish → Option Bool
  | done more => some more
  | _ => none

/-- Whether the call can only try again until the buffer has room or the channel is finished. -/
def waits : Publish → RowChannel → Bool
  | offer _, c | recheck _, c => c.isFull && !c.finished
  | _, _ => false

/-- Carries the call on until it returns or waits. -/
def settle (p : Publish) (c : RowChannel) : Publish × RowChannel :=
  iterate (fun (p, c) => p.result?.isNone && !p.waits c) (fun (p, c) => p.step c) 8 (p, c)

end Publish

/-! ## Finishing and failing -/

/-- A call that finishes a channel, at one of its steps: `markFinished` first, and a wake entry if
the flag was not set before. -/
inductive Finish where
  /-- About to set the flag. -/
  | mark
  /-- About to put a wake entry into the buffer, since the flag was set. -/
  | wake
  /-- Returned. -/
  | done
deriving Inhabited

namespace Finish

/-- Takes one step. -/
def step : Finish → RowChannel → Finish × RowChannel
  | mark, c => (if c.finished then done else wake, c.markFinished)
  | wake, c => (done, c.offerWake)
  | done, c => (done, c)

/-- Whether the call has returned. -/
def isDone : Finish → Bool
  | done => true
  | _ => false

/-- Carries the call to its end. -/
def settle (f : Finish) (c : RowChannel) : RowChannel :=
  (iterate (fun (f, _) => !f.isDone) (fun (f, c) => f.step c) 2 (f, c)).2

end Finish

/-- A call that records an error, at one of its steps. It does not set `finished`. -/
inductive Fail where
  /-- About to record the error. -/
  | record (e : Error)
  /-- About to put a wake entry into the buffer, since the error was recorded. -/
  | wake
  /-- Returned. -/
  | done
deriving Inhabited

namespace Fail

/-- Takes one step. -/
def step : Fail → RowChannel → Fail × RowChannel
  | record e, c => (if c.error.isSome then done else wake, c.recordError e)
  | wake, c => (done, c.offerWake)
  | done, c => (done, c)

/-- Whether the call has returned. -/
def isDone : Fail → Bool
  | done => true
  | _ => false

/-- Carries the call to its end. -/
def settle (f : Fail) (c : RowChannel) : RowChannel :=
  (iterate (fun (f, _) => !f.isDone) (fun (f, c) => f.step c) 2 (f, c)).2

end Fail

/-! ## Taking a row -/

/-- What a consumer is told: a row (`.ok (some r)`), the end (`.ok none`), or an error. -/
abbrev Delivery := Except Error (Option Record)

/-- A call that takes the next row, at one of its steps. An error is told, and the end, only after
another look into the buffer. -/
inductive Advance where
  /-- About to look into the buffer. -/
  | take
  /-- About to look for an error, since the buffer was empty. -/
  | readError
  /-- About to look into the buffer again, since there is an error. -/
  | takeBefore (e : Error)
  /-- About to look at the flag, since there was no error. -/
  | readFlag
  /-- About to look into the buffer again, since the channel is finished. -/
  | takeLast
  /-- About to look for an error again, since a finished channel was empty. -/
  | readErrorLast
  /-- About to wait for an entry for some time. -/
  | poll
  /-- Returned. -/
  | done (d : Delivery)
deriving Inhabited

namespace Advance

/-- Looks into the buffer: a row is delivered, a wake entry leads on to `woken`, and an empty buffer
to `empty`. -/
def look (c : RowChannel) (woken empty : Advance) : Advance × RowChannel :=
  match c.take? with
  | some (.row values, c) => (done (.ok (some values)), c)
  | some (.wake, c) => (woken, c)
  | none => (empty, c)

/-- Takes one step. -/
def step : Advance → RowChannel → Advance × RowChannel
  | take, c => look c take readError
  | readError, c => match c.error with
      | some e => (takeBefore e, c)
      | none => (readFlag, c)
  | takeBefore e, c => look c (takeBefore e) (done (.error e))
  | readFlag, c => (if c.finished then takeLast else poll, c)
  | takeLast, c => look c takeLast readErrorLast
  | readErrorLast, c => match c.error with
      | some e => (done (.error e), c)
      | none => (done (.ok none), c)
  | poll, c => look c take take
  | done d, c => (done d, c)

/-- The result, once returned. -/
def result? : Advance → Option Delivery
  | done d => some d
  | _ => none

/-- Whether the call can only try again until there is an entry, an error or the flag. -/
def waits : Advance → RowChannel → Bool
  | poll, c => c.buffer.isEmpty && c.error.isNone && !c.finished
  | _, _ => false

/-- Carries the call on until it returns or waits. -/
def settle (a : Advance) (c : RowChannel) : Advance × RowChannel :=
  iterate (fun (a, c) => a.result?.isNone && !a.waits c) (fun (a, c) => a.step c)
    (8 * (c.buffer.length + 2)) (a, c)

end Advance

end DataAccess.Streaming
