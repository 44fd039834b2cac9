import DataAccess.Streaming.Channel

/-!
# Producer: a thread that fills a channel

A `Producer` works through a list of calls on a channel and takes one atomic step at a time. It is
set up from the actions that it was asked for (`Producer.ofActions`): whatever happens, it ends by
finishing its channel, and it records why it stopped early.
-/

namespace DataAccess.Streaming

/-- What a producer may be asked for. -/
inductive ProducerAction where
  /-- Publish rows, up to the first that is refused or is the last wanted. -/
  | publish (rows : List Record)
  /-- Finish the channel. -/
  | finish
  /-- Record an error and go on. -/
  | fail (e : Error)
  /-- Stop with an error. -/
  | stop (e : Error)
  /-- Break down. -/
  | breakDown

/-- A call that a producer has yet to make. -/
inductive ProducerCall where
  /-- Publish rows. -/
  | publish (rows : List Record)
  /-- Record an error. -/
  | fail (e : Error)
  /-- Finish the channel. -/
  | finish
deriving Inhabited

/-- A call that a producer is making. -/
inductive Running where
  /-- A row is being published, others follow. -/
  | publish (p : Publish) (rest : List Record)
  /-- An error is being recorded. -/
  | fail (f : Fail)
  /-- The channel is being finished. -/
  | finish (f : Finish)
deriving Inhabited

/-- A thread that fills a channel: the calls it will make, and the step at which the present one
is. -/
structure Producer where
  /-- The calls to come. -/
  todo : List ProducerCall
  /-- The call under way. -/
  current : Option Running := none
deriving Inhabited

namespace Producer

/-- The error that a breakdown leaves behind. -/
def brokenDown : Error := .stream "row producer panicked"

/-- The calls that actions come to. A producer that stops with an error or breaks down records it
first, and each one ends by finishing its channel. -/
def calls : List ProducerAction → List ProducerCall
  | [] => [.finish]
  | .publish rows :: rest => .publish rows :: calls rest
  | .finish :: rest => .finish :: calls rest
  | .fail e :: rest => .fail e :: calls rest
  | .stop e :: _ => [.fail e, .finish]
  | .breakDown :: _ => [.fail brokenDown, .finish]

/-- A producer that has not begun. -/
def ofActions (actions : List ProducerAction) : Producer := ⟨calls actions, none⟩

/-- Begins the next call. -/
def begin (p : Producer) : Producer :=
  match p.todo with
  | [] => p
  | .publish [] :: rest => ⟨rest, none⟩
  | .publish (row :: rows) :: rest => ⟨rest, some (.publish (.check row) rows)⟩
  | .fail e :: rest => ⟨rest, some (.fail (.record e))⟩
  | .finish :: rest => ⟨rest, some (.finish .mark)⟩

/-- Takes one step of the call under way, or begins the next call. A `publish` of several rows ends
with the first one that is refused or is the last wanted. -/
def step (p : Producer) (c : RowChannel) : Producer × RowChannel :=
  match p.current with
  | none => (p.begin, c)
  | some (.publish (.done more) rows) => match more, rows with
      | true, row :: rows => ({ p with current := some (.publish (.check row) rows) }, c)
      | _, _ => ({ p with current := none }, c)
  | some (.publish call rows) =>
      let (call, c) := call.step c
      ({ p with current := some (.publish call rows) }, c)
  | some (.fail call) =>
      let (call, c) := call.step c
      ({ p with current := if call.isDone then none else some (.fail call) }, c)
  | some (.finish call) =>
      let (call, c) := call.step c
      ({ p with current := if call.isDone then none else some (.finish call) }, c)

/-- Whether all calls have been made. -/
def isDone (p : Producer) : Bool := p.todo.isEmpty && p.current.isNone

/-- Whether the call under way waits. -/
def waits (p : Producer) (c : RowChannel) : Bool :=
  match p.current with
  | some (.publish call _) => call.waits c
  | _ => false

/-- A bound on the steps of a call. -/
def callSize : ProducerCall → Nat
  | .publish rows => 8 * rows.length + 1
  | .fail _ => 3
  | .finish => 3

/-- A bound on the steps that are left, as fuel for `settle`. -/
def size (p : Producer) : Nat :=
  p.todo.foldr (callSize · + ·) 0 + match p.current with
    | some (.publish _ rows) => 8 * (rows.length + 1)
    | some _ => 3
    | none => 0

/-- Carries the producer on until it is done (`isDone`) or waits. -/
def settle (p : Producer) (c : RowChannel) : Producer × RowChannel :=
  iterate (fun (p, c) => !p.isDone && !p.waits c) (fun (p, c) => p.step c) p.size (p, c)

end Producer

end DataAccess.Streaming
