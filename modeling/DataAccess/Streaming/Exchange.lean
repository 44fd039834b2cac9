import DataAccess.Streaming.Channel

/-!
# Exchange: a channel with calls under way

An `Exchange` is a channel together with calls that have started and may not have returned. A call
that waits goes on as soon as another call has made that possible; `Exchange.settle` lets all of
them go on, the oldest first.
-/

namespace DataAccess.Streaming

/-- A call that may wait. -/
inductive PendingCall where
  /-- A row is being published. -/
  | publish (p : Publish)
  /-- A row is being taken. -/
  | advance (a : Advance)
deriving Inhabited

/-- Carries a call on until it returns or waits. -/
def PendingCall.settle : PendingCall → RowChannel → PendingCall × RowChannel
  | publish p, c =>
      let (p, c) := p.settle c
      (publish p, c)
  | advance a, c =>
      let (a, c) := a.settle c
      (advance a, c)

/-- Carries calls on, one after another. -/
def settleAll : List PendingCall → RowChannel → List PendingCall × RowChannel
  | [], c => ([], c)
  | call :: rest, c =>
      let (call, c) := call.settle c
      let (rest, c) := settleAll rest c
      (call :: rest, c)

/-- A channel and the calls under way, the oldest first. A call that waits is carried on after each
change of the channel (`settle`). -/
structure Exchange where
  /-- The channel. -/
  channel : RowChannel
  /-- The calls. -/
  pending : List PendingCall := []
deriving Inhabited

namespace Exchange

/-- Lets the calls under way go on after a change of the channel. -/
def settle (x : Exchange) (c : RowChannel) : Exchange :=
  let (pending, channel) := settleAll x.pending c
  ⟨channel, pending⟩

/-- Starts a call. -/
def start (x : Exchange) (call : PendingCall) : Exchange :=
  let (call, channel) := call.settle x.channel
  ⟨channel, x.pending ++ [call]⟩

/-- Publishes a row. A row for which there is no room is as good as refused here. -/
def publish (x : Exchange) (row : Record) : Bool × Exchange :=
  let (p, c) := (Publish.check row).settle x.channel
  (p.result?.getD false, x.settle c)

/-- Takes the next row, or tells the end. -/
def advance (x : Exchange) : Delivery × Exchange :=
  let (a, c) := Advance.take.settle x.channel
  (a.result?.getD (.ok none), x.settle c)

/-- Finishes the channel. -/
def finish (x : Exchange) : Exchange := x.settle (Finish.mark.settle x.channel)

/-- Records an error. -/
def fail (x : Exchange) (e : Error) : Exchange := x.settle ((Fail.record e).settle x.channel)

/-- Takes the oldest call from those under way. -/
def join? (x : Exchange) : Option (PendingCall × Exchange) :=
  match x.pending with
  | [] => none
  | call :: rest => some (call, { x with pending := rest })

end Exchange

end DataAccess.Streaming
