import DataAccess.Streaming.Channel
import Mathlib.Tactic.SplitIfs

/-!
# Channel traffic: a row channel under concurrent use

`Traffic` is a row channel together with everybody who uses it: one producer, one consumer, and any
number of others who finish the channel. A `TrafficEvent` begins a call or takes one atomic step of
a call that is under way. A run is any list of events, so all interleavings of the atomic steps are
runs. Beside the calls, `Traffic` keeps a history: what was published, what was accepted and what
the consumer was told.

* **What a step can do** (`TrafficStep`, `step_eq_or_trafficStep`): an event either is not possible,
  and changes nothing, or it is one of eight transitions.
* **How a channel evolves** (`RowChannel.Evolves`, `evolves_run`): no step of anyone changes the
  size of the buffer or the limit, overfills the buffer, takes back the flag or an error.
-/

namespace DataAccess.Streaming

/-! ## The calls of the producer -/

/-- A call of the producer, at one of its steps: a `Publish`, `Fail` or `Finish`. -/
inductive Sending where
  /-- A row is being published. -/
  | publish (p : Publish)
  /-- An error is being recorded. -/
  | fail (f : Fail)
  /-- The channel is being finished. -/
  | finish (f : Finish)

namespace Sending

/-- Takes one step. -/
def step : Sending → RowChannel → Sending × RowChannel
  | publish p, c => (publish (p.step c).1, (p.step c).2)
  | fail f, c => (fail (f.step c).1, (f.step c).2)
  | finish f, c => (finish (f.step c).1, (f.step c).2)

/-- Whether a call of the producer has returned. -/
def isDone : Sending → Bool
  | publish p => p.result?.isSome
  | fail f => f.isDone
  | finish f => f.isDone

/-- The row of a `publish` that is under way and is not in the buffer yet. -/
def pending : Sending → Option Record
  | publish (.check row) | publish (.offer row) | publish (.recheck row) => some row
  | _ => none

/-- The row that the next step puts into the buffer, if it does: that is at `.offer row`, unless the
buffer is full. -/
def accepts : Sending → RowChannel → Option Record
  | publish (.offer row), c => if c.isFull then none else some row
  | _, _ => none

end Sending

/-! ## Channels in use -/

/-- A `RowChannel` and those who use it: one producer, one consumer and any number of others who
finish the channel. What has been `published`, `accepted` and answered is written down beside
them. -/
structure Traffic where
  /-- The channel. -/
  channel : RowChannel
  /-- The last call of the producer. -/
  producer : Option Sending := none
  /-- The last call of the consumer. -/
  consumer : Option Advance := none
  /-- The calls of others who finish the channel. -/
  closers : List Finish := []
  /-- The rows that the producer published, accepted or not, in order. -/
  published : List Record := []
  /-- The rows that were put into the buffer, in order. -/
  accepted : List Record := []
  /-- What the consumer was told, in order. -/
  answers : List Delivery := []

/-- One atomic step of one of the users of a channel, in any order. -/
inductive TrafficEvent where
  /-- The producer begins to publish a row. -/
  | publish (row : Record)
  /-- The producer begins to record an error. -/
  | fail (e : Error)
  /-- The producer begins to finish the channel. -/
  | finish
  /-- The call of the producer takes a step. -/
  | produce
  /-- The consumer begins to take a row. -/
  | advance
  /-- The call of the consumer takes a step. -/
  | consume
  /-- Someone else begins to finish the channel. -/
  | close
  /-- The call of someone else takes a step. -/
  | closing (i : Nat)

namespace Traffic

/-- The use of a new channel. -/
def new (capacity : Nat) (maxRows : Option Nat) : Traffic :=
  { channel := .new capacity maxRows }

/-- The last call of the producer. Before the first it is as if one had returned,
`.finish .done`. -/
def call (s : Traffic) : Sending := s.producer.getD (.finish .done)

/-- The last call of the producer, if there was one. -/
theorem call_of_producer {s : Traffic} {call : Sending} (h : s.producer = some call) :
    s.call = call := by rw [Traffic.call, h]; rfl

/-- The producer may begin a call if the last one has returned. -/
theorem isDone_call {s : Traffic} (hfree : s.producer.all (·.isDone) = true) :
    s.call.isDone = true := by
  unfold call
  cases hcall : s.producer with
  | none => rfl
  | some call => simpa [hcall] using hfree

/-- Begins a call of the producer, unless one is under way. A row that is to be published is written
down in `published`. -/
def begin (s : Traffic) (call : Sending) : Traffic :=
  if s.producer.all (·.isDone) then
    { s with producer := some call, published := s.published ++ call.pending.toList }
  else s

/-- Takes one step of a call (`Sending.step`, `Advance.step`, `Finish.step`) or begins one. What is
not possible changes nothing. -/
def step (s : Traffic) : TrafficEvent → Traffic
  | .publish row => s.begin (.publish (.check row))
  | .fail e => s.begin (.fail (.record e))
  | .finish => s.begin (.finish .mark)
  | .produce =>
      match s.producer with
      | some call => { s with
          channel := (call.step s.channel).2
          producer := some (call.step s.channel).1
          accepted := s.accepted ++ (call.accepts s.channel).toList }
      | none => s
  | .advance =>
      if s.consumer.all (·.result?.isSome) then { s with consumer := some .take } else s
  | .consume =>
      match s.consumer with
      | some a =>
          if a.result?.isSome then s
          else { s with
            channel := (a.step s.channel).2
            consumer := some (a.step s.channel).1
            answers := s.answers ++ (a.step s.channel).1.result?.toList }
      | none => s
  | .close => { s with closers := s.closers ++ [.mark] }
  | .closing i =>
      match s.closers[i]? with
      | some f => { s with
          channel := (f.step s.channel).2
          closers := s.closers.set i (f.step s.channel).1 }
      | none => s

/-- Takes steps one after another, from the left. -/
def run (s : Traffic) (es : List TrafficEvent) : Traffic := es.foldl step s

end Traffic

/-! ## What a step can do -/

/-- The transitions of a channel in use: what `step` can do, one constructor for each event, with
its guards. -/
inductive TrafficStep : Traffic → Traffic → Prop where
  /-- The producer begins to publish a row. -/
  | publishing {s : Traffic} {row : Record} (hfree : s.producer.all (·.isDone) = true) :
      TrafficStep s { s with
        producer := some (.publish (.check row))
        published := s.published ++ [row] }
  /-- The producer begins to record an error. -/
  | failing {s : Traffic} {e : Error} (hfree : s.producer.all (·.isDone) = true) :
      TrafficStep s { s with producer := some (.fail (.record e)) }
  /-- The producer begins to finish the channel. -/
  | finishing {s : Traffic} (hfree : s.producer.all (·.isDone) = true) :
      TrafficStep s { s with producer := some (.finish .mark) }
  /-- The producer takes a step. -/
  | produced {s : Traffic} {call : Sending} (hcall : s.producer = some call) :
      TrafficStep s { s with
        channel := (call.step s.channel).2
        producer := some (call.step s.channel).1
        accepted := s.accepted ++ (call.accepts s.channel).toList }
  /-- The consumer begins to take a row. -/
  | advancing {s : Traffic} (hfree : s.consumer.all (·.result?.isSome) = true) :
      TrafficStep s { s with consumer := some .take }
  /-- The consumer takes a step. -/
  | consumed {s : Traffic} {a : Advance} (ha : s.consumer = some a) (hrun : a.result? = none) :
      TrafficStep s { s with
        channel := (a.step s.channel).2
        consumer := some (a.step s.channel).1
        answers := s.answers ++ (a.step s.channel).1.result?.toList }
  /-- Someone else begins to finish the channel. -/
  | closing {s : Traffic} : TrafficStep s { s with closers := s.closers ++ [.mark] }
  /-- Someone else takes a step. -/
  | closed {s : Traffic} {i : Nat} {f : Finish} (hf : s.closers[i]? = some f) :
      TrafficStep s { s with
        channel := (f.step s.channel).2
        closers := s.closers.set i (f.step s.channel).1 }

namespace Traffic

/-- **What a step can do**: `s.step e` is `s`, or a `TrafficStep` leads to it. -/
theorem step_eq_or_trafficStep (s : Traffic) (e : TrafficEvent) :
    s.step e = s ∨ TrafficStep s (s.step e) := by
  cases e with
  | publish row =>
      by_cases hfree : s.producer.all (·.isDone) = true
      · right
        simpa [step, begin, hfree, Sending.pending] using TrafficStep.publishing hfree
      · exact .inl (by simp [step, begin, hfree])
  | fail e =>
      by_cases hfree : s.producer.all (·.isDone) = true
      · right
        simpa [step, begin, hfree, Sending.pending] using TrafficStep.failing hfree
      · exact .inl (by simp [step, begin, hfree])
  | finish =>
      by_cases hfree : s.producer.all (·.isDone) = true
      · right
        simpa [step, begin, hfree, Sending.pending] using TrafficStep.finishing hfree
      · exact .inl (by simp [step, begin, hfree])
  | produce =>
      cases hcall : s.producer with
      | none => exact .inl (by simp [step, hcall])
      | some call => exact .inr (by simpa [step, hcall] using TrafficStep.produced hcall)
  | advance =>
      by_cases hfree : s.consumer.all (·.result?.isSome) = true
      · right
        simpa [step, hfree] using TrafficStep.advancing hfree
      · exact .inl (by simp [step, hfree])
  | consume =>
      cases ha : s.consumer with
      | none => exact .inl (by simp [step, ha])
      | some a =>
          cases hrun : a.result? with
          | none => exact .inr (by simpa [step, ha, hrun] using TrafficStep.consumed ha hrun)
          | some d => exact .inl (by simp [step, ha, hrun])
  | close => exact .inr .closing
  | closing i =>
      cases hf : s.closers[i]? with
      | none => exact .inl (by simp [step, hf])
      | some f => exact .inr (by simpa [step, hf] using TrafficStep.closed hf)

/-- What every `TrafficStep` keeps holds along every run. -/
theorem run_induction {P : Traffic → Prop} (h : ∀ {s s'}, TrafficStep s s' → P s → P s')
    {s : Traffic} (hs : P s) (es : List TrafficEvent) : P (s.run es) := by
  refine List.foldlRecOn es step hs ?_
  intro t ht e _
  rcases t.step_eq_or_trafficStep e with heq | hstep
  · rwa [heq]
  · exact h hstep ht

end Traffic

/-! ## How a channel evolves -/

/-- What every atomic step from `c` to `c'` leaves true: `capacity` and `limit` stay, `finished` and
the error stay once they are there, and the buffer is not overfilled. -/
structure RowChannel.Evolves (c c' : RowChannel) : Prop where
  /-- The size of the buffer stays. -/
  capacity_eq : c'.capacity = c.capacity
  /-- The limit stays. -/
  limit_eq : c'.limit = c.limit
  /-- The buffer is not overfilled. -/
  length_le : c.buffer.length ≤ c.capacity → c'.buffer.length ≤ c'.capacity
  /-- The flag stays set. -/
  finished_of : c.finished = true → c'.finished = true
  /-- The error stays. -/
  error_of : ∀ {e : Error}, c.error = some e → c'.error = some e

namespace RowChannel

/-- `RowChannel.Evolves` is reflexive. -/
theorem Evolves.refl (c : RowChannel) : c.Evolves c := ⟨rfl, rfl, id, id, id⟩

/-- `RowChannel.Evolves` is transitive. -/
theorem Evolves.trans {a b c : RowChannel} (h : a.Evolves b) (h' : b.Evolves c) : a.Evolves c :=
  ⟨h'.capacity_eq.trans h.capacity_eq, h'.limit_eq.trans h.limit_eq,
    fun hle => h'.length_le (h.length_le hle), fun hf => h'.finished_of (h.finished_of hf),
    fun he => h'.error_of (h.error_of he)⟩

/-- `markFinished` sets the flag and leaves the rest. -/
theorem evolves_markFinished (c : RowChannel) : c.Evolves c.markFinished :=
  ⟨rfl, rfl, id, fun _ => rfl, id⟩

/-- `countRow` changes nothing but the count. -/
theorem evolves_countRow (c : RowChannel) : c.Evolves c.countRow := ⟨rfl, rfl, id, id, id⟩

/-- `recordError` keeps an error that is there. -/
theorem evolves_recordError (c : RowChannel) (e : Error) : c.Evolves (c.recordError e) :=
  ⟨rfl, rfl, id, id, fun he => by rw [recordError, he]; rfl⟩

/-- `offer?` puts an entry into the buffer only if there is room. -/
theorem evolves_of_offer? {c c' : RowChannel} {slot : Slot} (h : c.offer? slot = some c') :
    c.Evolves c' := by
  unfold offer? at h
  split at h
  · cases h
  · next hfull =>
      cases h
      refine ⟨rfl, rfl, fun _ => ?_, id, id⟩
      have hroom : c.buffer.length < c.capacity := by simpa [isFull] using hfull
      simpa using Nat.succ_le_of_lt hroom

/-- So does `offerWake`, or it changes nothing. -/
theorem evolves_offerWake (c : RowChannel) : c.Evolves c.offerWake := by
  unfold offerWake
  cases h : c.offer? .wake with
  | none => exact .refl c
  | some c' => exact evolves_of_offer? h

end RowChannel

/-- Every step of `Publish` lets the channel evolve. -/
theorem Publish.evolves_step (p : Publish) (c : RowChannel) : c.Evolves (p.step c).2 := by
  cases p with
  | offer row =>
      simp only [step]
      cases h : c.offer? (.row row) with
      | none => exact .refl c
      | some c' => exact RowChannel.evolves_of_offer? h
  | count => exact c.evolves_countRow
  | mark => exact c.evolves_markFinished
  | wake => exact c.evolves_offerWake
  | check row | recheck row | done more => exact .refl c

/-- Every step of `Finish` lets the channel evolve. -/
theorem Finish.evolves_step (f : Finish) (c : RowChannel) : c.Evolves (f.step c).2 := by
  cases f with
  | mark => exact c.evolves_markFinished
  | wake => exact c.evolves_offerWake
  | done => exact .refl c

/-- Every step of `Fail` lets the channel evolve. -/
theorem Fail.evolves_step (f : Fail) (c : RowChannel) : c.Evolves (f.step c).2 := by
  cases f with
  | record e => exact c.evolves_recordError e
  | wake => exact c.evolves_offerWake
  | done => exact .refl c

/-- Every step of the producer lets the channel evolve. -/
theorem Sending.evolves_step (call : Sending) (c : RowChannel) :
    c.Evolves (call.step c).2 := by
  rcases call with p | f | f
  · exact p.evolves_step c
  · exact f.evolves_step c
  · exact f.evolves_step c

/-- A look into the buffer only takes its first entry. -/
theorem Advance.evolves_look (c : RowChannel) (woken empty : Advance) :
    c.Evolves (look c woken empty).2 := by
  unfold look RowChannel.take?
  rcases hbuffer : c.buffer with _ | ⟨_ | _, rest⟩
  · exact .refl c
  all_goals
    refine ⟨rfl, rfl, fun hle => ?_, id, id⟩
    rw [hbuffer, List.length_cons] at hle
    exact Nat.le_of_succ_le hle

/-- Every step of `Advance` lets the channel evolve. -/
theorem Advance.evolves_step (a : Advance) (c : RowChannel) : c.Evolves (a.step c).2 := by
  cases a with
  | take => exact evolves_look c _ _
  | takeBefore e => exact evolves_look c _ _
  | takeLast => exact evolves_look c _ _
  | poll => exact evolves_look c _ _
  | readError | readErrorLast =>
      simp only [step]
      cases c.error <;> exact .refl c
  | readFlag | done d => exact .refl c

namespace Traffic

/-- In every `TrafficStep` the channel `Evolves`. -/
theorem evolves_of_trafficStep {s s' : Traffic} (hstep : TrafficStep s s') :
    s.channel.Evolves s'.channel := by
  cases hstep with
  | @produced call hcall => exact call.evolves_step s.channel
  | @consumed a ha hrun => exact a.evolves_step s.channel
  | @closed i f hf => exact f.evolves_step s.channel
  | _ => exact .refl s.channel

/-- **How a channel evolves**: along every run, from its first moment to its last (`Evolves`). -/
theorem evolves_run (s : Traffic) (es : List TrafficEvent) :
    s.channel.Evolves (s.run es).channel :=
  run_induction (P := fun s' => s.channel.Evolves s'.channel)
    (fun hstep h => h.trans (evolves_of_trafficStep hstep)) (.refl s.channel) es

end Traffic

end DataAccess.Streaming
