import DataAccess.Proofs.RowDelivery

/-!
# Terminal answers: the end and the error of a channel

A consumer is told the end of the rows, or an error, only after whatever should come before it. A
call of the consumer looks into the buffer, at the error and at the flag at different moments, and
all the others go on meanwhile. So the results here rest on what the call has seen so far, and on
its second look into the buffer and at the error.

* **What the consumer has seen** (`Informed`, `informed_run`): a flag and an error that were seen
  stay as they are, so every answer is borne out by the channel.
* **Nothing is left** (`Undisturbed`, `delivered_eq_accepted_of_returns`): if nobody but the
  producer finishes the channel, no row is on its way into it once it is finished. Then all that was
  accepted has been delivered when the consumer is told the end or an error.
* **The first error** (`failures`, `error_or_raising_eq`): the error of a channel is the first one
  that the producer passed on.
* **A failure is not hidden** (`Failing`): if the producer begins to record an error before the
  channel is finished, the consumer is never told the end.
* **Terminal answers** (`terminal_answers`).
-/

namespace DataAccess.Streaming

/-! ## What the consumer has seen -/

/-- Whether a channel bears an answer out: the end if it is `finished`, an error if that is the
recorded `error`, and any row. -/
def RowChannel.Confirms (c : RowChannel) : Delivery → Prop
  | .ok (some _) => True
  | .ok none => c.finished = true
  | .error e => c.error = some e

/-- An answer that a channel `Confirms` is borne out from then on, since flag and error stay
(`Evolves`). -/
theorem RowChannel.Evolves.confirms {c c' : RowChannel} (h : c.Evolves c') {d : Delivery}
    (hd : c.Confirms d) : c'.Confirms d := by
  rcases d with e | _ | row
  · exact h.error_of hd
  · exact h.finished_of hd
  · trivial

/-- The answer for which a call has seen the reason. That is not always the answer it comes to: a
call at `takeLast` or `readErrorLast` has seen the flag, and may still find a row or an error. -/
def Advance.seen : Advance → Option Delivery
  | takeBefore e => some (.error e)
  | takeLast | readErrorLast => some (.ok none)
  | done d => some d
  | take | readError | readFlag | poll => none

/-- A call with a `result?` has `seen` the reason for it. -/
theorem Advance.seen_of_result? {a : Advance} {d : Delivery} (h : a.result? = some d) :
    a.seen = some d := by
  unfold result? at h
  split at h
  · exact h
  · cases h

/-- A look into the buffer leaves what was seen as it is, or comes to a row. -/
theorem Advance.confirms_look {c : RowChannel} {woken empty : Advance}
    (hwoken : ∀ d ∈ woken.seen, c.Confirms d) (hempty : ∀ d ∈ empty.seen, c.Confirms d) :
    ∀ d ∈ (look c woken empty).1.seen, (look c woken empty).2.Confirms d := by
  have hevolves := evolves_look c woken empty
  unfold look at hevolves ⊢
  rcases htake : c.take? with _ | ⟨values | _, rest⟩
  · exact hempty
  · intro d hd
    cases hd
    trivial
  · rw [htake] at hevolves
    intro d hd
    exact hevolves.confirms (hwoken d hd)

/-- What a call has `seen` is borne out by the channel after each of its steps. -/
theorem Advance.confirms_step {a : Advance} {c : RowChannel} (h : ∀ d ∈ a.seen, c.Confirms d) :
    ∀ d ∈ (a.step c).1.seen, (a.step c).2.Confirms d := by
  have hnone : ∀ d ∈ (none : Option Delivery), c.Confirms d := by simp
  cases a with
  | take => exact confirms_look hnone hnone
  | poll => exact confirms_look hnone hnone
  | takeBefore e => exact confirms_look h h
  | takeLast => exact confirms_look h h
  | readError =>
      simp only [step]
      cases herror : c.error with
      | none => exact hnone
      | some e =>
          intro d hd
          cases hd
          exact herror
  | readFlag =>
      simp only [step]
      cases hfinished : c.finished with
      | false => exact hnone
      | true =>
          intro d hd
          cases hd
          exact hfinished
  | readErrorLast =>
      simp only [step]
      cases herror : c.error with
      | none => exact h
      | some e =>
          intro d hd
          cases hd
          exact herror
  | done d => exact h

namespace Traffic

/-- Whether the channel bears out (`Confirms`) what the consumer was told and what its call has
seen. -/
structure Informed (s : Traffic) : Prop where
  /-- What the call of the consumer has seen. -/
  seen : ∀ a ∈ s.consumer, ∀ d ∈ a.seen, s.channel.Confirms d
  /-- What the consumer was told. -/
  told : ∀ d ∈ s.answers, s.channel.Confirms d

/-- The step lemma: every `TrafficStep` keeps the consumer `Informed`. -/
theorem informed_of_trafficStep {s s' : Traffic} (hstep : TrafficStep s s') (hs : Informed s) :
    Informed s' := by
  have hevolves := evolves_of_trafficStep hstep
  have hseen : ∀ a ∈ s.consumer, ∀ d ∈ a.seen, s'.channel.Confirms d :=
    fun a ha d hd => hevolves.confirms (hs.seen a ha d hd)
  have htold : ∀ d ∈ s.answers, s'.channel.Confirms d :=
    fun d hd => hevolves.confirms (hs.told d hd)
  cases hstep with
  | advancing hfree =>
      refine ⟨?_, htold⟩
      intro a ha d hd
      cases ha
      cases hd
  | @consumed a ha hrun =>
      have hnext := Advance.confirms_step (hs.seen a ha)
      refine ⟨?_, ?_⟩
      · intro b hb
        cases hb
        exact hnext
      · intro d hd
        rcases List.mem_append.mp hd with hold | hnew
        · exact htold d hold
        · exact hnext d (Advance.seen_of_result? (Option.mem_toList.mp hnew))
  | _ => exact ⟨hseen, htold⟩

/-- **What the consumer has seen** is borne out by the channel, at every moment of every run
(`Informed`). -/
theorem informed_run (capacity : Nat) (maxRows : Option Nat) (es : List TrafficEvent) :
    Informed ((new capacity maxRows).run es) :=
  run_induction informed_of_trafficStep ⟨by simp [new], by simp [new]⟩ es

/-! ## Nothing is left -/

/-- Whether the next event makes the call of the consumer return the answer `d`. -/
def Returns (s : Traffic) (event : TrafficEvent) (d : Delivery) : Prop :=
  (s.step event).answers = s.answers ++ [d]

/-- Only a step of the consumer's call makes it return. -/
theorem consumer_of_returns {s : Traffic} {event : TrafficEvent} {d : Delivery}
    (h : s.Returns event d) :
    ∃ a, s.consumer = some a ∧ a.result? = none ∧ (a.step s.channel).1.result? = some d := by
  have hgrows : s.answers ≠ s.answers ++ [d] := by simp
  unfold Returns at h
  rcases s.step_eq_or_trafficStep event with heq | hstep
  · rw [heq] at h
    exact absurd h hgrows
  · generalize s.step event = s' at h hstep
    cases hstep with
    | @consumed a ha hrun =>
        refine ⟨a, ha, hrun, ?_⟩
        have htold : (a.step s.channel).1.result?.toList = [d] := List.append_cancel_left h
        cases hresult : (a.step s.channel).1.result? with
        | none => simp [hresult] at htold
        | some d' => simpa [hresult] using htold
    | _ => exact absurd h hgrows

end Traffic

/-- A look into the buffer that comes to no row either goes on or finds the buffer empty. -/
theorem Advance.result?_look {c : RowChannel} {woken empty : Advance} {d : Delivery}
    (hwoken : woken.result? = none) (hd : Delivery.row? d = none)
    (h : (look c woken empty).1.result? = some d) : c.buffer = [] ∧ empty.result? = some d := by
  unfold look RowChannel.take? at h
  rcases hbuffer : c.buffer with _ | ⟨values | _, rest⟩
  · rw [hbuffer] at h
    exact ⟨rfl, h⟩
  · rw [hbuffer] at h
    cases h
    simp [Delivery.row?] at hd
  · rw [hbuffer] at h
    simp [hwoken] at h

/-- A call comes to the end or to an error in one of two ways: at `takeBefore e` it has seen an
error and finds the buffer empty, or at `readErrorLast` it has seen the flag and an empty buffer and
looks at the error last. -/
theorem Advance.eq_of_terminal {a : Advance} {c : RowChannel} {d : Delivery}
    (hrun : a.result? = none) (hd : Delivery.row? d = none) (h : (a.step c).1.result? = some d) :
    (∃ e, a = .takeBefore e ∧ d = .error e ∧ c.buffer = []) ∨
      (a = .readErrorLast ∧ d = (c.error.map .error).getD (.ok none)) := by
  cases a with
  | take => cases (result?_look rfl hd h).2
  | poll => cases (result?_look rfl hd h).2
  | takeLast => cases (result?_look rfl hd h).2
  | takeBefore e =>
      obtain ⟨hbuffer, hdone⟩ := result?_look rfl hd h
      cases hdone
      exact .inl ⟨e, rfl, rfl, hbuffer⟩
  | readError =>
      simp only [step] at h
      cases herror : c.error <;> simp [herror, result?] at h
  | readFlag =>
      simp only [step] at h
      cases hfinished : c.finished <;> simp [hfinished, result?] at h
  | readErrorLast =>
      simp only [step] at h
      cases herror : c.error with
      | none =>
          rw [herror] at h
          cases h
          exact .inr ⟨rfl, rfl⟩
      | some e =>
          rw [herror] at h
          cases h
          exact .inr ⟨rfl, rfl⟩
  | done d' => cases hrun

/-- A step of the consumer changes the `buffer` at most. -/
theorem Advance.exists_buffer_step (a : Advance) (c : RowChannel) :
    ∃ buffer, (a.step c).2 = { c with buffer } := by
  have hlook : ∀ woken empty, ∃ buffer, (look c woken empty).2 = { c with buffer } := by
    intro woken empty
    unfold look RowChannel.take?
    rcases c.buffer with _ | ⟨_ | _, rest⟩
    · exact ⟨c.buffer, rfl⟩
    · exact ⟨rest, rfl⟩
    · exact ⟨rest, rfl⟩
  cases a with
  | take | takeBefore e | takeLast | poll => exact hlook _ _
  | readError | readErrorLast =>
      simp only [step]
      split <;> exact ⟨c.buffer, rfl⟩
  | readFlag | done d => exact ⟨c.buffer, rfl⟩

/-- No step of `Advance` sets `finished`. -/
theorem Advance.finished_step (a : Advance) (c : RowChannel) :
    (a.step c).2.finished = c.finished := by
  obtain ⟨buffer, hbuffer⟩ := a.exists_buffer_step c
  rw [hbuffer]

/-- No step of `Advance` records an error. -/
theorem Advance.error_step (a : Advance) (c : RowChannel) : (a.step c).2.error = c.error := by
  obtain ⟨buffer, hbuffer⟩ := a.exists_buffer_step c
  rw [hbuffer]

/-- A call that has seen the flag looks at the error last only if the buffer was empty. -/
theorem Advance.rows_eq_nil_of_step {a : Advance} {c : RowChannel} (hrun : a.result? = none)
    (h : (a.step c).1 = .readErrorLast) : (a.step c).2.rows = [] := by
  have hlook : ∀ {woken empty}, woken ≠ .readErrorLast → (look c woken empty).1 = .readErrorLast →
      (look c woken empty).2.rows = [] := by
    intro woken empty hwoken hlast
    unfold look RowChannel.take? at hlast ⊢
    rcases hbuffer : c.buffer with _ | ⟨values | _, rest⟩
    · simp [RowChannel.rows, hbuffer]
    · rw [hbuffer] at hlast
      cases hlast
    · rw [hbuffer] at hlast
      exact absurd hlast hwoken
  cases a with
  | take => exact hlook (fun heq => by cases heq) h
  | poll => exact hlook (fun heq => by cases heq) h
  | takeLast => exact hlook (fun heq => by cases heq) h
  | takeBefore e => exact hlook (fun heq => by cases heq) h
  | readError | readErrorLast =>
      simp only [step] at h
      cases herror : c.error <;> simp [herror] at h
  | readFlag =>
      simp only [step] at h
      cases hfinished : c.finished <;> simp [hfinished] at h
  | done d => cases hrun

/-- A call of the producer that finishes the channel brings no further row into it. -/
theorem Sending.offering_step_eq_none {call : Sending} {c : RowChannel}
    (h : c.finished = true → call.offering = none) (hfinished : (call.step c).2.finished = true) :
    (call.step c).1.offering = none := by
  rcases call with p | f | f
  · cases p with
    | check row | recheck row =>
        have hc : c.finished = true := hfinished
        simp [step, Publish.step, hc, offering]
    | offer row =>
        simp only [step, Publish.step_offer] at hfinished ⊢
        split_ifs at hfinished ⊢
        · rfl
        · rfl
    | count | mark =>
        simp only [step, Publish.step]
        split_ifs <;> rfl
    | wake | done more => rfl
  · rfl
  · rfl

namespace Traffic

/-- What holds as long as nobody but the producer finishes the channel: no row comes into the buffer
of one that is `finished`. -/
structure Undisturbed (s : Traffic) : Prop where
  /-- What the consumer has seen is borne out. -/
  informed : Informed s
  /-- No row is about to be put into the buffer of a finished channel. -/
  offering_eq_none : s.channel.finished = true → s.call.offering = none
  /-- Once a call of the consumer has found a finished channel empty, it stays empty. -/
  rows_eq_nil : s.consumer = some .readErrorLast → s.channel.rows = []

/-- A step closes nothing unless someone else begins to finish the channel. -/
theorem closers_step {s : Traffic} {event : TrafficEvent} (hevent : event ≠ .close)
    (hs : s.closers = []) : (s.step event).closers = [] := by
  cases event with
  | publish row | fail e | finish | advance =>
      simp only [step, begin]
      split_ifs <;> exact hs
  | produce | consume =>
      simp only [step]
      split
      · first
        | exact hs
        | split_ifs <;> exact hs
      · exact hs
  | close => exact absurd rfl hevent
  | closing i => simp [step, hs]

/-- What every `TrafficStep` keeps as long as nobody else finishes the channel holds along every run
in which nobody else does (`.close ∉ es`). -/
theorem run_induction_of_not_mem {P : Traffic → Prop}
    (h : ∀ {s s'}, TrafficStep s s' → s.closers = [] → s'.closers = [] → P s → P s') {s : Traffic}
    (hclosers : s.closers = []) (hs : P s) {es : List TrafficEvent} (hes : .close ∉ es) :
    P (s.run es) := by
  have hrun : (s.run es).closers = [] ∧ P (s.run es) := by
    refine List.foldlRecOn (motive := fun t => t.closers = [] ∧ P t) es step ⟨hclosers, hs⟩ ?_
    intro t ht event hevent
    have hne : event ≠ .close := by
      rintro rfl
      exact hes hevent
    refine ⟨closers_step hne ht.1, ?_⟩
    rcases t.step_eq_or_trafficStep event with heq | hstep
    · rw [heq]
      exact ht.2
    · exact h hstep ht.1 (closers_step hne ht.1) ht.2
  exact hrun.2

/-- The step lemma: every `TrafficStep` keeps `Undisturbed`, unless someone else finishes the
channel. -/
theorem undisturbed_of_trafficStep {s s' : Traffic} (hstep : TrafficStep s s')
    (hbefore : s.closers = []) (hafter : s'.closers = []) (hs : Undisturbed s) :
    Undisturbed s' := by
  have hinformed := informed_of_trafficStep hstep hs.informed
  cases hstep with
  | publishing _ | failing _ | finishing _ => exact ⟨hinformed, fun _ => rfl, hs.rows_eq_nil⟩
  | @produced call hcall =>
      have hoffering := hs.offering_eq_none
      rw [call_of_producer hcall] at hoffering
      refine ⟨hinformed, fun hfinished => call.offering_step_eq_none hoffering hfinished, ?_⟩
      intro hlast
      have hfinished : s.channel.finished = true := hs.informed.seen _ hlast _ rfl
      have haccepts : call.accepts s.channel = none := by
        have hprefix := call.offering_step hfinished
        rw [hoffering hfinished] at hprefix
        have hnil := List.append_eq_nil_iff.mp (List.prefix_nil.mp hprefix)
        exact Option.toList_eq_nil_iff.mp hnil.1
      show (call.step s.channel).2.rows = []
      rw [call.rows_step, hs.rows_eq_nil hlast, haccepts]
      rfl
  | advancing hfree => exact ⟨hinformed, hs.offering_eq_none, nofun⟩
  | @consumed a ha hrun =>
      refine ⟨hinformed, ?_, ?_⟩
      · intro hfinished
        exact hs.offering_eq_none ((a.finished_step s.channel).symm.trans hfinished)
      · intro hlast
        exact a.rows_eq_nil_of_step hrun (Option.some.inj hlast)
  | closing => simp at hafter
  | closed hf => simp [hbefore] at hf

/-- **Nothing is left**: if nobody but the producer finishes the channel, `delivered = accepted`
when the consumer is told the end or an error. -/
theorem delivered_eq_accepted_of_returns {capacity : Nat} {maxRows : Option Nat}
    {es : List TrafficEvent} (hes : .close ∉ es) {event : TrafficEvent} {d : Delivery}
    (hd : Delivery.row? d = none) (h : ((new capacity maxRows).run es).Returns event d) :
    ((new capacity maxRows).run es).delivered = ((new capacity maxRows).run es).accepted := by
  have hnew : Undisturbed (new capacity maxRows) :=
    ⟨informed_run capacity maxRows [], nofun, nofun⟩
  have hundisturbed : Undisturbed ((new capacity maxRows).run es) :=
    run_induction_of_not_mem undisturbed_of_trafficStep rfl hnew hes
  have hexact := delivered_append_rows capacity maxRows es
  generalize (new capacity maxRows).run es = s at h hundisturbed hexact ⊢
  obtain ⟨a, ha, hrun, hresult⟩ := consumer_of_returns h
  have hrows : s.channel.rows = [] := by
    rcases Advance.eq_of_terminal hrun hd hresult with ⟨e, -, -, hbuffer⟩ | ⟨rfl, -⟩
    · simp [RowChannel.rows, hbuffer]
    · exact hundisturbed.rows_eq_nil ha
  rw [← hexact, hrows, List.append_nil]

/-- What the consumer is told is borne out when its call returns (`Confirms`): the flag and the
error were seen before. -/
theorem confirms_of_returns {s : Traffic} (hs : Informed s) {event : TrafficEvent} {d : Delivery}
    (h : s.Returns event d) : s.channel.Confirms d := by
  obtain ⟨a, ha, hrun, hresult⟩ := consumer_of_returns h
  obtain ⟨buffer, hbuffer⟩ := a.exists_buffer_step s.channel
  have hnext := Advance.confirms_step (hs.seen a ha) d (Advance.seen_of_result? hresult)
  rw [hbuffer] at hnext
  rcases d with e | _ | row
  · exact hnext
  · exact hnext
  · trivial

/-! ## The first error -/

/-- The error that the producer begins to record with an event, if it does, and the moment `s`
before. -/
def failure? (s : Traffic) : TrafficEvent → Option (Error × Traffic)
  | .fail e => if s.producer.all (·.isDone) then some (e, s) else none
  | _ => none

/-- The errors that the producer begins to record along a run, in order, each with the moment before
(`failure?`). -/
def failures (s : Traffic) : List TrafficEvent → List (Error × Traffic)
  | [] => []
  | event :: es => (s.failure? event).toList ++ (s.step event).failures es

/-- `s.run (es ++ fs) = (s.run es).run fs`. -/
theorem run_append (s : Traffic) (es fs : List TrafficEvent) :
    s.run (es ++ fs) = (s.run es).run fs := List.foldl_append

/-- A failure `(e, b)` of a run begins somewhere in it, while no other call of the producer is under
way: `es = before ++ .fail e :: after` and `b = s.run before`. -/
theorem exists_eq_of_mem_failures {s b : Traffic} {es : List TrafficEvent} {e : Error}
    (h : (e, b) ∈ s.failures es) :
    ∃ before after, es = before ++ .fail e :: after ∧ b = s.run before ∧
      b.producer.all (·.isDone) = true := by
  induction es generalizing s with
  | nil => cases h
  | cons event es ih =>
      rcases List.mem_append.mp h with hnow | hlater
      · cases event with
        | fail e' =>
            simp only [failure?] at hnow
            split_ifs at hnow with hfree
            · obtain ⟨rfl, rfl⟩ := Prod.mk.inj (List.mem_singleton.mp hnow)
              exact ⟨[], es, rfl, rfl, hfree⟩
            · cases hnow
        | _ => cases hnow
      · obtain ⟨before, after, rfl, rfl, hfree⟩ := ih hlater
        exact ⟨event :: before, after, rfl, rfl, hfree⟩

end Traffic

/-- The error that a call of the producer is about to record, in the step `.fail (.record e)`. -/
def Sending.raising : Sending → Option Error
  | fail (.record e) => some e
  | _ => none

/-- A call that `isDone` is not about to record an error. -/
theorem Sending.raising_of_isDone {call : Sending} (h : call.isDone = true) :
    call.raising = none := by
  rcases call with p | f | f
  · rfl
  · cases f with
    | record e => cases h
    | wake | done => rfl
  · rfl

/-- A wake entry is no error. -/
@[simp] theorem RowChannel.error_offerWake (c : RowChannel) : c.offerWake.error = c.error := by
  unfold offerWake offer?
  split_ifs <;> rfl

/-- No step of `Finish` records an error. -/
theorem Finish.error_step (f : Finish) (c : RowChannel) : (f.step c).2.error = c.error := by
  cases f with
  | wake => exact c.error_offerWake
  | mark | done => rfl

/-- The error that is recorded, or else the one that is about to be (`raising`), stays the same in
each step of a call. -/
theorem Sending.error_or_raising_step (call : Sending) (c : RowChannel) :
    (call.step c).2.error.or (call.step c).1.raising = c.error.or call.raising := by
  rcases call with p | f | f
  · cases p with
    | offer row =>
        simp only [step, Publish.step_offer]
        split_ifs <;> rfl
    | wake => simp [step, Publish.step, raising]
    | check row | recheck row | count | mark | done more => rfl
  · cases f with
    | record e =>
        simp only [step, Fail.step, RowChannel.recordError, raising]
        cases c.error <;> rfl
    | wake => simp [step, Fail.step, raising]
    | done => rfl
  · simp [step, f.error_step, raising]

namespace Traffic

/-- `begin` adds the error that the call is `raising`, if it can begin. -/
theorem error_or_raising_begin (s : Traffic) (call : Sending) :
    (s.begin call).channel.error.or (s.begin call).call.raising =
      (s.channel.error.or s.call.raising).or
        (if s.producer.all (·.isDone) then call.raising else none) := by
  unfold begin
  split_ifs with hfree
  · rw [Sending.raising_of_isDone (isDone_call hfree), Option.or_none]
    rfl
  · rw [Option.or_none]

/-- The error that is recorded, or else the one of `raising`, stays the same in each step, unless
there is none and the step begins to record one (`failure?`). -/
theorem error_or_raising_step (s : Traffic) (event : TrafficEvent) :
    (s.step event).channel.error.or (s.step event).call.raising =
      (s.channel.error.or s.call.raising).or ((s.failure? event).map (·.1)) := by
  cases event with
  | publish row =>
      rw [step, error_or_raising_begin]
      simp [failure?, Sending.raising]
  | fail e =>
      rw [step, error_or_raising_begin]
      unfold failure?
      split_ifs <;> rfl
  | finish =>
      rw [step, error_or_raising_begin]
      simp [failure?, Sending.raising]
  | produce =>
      simp only [failure?, Option.map_none, Option.or_none]
      cases hcall : s.producer with
      | none => simp only [step, hcall]
      | some call =>
          rw [call_of_producer hcall, ← call.error_or_raising_step]
          simp only [step, hcall]
          rfl
  | advance =>
      simp only [failure?, Option.map_none, Option.or_none, step]
      split_ifs <;> rfl
  | consume =>
      simp only [failure?, Option.map_none, Option.or_none]
      cases ha : s.consumer with
      | none => simp only [step, ha]
      | some a =>
          simp only [step, ha]
          split_ifs
          · rfl
          · rw [a.error_step]
            rfl
  | close => exact (Option.or_none).symm
  | closing i =>
      simp only [failure?, Option.map_none, Option.or_none]
      cases hf : s.closers[i]? with
      | none => simp only [step, hf]
      | some f =>
          simp only [step, hf]
          rw [f.error_step]
          rfl

/-- The error that is recorded, or else the one that is about to be, after a run: it was there
before, or is the first of the `failures`. -/
theorem error_or_raising_run (s : Traffic) (es : List TrafficEvent) :
    (s.run es).channel.error.or (s.run es).call.raising =
      (s.channel.error.or s.call.raising).or ((s.failures es).head?.map (·.1)) := by
  induction es generalizing s with
  | nil => exact (Option.or_none).symm
  | cons event es ih =>
      calc (s.run (event :: es)).channel.error.or (s.run (event :: es)).call.raising
          = ((s.step event).channel.error.or (s.step event).call.raising).or
              (((s.step event).failures es).head?.map (·.1)) := ih (s.step event)
        _ = (s.channel.error.or s.call.raising).or
              (((s.failure? event).map (·.1)).or
                (((s.step event).failures es).head?.map (·.1))) := by
            rw [error_or_raising_step, Option.or_assoc]
        _ = (s.channel.error.or s.call.raising).or
          ((s.failures (event :: es)).head?.map (·.1)) := by
            rw [failures, List.head?_append]
            cases s.failure? event <;> rfl

/-- **The first error**: the error of a channel is the first of the `failures`, the first that the
producer passed on. -/
theorem head?_failures_of_error {capacity : Nat} {maxRows : Option Nat} {es : List TrafficEvent}
    {e : Error} (h : ((new capacity maxRows).run es).channel.error = some e) :
    ∃ b rest, (new capacity maxRows).failures es = (e, b) :: rest := by
  have hfirst := error_or_raising_run (new capacity maxRows) es
  rw [h] at hfirst
  cases hfailures : (new capacity maxRows).failures es with
  | nil =>
      rw [hfailures] at hfirst
      cases hfirst
  | cons failure rest =>
      rw [hfailures] at hfirst
      cases hfirst
      exact ⟨failure.2, rest, rfl⟩

/-! ## Rows before the flag -/

/-- What was `accepted` stays so, as a prefix. -/
theorem accepted_prefix_run (s : Traffic) (es : List TrafficEvent) :
    s.accepted <+: (s.run es).accepted := by
  refine run_induction (P := fun t => s.accepted <+: t.accepted) ?_ (List.prefix_refl _) es
  intro t u hstep ht
  cases hstep with
  | produced hcall => exact ht.trans (List.prefix_append _ _)
  | _ => exact ht

/-- What was accepted before a failure began is accepted at the end of the run. -/
theorem accepted_prefix_of_mem_failures {s b : Traffic} {es : List TrafficEvent} {e : Error}
    (h : (e, b) ∈ s.failures es) : b.accepted <+: (s.run es).accepted := by
  obtain ⟨before, after, rfl, rfl, -⟩ := exists_eq_of_mem_failures h
  rw [run_append]
  exact accepted_prefix_run _ _

/-- A later moment of the use of a channel: the `rows` that were accepted before are delivered as
soon as the consumer has found the finished channel empty. -/
structure Delivering (rows : List Record) (s : Traffic) : Prop where
  /-- The rows and then those in the buffer were all accepted. -/
  exact : s.delivered ++ s.channel.rows = s.accepted
  /-- The rows were accepted. -/
  accepted : rows <+: s.accepted
  /-- Once a call of the consumer has found the finished channel empty, they are delivered. -/
  delivered : s.consumer = some .readErrorLast → rows <+: s.delivered

/-- The step lemma: every `TrafficStep` keeps `Delivering rows`. -/
theorem delivering_of_trafficStep {rows : List Record} {s s' : Traffic} (hstep : TrafficStep s s')
    (hs : Delivering rows s) : Delivering rows s' := by
  have hexact := delivered_append_rows_of_trafficStep hstep hs.exact
  cases hstep with
  | produced hcall =>
      exact ⟨hexact, hs.accepted.trans (List.prefix_append _ _), hs.delivered⟩
  | advancing hfree => exact ⟨hexact, hs.accepted, nofun⟩
  | @consumed a ha hrun =>
      refine ⟨hexact, hs.accepted, ?_⟩
      intro hlast
      have hempty := a.rows_eq_nil_of_step hrun (Option.some.inj hlast)
      have hall := hexact
      rw [hempty, List.append_nil] at hall
      rw [hall]
      exact hs.accepted
  | _ => exact ⟨hexact, hs.accepted, hs.delivered⟩

/-- **Rows before the flag**: when the consumer is told the end, every row that was accepted while
the channel was not finished has been delivered, whoever finished it. -/
theorem accepted_prefix_delivered_of_returns {capacity : Nat} {maxRows : Option Nat}
    {before after : List TrafficEvent}
    (hopen : ((new capacity maxRows).run before).channel.finished = false) {event : TrafficEvent}
    (h : ((new capacity maxRows).run (before ++ after)).Returns event (.ok none)) :
    ((new capacity maxRows).run before).accepted <+:
      ((new capacity maxRows).run (before ++ after)).delivered := by
  have hinformed := informed_run capacity maxRows before
  have hnow : Delivering ((new capacity maxRows).run before).accepted
      ((new capacity maxRows).run before) := by
    refine ⟨delivered_append_rows capacity maxRows before, List.prefix_refl _, ?_⟩
    intro hlast
    have hfinished := hinformed.seen _ hlast _ rfl
    simp [RowChannel.Confirms, hopen] at hfinished
  rw [run_append] at h ⊢
  have hlater := run_induction delivering_of_trafficStep hnow after
  obtain ⟨a, ha, hrun, hresult⟩ := consumer_of_returns h
  rcases Advance.eq_of_terminal hrun rfl hresult with ⟨e, -, herror, -⟩ | ⟨rfl, -⟩
  · cases herror
  · exact hlater.delivered ha

/-! ## A failure is not hidden -/

/-- Whether the error comes before the flag: it is recorded, or is about to be while the channel is
not finished, and the consumer was not told the end. -/
structure Failing (s : Traffic) : Prop where
  /-- What the consumer has seen is borne out. -/
  informed : Informed s
  /-- The error is recorded, or is about to be. -/
  raised : s.channel.error ≠ none ∨
    (s.channel.finished = false ∧ ∃ e, s.producer = some (.fail (.record e)))
  /-- The consumer was not told the end. -/
  not_told : .ok none ∉ s.answers

/-- The step lemma: every `TrafficStep` keeps `Failing`, unless someone else finishes the
channel. -/
theorem failing_of_trafficStep {s s' : Traffic} (hstep : TrafficStep s s')
    (hbefore : s.closers = []) (hafter : s'.closers = []) (hs : Failing s) : Failing s' := by
  have hinformed := informed_of_trafficStep hstep hs.informed
  have herror : s.channel.error ≠ none → s'.channel.error ≠ none := by
    intro hsome
    obtain ⟨e, he⟩ := Option.ne_none_iff_exists'.mp hsome
    rw [(evolves_of_trafficStep hstep).error_of he]
    exact Option.some_ne_none e
  have hbusy : ∀ {call : Sending}, s.producer = some call → call.isDone = false →
      ¬ s.producer.all (·.isDone) = true := by
    intro call hcall hdone
    simp [hcall, hdone]
  cases hstep with
  | publishing hfree | failing hfree | finishing hfree =>
      refine ⟨hinformed, .inl ?_, hs.not_told⟩
      rcases hs.raised with hsome | ⟨-, e, hcall⟩
      · exact hsome
      · exact absurd hfree (hbusy hcall rfl)
  | @produced call hcall =>
      refine ⟨hinformed, .inl ?_, hs.not_told⟩
      rcases hs.raised with hsome | ⟨-, e, hrecord⟩
      · exact herror hsome
      · obtain rfl : call = .fail (.record e) := Option.some.inj (hcall.symm.trans hrecord)
        exact Option.some_ne_none _
  | advancing hfree => exact ⟨hinformed, hs.raised, hs.not_told⟩
  | @consumed a ha hrun =>
      refine ⟨hinformed, ?_, ?_⟩
      · rcases hs.raised with hsome | ⟨hopen, hrecord⟩
        · exact .inl (herror hsome)
        · exact .inr ⟨(a.finished_step s.channel).trans hopen, hrecord⟩
      · intro hmem
        rcases List.mem_append.mp hmem with hold | hnew
        · exact hs.not_told hold
        · -- The end is told only by the last look at the error, after a look at the flag.
          have hresult := Option.mem_toList.mp hnew
          rcases Advance.eq_of_terminal hrun rfl hresult with ⟨e, -, hd, -⟩ | ⟨rfl, hd⟩
          · cases hd
          · rcases hs.raised with hsome | ⟨hopen, -⟩
            · obtain ⟨e, he⟩ := Option.ne_none_iff_exists'.mp hsome
              rw [he] at hd
              cases hd
            · have hfinished := hs.informed.seen _ ha _ rfl
              simp [RowChannel.Confirms, hopen] at hfinished
  | closing => simp at hafter
  | closed hf => simp [hbefore] at hf

/-- **A failure is not hidden**: if the producer begins to record an error while the channel is not
finished, and nobody else finishes it (`.close ∉ es`), the consumer is never told the end. -/
theorem end_not_mem_answers {capacity : Nat} {maxRows : Option Nat} {es : List TrafficEvent}
    {e : Error} {b : Traffic} (hmem : (e, b) ∈ (new capacity maxRows).failures es)
    (hopen : b.channel.finished = false) (hes : .close ∉ es) :
    .ok none ∉ ((new capacity maxRows).run es).answers := by
  obtain ⟨before, after, rfl, rfl, hfree⟩ := exists_eq_of_mem_failures hmem
  have hbefore : .close ∉ before := fun h => hes (List.mem_append_left _ h)
  have hafter : .close ∉ after := fun h => hes (List.mem_append_right _ (List.mem_cons_of_mem _ h))
  have hinformed := informed_run capacity maxRows before
  have hclosers : ((new capacity maxRows).run before).closers = [] :=
    run_induction_of_not_mem (P := fun s => s.closers = []) (fun _ _ h _ => h) rfl rfl hbefore
  rw [run_append]
  generalize (new capacity maxRows).run before = s at hopen hfree hinformed hclosers ⊢
  have hstep : s.step (.fail e) = { s with producer := some (.fail (.record e)) } := by
    simp [step, begin, hfree, Sending.pending]
  have hfailing : Failing (s.step (.fail e)) := by
    rw [hstep]
    refine ⟨⟨hinformed.seen, hinformed.told⟩, .inr ⟨hopen, e, rfl⟩, ?_⟩
    intro htold
    have hfinished := hinformed.told _ htold
    simp [RowChannel.Confirms, hopen] at hfinished
  have hnext : (s.step (.fail e)).closers = [] := closers_step (fun heq => by cases heq) hclosers
  exact (run_induction_of_not_mem failing_of_trafficStep hnext hfailing hafter).not_told

/-- **Terminal answers neither overtake rows nor hide an error**: at every moment of every run of
one producer, one consumer and any number of others who finish the channel,

* an error that the consumer is told (`Returns`) is the first of `failures`, those that the producer
  passed on, and if nobody else finishes the channel (`.close ∉ es`), every row accepted before that
  call has been delivered;
* if the consumer is told the end, the channel is `finished`, and every row accepted before it was
  so has been delivered;
* if the producer passed on an error before the channel was finished, by a call of its own or by the
  row limit, and nobody else finishes the channel, the consumer is never told the end. -/
theorem terminal_answers (capacity : Nat) (maxRows : Option Nat) (es : List TrafficEvent) :
    let s := (new capacity maxRows).run es
    let failures := (new capacity maxRows).failures es
    (∀ event e, s.Returns event (.error e) →
      ∃ b rest, failures = (e, b) :: rest ∧ (.close ∉ es → b.accepted <+: s.delivered)) ∧
    (∀ event, s.Returns event (.ok none) → s.channel.finished = true ∧
      ∀ before, before <+: es → ((new capacity maxRows).run before).channel.finished = false →
        ((new capacity maxRows).run before).accepted <+: s.delivered) ∧
    (∀ e b, (e, b) ∈ failures → b.channel.finished = false → .close ∉ es →
      .ok none ∉ s.answers) := by
  intro s failures
  have hinformed : Informed s := informed_run capacity maxRows es
  refine ⟨?_, ?_, ?_⟩
  · intro event e hreturns
    have herror : s.channel.error = some e := confirms_of_returns hinformed hreturns
    obtain ⟨b, rest, hfailures⟩ := head?_failures_of_error herror
    refine ⟨b, rest, hfailures, ?_⟩
    intro hes
    have hmem : (e, b) ∈ (new capacity maxRows).failures es := by
      rw [hfailures]
      exact List.mem_cons_self
    have hall : s.delivered = s.accepted := delivered_eq_accepted_of_returns hes rfl hreturns
    rw [hall]
    exact accepted_prefix_of_mem_failures hmem
  · intro event hreturns
    refine ⟨confirms_of_returns hinformed hreturns, ?_⟩
    intro before ⟨after, heq⟩ hopen
    subst heq
    exact accepted_prefix_delivered_of_returns hopen hreturns
  · intro e b hmem hopen hes
    exact end_not_mem_answers hmem hopen hes

/-- A row is published. -/
def rowRun : List TrafficEvent := [.publish [.boolean true], .produce, .produce, .produce]

/-- After a row was taken, the error is recorded and the flag set between two steps of the consumer,
which has seen no error yet and now sees the flag. -/
def lateErrorRun : List TrafficEvent :=
  rowRun ++ [.advance, .consume, .advance, .consume, .consume, .fail (.stream "lost"), .produce,
    .produce, .finish, .produce, .produce, .consume, .consume, .consume]

/-- The channel is finished and the consumer has found it empty. -/
def endRun : List TrafficEvent :=
  rowRun ++ [.finish, .produce, .produce, .advance, .consume, .advance, .consume,
    .consume, .consume, .consume]

/-- The consumer is told an error that it looked for in vain at first, and the end of another
channel. -/
theorem terminal_answers_lateErrorRun :
    let s := (new 0 none).run lateErrorRun
    let t := (new 0 none).run endRun
    (s.Returns .consume (.error (.stream "lost")) ∧ .close ∉ lateErrorRun ∧
      ∃ b rest, (new 0 none).failures lateErrorRun = (.stream "lost", b) :: rest ∧
        b.accepted <+: s.delivered ∧ b.channel.finished = false ∧ .ok none ∉ s.answers) ∧
    (t.Returns .consume (.ok none) ∧ t.channel.finished = true ∧
      rowRun <+: endRun ∧ ((new 0 none).run rowRun).channel.finished = false ∧
      ((new 0 none).run rowRun).accepted <+: t.delivered) := by
  intro s t
  obtain ⟨herror, -, hnever⟩ := terminal_answers 0 none lateErrorRun
  obtain ⟨-, hend, -⟩ := terminal_answers 0 none endRun
  have hpair : .close ∉ lateErrorRun := by simp [lateErrorRun, rowRun]
  have hlast : s.Returns .consume (.error (.stream "lost")) := rfl
  have hover : t.Returns .consume (.ok none) := rfl
  have hprefix : rowRun <+: endRun := List.prefix_append _ _
  obtain ⟨b, rest, hfailures, hrows⟩ := herror .consume _ hlast
  have hopen : b.channel.finished = false := by
    cases hfailures
    rfl
  have hmem : (.stream "lost", b) ∈ (new 0 none).failures lateErrorRun := by
    rw [hfailures]
    exact List.mem_cons_self
  obtain ⟨hfinished, hbefore⟩ := hend .consume hover
  exact ⟨⟨hlast, hpair, b, rest, hfailures, hrows hpair, hopen, hnever _ b hmem hopen hpair⟩,
    hover, hfinished, hprefix, rfl, hbefore rowRun hprefix rfl⟩

/-- With somebody else who finishes the channel, an error may overtake a row: the consumer has found
the finished channel empty when the producer, past its check of the flag, puts a row into it and
fails. -/
example :
    let s := (new 0 none).run [.advance, .consume, .consume, .publish [.boolean true], .produce,
      .close, .closing 0, .consume, .consume, .produce, .produce, .fail (.stream "lost"), .produce]
    s.Returns .consume (.error (.stream "lost")) ∧ s.accepted = [[.boolean true]] ∧
      s.delivered = [] :=
  ⟨rfl, rfl, rfl⟩

end Traffic

end DataAccess.Streaming
