import DataAccess.Proofs.ChannelTraffic

/-!
# Row delivery: what goes in comes out

The rows that a consumer was told, followed by those still in the buffer, are the rows that were
accepted, at every moment of every run of a channel in use. The other results say how many rows are
accepted.

* **Nothing is lost or doubled** (`delivered_append_rows`): one step of the producer puts at most
  one row at the end of the buffer, one step of the consumer takes at most one from its front, and
  wake entries carry no row.
* **Publish order** (`accepted_sublist_published`): the accepted rows are among the published ones,
  in the same order.
* **The limit** (`Counted`, `length_accepted_le_limit`): a row that is past the check of the flag
  and not counted yet still fits the limit, since only the producer counts.
* **The flag** (`accepted_of_finished`): of a finished channel only the row that is past the check
  can still be accepted.
* **Delivery is exact** (`delivery_exact`).
-/

namespace DataAccess.Streaming

/-! ## Rows in the buffer -/

/-- The row of an entry, `none` for a wake entry. -/
def Slot.row? : Slot → Option Record
  | row values => some values
  | wake => none

/-- The row of an answer, `none` for the end and for an error. -/
def Delivery.row? : Delivery → Option Record
  | .ok row => row
  | .error _ => none

namespace RowChannel

/-- The rows in the buffer, the oldest first, without wake entries: `Slot.row?` of each slot. -/
def rows (c : RowChannel) : List Record := c.buffer.filterMap Slot.row?

@[simp] theorem rows_markFinished (c : RowChannel) : c.markFinished.rows = c.rows := rfl

@[simp] theorem rows_countRow (c : RowChannel) : c.countRow.rows = c.rows := rfl

@[simp] theorem rows_recordError (c : RowChannel) (e : Error) :
    (c.recordError e).rows = c.rows := rfl

/-- A wake entry is no row. -/
@[simp] theorem rows_offerWake (c : RowChannel) : c.offerWake.rows = c.rows := by
  unfold offerWake offer?
  split_ifs
  · rfl
  · simp [rows, Slot.row?]

end RowChannel

/-- No step of `Finish` touches the rows. -/
@[simp] theorem Finish.rows_step (f : Finish) (c : RowChannel) : (f.step c).2.rows = c.rows := by
  cases f with
  | mark => exact c.rows_markFinished
  | wake => exact c.rows_offerWake
  | done => rfl

/-- No step of `Fail` touches the rows. -/
@[simp] theorem Fail.rows_step (f : Fail) (c : RowChannel) : (f.step c).2.rows = c.rows := by
  cases f with
  | record e => exact c.rows_recordError e
  | wake => exact c.rows_offerWake
  | done => rfl

/-- The step `offer`: the row goes to the end of the buffer, unless `c.isFull`. -/
theorem Publish.step_offer (row : Record) (c : RowChannel) :
    (Publish.offer row).step c =
      if c.isFull then (recheck row, c)
        else (count, { c with buffer := c.buffer ++ [.row row] }) := by
  simp only [step, RowChannel.offer?]
  split_ifs <;> rfl

/-- A call of the producer puts the row that it `accepts` behind the others, and no other row. -/
theorem Sending.rows_step (call : Sending) (c : RowChannel) :
    (call.step c).2.rows = c.rows ++ (call.accepts c).toList := by
  rcases call with p | f | f
  · cases p with
    | offer row =>
        simp only [step, accepts, Publish.step_offer]
        split_ifs
        · simp
        · simp [RowChannel.rows, Slot.row?]
    | wake => simp [step, accepts, Publish.step]
    | check row | recheck row | count | mark | done more => simp [step, accepts, Publish.step]
  · simp [step, accepts]
  · simp [step, accepts]

/-- The row that a call has taken, if it has returned with one. -/
def Advance.taken (a : Advance) : Option Record := a.result?.bind Delivery.row?

/-- A look into the buffer takes the first row, if it takes one. -/
theorem Advance.rows_look (c : RowChannel) {woken empty : Advance} (hwoken : woken.taken = none)
    (hempty : empty.taken = none) :
    (look c woken empty).1.taken.toList ++ (look c woken empty).2.rows = c.rows := by
  unfold look RowChannel.take? RowChannel.rows
  rcases hbuffer : c.buffer with _ | ⟨values | _, rest⟩
  · simp [hempty, hbuffer]
  · simp [taken, result?, Delivery.row?, Slot.row?]
  · rw [List.filterMap_cons_none rfl]
    simp [hwoken]

/-- A step of `Advance` takes the first of the rows, if it takes one. -/
theorem Advance.rows_step {a : Advance} (hrun : a.result? = none) (c : RowChannel) :
    (a.step c).1.taken.toList ++ (a.step c).2.rows = c.rows := by
  cases a with
  | take => exact rows_look c rfl rfl
  | takeBefore e => exact rows_look c rfl rfl
  | takeLast => exact rows_look c rfl rfl
  | poll => exact rows_look c rfl rfl
  | readError | readErrorLast =>
      simp only [step]
      cases c.error <;> rfl
  | readFlag =>
      simp only [step]
      cases c.finished <;> rfl
  | done d => simp [result?] at hrun

namespace Traffic

/-- The rows that the consumer was told, in order: `Delivery.row?` of each of `answers`. -/
def delivered (s : Traffic) : List Record := s.answers.filterMap Delivery.row?

/-- The step lemma: every `TrafficStep` keeps `delivered ++ rows = accepted`. -/
theorem delivered_append_rows_of_trafficStep {s s' : Traffic} (hstep : TrafficStep s s')
    (hs : s.delivered ++ s.channel.rows = s.accepted) :
    s'.delivered ++ s'.channel.rows = s'.accepted := by
  cases hstep with
  | @produced call hcall =>
      show s.delivered ++ (call.step s.channel).2.rows = _
      rw [call.rows_step, ← List.append_assoc, hs]
  | @consumed a ha hrun =>
      have htold : (a.step s.channel).1.result?.toList.filterMap Delivery.row? =
          (a.step s.channel).1.taken.toList := by
        unfold Advance.taken
        cases (a.step s.channel).1.result? with
        | none => rfl
        | some d => cases hd : Delivery.row? d <;> simp [hd]
      show (s.answers ++ _).filterMap Delivery.row? ++ _ = _
      rw [List.filterMap_append, htold, List.append_assoc, a.rows_step hrun]
      exact hs
  | @closed i f hf =>
      show s.delivered ++ (f.step s.channel).2.rows = _
      rw [f.rows_step, hs]
  | _ => exact hs

/-- **Nothing is lost or doubled**: `delivered ++ rows = accepted` at every moment of every run. -/
theorem delivered_append_rows (capacity : Nat) (maxRows : Option Nat) (es : List TrafficEvent) :
    ((new capacity maxRows).run es).delivered ++ ((new capacity maxRows).run es).channel.rows =
      ((new capacity maxRows).run es).accepted :=
  run_induction (P := fun s => s.delivered ++ s.channel.rows = s.accepted)
    delivered_append_rows_of_trafficStep rfl es

end Traffic

/-! ## The order of the rows -/

/-- The row of a call is accepted, or is still `pending`, or neither, but not both. -/
theorem Sending.pending_step (call : Sending) (c : RowChannel) :
    ((call.accepts c).toList ++ (call.step c).1.pending.toList).Sublist call.pending.toList := by
  rcases call with p | f | f
  · cases p with
    | check row | recheck row =>
        simp only [step, accepts, Publish.step]
        split_ifs <;> simp [pending]
    | offer row =>
        simp only [step, accepts, Publish.step_offer]
        split_ifs <;> simp [pending]
    | count | mark =>
        simp only [step, accepts, Publish.step]
        split_ifs <;> simp [pending]
    | wake | done more => simp [step, accepts, Publish.step, pending]
  · simp [step, accepts, pending]
  · simp [step, accepts, pending]

namespace Traffic

/-- The step lemma: every `TrafficStep` keeps the accepted rows, and then the pending one, a sublist
of `published`. -/
theorem accepted_sublist_of_trafficStep {s s' : Traffic} (hstep : TrafficStep s s')
    (hs : (s.accepted ++ s.call.pending.toList).Sublist s.published) :
    (s'.accepted ++ s'.call.pending.toList).Sublist s'.published := by
  have haccepted : s.accepted.Sublist s.published := (List.sublist_append_left _ _).trans hs
  cases hstep with
  | @publishing row hfree => exact haccepted.append (.refl [row])
  | failing hfree => simpa [call, Sending.pending] using haccepted
  | finishing hfree => simpa [call, Sending.pending] using haccepted
  | @produced call hcall =>
      rw [call_of_producer hcall] at hs
      show (s.accepted ++ _ ++ (call.step s.channel).1.pending.toList).Sublist _
      rw [List.append_assoc]
      exact ((List.Sublist.refl s.accepted).append (call.pending_step s.channel)).trans hs
  | _ => exact hs

/-- **Publish order**: `accepted` is a sublist of `published`, so in the same order. -/
theorem accepted_sublist_published (capacity : Nat) (maxRows : Option Nat)
    (es : List TrafficEvent) :
    ((new capacity maxRows).run es).accepted.Sublist ((new capacity maxRows).run es).published := by
  have h := run_induction (P := fun s => (s.accepted ++ s.call.pending.toList).Sublist s.published)
    accepted_sublist_of_trafficStep
    (show ((new capacity maxRows).accepted ++ _).Sublist _ from .refl []) es
  exact (List.sublist_append_left _ _).trans h

end Traffic

/-! ## The limit -/

/-- The number of rows, `0` or `1`, that a call has put into the buffer and not counted. -/
def Sending.uncounted : Sending → Nat
  | publish .count => 1
  | _ => 0

/-- The number of rows, `0` or `1`, that a call may still count, since it is past the check of the
flag. -/
def Sending.claimed : Sending → Nat
  | publish (.offer _) | publish (.recheck _) | publish .count => 1
  | _ => 0

/-- Whether the count of a channel is right, and the call of its producer fits the limit:
`accepted = c.count + call.uncounted`, and `c.count + call.claimed` is within the limit. -/
structure Counted (call : Sending) (c : RowChannel) (accepted : Nat) : Prop where
  /-- A row that is accepted is counted, or is about to be. -/
  accepted_eq : accepted = c.count + call.uncounted
  /-- What is counted and what may still be counted is within the limit. -/
  within : ∀ n, c.limit = some n → c.count + call.claimed ≤ n
  /-- Once the limit is reached the channel is finished, or about to be. -/
  reached : ∀ n, c.limit = some n → n ≤ c.count → c.finished = true ∨ call = .publish .mark

/-- `uncounted ≤ claimed`: a call has put no more rows into the buffer than it was allowed to. -/
theorem Sending.uncounted_le_claimed (call : Sending) : call.uncounted ≤ call.claimed := by
  unfold uncounted claimed
  split <;> simp

namespace Counted

variable {call : Sending} {c c' : RowChannel} {accepted n : Nat}

/-- What is accepted is within the limit, if it is `Counted`. -/
theorem accepted_le (h : Counted call c accepted) (hlimit : c.limit = some n) : accepted ≤ n := by
  have hwithin := h.within n hlimit
  have hle := call.uncounted_le_claimed
  rw [h.accepted_eq]
  omega

/-- A call that claims no more than before stays within the limit. -/
theorem within_of_le (h : Counted call c accepted) {next : Sending}
    (hle : next.claimed ≤ call.claimed) (n : Nat) (hn : c.limit = some n) :
    c.count + next.claimed ≤ n :=
  Nat.le_trans (Nat.add_le_add_left hle c.count) (h.within n hn)

/-- A row gets past the check only if the flag was not set, so that `c.count + 1 ≤ n`. -/
theorem within_of_not_finished (h : Counted call c accepted) (hcall : call ≠ .publish .mark)
    (hopen : c.finished = false) (n : Nat) (hn : c.limit = some n) : c.count + 1 ≤ n := by
  refine Nat.lt_of_not_le fun hle => ?_
  rcases h.reached n hn hle with hfinished | hmark
  · simp [hopen] at hfinished
  · exact hcall hmark

/-- A step that neither accepts nor counts a row. -/
theorem move (h : Counted call c accepted) (hc : c.Evolves c') (hcount : c'.count = c.count)
    {next : Sending} (huncounted : next.uncounted = call.uncounted)
    (hwithin : ∀ n, c.limit = some n → c.count + next.claimed ≤ n)
    (hmark : call = .publish .mark → c'.finished = true ∨ next = .publish .mark) :
    Counted next c' accepted := by
  refine ⟨by rw [hcount, huncounted, h.accepted_eq], fun n hn => ?_, fun n hn hle => ?_⟩
  · rw [hcount]
    exact hwithin n (hc.limit_eq ▸ hn)
  · rw [hcount] at hle
    rcases h.reached n (hc.limit_eq ▸ hn) hle with hfinished | hcall
    · exact .inl (hc.finished_of hfinished)
    · exact hmark hcall

/-- Nobody else counts. -/
theorem of_evolves (h : Counted call c accepted) (hc : c.Evolves c') (hcount : c'.count = c.count) :
    Counted call c' accepted :=
  h.move hc hcount rfl (h.within_of_le (Nat.le_refl _)) .inr

/-- `Counted` is kept when a call that has returned is followed by another. -/
theorem of_isDone (h : Counted call c accepted) (hdone : call.isDone = true) {next : Sending}
    (huncounted : next.uncounted = 0) (hclaimed : next.claimed = 0) : Counted next c accepted := by
  have hnone : call.uncounted = 0 ∧ call ≠ .publish .mark := by
    rcases call with p | f | f
    · cases p with
      | done more => exact ⟨rfl, by simp⟩
      | _ => simp [Sending.isDone, Publish.result?] at hdone
    · exact ⟨rfl, by simp⟩
    · exact ⟨rfl, by simp⟩
  exact h.move (.refl c) rfl (huncounted.trans hnone.1.symm)
    (h.within_of_le (hclaimed ▸ Nat.zero_le _)) fun hmark => absurd hmark hnone.2

end Counted

/-- A wake entry is not counted. -/
@[simp] theorem RowChannel.count_offerWake (c : RowChannel) : c.offerWake.count = c.count := by
  unfold offerWake offer?
  split_ifs <;> rfl

/-- A call that finishes the channel counts nothing. -/
theorem Finish.count_step (f : Finish) (c : RowChannel) : (f.step c).2.count = c.count := by
  cases f with
  | wake => exact c.count_offerWake
  | mark | done => rfl

/-- A call that records an error counts nothing. -/
theorem Fail.count_step (f : Fail) (c : RowChannel) : (f.step c).2.count = c.count := by
  cases f with
  | wake => exact c.count_offerWake
  | record e | done => rfl

/-- A look into the buffer counts nothing. -/
theorem Advance.count_look (c : RowChannel) (woken empty : Advance) :
    (look c woken empty).2.count = c.count := by
  unfold look RowChannel.take?
  rcases c.buffer with _ | ⟨_ | _, rest⟩ <;> rfl

/-- A call of the consumer counts nothing. -/
theorem Advance.count_step (a : Advance) (c : RowChannel) : (a.step c).2.count = c.count := by
  cases a with
  | take | takeBefore e | takeLast | poll => exact count_look c _ _
  | readError | readErrorLast =>
      simp only [step]
      cases c.error <;> rfl
  | readFlag | done d => rfl

/-- `Counted` is kept when an accepted row is counted. If that reaches the limit, the channel is
about to be finished. -/
theorem Counted.count_step {c : RowChannel} {accepted : Nat}
    (h : Counted (.publish .count) c accepted) :
    Counted (.publish (Publish.count.step c).1) (Publish.count.step c).2 accepted := by
  have haccepted := h.accepted_eq
  cases hlimit : c.countRow.atLimit with
  | true =>
      simp only [Publish.step, hlimit, if_true]
      exact ⟨haccepted, h.within, fun _ _ _ => .inr rfl⟩
  | false =>
      simp only [Publish.step, hlimit, Bool.false_eq_true, if_false]
      refine ⟨haccepted, h.within, ?_⟩
      intro n hn hle
      replace hn : c.limit = some n := hn
      have hlt : c.count + 1 < n := by
        simpa [RowChannel.atLimit, RowChannel.countRow, hn] using hlimit
      exact absurd hlt (Nat.not_lt_of_le hle)

/-- A call of the producer keeps `Counted`. -/
theorem Sending.counted_step {call : Sending} {c : RowChannel} {accepted : Nat}
    (h : Counted call c accepted) :
    Counted (call.step c).1 (call.step c).2 (accepted + (call.accepts c).toList.length) := by
  have hevolves := call.evolves_step c
  -- A row is claimed at the check, where the flag shows that there is room. The steps up to the
  -- count keep the claim: no one else can have counted meanwhile.
  rcases call with p | f | f
  · cases p with
    | check row =>
        cases hopen : c.finished with
        | true =>
            simp only [step, Publish.step, hopen, if_true]
            exact h.move (.refl c) rfl rfl (h.within_of_le (Nat.le_refl _)) (by simp)
        | false =>
            simp only [step, Publish.step, hopen, Bool.false_eq_true, if_false]
            exact h.move (.refl c) rfl rfl (h.within_of_not_finished (by simp) hopen) (by simp)
    | recheck row =>
        simp only [step, Publish.step]
        split_ifs
        · exact h.move (.refl c) rfl rfl (h.within_of_le (Nat.zero_le _)) (by simp)
        · exact h.move (.refl c) rfl rfl (h.within_of_le (Nat.le_refl _)) (by simp)
    | offer row =>
        simp only [step, accepts, Publish.step_offer] at hevolves ⊢
        split_ifs at hevolves ⊢ with hfull
        · exact h.move (.refl c) rfl rfl (h.within_of_le (Nat.le_refl _)) (by simp)
        · refine ⟨by rw [h.accepted_eq]; rfl, h.within, fun n hn hle => ?_⟩
          exact (h.reached n hn hle).imp_right (by simp)
    | count => exact h.count_step
    | mark =>
        simp only [step, Publish.step] at hevolves ⊢
        split_ifs at hevolves ⊢
        · exact h.move hevolves rfl rfl (h.within_of_le (Nat.le_refl _)) fun _ => .inl rfl
        · exact h.move hevolves rfl rfl (h.within_of_le (Nat.le_refl _)) fun _ => .inl rfl
    | wake => exact h.move hevolves c.count_offerWake rfl (h.within_of_le (Nat.le_refl _)) (by simp)
    | done more => exact h
  · exact h.move hevolves (f.count_step c) rfl (h.within_of_le (Nat.le_refl _)) (by simp)
  · exact h.move hevolves (f.count_step c) rfl (h.within_of_le (Nat.le_refl _)) (by simp)

namespace Traffic

/-- The step lemma: every `TrafficStep` keeps `Counted`. -/
theorem counted_of_trafficStep {s s' : Traffic} (hstep : TrafficStep s s')
    (hs : Counted s.call s.channel s.accepted.length) :
    Counted s'.call s'.channel s'.accepted.length := by
  cases hstep with
  | publishing hfree => exact hs.of_isDone (isDone_call hfree) rfl rfl
  | failing hfree => exact hs.of_isDone (isDone_call hfree) rfl rfl
  | finishing hfree => exact hs.of_isDone (isDone_call hfree) rfl rfl
  | @produced call hcall =>
      rw [call_of_producer hcall] at hs
      show Counted (call.step s.channel).1 _ (s.accepted ++ _).length
      rw [List.length_append]
      exact call.counted_step hs
  | @consumed a ha hrun => exact hs.of_evolves (a.evolves_step s.channel) (a.count_step s.channel)
  | @closed i f hf => exact hs.of_evolves (f.evolves_step s.channel) (f.count_step s.channel)
  | _ => exact hs

/-- **The limit**: no more rows are accepted than a positive limit `n` allows. -/
theorem length_accepted_le_limit (capacity : Nat) {maxRows : Option Nat} (es : List TrafficEvent)
    {n : Nat} (hmax : maxRows = some n) (hpos : 0 < n) :
    ((new capacity maxRows).run es).accepted.length ≤ n := by
  have hlimit : (new capacity maxRows).channel.limit = some n := by
    simp [new, RowChannel.new, hmax, hpos]
  have hnew : Counted (new capacity maxRows).call (new capacity maxRows).channel 0 := by
    refine ⟨rfl, fun _ _ => Nat.zero_le _, fun m hm hle => ?_⟩
    rw [hlimit] at hm
    cases hm
    exact absurd hpos (Nat.not_lt_of_le hle)
  have h := run_induction (P := fun s => Counted s.call s.channel s.accepted.length)
    counted_of_trafficStep hnew es
  exact h.accepted_le (((new capacity maxRows).evolves_run es).limit_eq.trans hlimit)

end Traffic

/-! ## The flag -/

/-- The row that a call is about to put into the buffer, past its check of the flag. -/
def Sending.offering : Sending → Option Record
  | publish (.offer row) => some row
  | _ => none

/-- Of a finished channel only the row that is `offering` may still be accepted. -/
theorem Sending.offering_step (call : Sending) {c : RowChannel} (hc : c.finished = true) :
    ((call.accepts c).toList ++ (call.step c).1.offering.toList) <+: call.offering.toList := by
  rcases call with p | f | f
  · cases p with
    | check row | recheck row => simp [step, accepts, Publish.step, hc, offering]
    | offer row =>
        simp only [step, accepts, Publish.step_offer]
        split_ifs <;> simp [offering]
    | count | mark =>
        simp only [step, accepts, Publish.step]
        split_ifs <;> simp [offering]
    | wake | done more => simp [step, accepts, Publish.step, offering]
  · simp [step, accepts, offering]
  · simp [step, accepts, offering]

namespace Traffic

/-- A later moment `s'` of the use of a channel that was finished at the moment `s`: nothing is
accepted any more but the row that was `offering` then. -/
structure Closing (s s' : Traffic) : Prop where
  /-- The channel is still finished. -/
  finished : s'.channel.finished = true
  /-- What was accepted stays so. -/
  accepted_prefix : s.accepted <+: s'.accepted
  /-- No more is accepted, now or by the next step, than the next step could accept before. -/
  prefix_offering : s'.accepted ++ s'.call.offering.toList <+: s.accepted ++ s.call.offering.toList

/-- The step lemma: every `TrafficStep` of a finished channel keeps `Closing s`. -/
theorem closing_of_trafficStep {s t u : Traffic} (hstep : TrafficStep t u) (ht : Closing s t) :
    Closing s u := by
  have hfinished : u.channel.finished = true :=
    (evolves_of_trafficStep hstep).finished_of ht.finished
  have hfree : t.accepted ++ [] <+: s.accepted ++ s.call.offering.toList := by
    rw [List.append_nil]
    exact (List.prefix_append _ _).trans ht.prefix_offering
  cases hstep with
  | publishing _ | failing _ | finishing _ => exact ⟨hfinished, ht.accepted_prefix, hfree⟩
  | @produced call hcall =>
      have hoffering := ht.prefix_offering
      rw [call_of_producer hcall] at hoffering
      refine ⟨hfinished, ht.accepted_prefix.trans (List.prefix_append _ _), ?_⟩
      show t.accepted ++ _ ++ (call.step t.channel).1.offering.toList <+: _
      rw [List.append_assoc]
      exact ((List.prefix_append_right_inj _).mpr (call.offering_step ht.finished)).trans hoffering
  | _ => exact ⟨hfinished, ht.accepted_prefix, ht.prefix_offering⟩

/-- **The flag**: once a channel is finished, no further row is accepted, or one is, which the
producer was about to put into the buffer (`.publish (.offer row)`). -/
theorem accepted_of_finished {s : Traffic} (hs : s.channel.finished = true)
    (later : List TrafficEvent) :
    (s.run later).accepted = s.accepted ∨
      ∃ row, s.producer = some (.publish (.offer row)) ∧
        (s.run later).accepted = s.accepted ++ [row] := by
  have hnow : Closing s s := ⟨hs, List.prefix_refl _, List.prefix_refl _⟩
  obtain ⟨-, ⟨more, hmore⟩, hoffering⟩ :=
    run_induction (P := Closing s) closing_of_trafficStep hnow later
  have hrest : more <+: s.call.offering.toList := by
    have h := (List.prefix_append _ _).trans hoffering
    rwa [← hmore, List.prefix_append_right_inj] at h
  rw [← hmore]
  cases hproducer : s.producer with
  | none =>
      rw [call, hproducer] at hrest
      exact .inl (by rw [List.prefix_nil.mp hrest, List.append_nil])
  | some call =>
      rw [call_of_producer hproducer] at hrest
      unfold Sending.offering at hrest
      split at hrest
      · next row =>
          rcases more with _ | ⟨first, more⟩
          · exact .inl (List.append_nil _)
          · obtain ⟨rfl, hnil⟩ := List.cons_prefix_cons.mp hrest
            rw [List.prefix_nil.mp hnil]
            exact .inr ⟨first, rfl, rfl⟩
      · exact .inl (by rw [List.prefix_nil.mp hrest, List.append_nil])

/-- **Delivery is exact**: at every moment of every run of one producer, one consumer and any number
of others who finish the channel,

* `delivered`, and then the rows in the buffer, are the `accepted` rows, which are a sublist of the
  `published` ones;
* the buffer has at most `max capacity 1` entries, wake entries included;
* no more rows are accepted than a positive limit allows;
* once the channel is `finished`, at most one further row is ever accepted: the one whose call was
  past the check. -/
theorem delivery_exact (capacity : Nat) (maxRows : Option Nat) (es : List TrafficEvent) :
    let s := (new capacity maxRows).run es
    (s.delivered ++ s.channel.rows = s.accepted ∧ s.accepted.Sublist s.published) ∧
    s.channel.buffer.length ≤ max capacity 1 ∧
    (∀ n, maxRows = some n → 0 < n → s.accepted.length ≤ n) ∧
    (s.channel.finished = true → ∀ later,
      (s.run later).accepted = s.accepted ∨
        ∃ row, s.producer = some (.publish (.offer row)) ∧
          (s.run later).accepted = s.accepted ++ [row]) := by
  intro s
  have hevolves := (new capacity maxRows).evolves_run es
  have hbuffer : s.channel.buffer.length ≤ max capacity 1 := by
    have h := hevolves.length_le (Nat.zero_le _)
    rwa [hevolves.capacity_eq] at h
  refine ⟨⟨?_, ?_⟩, hbuffer, ?_, accepted_of_finished⟩
  · exact delivered_append_rows capacity maxRows es
  · exact accepted_sublist_published capacity maxRows es
  · intro n hmax hpos
    exact length_accepted_le_limit capacity es hmax hpos

/-- A row is in the buffer, which is full, and the producer is past the check with another, when
someone finishes the channel. -/
def lateRun : List TrafficEvent :=
  [.publish [.boolean true], .produce, .produce, .produce, .publish [.boolean false], .produce,
    .close, .closing 0]

/-- The consumer makes room, and the other row is accepted. -/
def lateEnd : List TrafficEvent := [.advance, .consume, .produce]

/-- A row is accepted by a channel that is finished, the only one that can be. -/
theorem delivery_exact_lateRun :
    let s := (new 0 (some 2)).run lateRun
    let t := (new 0 (some 2)).run (lateRun ++ lateEnd)
    (s.channel.buffer.length ≤ 1 ∧ s.accepted.length ≤ 2 ∧ s.channel.finished = true) ∧
    (t.delivered ++ t.channel.rows = t.accepted ∧ t.accepted.Sublist t.published ∧
      t.accepted.length ≤ 2) ∧
    ((s.run lateEnd).accepted = s.accepted ∨
      ∃ row, s.producer = some (.publish (.offer row)) ∧
        (s.run lateEnd).accepted = s.accepted ++ [row]) ∧
    t.accepted = [[.boolean true], [.boolean false]] := by
  intro s t
  obtain ⟨-, hbuffer, hlimit, hlater⟩ := delivery_exact 0 (some 2) lateRun
  obtain ⟨⟨hrows, horder⟩, -, hend, -⟩ := delivery_exact 0 (some 2) (lateRun ++ lateEnd)
  have hfinished : s.channel.finished = true := rfl
  exact ⟨⟨hbuffer, hlimit 2 rfl (by decide), hfinished⟩, ⟨hrows, horder, hend 2 rfl (by decide)⟩,
    hlater hfinished lateEnd, rfl⟩

end Traffic

end DataAccess.Streaming
