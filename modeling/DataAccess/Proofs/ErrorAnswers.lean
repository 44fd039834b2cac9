import DataAccess.Proofs.TerminalAnswers

/-!
# Error answers: what a consumer is told after an error

Once a consumer was told an error, that error stays in the channel, and the consumer is never told
the end or another error. It is not told that error alone: a call that publishes looks at the flag
and not at the error, so a producer that has failed may still bring rows into the channel, and those
are delivered.

* **What follows an error** (`Repeating`, `answers_after_error`): every later answer is the same
  error or a row, and the rows go on where the deliveries before the error left off. If no further
  row is accepted, every later answer is that error.
* **Rows may follow** (`error_not_repeated`): the consumer is told an error and then a row.
-/

namespace DataAccess.Streaming

namespace Traffic

/-- A later moment `t` of the use of a channel whose consumer was told the error `e` at the moment
`s`: since then the consumer was told `e` and rows, and nothing else. -/
structure Repeating (s : Traffic) (e : Error) (t : Traffic) : Prop where
  /-- What the consumer has seen is borne out. -/
  informed : Informed t
  /-- The error is recorded. -/
  error : t.channel.error = some e
  /-- The answers since then. -/
  answers : ∃ more, t.answers = s.answers ++ more ∧ ∀ d ∈ more, d = .error e ∨
    ∃ row, d = .ok (some row)

/-- With the error `e` recorded, a call of the consumer comes to `e` or to a row. -/
theorem eq_error_or_row {s : Traffic} (hs : Informed s) {e : Error} (he : s.channel.error = some e)
    {a : Advance} (ha : s.consumer = some a) (hrun : a.result? = none) {d : Delivery}
    (hd : (a.step s.channel).1.result? = some d) : d = .error e ∨ ∃ row, d = .ok (some row) := by
  cases hrow : Delivery.row? d with
  | some row =>
      rcases d with e' | _ | row'
      · cases hrow
      · cases hrow
      · exact .inr ⟨row', rfl⟩
  | none =>
      left
      rcases Advance.eq_of_terminal hrun hrow hd with ⟨e', rfl, rfl, -⟩ | ⟨rfl, rfl⟩
      · have hseen : s.channel.error = some e' := hs.seen _ ha _ rfl
        rw [he] at hseen
        rw [Option.some.inj hseen]
      · rw [he]
        rfl

/-- The step lemma: every `TrafficStep` leads to a later moment, so `Repeating` stays. -/
theorem repeating_of_trafficStep {s t u : Traffic} {e : Error} (hstep : TrafficStep t u)
    (ht : Repeating s e t) : Repeating s e u := by
  have hinformed := informed_of_trafficStep hstep ht.informed
  have herror := (evolves_of_trafficStep hstep).error_of ht.error
  obtain ⟨more, hmore, hall⟩ := ht.answers
  cases hstep with
  | @consumed a ha hrun =>
      refine ⟨hinformed, herror, more ++ (a.step t.channel).1.result?.toList, ?_, ?_⟩
      · show t.answers ++ _ = _
        rw [hmore, List.append_assoc]
      · intro d hd
        rcases List.mem_append.mp hd with hold | hnew
        · exact hall d hold
        · exact eq_error_or_row ht.informed ht.error ha hrun (Option.mem_toList.mp hnew)
  | _ => exact ⟨hinformed, herror, more, hmore, hall⟩

/-- **What follows an error**: once the consumer was told `e`, every later answer is `e` or a row.
These rows follow the ones delivered before, as a prefix of those accepted; so if no row was
accepted beyond those delivered before, every later answer is `e`. -/
theorem answers_after_error (capacity : Nat) (maxRows : Option Nat) (es later : List TrafficEvent)
    {e : Error} (htold : .error e ∈ ((new capacity maxRows).run es).answers) :
    let s := (new capacity maxRows).run es
    let t := s.run later
    ∃ more, t.answers = s.answers ++ more ∧
      (∀ d ∈ more, d = .error e ∨ ∃ row, d = .ok (some row)) ∧
      s.delivered ++ more.filterMap Delivery.row? <+: t.accepted ∧
      (t.accepted = s.delivered → ∀ d ∈ more, d = .error e) := by
  intro s t
  have hinformed : Informed s := informed_run capacity maxRows es
  have hnow : Repeating s e s := ⟨hinformed, hinformed.told _ htold, [], by simp, nofun⟩
  obtain ⟨-, -, more, hmore, hall⟩ := run_induction repeating_of_trafficStep hnow later
  have hdelivered : t.delivered = s.delivered ++ more.filterMap Delivery.row? := by
    unfold delivered
    rw [← List.filterMap_append, ← hmore]
  have hprefix : s.delivered ++ more.filterMap Delivery.row? <+: t.accepted := by
    have hexact := delivered_append_rows capacity maxRows (es ++ later)
    rw [run_append] at hexact
    rw [← hdelivered]
    exact ⟨_, hexact⟩
  refine ⟨more, hmore, hall, hprefix, ?_⟩
  intro hnone d hd
  have hempty : more.filterMap Delivery.row? = [] := by
    rw [hnone] at hprefix
    have hlength := hprefix.length_le
    rw [List.length_append] at hlength
    exact List.eq_nil_of_length_eq_zero (by omega)
  rcases hall d hd with herror | ⟨row, rfl⟩
  · exact herror
  · have hrow : row ∈ more.filterMap Delivery.row? := List.mem_filterMap.mpr ⟨_, hd, rfl⟩
    rw [hempty] at hrow
    cases hrow

/-- The producer fails, and the consumer is told so. -/
def failedRun : List TrafficEvent :=
  [.fail (.stream "lost"), .produce, .produce, .advance, .consume, .consume, .consume, .consume]

/-- The consumer asks once more. -/
def askRun : List TrafficEvent := [.advance, .consume, .consume, .consume]

/-- Without a further row the consumer is told the same error again. -/
theorem answers_after_error_failedRun :
    let s := (new 20 none).run failedRun
    .error (.stream "lost") ∈ s.answers ∧
      ∃ more, (s.run askRun).answers = s.answers ++ more ∧ more ≠ [] ∧
        ∀ d ∈ more, d = .error (.stream "lost") := by
  intro s
  have htold : .error (.stream "lost") ∈ s.answers := List.mem_singleton.mpr rfl
  obtain ⟨more, hmore, -, -, hall⟩ := answers_after_error 20 none failedRun askRun htold
  refine ⟨htold, more, hmore, ?_, hall rfl⟩
  rintro rfl
  cases hmore

/-- **Rows may follow**: after an error a later answer need not be that error, since the producer
may publish a row though it has failed. -/
theorem error_not_repeated :
    ¬ ∀ (capacity : Nat) (maxRows : Option Nat) (es later : List TrafficEvent) (e : Error)
        (more : List Delivery),
      .error e ∈ ((new capacity maxRows).run es).answers →
      (((new capacity maxRows).run es).run later).answers =
        ((new capacity maxRows).run es).answers ++ more →
      ∀ d ∈ more, d = .error e := by
  intro hrepeated
  have hrow := hrepeated 20 none failedRun
    (.publish [.integer 1] :: .produce :: .produce :: .produce :: askRun) (.stream "lost")
    [.ok (some [.integer 1])] (List.mem_singleton.mpr rfl) rfl _ (List.mem_singleton.mpr rfl)
  cases hrow

end Traffic

end DataAccess.Streaming
