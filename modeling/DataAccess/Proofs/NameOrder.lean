import DataAccess.Catalog.SchemaLookup

/-!
# Name order: the list of schema names

The names of a source are kept in order and each once (`sortNames`).

* **Order** (`SchemaName.le_trans`, `SchemaName.le_total`, `SchemaName.le_antisymm`): the nameless
  schema comes first, then the names by their text.
* **The list** (`mem_sortNames`, `pairwise_sortNames`): no name is lost, and names are in order and
  different. So the nameless schema is the first, if it is listed (`sortNames_of_mem_none`).
-/

namespace DataAccess.Catalog

/-! ## Order -/

/-- The relation `SchemaName.le` is transitive. -/
theorem SchemaName.le_trans (a b c : SchemaName) (h : SchemaName.le a b = true)
    (h' : SchemaName.le b c = true) : SchemaName.le a c = true := by
  cases a with
  | none => rfl
  | some a =>
      cases b with
      | none => cases h
      | some b =>
          cases c with
          | none => cases h'
          | some c =>
              have hab : a ≤ b := of_decide_eq_true h
              have hbc : b ≤ c := of_decide_eq_true h'
              exact decide_eq_true (String.le_trans hab hbc)

/-- The relation `SchemaName.le` is total. -/
theorem SchemaName.le_total (a b : SchemaName) :
    (SchemaName.le a b || SchemaName.le b a) = true := by
  cases a with
  | none => rfl
  | some a =>
      cases b with
      | none => rfl
      | some b =>
          rw [Bool.or_eq_true]
          exact (String.le_total a b).imp decide_eq_true decide_eq_true

/-- The relation `SchemaName.le` is antisymmetric: names that are ordered both ways are equal. -/
theorem SchemaName.le_antisymm {a b : SchemaName} (h : SchemaName.le a b = true)
    (h' : SchemaName.le b a = true) : a = b := by
  cases a with
  | none =>
      cases b with
      | none => rfl
      | some b => cases h'
  | some a =>
      cases b with
      | none => cases h
      | some b =>
          have hab : a ≤ b := of_decide_eq_true h
          have hba : b ≤ a := of_decide_eq_true h'
          exact congrArg some (String.le_antisymm hab hba)

/-! ## Names in a row -/

/-- What has been collected comes first. -/
theorem eraseReps_loop_eq (a : SchemaName) (rest kept : List SchemaName) :
    List.eraseRepsBy.loop (· == ·) a rest kept =
      kept.reverse ++ List.eraseRepsBy.loop (· == ·) a rest [] := by
  induction rest generalizing a kept with
  | nil => simp [List.eraseRepsBy.loop]
  | cons b rest ih =>
      unfold List.eraseRepsBy.loop
      cases a == b with
      | true => exact ih a kept
      | false =>
          rw [ih b (a :: kept), ih b [a]]
          simp

/-- One of several names in a row is kept. -/
theorem eraseReps_cons_cons (a b : SchemaName) (rest : List SchemaName) :
    (a :: b :: rest).eraseReps = if a = b then (a :: rest).eraseReps
      else a :: (b :: rest).eraseReps := by
  show List.eraseRepsBy.loop (· == ·) a (b :: rest) [] = _
  unfold List.eraseRepsBy.loop
  by_cases hab : a = b
  · rw [if_pos hab, beq_iff_eq.mpr hab]
    rfl
  · rw [if_neg hab, beq_false_of_ne hab]
    exact eraseReps_loop_eq b rest [a]

/-- No name is lost by `eraseReps`, which makes those in a row into one. -/
theorem mem_eraseReps {name : SchemaName} {names : List SchemaName} :
    name ∈ names.eraseReps ↔ name ∈ names := by
  match names with
  | [] => exact Iff.rfl
  | [a] => exact Iff.rfl
  | a :: b :: rest =>
      rw [eraseReps_cons_cons]
      by_cases hab : a = b
      · subst hab
        rw [if_pos rfl, mem_eraseReps]
        simp
      · rw [if_neg hab, List.mem_cons, mem_eraseReps]
        exact List.mem_cons.symm
termination_by names.length

/-- Names in order are in order and different after `eraseReps`. -/
theorem pairwise_eraseReps {names : List SchemaName}
    (h : names.Pairwise fun a b => SchemaName.le a b) :
    names.eraseReps.Pairwise fun a b => SchemaName.le a b = true ∧ a ≠ b := by
  match names with
  | [] => exact .nil
  | [a] => exact List.pairwise_singleton _ a
  | a :: b :: rest =>
      obtain ⟨hfirst, hrest⟩ := List.pairwise_cons.mp h
      rw [eraseReps_cons_cons]
      by_cases hab : a = b
      · subst hab
        rw [if_pos rfl]
        exact pairwise_eraseReps hrest
      · rw [if_neg hab]
        refine List.pairwise_cons.mpr ⟨?_, pairwise_eraseReps hrest⟩
        intro c hc
        have hmem := mem_eraseReps.mp hc
        refine ⟨hfirst c hmem, ?_⟩
        -- A name that came again would stand behind one that is greater.
        rintro rfl
        rcases List.mem_cons.mp hmem with hsame | hlater
        · exact hab hsame
        · have hback := (List.pairwise_cons.mp hrest).1 a hlater
          exact hab (SchemaName.le_antisymm (hfirst b List.mem_cons_self) hback)
termination_by names.length

/-! ## The list -/

/-- **The list**: `sortNames names` has the members of `names`. -/
theorem mem_sortNames {name : SchemaName} {names : List SchemaName} :
    name ∈ sortNames names ↔ name ∈ names := by
  unfold sortNames
  rw [mem_eraseReps, List.mem_mergeSort]

/-- **The list**: `sortNames names` is in order, and its names are different. -/
theorem pairwise_sortNames (names : List SchemaName) :
    (sortNames names).Pairwise fun a b => SchemaName.le a b = true ∧ a ≠ b :=
  pairwise_eraseReps (List.pairwise_mergeSort SchemaName.le_trans SchemaName.le_total names)

/-- The nameless schema comes first in `sortNames names`, if it is there. -/
theorem sortNames_of_mem_none {names : List SchemaName} (h : none ∈ names) :
    ∃ rest, sortNames names = none :: rest := by
  have hmem : none ∈ sortNames names := mem_sortNames.mpr h
  have hpairwise := pairwise_sortNames names
  cases hnames : sortNames names with
  | nil =>
      rw [hnames] at hmem
      cases hmem
  | cons first rest =>
      rw [hnames] at hmem hpairwise
      rcases List.mem_cons.mp hmem with rfl | hlater
      · exact ⟨rest, rfl⟩
      · -- Nothing comes before the nameless schema.
        obtain ⟨hle, hne⟩ := (List.pairwise_cons.mp hpairwise).1 none hlater
        cases first with
        | none => exact absurd rfl hne
        | some name => cases hle

end DataAccess.Catalog
