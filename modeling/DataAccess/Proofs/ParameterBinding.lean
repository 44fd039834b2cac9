import DataAccess.Dialect.Basic
import DataAccess.Proofs.MarkerPlaces

/-!
# Parameter binding: values in place of parameters

`Query.bind` replaces the parameters of a query by values, from left to right, with the conditions
on rows before those on groups. This is what executing the compiled text with those values has to
come to.

* **Markers stand for parameters** (`count_filterFragment`, `count_queryFragment`): the text of a
  condition has as many markers as the condition has parameters, at any depth of `anyOf`.
* **Binding commutes with rendering** (`compile_bind`): the text of a query with a literal put in at
  each marker place is the text of the query with the values bound. The one exception in the syntax
  is a null that is compared by `=` or `<>`, which is written `IS NULL` or `IS NOT NULL` as a
  literal; `FitsOperators` leaves it out.
-/

namespace DataAccess

open Catalog Dialect Dialect.Fragment

/-! ## Binding -/

/-- The operand with its parameter replaced by the first of the values, as a `.value`, and the
values that are left. -/
def Operand.bind : Operand → List Value → Operand × List Value
  | .parameter, v :: vs => (.value v, vs)
  | operand, vs => (operand, vs)

mutual

/-- The condition with its parameters replaced by values from left to right (`Operand.bind`), and
the values that are left. -/
def FilterItem.bind : FilterItem → List Value → FilterItem × List Value
  | .compare left op operand, vs => (.compare left op (operand.bind vs).1, (operand.bind vs).2)
  | .anyOf items, vs => (.anyOf (FilterItem.bindAll items vs).1, (FilterItem.bindAll items vs).2)
  | .expression text, vs => (.expression text, vs)

/-- The conditions with their parameters replaced by values, from the left, and the values that are
left. -/
def FilterItem.bindAll : List FilterItem → List Value → List FilterItem × List Value
  | [], vs => ([], vs)
  | item :: rest, vs =>
      ((item.bind vs).1 :: (FilterItem.bindAll rest (item.bind vs).2).1,
        (FilterItem.bindAll rest (item.bind vs).2).2)

end

/-- The query with its parameters replaced by values (`FilterItem.bindAll`): first those of the
conditions on rows, then those of the conditions on groups. -/
def Query.bind (q : Query) (vs : List Value) : Query :=
  { q with
    filters := (FilterItem.bindAll q.filters vs).1
    having := (FilterItem.bindAll q.having (FilterItem.bindAll q.filters vs).2).1 }

/-! ## The comparisons of the parameters -/

mutual

/-- The operators of the comparisons whose operand is `.parameter`, in the order of the
parameters. -/
def FilterItem.parameterOperators : FilterItem → List Operator
  | .compare _ op .parameter => [op]
  | .compare _ _ _ => []
  | .anyOf items => FilterItem.allParameterOperators items
  | .expression _ => []

/-- The operators of the comparisons whose operand is a parameter, over a list of conditions. -/
def FilterItem.allParameterOperators : List FilterItem → List Operator
  | [] => []
  | item :: rest => item.parameterOperators ++ FilterItem.allParameterOperators rest

end

/-- The operators of the comparisons whose operand is a parameter, in the order of the parameters:
those of `filters` and then those of `having`. -/
def Query.parameterOperators (q : Query) : List Operator :=
  FilterItem.allParameterOperators q.filters ++ FilterItem.allParameterOperators q.having

/-- Values fit the operators they are compared by if none that is compared by `=` or `<>` is
null. -/
def FitsOperators (ops : List Operator) (vs : List Value) : Prop :=
  ∀ p ∈ ops.zip vs, p.1 = .equal ∨ p.1 = .notEqual → p.2.isNull = false

instance (ops : List Operator) (vs : List Value) : Decidable (FitsOperators ops vs) :=
  inferInstanceAs
    (Decidable (∀ p ∈ ops.zip vs, p.1 = .equal ∨ p.1 = .notEqual → p.2.isNull = false))

/-- Values fit `as ++ bs` only if the first of them fit `as` and the rest fits `bs`. -/
theorem FitsOperators.append {as bs : List Operator} {vs : List Value}
    (h : FitsOperators (as ++ bs) vs) :
    FitsOperators as vs ∧ FitsOperators bs (vs.drop as.length) := by
  induction as generalizing vs with
  | nil => exact ⟨by simp [FitsOperators], h⟩
  | cons a as ih =>
      cases vs with
      | nil => exact ⟨by simp [FitsOperators], by simp [FitsOperators]⟩
      | cons v vs =>
          have htail : FitsOperators (as ++ bs) vs := fun p hp => h p (List.mem_cons_of_mem _ hp)
          obtain ⟨hfront, hback⟩ := ih htail
          refine ⟨fun p hp => ?_, hback⟩
          rcases List.mem_cons.mp hp with rfl | hp
          · exact h _ List.mem_cons_self
          · exact hfront p hp

mutual

/-- There is one operator for each parameter: `parameterOperators` has the length
`parameterCount`. -/
theorem FilterItem.length_parameterOperators :
    (item : FilterItem) → item.parameterOperators.length = item.parameterCount
  | .compare _ _ operand => by cases operand <;> rfl
  | .anyOf items => FilterItem.length_allParameterOperators items
  | .expression _ => rfl

/-- There is one operator for each parameter of a list of conditions. -/
theorem FilterItem.length_allParameterOperators :
    (items : List FilterItem) →
      (FilterItem.allParameterOperators items).length = FilterItem.parameterCounts items
  | [] => rfl
  | item :: rest => by
      rw [FilterItem.allParameterOperators, List.length_append, FilterItem.parameterCounts,
        FilterItem.length_parameterOperators item, FilterItem.length_allParameterOperators rest]

end

/-! ## The values that are left -/

/-- `Operand.bind` takes as many values as the operand has parameters. -/
theorem Operand.bind_snd (operand : Operand) (vs : List Value) :
    (operand.bind vs).2 = vs.drop operand.parameterCount := by
  cases operand with
  | parameter => cases vs <;> rfl
  | _ => rfl

mutual

/-- A condition takes as many values as it has parameters: `vs.drop item.parameterCount` is left. -/
theorem FilterItem.bind_snd :
    (item : FilterItem) → ∀ vs, (item.bind vs).2 = vs.drop item.parameterCount
  | .compare _ _ operand, vs => operand.bind_snd vs
  | .anyOf items, vs => FilterItem.bindAll_snd items vs
  | .expression _, _ => rfl

/-- `FilterItem.bindAll` takes as many values as the conditions have parameters. -/
theorem FilterItem.bindAll_snd :
    (items : List FilterItem) → ∀ vs,
      (FilterItem.bindAll items vs).2 = vs.drop (FilterItem.parameterCounts items)
  | [], _ => rfl
  | item :: rest, vs => by
      rw [FilterItem.bindAll, FilterItem.bindAll_snd rest, FilterItem.bind_snd item, List.drop_drop,
        FilterItem.parameterCounts]

end

namespace Dialect

variable (held : Holdings)

/-! ## Markers stand for parameters -/

/-- `operandFragment` has a `.marker` for each parameter of the operand. -/
theorem count_operandFragment (operand : Operand) :
    (operandFragment held operand).count .marker = operand.parameterCount := by
  cases operand with
  | parameter => rfl
  | _ => exact count_ofText _

/-- Between the parentheses of a membership test there is a marker for each parameter. -/
theorem count_membersFragment (operand : Operand) :
    (membersFragment held operand).count .marker = operand.parameterCount := by
  cases operand with
  | value v => exact count_operandFragment held (.value v)
  | parameter => exact count_operandFragment held .parameter
  | item i => exact count_operandFragment held (.item i)
  | list vs => exact count_ofText (literalList vs)

/-- `comparisonFragment` has a `.marker` for each parameter of its operand. -/
theorem count_comparisonFragment (op : Operator) (operand : Operand) :
    (comparisonFragment held op operand).count .marker = operand.parameterCount := by
  unfold comparisonFragment
  split
  · exact count_ofText _
  · exact count_ofText _
  all_goals
    simp only [List.count_append, count_ofText, count_membersFragment, count_operandFragment,
      Nat.zero_add, Nat.add_zero]

mutual

/-- **A condition has a marker for each of its parameters**, at any depth: `filterFragment` has
`parameterCount` markers. -/
theorem count_filterFragment :
    (item : FilterItem) → (filterFragment held item).count .marker = item.parameterCount
  | .compare left op operand => by
      rw [filterFragment, List.count_append, count_ofText, count_comparisonFragment, Nat.zero_add]
      rfl
  | .anyOf items => by
      rw [filterFragment, List.count_append, List.count_append, count_ofText, count_ofText,
        count_separated, totalMarkers_filterFragments items, Nat.zero_add]
      rfl
  | .expression text => count_ofText text

/-- `filterFragments` have a marker for each parameter of the conditions. -/
theorem totalMarkers_filterFragments :
    (items : List FilterItem) →
      totalMarkers (filterFragments held items) = FilterItem.parameterCounts items
  | [] => rfl
  | item :: rest => by
      rw [filterFragments, totalMarkers, count_filterFragment item,
        totalMarkers_filterFragments rest, FilterItem.parameterCounts]

end

/-- Texts have no markers. -/
theorem totalMarkers_ofText {α : Type} (text : α → String) (xs : List α) :
    totalMarkers (xs.map fun x => ofText (text x)) = 0 := by
  induction xs with
  | nil => rfl
  | cons x xs ih =>
      rw [List.map_cons, totalMarkers, count_ofText, ih]

/-- `selectFragment` has no markers. -/
theorem count_selectFragment (q : Query) : (selectFragment held q).count .marker = 0 := by
  unfold selectFragment
  rw [List.count_append, count_ofText]
  split_ifs
  · exact count_ofText "*"
  · rw [count_separated, itemFragments, totalMarkers_ofText]

/-- **A query has a marker for each of its parameters**: `queryFragment` has `q.parameterCount`
markers. -/
theorem count_queryFragment (q : Query) :
    (queryFragment held q).count .marker = q.parameterCount := by
  simp only [queryFragment, List.count_append, count_selectFragment, count_clause, itemFragments,
    totalMarkers_ofText, totalMarkers_filterFragments, Query.parameterCount,
    FilterItem.parameterCounts_append, Nat.zero_add, Nat.add_zero]

/-! ## Binding commutes with rendering -/

/-- A value that fits stands in a comparison where the marker of a parameter would, as its
`literal`. -/
theorem comparisonFragment_value (op : Operator) (v : Value)
    (h : op = .equal ∨ op = .notEqual → v.isNull = false) (ts : List String) :
    comparisonFragment held op (.value v) =
      fill (comparisonFragment held op .parameter) (literal v :: ts) := by
  cases op with
  | equal =>
      cases v with
      | null => exact absurd (h (.inl rfl)) (by decide)
      | _ => rfl
  | notEqual =>
      cases v with
      | null => exact absurd (h (.inr rfl)) (by decide)
      | _ => rfl
  | _ => rfl

/-- The fragment of a comparison with a bound operand is `fill` on that of the comparison, with the
literals of the values. -/
theorem comparisonFragment_bind (left : SelectItem) (op : Operator) (operand : Operand)
    (vs : List Value)
      (h : FitsOperators (FilterItem.compare left op operand).parameterOperators vs) :
    comparisonFragment held op (operand.bind vs).1 =
      fill (comparisonFragment held op operand) (vs.map literal) := by
  have hsame : ∀ o : Operand, o.parameterCount = 0 →
      comparisonFragment held op o = fill (comparisonFragment held op o) (vs.map literal) := by
    intro o ho
    exact (fill_of_count_eq_zero ((count_comparisonFragment held op o).trans ho) _).symm
  cases operand with
  | value v => exact hsame (.value v) rfl
  | item i => exact hsame (.item i) rfl
  | list ws => exact hsame (.list ws) rfl
  | parameter =>
      cases vs with
      | nil => exact (fill_texts_nil _).symm
      | cons v vs => exact comparisonFragment_value held op v (h (op, v) List.mem_cons_self) _

mutual

/-- A bound condition is written as the filled condition (`fill`), with the literals of its
values. -/
theorem filterFragment_bind :
    (item : FilterItem) → ∀ vs, FitsOperators item.parameterOperators vs →
      filterFragment held (item.bind vs).1 = fill (filterFragment held item) (vs.map literal)
  | .compare left op operand, vs, h => by
      rw [FilterItem.bind, filterFragment, filterFragment, fill_append, fill_ofText, count_ofText,
        comparisonFragment_bind held left op operand vs h]
      rfl
  | .anyOf items, vs, h => by
      rw [FilterItem.bind, filterFragment, filterFragment, fill_append, fill_append, fill_ofText,
        fill_ofText, count_ofText, fill_separated, filterFragments_bindAll items vs h]
      rfl
  | .expression text, vs, _ => (fill_ofText text (vs.map literal)).symm

/-- The fragments of `FilterItem.bindAll` are `fillAll` on those of the conditions. -/
theorem filterFragments_bindAll :
    (items : List FilterItem) → ∀ vs, FitsOperators (FilterItem.allParameterOperators items) vs →
      filterFragments held (FilterItem.bindAll items vs).1 =
        fillAll (filterFragments held items) (vs.map literal)
  | [], _, _ => rfl
  | item :: rest, vs, h => by
      obtain ⟨hitem, hrest⟩ := h.append
      rw [FilterItem.length_parameterOperators] at hrest
      rw [FilterItem.bindAll, filterFragments, filterFragments, fillAll, FilterItem.bind_snd,
        filterFragment_bind item vs hitem, filterFragments_bindAll rest _ hrest,
        count_filterFragment, List.map_drop]

end

/-- Texts have nothing to fill. -/
theorem fillAll_ofText {α : Type} (text : α → String) (xs : List α) (ts : List String) :
    fillAll (xs.map fun x => ofText (text x)) ts = xs.map fun x => ofText (text x) := by
  induction xs generalizing ts with
  | nil => rfl
  | cons x xs ih =>
      rw [List.map_cons, fillAll, fill_ofText, ih]

/-- **A bound query is written as the filled query** (`fill`). The conditions on groups take up the
values where the conditions on rows leave off; between the two there are no markers. -/
theorem queryFragment_bind (q : Query) (vs : List Value)
    (h : FitsOperators q.parameterOperators vs) :
    queryFragment held (q.bind vs) = fill (queryFragment held q) (vs.map literal) := by
  obtain ⟨hfilters, hhaving⟩ := h.append
  rw [FilterItem.length_allParameterOperators] at hhaving
  have hselect : selectFragment held (q.bind vs) = selectFragment held q := rfl
  unfold queryFragment itemFragments
  rw [hselect]
  simp only [fill_append, List.count_append, count_selectFragment, count_clause,
    totalMarkers_ofText, totalMarkers_filterFragments, fill_clause, fillAll_ofText,
    fill_of_count_eq_zero (count_selectFragment held q), Nat.zero_add, Nat.add_zero, List.drop_zero]
  simp only [Query.bind, FilterItem.bindAll_snd, filterFragments_bindAll held _ _ hfilters,
    filterFragments_bindAll held _ _ hhaving, List.map_drop]

end Dialect

namespace SqlDialect

/-- The window of a query adds no markers. -/
theorem count_fragment (d : SqlDialect) (outside : Holdings) (q : Query) :
    (d.fragment outside q).count .marker = q.parameterCount := by
  unfold fragment
  rw [List.count_append, count_queryFragment]
  split
  · rw [count_ofText, Nat.add_zero]
  · rfl

/-- The fragment of `q.bind vs` is `fill` on that of `q`, with the literals of `vs`. -/
theorem fragment_bind (d : SqlDialect) (outside : Holdings) (q : Query) (vs : List Value)
    (h : FitsOperators q.parameterOperators vs) :
    d.fragment outside (q.bind vs) = fill (d.fragment outside q) (vs.map literal) := by
  have hheld : (q.bind vs).holdings = q.holdings := rfl
  have hwindow : d.pagination.suffix? (q.bind vs) = d.pagination.suffix? q := rfl
  unfold fragment
  rw [hheld, hwindow, fill_append, queryFragment_bind _ q vs h]
  congr 1
  split
  · rw [fill_ofText]
  · rfl

/-- **Binding commutes with rendering.** The markers of a compiled query are one for each parameter,
strictly increasing, each the byte offset of a question mark. With a `literal` put in at each of
them (`Rendered.fill`), the text is that of the query with the values bound (`Query.bind`), which
has no markers left. A null may not stand behind `=` or `<>` (`FitsOperators`). -/
theorem compile_bind (d : SqlDialect) (outside : Holdings) (q : Query) :
    (d.compile outside q).markers.length = q.parameterCount ∧
    (d.compile outside q).markers.Pairwise (· < ·) ∧
    (∀ m ∈ (d.compile outside q).markers,
      String.Pos.Raw.get? (d.compile outside q).sql ⟨m⟩ = some '?') ∧
    ∀ vs : List Value, vs.length = q.parameterCount → FitsOperators q.parameterOperators vs →
      (d.compile outside q).fill (vs.map literal) = (d.compile outside (q.bind vs)).sql ∧
      (d.compile outside (q.bind vs)).markers = [] := by
  refine ⟨?_, pairwise_markers _, fun m hm => get?_of_mem_markers hm, fun vs hlen hfits => ⟨?_, ?_⟩⟩
  · exact (length_markers _).trans (d.count_fragment outside q)
  · rw [compile, fill_rendered, ← d.fragment_bind outside q vs hfits]
    rfl
  · apply List.eq_nil_of_length_eq_zero
    calc (d.compile outside (q.bind vs)).markers.length
        = (d.fragment outside (q.bind vs)).count .marker := length_markers _
      _ = (d.fragment outside q).count .marker - (vs.map literal).length := by
          rw [d.fragment_bind outside q vs hfits, count_fill]
      _ = 0 := by rw [d.count_fragment, List.length_map, hlen, Nat.sub_self]

/-- A query with a parameter in an equation, one in a membership test inside two disjunctions, and
one in a condition on groups. A question mark in a literal and letters of two bytes stand before
them. -/
def nestedQuery : Query where
  filters := [
    .compare { kind := .expression "größe" } .equal .parameter,
    .anyOf [
      .compare { kind := .countAll } .notEqual (.value (.text "?")),
      .anyOf [.compare { kind := .countAll } .isIn .parameter]]]
  having := [.compare { kind := .countAll } .greater .parameter]
  maxRows := some 3

/-- Values for the parameters of `nestedQuery`. The null stands in the membership test. -/
def nestedValues : List Value := [.text "O'B?", .null, .integer (-5)]

theorem compile_bind_nestedQuery :
    nestedValues.length = nestedQuery.parameterCount ∧
    FitsOperators nestedQuery.parameterOperators nestedValues ∧
    65 ∈ (compile ⟨.limitOffset, none⟩ {} nestedQuery).markers ∧
    String.Pos.Raw.get? (compile ⟨.limitOffset, none⟩ {} nestedQuery).sql ⟨65⟩ = some '?' ∧
    (compile ⟨.limitOffset, none⟩ {} nestedQuery).fill (nestedValues.map literal) =
      "SELECT * WHERE größe = 'O''B?' AND (COUNT(*) <> '?' OR (COUNT(*) IN (NULL)))" ++
        " HAVING COUNT(*) > -5 LIMIT 3" ∧
    (compile ⟨.limitOffset, none⟩ {} (nestedQuery.bind nestedValues)).markers = [] := by
  have hlen : nestedValues.length = nestedQuery.parameterCount := by decide
  have hfits : FitsOperators nestedQuery.parameterOperators nestedValues := by decide
  have hmem : 65 ∈ (compile ⟨.limitOffset, none⟩ {} nestedQuery).markers := by decide +kernel
  obtain ⟨-, -, hplaces, hbind⟩ := compile_bind ⟨.limitOffset, none⟩ {} nestedQuery
  obtain ⟨hfill, hnone⟩ := hbind nestedValues hlen hfits
  exact ⟨hlen, hfits, hmem, hplaces 65 hmem, hfill.trans (by decide +kernel), hnone⟩

end SqlDialect

end DataAccess
