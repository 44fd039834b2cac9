import DataAccess.Dialect.Rendering
import DataAccess.Proofs.ThreeValuedFilters
import DataAccess.Proofs.ValueOrder
import DataAccess.Query.Scope

/-!
# Membership tests: lists of values and single values

A comparison with a list asks whether a cell is one of several values, one with a single value how
the two are in order. The two are separate tests, and they part where a cell and a value are not in
order at all: then neither `=` nor `<>` holds, but `NOT IN` does.

* **One more condition** (`Query.Accepts`, `accepts_compare_iff`): a query with one more condition
  selects the rows that it selected before and in which the condition holds.
* **Tests of a cell** (`isMember_isIn_iff_exists`, `isMember_notIn_iff_forall`): a cell is in a list
  if it equals a value of it, and it is taken not to be if it equals none.
* **Lists** (`membership_iff_comparisons`): `IN` is `=` with one of the values. `NOT IN` is `<>`
  with each of them, but for those that the cell is not in order with.
* **Lists of one value** (`singleton_iff_onList`): whatever the operator, a list of one value is
  compared by `=` or by `NOT IN`. Only three operators mean the same with the value itself.
-/

namespace DataAccess

open Catalog Dialect Fragment Memory

/-! ## One more condition -/

/-- Whether `q.addFilter item` can be prepared and then selects a row. -/
def Query.Accepts (q : Query) (params : Params) (item : FilterItem) (row : Record) : Prop :=
  ∃ e, Evaluation.ofQuery (q.addFilter item) params = .ok e ∧ e.selects row = true

/-- The operator that decides between a cell and a list of one value: `IN` and `NOT IN` themselves,
and `=` for all others. -/
def Operator.onList : Operator → Operator
  | isIn => isIn
  | notIn => notIn
  | _ => equal

/-- `op.onList = op` holds for `=`, `IN` and `NOT IN` alone. -/
theorem Operator.onList_eq_self_iff (op : Operator) : op.onList = op ↔ op = equal ∨ op = isIn ∨
    op = notIn := by
  cases op <;> decide

namespace Memory

section Conditions

variable {q : Query} {params : Params} {e : Evaluation} {item : FilterItem} {p : Predicate}
    {row : Record}

/-- Conditions are bound one after another, the last one with the values that the others leave. -/
theorem bindFilters_concat {missing : Error} {items : List FilterItem} {ps : List Predicate}
    {values rest left : List Value} (hitems : bindFilters missing values items = .ok (ps, rest))
    (hitem : bindFilter missing rest item = .ok (p, left)) :
    bindFilters missing values (items ++ [item]) = .ok (ps ++ [p], left) := by
  induction items generalizing values ps with
  | nil =>
      cases hitems
      simp [bindFilters, hitem, bind, Except.bind, pure, Except.pure]
  | cons first items ih =>
      rw [bindFilters] at hitems
      obtain ⟨⟨bound, others⟩, hfirst, hitems⟩ := exists_of_bind_eq_ok hitems
      obtain ⟨⟨ps, _⟩, hrest, hitems⟩ := exists_of_bind_eq_ok hitems
      cases hitems
      simp [bindFilters, hfirst, ih hrest, bind, Except.bind, pure, Except.pure]

/-- A condition without parameters is prepared behind the others, in `e.predicates`. -/
theorem ofQuery_addFilter (he : Evaluation.ofQuery q params = .ok e)
    (hcount : item.parameterCount = 0)
    (hitem : ∀ missing values, bindFilter missing values item = .ok (p, values)) :
    Evaluation.ofQuery (q.addFilter item) params = .ok { e with predicates :=
      e.predicates ++ [p] } := by
  have hparameters : (q.addFilter item).parameterCount = q.parameterCount := by
    simp [Query.parameterCount, Query.addFilter, FilterItem.parameterCounts_append,
      FilterItem.parameterCounts,
      hcount]
  obtain ⟨t, htable, he⟩ := exists_of_bind_eq_ok he
  dsimp only at he
  split at he
  · cases he
  · next hplain =>
      obtain ⟨projection, hprojection, he⟩ := exists_of_bind_eq_ok he
      obtain ⟨⟨ps, rest⟩, hfilters, he⟩ := exists_of_bind_eq_ok he
      obtain ⟨order, horder, he⟩ := exists_of_bind_eq_ok he
      cases he
      -- Only the conditions of the query have changed.
      have htable' : tableOf (q.addFilter item) = .ok t := htable
      have hplain' : ((q.addFilter item).isAggregated || !(q.addFilter item).having.isEmpty) =
          false :=
        Bool.eq_false_iff.mpr hplain
      have hprojection' : ordinalsOf (q.addFilter item).select = .ok projection := hprojection
      have hfilters' : bindFilters (.parameterCount q.parameterCount params.size) params.toList
          (q.addFilter item).filters = .ok (ps ++ [p], rest) :=
        bindFilters_concat hfilters (hitem _ rest)
      have horder' : orderOf (q.addFilter item).orderBy = .ok order := horder
      simp [Evaluation.ofQuery, hparameters, htable', hplain', hprojection', hfilters', horder',
        bind, Except.bind, pure, Except.pure]
      rfl

/-- `q.Accepts params item row` if the row was selected before and `item` holds in it. -/
theorem accepts_iff (he : Evaluation.ofQuery q params = .ok e) (hcount : item.parameterCount = 0)
    (hitem : ∀ missing values, bindFilter missing values item = .ok (p, values)) :
    q.Accepts params item row ↔ e.selects row = true ∧ p.holds row = true := by
  have hselects : ({ e with predicates := e.predicates ++ [p] } : Evaluation).selects row =
      (e.selects row && p.holds row) := by
    simp [Evaluation.selects]
  unfold Query.Accepts
  rw [ofQuery_addFilter he hcount hitem]
  constructor
  · rintro ⟨e', he', hrow⟩
    cases he'
    rw [hselects] at hrow
    exact Bool.and_eq_true_iff.mp hrow
  · intro hrow
    exact ⟨_, rfl, hselects.trans (Bool.and_eq_true_iff.mpr hrow)⟩

/-- A literal that is not null is compared by `compareValues`, like any other value. -/
theorem compareSide_literal {v : Value} (hv : v.isNull = false) (left : Value) (op : Operator) :
    compareSide row left op (.literal v) = compareValues left op v := by
  cases v with
  | null => cases hv
  | _ => rfl

/-- **One more condition**: `q.Accepts` a comparison of a column with a value by `compareValues`. -/
theorem accepts_compare_iff (he : Evaluation.ofQuery q params = .ok e) (c : ColumnRef)
    (op : Operator) {v : Value} (hv : v.isNull = false) :
    q.Accepts params (.compare (.ofColumn c) op (.value v)) row ↔
      e.selects row = true ∧ compareValues (cell row c.column.ordinal) op v = true := by
  rw [accepts_iff he rfl fun _ _ => rfl, Predicate.holds, compareSide_literal hv]

/-- `q.Accepts` a comparison of a column with a list by `isMember`, whatever the operator. -/
theorem accepts_compare_list_iff (he : Evaluation.ofQuery q params = .ok e) (c : ColumnRef)
    (op : Operator) (vs : List Value) :
    q.Accepts params (.compare (.ofColumn c) op (.list vs)) row ↔
      e.selects row = true ∧ isMember (cell row c.column.ordinal) vs op = true := by
  rw [accepts_iff he rfl fun _ _ => rfl, Predicate.holds, compareSide]

end Conditions

/-! ## Tests of a cell -/

section Tests

variable {a b : Value} {bs : List Value} {op : Operator}

/-- Values other than null meet `=` exactly if `compare?` gives `.eq`. -/
theorem compareValues_equal_iff (ha : a.isNull = false) (hb : b.isNull = false) :
    compareValues a .equal b = true ↔ a.compare? b = some .eq := by
  simp only [compareValues, ha, hb, Bool.or_self, Bool.false_eq_true, if_false]
  cases a.compare? b with
  | none => simp
  | some o => simp [fits]

/-- Values other than null meet `<>` exactly if `compare?` gives an order, and not `.eq`. -/
theorem compareValues_notEqual_iff (ha : a.isNull = false) (hb : b.isNull = false) :
    compareValues a .notEqual b = true ↔ a.compare? b ≠ none ∧ a.compare? b ≠ some .eq := by
  simp only [compareValues, ha, hb, Bool.or_self, Bool.false_eq_true, if_false]
  cases a.compare? b with
  | none => simp
  | some o => simp [fits]

/-- `IN` holds if `compare?` gives `.eq` for a value of the list. -/
theorem isMember_isIn_iff_exists (ha : a.isNull = false) :
    isMember a bs .isIn = true ↔ ∃ b ∈ bs, a.compare? b = some .eq := by
  rw [isMember_isIn_iff (by decide), membership_eq_yes, and_iff_right ha]

/-- `NOT IN` holds if `compare?` gives `.eq` for no value of the list, be the values in order or
not. -/
theorem isMember_notIn_iff_forall (ha : a.isNull = false) (hbs : ∀ b ∈ bs, b.isNull = false) :
    isMember a bs .notIn = true ↔ ∀ b ∈ bs, a.compare? b ≠ some .eq := by
  simp only [isMember, ha, Bool.false_eq_true, if_false, if_true, Bool.and_eq_true,
    Bool.not_eq_true',
    List.any_eq_false, beq_iff_eq, List.all_eq_true]
  exact and_iff_left hbs

/-- The difference between `NOT IN` and `<>` with each value: they agree exactly if a value of the
list is equal to `a`, or all of them are in order with it. -/
theorem differs_iff_iff : ((∀ b ∈ bs, a.compare? b ≠ some .eq) ↔
      ∀ b ∈ bs, a.compare? b ≠ none ∧ a.compare? b ≠ some .eq) ↔
    (∃ b ∈ bs, a.compare? b = some .eq) ∨ ∀ b ∈ bs, a.compare? b ≠ none := by
  constructor
  · intro hagree
    by_cases hdiffers : ∀ b ∈ bs, a.compare? b ≠ some .eq
    · exact .inr fun b hb => (hagree.mp hdiffers b hb).1
    · push Not at hdiffers
      exact .inl hdiffers
  · rintro (⟨b, hb, heq⟩ | hall)
    · exact iff_of_false (fun h => h b hb heq) fun h => (h b hb).2 heq
    · exact forall₂_congr fun b hb => (and_iff_right (hall b hb)).symm

/-- `isMember a [b] op = compareValues a op.onList b`, for a value `b` other than null. -/
theorem isMember_singleton (hb : b.isNull = false) :
    isMember a [b] op = compareValues a op.onList b := by
  cases ha : a.isNull with
  | true => simp [isMember, compareValues, ha]
  | false =>
      have hequal (hop : op ≠ .notIn) : isMember a [b] op = true ↔
          compareValues a .equal b = true := by
        rw [compareValues_equal_iff ha hb]
        simp [isMember, ha, hop]
      cases op with
      | isIn | notIn => simp [compareValues, Operator.onList, ha, hb]
      | _ => exact Bool.eq_iff_iff.mpr (hequal (by decide))

/-- An operator that compares each list of one value like the value has `op.onList = op`. A few
values tell the others apart. -/
theorem onList_eq_self_of_forall
    (h : ∀ a b : Value, b.isNull = false → isMember a [b] op = compareValues a op b) :
    op.onList = op := by
  cases op with
  | equal | isIn | notIn => rfl
  | notEqual | less | greater => exact absurd (h (.boolean true) (.boolean true) rfl) (by decide)
  | lessOrEqual => exact absurd (h (.boolean false) (.boolean true) rfl) (by decide)
  | greaterOrEqual => exact absurd (h (.boolean true) (.boolean false) rfl) (by decide)
  | like => exact absurd (h (.text "a") (.text "%") rfl) (by decide +kernel)
  | notLike => exact absurd (h (.text "a") (.text "a") rfl) (by decide +kernel)

end Tests

/-! ## Lists -/

section Lists

variable {q : Query} {params : Params} {e : Evaluation}

/-- **Lists.** A cell that is not null is accepted by `IN` if it is accepted by `=` with one of the
values. It is accepted by `NOT IN` if each of the values is accepted by `<>` or is not in order with
the cell, as values of other kinds are not. So `NOT IN` is `<>` with each of the values just if one
of them equals the cell or all of them are in order with it. -/
theorem membership_iff_comparisons (he : Evaluation.ofQuery q params = .ok e) (c : ColumnRef)
    {vs : List Value} (hne : vs ≠ []) (hvs : ∀ v ∈ vs, v.isNull = false) {row : Record}
    (hcell : (cell row c.column.ordinal).isNull = false) :
    let left := cell row c.column.ordinal
    let accepts (op : Operator) (operand : Operand) :=
      q.Accepts params (.compare (.ofColumn c) op operand) row
    let undecided (v : Value) := e.selects row = true ∧ left.compare? v = none
    (accepts .isIn (.list vs) ↔ ∃ v ∈ vs, accepts .equal (.value v)) ∧
    (accepts .notIn (.list vs) ↔ ∀ v ∈ vs, accepts .notEqual (.value v) ∨ undecided v) ∧
    ((accepts .notIn (.list vs) ↔ ∀ v ∈ vs, accepts .notEqual (.value v)) ↔
      (∃ v ∈ vs, accepts .equal (.value v)) ∨ ∀ v ∈ vs, ¬ undecided v) ∧
    ∀ v ∈ vs, left.kind ≠ .float → v.kind ≠ .float →
      (undecided v ↔ e.selects row = true ∧ left.kind ≠ v.kind) := by
  intro left accepts undecided
  have hkinds {v : Value} (hv : v ∈ vs) (hleft : left.kind ≠ .float) (hright : v.kind ≠ .float) :
      left.compare? v = none ↔ left.kind ≠ v.kind := by
    rw [Value.compare?_eq_none_iff hleft hright, and_iff_right hcell, and_iff_right (hvs v hv)]
  by_cases hrow : e.selects row = true
  · have hin : accepts .isIn (.list vs) ↔ ∃ v ∈ vs, left.compare? v = some .eq :=
      (accepts_compare_list_iff he c .isIn vs).trans
        ((and_iff_right hrow).trans (isMember_isIn_iff_exists hcell))
    have hnotIn : accepts .notIn (.list vs) ↔ ∀ v ∈ vs, left.compare? v ≠ some .eq :=
      (accepts_compare_list_iff he c .notIn vs).trans
        ((and_iff_right hrow).trans (isMember_notIn_iff_forall hcell hvs))
    have hequal (v) (hv : v ∈ vs) : accepts .equal (.value v) ↔ left.compare? v = some .eq :=
      (accepts_compare_iff he c .equal (hvs v hv)).trans
        ((and_iff_right hrow).trans (compareValues_equal_iff hcell (hvs v hv)))
    have hnotEqual (v) (hv : v ∈ vs) :
        accepts .notEqual (.value v) ↔ left.compare? v ≠ none ∧ left.compare? v ≠ some .eq :=
      (accepts_compare_iff he c .notEqual (hvs v hv)).trans
        ((and_iff_right hrow).trans (compareValues_notEqual_iff hcell (hvs v hv)))
    have hundecided (v : Value) : undecided v ↔ left.compare? v = none := and_iff_right hrow
    have hsome : (∃ v ∈ vs, accepts .equal (.value v)) ↔ ∃ v ∈ vs, left.compare? v = some .eq :=
      exists_congr fun v => and_congr_right (hequal v)
    refine ⟨hin.trans hsome.symm, ?_, ?_, ?_⟩
    · rw [hnotIn]
      refine forall₂_congr fun v hv => ?_
      rw [hnotEqual v hv, hundecided]
      by_cases hnone : left.compare? v = none <;> simp [hnone]
    · rw [hnotIn, hsome, forall₂_congr hnotEqual, forall₂_congr fun v _ => not_congr (hundecided v)]
      exact differs_iff_iff
    · intro v hv hleft hright
      rw [hundecided, hkinds hv hleft hright, and_iff_right hrow]
  -- A row that is not selected anyway is accepted with no further condition.
  · have hlist (op : Operator) : ¬ accepts op (.list vs) := fun h =>
      hrow ((accepts_compare_list_iff he c op vs).mp h).1
    have hvalue (op : Operator) {v : Value} (hv : v ∈ vs) : ¬ accepts op (.value v) := fun h =>
      hrow ((accepts_compare_iff he c op (hvs v hv)).mp h).1
    have hundecided (v : Value) : ¬ undecided v := fun h => hrow h.1
    obtain ⟨v, hv⟩ := List.exists_mem_of_ne_nil vs hne
    refine ⟨iff_of_false (hlist .isIn) ?_, iff_of_false (hlist .notIn) ?_, iff_of_true ?_ ?_, ?_⟩
    · rintro ⟨v, hv, haccepts⟩
      exact hvalue .equal hv haccepts
    · intro hall
      exact (hall v hv).elim (hvalue .notEqual hv) (hundecided v)
    · exact iff_of_false (hlist .notIn) fun hall => hvalue .notEqual hv (hall v hv)
    · exact .inr fun v _ => hundecided v
    · exact fun v _ _ _ => iff_of_false (hundecided v) fun h => hrow h.1

/-- The column of the employee whom one reports to, the last one of `employees`. -/
def reportsTo : ColumnRef := ⟨employees.columns.getLast (by decide), none⟩

/-- The employees who report to somebody with a number above a parameter. -/
def managedQuery : Query where
  select := [.ofColumn reportsTo]
  sources := [.ofTable employees]
  filters := [.compare (.ofColumn reportsTo) .greater .parameter]

/-- Values for `managedQuery`: a number below those of all employees. -/
def managedValues : Params := ⟨[.integer 1000]⟩

/-- What is prepared of `managedQuery`. -/
def managedEvaluation : Evaluation :=
  ⟨employees, [4], [.compare 4 .greater (.bound (.integer 1000))], [], false⟩

theorem ofQuery_managedQuery :
    Evaluation.ofQuery managedQuery managedValues = .ok managedEvaluation := rfl

/-- Values of three kinds, none of which is the number of the employee whom the manager reports
to. -/
def mixedList : List Value := [.text "1002", .boolean true, .integer 1143]

/-- The manager reports to none of `mixedList`, and only the number in it is `<>` to the one she
reports to. -/
theorem membership_iff_comparisons_mixedList :
    let accepts (op : Operator) (operand : Operand) :=
      managedQuery.Accepts managedValues (.compare (.ofColumn reportsTo) op operand) manager
    Evaluation.ofQuery managedQuery managedValues = .ok managedEvaluation ∧ mixedList ≠ [] ∧
    (∀ v ∈ mixedList, v.isNull = false) ∧ (cell manager reportsTo.column.ordinal).isNull = false ∧
    ¬ accepts .isIn (.list mixedList) ∧ accepts .notIn (.list mixedList) ∧
    ¬ ∀ v ∈ mixedList, accepts .notEqual (.value v) := by
  intro accepts
  have hne : mixedList ≠ [] := by decide
  have hvs : ∀ v ∈ mixedList, v.isNull = false := by decide
  have hcell : (cell manager reportsTo.column.ordinal).isNull = false := rfl
  have hrow : managedEvaluation.selects manager = true := by decide +kernel
  have hvalue (op : Operator) {v : Value} (hv : v ∈ mixedList) : accepts op (.value v) ↔
      compareValues (cell manager reportsTo.column.ordinal) op v = true :=
    (accepts_compare_iff ofQuery_managedQuery reportsTo op (hvs v hv)).trans (and_iff_right hrow)
  obtain ⟨hin, hnotIn, -, hkinds⟩ :=
    membership_iff_comparisons ofQuery_managedQuery reportsTo hne hvs hcell
  have hdiffers : ¬ ∀ v ∈ mixedList, accepts .notEqual (.value v) := by
    intro hall
    have htext := (hvalue .notEqual List.mem_cons_self).mp (hall (.text "1002") List.mem_cons_self)
    exact absurd htext (by decide +kernel)
  have hother : ∀ v ∈ mixedList,
      ¬ compareValues (cell manager reportsTo.column.ordinal) .equal v = true := by
    decide +kernel
  have hmember : ¬ ∃ v ∈ mixedList, accepts .equal (.value v) := by
    rintro ⟨v, hv, haccepts⟩
    exact hother v hv ((hvalue .equal hv).mp haccepts)
  refine ⟨ofQuery_managedQuery, hne, hvs, hcell,
    fun haccepts => hmember (hin.mp haccepts), ?_, hdiffers⟩
  refine hnotIn.mpr fun v hv => ?_
  by_cases hkind : v.kind = .integer
  · have hnumber : ∀ v ∈ mixedList, v.kind = .integer →
        compareValues (cell manager reportsTo.column.ordinal) .notEqual v =
          true := by decide +kernel
    exact .inl ((hvalue .notEqual hv).mpr (hnumber v hv hkind))
  · have hfloat : ∀ v ∈ mixedList, v.kind ≠ .float := by decide
    exact .inr ((hkinds v hv (by decide) (hfloat v hv)).mpr ⟨hrow, Ne.symm hkind⟩)

/-- A query that every employee is found by. -/
def employeesQuery : Query where
  sources := [.ofTable employees]

theorem ofQuery_employeesQuery :
    Evaluation.ofQuery employeesQuery .empty = .ok ⟨employees, [], [], [], false⟩ := rfl

/-- What is `NOT IN` a list need not be `<>` to each of its values: a number is not in order with a
text. -/
theorem notIn_without_notEqual :
    ¬ ∀ (q : Query) (params : Params) (e : Evaluation) (c : ColumnRef) (vs : List Value)
      (row : Record),
      Evaluation.ofQuery q params = .ok e → vs ≠ [] → (∀ v ∈ vs, v.isNull = false) →
      (cell row c.column.ordinal).isNull = false →
      (q.Accepts params (.compare (.ofColumn c) .notIn (.list vs)) row ↔
        ∀ v ∈ vs, q.Accepts params (.compare (.ofColumn c) .notEqual (.value v)) row) := by
  intro hagree
  have haccepts :=
    hagree employeesQuery .empty _ reportsTo [.text "a"] manager ofQuery_employeesQuery
    (by decide) (by decide) rfl
  rw [accepts_compare_list_iff ofQuery_employeesQuery, List.forall_mem_singleton,
    accepts_compare_iff ofQuery_employeesQuery _ _ rfl] at haccepts
  revert haccepts
  decide +kernel

end Lists

/-! ## Lists of one value -/

section Singletons

variable {q : Query} {params : Params} {e : Evaluation}

/-- A list of one value is written behind the operator, in parentheses. -/
theorem sql_comparisonFragment_singleton (held : Holdings) (op : Operator) (v : Value) :
    sql (comparisonFragment held op (.list [v])) = " " ++ op.text ++ " (" ++ literal v ++ ")" := by
  have hopen (s : String) : " " ++ ("(" ++ s) = " (" ++ s := by
    rw [← String.append_assoc]
    rfl
  cases op <;>
    simp [comparisonFragment, membersFragment, operandFragment, literalList,
      String.append_assoc, hopen]

/-- A value other than null is written behind the operator, in parentheses after `IN` and
`NOT IN`. -/
theorem sql_comparisonFragment_value (held : Holdings) (op : Operator) {v : Value}
    (hv : v.isNull = false) :
    sql (comparisonFragment held op (.value v)) =
      " " ++ op.text ++ if op = .isIn ∨ op = .notIn then " (" ++ literal v ++ ")"
        else " " ++ literal v := by
  cases v with
  | null => cases hv
  | _ =>
      cases op <;> simp [comparisonFragment, membersFragment, operandFragment, String.append_assoc]

/-- **Lists of one value.** Whatever the operator, a row is accepted with a list of one value if it
is accepted by `=` with that value, or by `NOT IN` if that is the operator. So `=`, `IN` and
`NOT IN` are the only operators that hold in the same rows with the list and with the value. In SQL
both are written behind the operator itself. -/
theorem singleton_iff_onList (he : Evaluation.ofQuery q params = .ok e) (c : ColumnRef)
    (op : Operator) {v : Value} (hv : v.isNull = false) (row : Record) :
    let accepts (op : Operator) (operand : Operand) :=
      q.Accepts params (.compare (.ofColumn c) op operand) row
    (accepts op (.list [v]) ↔ accepts op.onList (.value v)) ∧
    ((∀ (row : Record) (v : Value), v.isNull = false →
      (Predicate.compare c.column.ordinal op (.list [v])).holds row =
        (Predicate.compare c.column.ordinal op (.literal v)).holds row) ↔
      op = .equal ∨ op = .isIn ∨ op = .notIn) ∧
    ∀ held, sql (filterFragment held (.compare (.ofColumn c) op (.list [v]))) =
        columnText held c ++ (" " ++ op.text ++ " (" ++ literal v ++ ")") ∧
      sql (filterFragment held (.compare (.ofColumn c) op (.value v))) = columnText held c ++
        (" " ++ op.text ++ if op = .isIn ∨ op = .notIn then " (" ++ literal v ++ ")"
          else " " ++ literal v) := by
  intro accepts
  refine ⟨?_, ⟨fun hagree => ?_, fun hop row v hv => ?_⟩, fun held => ⟨?_, ?_⟩⟩
  · refine (accepts_compare_list_iff he c op [v]).trans ?_
    rw [isMember_singleton hv]
    exact (accepts_compare_iff he c op.onList hv).symm
  · refine (Operator.onList_eq_self_iff op).mp (onList_eq_self_of_forall fun a b hb => ?_)
    have hcell : cell (List.replicate c.column.ordinal .null ++ [a]) c.column.ordinal =
      a := by simp [cell]
    have hsame := hagree (List.replicate c.column.ordinal .null ++ [a]) b hb
    rw [Predicate.holds, Predicate.holds, hcell, compareSide_literal hb] at hsame
    exact hsame
  · rw [Predicate.holds, Predicate.holds, compareSide_literal hv, compareSide,
      isMember_singleton hv,
      (Operator.onList_eq_self_iff op).mpr hop]
  · rw [filterFragment, sql_append, sql_ofText, sql_comparisonFragment_singleton]
    rfl
  · rw [filterFragment, sql_append, sql_ofText, sql_comparisonFragment_value held op hv]
    rfl

/-- The manager reports to 1002, which is not `<` 1002, and yet is found `<` the list of that
number. -/
theorem singleton_iff_onList_less :
    let accepts (op : Operator) (operand : Operand) :=
      managedQuery.Accepts managedValues (.compare (.ofColumn reportsTo) op operand) manager
    Evaluation.ofQuery managedQuery managedValues = .ok managedEvaluation ∧
      (Value.integer 1002).isNull = false ∧
    accepts .less (.list [.integer 1002]) ∧ ¬ accepts .less (.value (.integer 1002)) := by
  intro accepts
  have hvalue (op : Operator) : accepts op (.value (.integer 1002)) ↔ _ :=
    accepts_compare_iff ofQuery_managedQuery reportsTo op rfl
  obtain ⟨hlist, -⟩ :=
    singleton_iff_onList ofQuery_managedQuery reportsTo .less (v := .integer 1002) rfl manager
  refine ⟨ofQuery_managedQuery, rfl, hlist.mpr ((hvalue .equal).mpr ?_), fun haccepts => ?_⟩
  · decide +kernel
  · exact absurd ((hvalue .less).mp haccepts).2 (by decide +kernel)

/-- A list of one value need not be compared like the value. -/
theorem singleton_without_element :
    ¬ ∀ (q : Query) (params : Params) (e : Evaluation) (c : ColumnRef) (op : Operator) (v : Value)
      (row : Record),
      Evaluation.ofQuery q params = .ok e → v.isNull = false →
      (q.Accepts params (.compare (.ofColumn c) op (.list [v])) row ↔
        q.Accepts params (.compare (.ofColumn c) op (.value v)) row) := by
  intro hagree
  have haccepts := hagree employeesQuery .empty _ reportsTo .less (.integer 1002) manager
    ofQuery_employeesQuery rfl
  rw [accepts_compare_list_iff ofQuery_employeesQuery,
    accepts_compare_iff ofQuery_employeesQuery _ _ rfl] at haccepts
  revert haccepts
  decide +kernel

end Singletons

end Memory

end DataAccess
