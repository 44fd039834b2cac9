import DataAccess.Memory.Evaluation
import DataAccess.Proofs.ParameterBinding
import Mathlib.Data.List.Forall2
import Mathlib.Tactic.SplitIfs

/-!
# Bound parameters: values given at execution and values in the query

A value may be bound to a parameter when a query is prepared, or stand in the query in its place.
The first takes the values one by one from a list that runs through all conditions, the second is
`Query.bind`, which is also what the markers of the compiled text stand for.

* **Same outcome** (`SameOutcome`): two preparations fail with one and the same error, or give
  results that are alike. Enough values are given, so that none is found missing: all errors are
  about requests that the source does not understand.
* **Conditions** (`sameOutcome_bindFilter`): a condition takes as many values as it has parameters
  and holds in the rows in which it holds with the values in place.
* **Queries** (`ofQuery_bind`).

The two differ for a null that is compared by `=` or `<>`: only if it stands in the query does it
ask whether the cell is empty. `FitsOperators` leaves it out.
-/

namespace DataAccess.Memory

open Catalog

/-! ## Same outcome -/

/-- Whether two preparations fail alike, on something that the source does not understand, or have
results of which `R` holds. -/
inductive SameOutcome {α β : Type} (R : α → β → Prop) : Except Error α → Except Error β → Prop where
  /-- Both fail with the same error. -/
  | failed (text : String) : SameOutcome R (.error (.unsupported text)) (.error (.unsupported text))
  /-- Both have results. -/
  | prepared {a : α} {b : β} (h : R a b) : SameOutcome R (.ok a) (.ok b)

namespace SameOutcome

variable {α β γ δ : Type} {R : α → β → Prop} {S : γ → δ → Prop} {x : Except Error α}
variable {y : Except Error β}

/-- What is done with results that are alike comes to the same: `SameOutcome` is kept by binds. -/
theorem bind {f : α → Except Error γ} {g : β → Except Error δ} (h : SameOutcome R x y)
    (hf : ∀ a b, x = .ok a → R a b → SameOutcome S (f a) (g b)) :
    SameOutcome S (x >>= f) (y >>= g) := by
  cases h with
  | failed text => exact .failed text
  | prepared hab => exact hf _ _ rfl hab

/-- One of two outcomes that are the same (`SameOutcome`) fails with `e` if the other does. -/
theorem error_iff (h : SameOutcome R x y) (e : Error) : x = .error e ↔ y = .error e := by
  cases h with
  | failed text =>
      exact ⟨fun he => congrArg _ (Except.error.inj he), fun he => congrArg _ (Except.error.inj he)⟩
  | prepared => exact ⟨nofun, nofun⟩

/-- One has a result if the other does. -/
theorem exists_of_ok {a : α} (h : SameOutcome R (.ok a) y) : ∃ b, y = .ok b ∧ R a b := by
  cases h with
  | prepared hab => exact ⟨_, rfl, hab⟩

end SameOutcome

/-! ## Items -/

/-- The column of an item is found or not understood. -/
theorem sameOutcome_ordinalOf (i : SelectItem) : SameOutcome Eq (ordinalOf i) (ordinalOf i) := by
  unfold ordinalOf
  split
  · exact .prepared rfl
  · exact .failed _
  · exact .failed _
  · exact .failed _

/-- The columns of items are found or not understood. -/
theorem sameOutcome_ordinalsOf (items : List SelectItem) :
    SameOutcome Eq (ordinalsOf items) (ordinalsOf items) := by
  induction items with
  | nil => exact .prepared rfl
  | cons i rest ih =>
      rw [ordinalsOf]
      refine (sameOutcome_ordinalOf i).bind fun n n' _ hn => ih.bind fun ns ns' _ hns => ?_
      exact .prepared (by rw [hn, hns])

/-- The columns of an order are found or not understood. -/
theorem sameOutcome_orderOf (items : List OrderItem) :
    SameOutcome Eq (orderOf items) (orderOf items) := by
  induction items with
  | nil => exact .prepared rfl
  | cons o rest ih =>
      rw [orderOf]
      refine (sameOutcome_ordinalOf o.item).bind fun n n' _ hn => ih.bind fun ns ns' _ hns => ?_
      exact .prepared (by rw [hn, hns])

/-- The table of a query is found or not understood. -/
theorem sameOutcome_tableOf (q : Query) : SameOutcome Eq (tableOf q) (tableOf q) := by
  unfold tableOf
  split
  · split
    · exact .prepared rfl
    · exact .failed _
  · exact .failed _

/-! ## Conditions -/

/-- Whether two right sides of a comparison with `op` hold for the same cells (`compareSide`). -/
def Side.Alike (op : Operator) (s s' : Side) : Prop :=
  ∀ row left, compareSide row left op s = compareSide row left op s'

/-- Whether two conditions hold in the same rows (`Predicate.holds`). -/
def Predicate.Alike (p p' : Predicate) : Prop :=
  ∀ row, p.holds row = p'.holds row

/-- A value that fits its operator means the same whether it is `.bound` or `.literal`: only a
literal null is read otherwise, by `=` and `<>`. -/
theorem alike_bound_literal {op : Operator} {v : Value}
    (h : op = .equal ∨ op = .notEqual → v.isNull = false) :
    Side.Alike op (.bound v) (.literal v) := by
  intro row left
  cases v with
  | null =>
      cases op with
      | equal => exact absurd (h (.inl rfl)) (by decide)
      | notEqual => exact absurd (h (.inr rfl)) (by decide)
      | _ => rfl
  | _ => rfl

/-- One of several conditions holds if one of those that are like them does. -/
theorem anyHolds_of_alike {row : Record} {ps ps' : List Predicate}
    (h : List.Forall₂ Predicate.Alike ps ps') :
    Predicate.anyHolds row ps = Predicate.anyHolds row ps' := by
  induction h with
  | nil => rfl
  | cons hp _ ih => rw [Predicate.anyHolds, Predicate.anyHolds, hp row, ih]

/-- All of several conditions hold if all of those that are like them do. -/
theorem all_holds_of_alike {row : Record} {ps ps' : List Predicate}
    (h : List.Forall₂ Predicate.Alike ps ps') :
    (ps.all fun p => p.holds row) = ps'.all fun p => p.holds row := by
  induction h with
  | nil => rfl
  | cons hp _ ih => rw [List.all_cons, List.all_cons, hp row, ih]

/-- Whether two bindings `x` and `y` leave the given values and, if the values that they take fit
(`fits`), have results that are `alike`. -/
structure Matched {α : Type} (alike : α → α → Prop) (fits : Prop) (left left' : List Value)
    (x y : α × List Value) : Prop where
  /-- What the first leaves. -/
  left_eq : x.2 = left
  /-- What the second leaves. -/
  left_eq' : y.2 = left'
  /-- The results. -/
  results : fits → alike x.1 y.1

variable (missing missing' : Error) (ws : List Value)

/-- An operand is bound to the value that `Operand.bind` puts in its place, or fails alike. -/
theorem sameOutcome_bindOperand (left : SelectItem) (op : Operator) (operand : Operand)
    (vs : List Value) (hlen : operand.parameterCount ≤ vs.length) :
    SameOutcome
      (Matched (Side.Alike op)
        (FitsOperators (FilterItem.compare left op operand).parameterOperators vs)
        (vs.drop operand.parameterCount) ws)
      (bindOperand missing vs operand) (bindOperand missing' ws (operand.bind vs).1) := by
  cases operand with
  | value v => exact .prepared ⟨rfl, rfl, fun _ _ _ => rfl⟩
  | list us => exact .prepared ⟨rfl, rfl, fun _ _ _ => rfl⟩
  | item i =>
      refine (sameOutcome_ordinalOf i).bind fun n n' _ hn => ?_
      subst hn
      exact .prepared ⟨rfl, rfl, fun _ _ _ => rfl⟩
  | parameter =>
      cases vs with
      | nil => cases hlen
      | cons v vs =>
          exact .prepared ⟨rfl, rfl,
            fun hfits => alike_bound_literal (hfits (op, v) List.mem_cons_self)⟩

mutual

/-- **A condition** takes as many values as it has parameters, and holds in the same rows as with
the values in place (`FilterItem.bind`). -/
theorem sameOutcome_bindFilter :
    (item : FilterItem) → ∀ vs, item.parameterCount ≤ vs.length →
      SameOutcome
        (Matched Predicate.Alike (FitsOperators item.parameterOperators vs)
          (vs.drop item.parameterCount) ws)
        (bindFilter missing vs item) (bindFilter missing' ws (item.bind vs).1)
  | .compare left op operand, vs, hlen => by
      rw [FilterItem.bind, bindFilter, bindFilter]
      refine (sameOutcome_bindOperand missing missing' ws left op operand vs hlen).bind ?_
      rintro ⟨side, rest⟩ ⟨side', rest'⟩ - ⟨hrest, hrest', hside⟩
      refine (sameOutcome_ordinalOf left).bind fun n n' _ hn => ?_
      subst hn
      exact .prepared ⟨hrest, hrest', fun hfits row => hside hfits row (cell row n)⟩
  | .anyOf items, vs, hlen => by
      rw [FilterItem.bind, bindFilter, bindFilter]
      refine (sameOutcome_bindFilters items vs hlen).bind ?_
      rintro ⟨ps, rest⟩ ⟨ps', rest'⟩ - ⟨hrest, hrest', hps⟩
      exact .prepared ⟨hrest, hrest', fun hfits row => anyHolds_of_alike (hps hfits)⟩
  | .expression text, _, _ => .failed _

/-- **Conditions** take their values one after another, and hold in the same rows as with the values
in place (`FilterItem.bindAll`). -/
theorem sameOutcome_bindFilters :
    (items : List FilterItem) → ∀ vs, FilterItem.parameterCounts items ≤ vs.length →
      SameOutcome
        (Matched (List.Forall₂ Predicate.Alike)
          (FitsOperators (FilterItem.allParameterOperators items) vs)
          (vs.drop (FilterItem.parameterCounts items)) ws)
        (bindFilters missing vs items) (bindFilters missing' ws (FilterItem.bindAll items vs).1)
  | [], _, _ => .prepared ⟨rfl, rfl, fun _ => .nil⟩
  | item :: rest, vs, hlen => by
      rw [FilterItem.parameterCounts] at hlen ⊢
      have hrest : FilterItem.parameterCounts rest ≤ (vs.drop item.parameterCount).length := by
        rw [List.length_drop]
        omega
      have hothers := sameOutcome_bindFilters rest _ hrest
      rw [FilterItem.bindAll, bindFilters, bindFilters, FilterItem.bind_snd, ← List.drop_drop]
      refine (sameOutcome_bindFilter item vs (by omega)).bind ?_
      rintro ⟨p, _⟩ ⟨p', _⟩ - ⟨rfl, rfl, hp⟩
      refine hothers.bind ?_
      rintro ⟨ps, left⟩ ⟨ps', left'⟩ - ⟨hleft, hleft', hps⟩
      refine .prepared ⟨hleft, hleft', fun hfits => ?_⟩
      obtain ⟨hitem, hfits'⟩ := hfits.append
      rw [FilterItem.length_parameterOperators] at hfits'
      exact .cons (hp hitem) (hps hfits')

end

/-! ## Queries -/

/-- Whether two prepared queries read the same table, select the same rows (`selects`) and give the
same results (`apply`). -/
structure Evaluation.Alike (e e' : Evaluation) : Prop where
  /-- The table. -/
  table_eq : e.table = e'.table
  /-- The rows for which all conditions hold. -/
  selects_eq : ∀ row, e.selects row = e'.selects row
  /-- The results. -/
  apply_eq : ∀ rows, e.apply rows = e'.apply rows

/-- Queries that differ in conditions that are alike give the same results. -/
theorem alike_of_predicates {table : Table} {projection : List Nat} {ps ps' : List Predicate}
    {order : List (Nat × Direction)} {distinct : Bool} (h : List.Forall₂ Predicate.Alike ps ps') :
    Evaluation.Alike ⟨table, projection, ps, order, distinct⟩
      ⟨table, projection, ps', order, distinct⟩ := by
  have hselects : Evaluation.selects ⟨table, projection, ps, order, distinct⟩ =
      Evaluation.selects ⟨table, projection, ps', order, distinct⟩ :=
    funext fun _ => all_holds_of_alike h
  refine ⟨rfl, congrFun hselects, fun rows => ?_⟩
  unfold Evaluation.apply
  rw [hselects]
  rfl

/-- **Queries**: with as many values as there are parameters, the conditions of a query that can be
evaluated take all of them, and the outcome is that of the query with the values in place
(`Query.bind`). -/
theorem sameOutcome_ofQuery (q : Query) (params : Params) (hsize : params.size = q.parameterCount) :
    SameOutcome
      (fun e e' => bindFilters (.parameterCount q.parameterCount params.size)
        params.toList q.filters =
          .ok (e.predicates, []) ∧
        (FitsOperators q.parameterOperators params.toList → e.Alike e'))
      (Evaluation.ofQuery q params) (Evaluation.ofQuery (q.bind params.toList) .empty) := by
  have hhaving : (q.bind params.toList).having.isEmpty = q.having.isEmpty := by
    show (FilterItem.bindAll q.having _).1.isEmpty = _
    cases q.having <;> rfl
  have haggregated : (q.bind params.toList).isAggregated = q.isAggregated := rfl
  unfold Evaluation.ofQuery
  rw [hhaving, haggregated]
  refine (sameOutcome_tableOf q).bind fun t t' _ ht => ?_
  subst ht
  dsimp only
  split_ifs with hrefused
  · exact .failed _
  · refine (sameOutcome_ordinalsOf q.select).bind fun ns ns' _ hns => ?_
    subst hns
    have hnone : q.having = [] := by
      simp only [Bool.or_eq_true, Bool.not_eq_true', not_or, Bool.not_eq_false,
        List.isEmpty_iff] at hrefused
      exact hrefused.2
    have hcount : q.parameterCount = FilterItem.parameterCounts q.filters := by
      rw [Query.parameterCount, hnone, List.append_nil]
    have hlen : FilterItem.parameterCounts q.filters = params.toList.length :=
      hcount.symm.trans hsize.symm
    refine (sameOutcome_bindFilters _ _ [] q.filters params.toList hlen.le).bind ?_
    rintro ⟨ps, left⟩ ⟨ps', left'⟩ hbound ⟨hleft, -, hps⟩
    rw [hlen, List.drop_length] at hleft
    obtain rfl : left = [] := hleft
    refine (sameOutcome_orderOf q.orderBy).bind fun os os' _ hos => ?_
    subst hos
    exact .prepared ⟨hbound, fun hfits => alike_of_predicates (hps hfits.append.1)⟩

/-- **Binding**: with as many values as a query has parameters and its text has markers, no value is
found missing and none is left over. If the values fit their operators (`FitsOperators`), the query
with the values in place (`Query.bind`), which is the text with the values at its markers
(`Rendered.fill`), has the same outcome: the same error, or the same rows selected and the same
results (`Evaluation.Alike`). -/
theorem ofQuery_bind (d : SqlDialect) (outside : Holdings) (q : Query) (params : Params)
    (hsize : params.size = q.parameterCount) :
    (d.compile outside q).markers.length = params.size ∧
    (∀ expected actual, Evaluation.ofQuery q params ≠ .error (.parameterCount expected actual)) ∧
    (∀ e, Evaluation.ofQuery q params = .ok e →
      bindFilters (.parameterCount q.parameterCount params.size) params.toList q.filters =
        .ok (e.predicates, [])) ∧
    (∀ error, Evaluation.ofQuery q params = .error error ↔
      Evaluation.ofQuery (q.bind params.toList) .empty = .error error) ∧
    (FitsOperators q.parameterOperators params.toList →
      (d.compile outside q).fill (params.toList.map Dialect.literal) =
        (d.compile outside (q.bind params.toList)).sql ∧
      ∀ e, Evaluation.ofQuery q params = .ok e →
        ∃ e', Evaluation.ofQuery (q.bind params.toList) .empty = .ok e' ∧ e.Alike e') := by
  have houtcome := sameOutcome_ofQuery q params hsize
  refine ⟨?_, fun expected actual hmissing => ?_, fun e he => ?_, houtcome.error_iff,
    fun hfits => ⟨?_, fun e he => ?_⟩⟩
  · exact (Dialect.Fragment.length_markers _).trans ((d.count_fragment outside q).trans hsize.symm)
  · rw [hmissing] at houtcome
    cases houtcome
  · rw [he] at houtcome
    obtain ⟨e', -, hbound, -⟩ := houtcome.exists_of_ok
    exact hbound
  · rw [SqlDialect.compile, Dialect.Fragment.fill_rendered, ← d.fragment_bind outside q _ hfits]
    rfl
  · rw [he] at houtcome
    obtain ⟨e', he', -, halike⟩ := houtcome.exists_of_ok
    exact ⟨e', he', halike hfits⟩

/-- A table of numbered names. -/
def namesTable : Table :=
  TableDecl.build
    ⟨"NAMES", .table, [⟨"ID", .integer, none, none, none⟩, ⟨"NAME", .varchar, none, none, none⟩]⟩
    0 none 0

/-- A query with a parameter before, in, and after a disjunction in a disjunction. -/
def namesQuery : Query where
  select := [.ofColumn ⟨namesTable.columns[1], none⟩]
  sources := [.ofTable namesTable]
  filters := [
    .compare (.ofColumn ⟨namesTable.columns[0], none⟩) .greater .parameter,
    .anyOf [
      .compare (.ofColumn ⟨namesTable.columns[1], none⟩) .equal (.value .null),
      .anyOf [.compare (.ofColumn ⟨namesTable.columns[1], none⟩) .like .parameter],
      .compare (.ofColumn ⟨namesTable.columns[0], none⟩) .isIn .parameter],
    .compare (.ofColumn ⟨namesTable.columns[1], none⟩) .notEqual .parameter]

/-- Values for the parameters of `namesQuery`. The null stands in the membership test. -/
def namesValues : Params := ⟨[.integer 1, .text "A%", .null, .text "Ada"]⟩

theorem ofQuery_bind_namesQuery :
    namesValues.size = namesQuery.parameterCount ∧
    FitsOperators namesQuery.parameterOperators namesValues.toList ∧
    (∀ expected actual, Evaluation.ofQuery namesQuery namesValues ≠
      .error (.parameterCount expected actual)) ∧
    ∃ e e', Evaluation.ofQuery namesQuery namesValues = .ok e ∧
      Evaluation.ofQuery (namesQuery.bind namesValues.toList) .empty = .ok e' ∧
      (∀ rows, e.apply rows = e'.apply rows) ∧
      e'.selects [.integer 2, .text "Abe"] = true ∧
        e'.selects [.integer 2, .text "Ada"] = false := by
  have hsize : namesValues.size = namesQuery.parameterCount := by decide
  have hfits : FitsOperators namesQuery.parameterOperators namesValues.toList := by decide
  obtain ⟨-, hcount, -, -, hbind⟩ := ofQuery_bind .base {} namesQuery namesValues hsize
  obtain ⟨-, halike⟩ := hbind hfits
  obtain ⟨e', he', h⟩ := halike _ rfl
  have hfound : e'.selects [.integer 2, .text "Abe"] = true := (h.selects_eq _).symm.trans (by rfl)
  have hmissed : e'.selects [.integer 2, .text "Ada"] = false :=
    (h.selects_eq _).symm.trans (by rfl)
  exact ⟨hsize, hfits, hcount, _, e', rfl, he', h.apply_eq, hfound, hmissed⟩

end DataAccess.Memory
