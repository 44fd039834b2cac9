import DataAccess.Proofs.UpdateAtomicity

/-!
# Deletion errors: which error a deletion with parameters has

A deletion gives no values to the parameters of its conditions, so that it fails if there are any.
But a condition may also contain an expression or an aggregate, which a store does not evaluate.
`Obstacle` is what a store cannot get over, and `filterObstacles` are the obstacles of a condition
in the order of reading, the operand of a comparison before its left side.

* **Binding** (`stopsAt_bindFilter`): without values, conditions are bound if they have no
  obstacles, and otherwise their first obstacle is the error.
* **Parameters** (`count_filtersObstacles`): as many obstacles are parameters as the conditions have
  parameters.
* **Deletions** (`delete_parameters_iff`): so a deletion with parameters always fails, and the error
  is about the number of parameters exactly if nothing that is not evaluated is read before the
  first of them.
-/

namespace DataAccess

open Catalog Execution

namespace Memory

/-! ## Obstacles -/

/-- What a store cannot get over in a condition when no values are given, each with its
`Obstacle.error`. -/
inductive Obstacle where
  /-- A parameter. -/
  | parameter
  /-- An aggregate. -/
  | aggregate
  /-- A text that only other sources understand. -/
  | expression (text : String)
deriving DecidableEq

/-- The error of an obstacle, `missing` being that of a parameter. -/
def Obstacle.error (missing : Error) : Obstacle → Error
  | parameter => missing
  | aggregate => aggregatesRows
  | expression text => opaqueExpression text

/-- The obstacle that an item is, if it is not a `.column`. -/
def itemObstacles (i : SelectItem) : List Obstacle :=
  match i.kind with
  | .column _ => []
  | .aggregate _ _ | .countAll => [.aggregate]
  | .expression text => [.expression text]

/-- The obstacle that an operand is, if it is neither a column nor made of values. -/
def operandObstacles : Operand → List Obstacle
  | .value _ | .list _ => []
  | .parameter => [.parameter]
  | .item i => itemObstacles i

mutual

/-- The obstacles of a condition, in the order of reading: the operand of a comparison comes before
its left side, as in `bindFilter`. -/
def filterObstacles : FilterItem → List Obstacle
  | .compare left _ operand => operandObstacles operand ++ itemObstacles left
  | .anyOf items => filtersObstacles items
  | .expression text => [.expression text]

/-- The obstacles of conditions, one after another. -/
def filtersObstacles : List FilterItem → List Obstacle
  | [] => []
  | item :: rest => filterObstacles item ++ filtersObstacles rest

end

/-! ## Binding -/

/-- Whether an outcome is an error because of the first of some obstacles or, if there are none, a
result of which `P` holds. -/
inductive StopsAt {α : Type} (missing : Error) (P : α → Prop) : List Obstacle →
    Except Error α → Prop where
  /-- There are no obstacles. -/
  | passed {a : α} (h : P a) : StopsAt missing P [] (.ok a)
  /-- The first obstacle is not passed. -/
  | stopped (first : Obstacle) (rest : List Obstacle) :
      StopsAt missing P (first :: rest) (.error (first.error missing))

section Binding

variable {α β : Type} {P : α → Prop} {Q : β → Prop} {os os' : List Obstacle} (missing : Error)

/-- The obstacles `os'` of what comes later are met if the obstacles `os` of what comes first are
passed. -/
theorem StopsAt.bind {missing : Error} {x : Except Error α} {f : α → Except Error β}
    (h : StopsAt missing P os x) (hf : ∀ a, P a → StopsAt missing Q os' (f a)) :
    StopsAt missing Q (os ++ os') (x >>= f) := by
  cases h with
  | passed ha => exact hf _ ha
  | stopped first rest => exact .stopped first (rest ++ os')

/-- `StopsAt` is kept by what is done with a result without obstacles. -/
theorem StopsAt.map {missing : Error} {x : Except Error α} {f : α → β} (h : StopsAt missing P os x)
    (hf : ∀ a, P a → Q (f a)) : StopsAt missing Q os (x >>= fun a => .ok (f a)) := by
  rw [← List.append_nil os]
  exact h.bind fun a ha => .passed (hf a ha)

/-- An item. -/
theorem stopsAt_ordinalOf (i : SelectItem) :
    StopsAt missing (fun _ => True) (itemObstacles i) (ordinalOf i) := by
  unfold itemObstacles ordinalOf
  cases i.kind with
  | column c => exact .passed trivial
  | aggregate f c => exact .stopped .aggregate []
  | countAll => exact .stopped .aggregate []
  | expression text => exact .stopped (.expression text) []

/-- `bindOperand` without values stops at `operandObstacles`. -/
theorem stopsAt_bindOperand (operand : Operand) :
    StopsAt missing (fun bound => bound.2 = []) (operandObstacles operand)
      (bindOperand missing [] operand) := by
  cases operand with
  | value v => exact .passed rfl
  | list vs => exact .passed rfl
  | parameter => exact .stopped .parameter []
  | item i => exact (stopsAt_ordinalOf missing i).map fun _ _ => rfl

mutual

/-- **Binding**: without values, `bindFilter` binds a condition or stops at the first of its
`filterObstacles`. -/
theorem stopsAt_bindFilter : (item : FilterItem) →
    StopsAt missing (fun bound => bound.2 = []) (filterObstacles item) (bindFilter missing [] item)
  | .compare left op operand => by
      rw [filterObstacles, bindFilter]
      apply (stopsAt_bindOperand missing operand).bind
      rintro ⟨side, values⟩ rfl
      exact (stopsAt_ordinalOf missing left).map fun _ _ => rfl
  | .anyOf items => by
      rw [filterObstacles, bindFilter]
      exact (stopsAt_bindFilters items).map fun _ h => h
  | .expression text => .stopped (.expression text) []

/-- **Binding**: so does `bindFilters` with conditions one after another. -/
theorem stopsAt_bindFilters : (items : List FilterItem) →
    StopsAt missing (fun bound => bound.2 = []) (filtersObstacles items)
      (bindFilters missing [] items)
  | [] => .passed rfl
  | item :: rest => by
      rw [filtersObstacles, bindFilters]
      apply (stopsAt_bindFilter item).bind
      rintro ⟨bound, values⟩ rfl
      exact (stopsAt_bindFilters rest).map fun _ h => h

end

end Binding

/-! ## Parameters -/

/-- No item is a parameter. -/
theorem count_itemObstacles (i : SelectItem) : (itemObstacles i).count .parameter = 0 := by
  unfold itemObstacles
  cases i.kind <;> simp

/-- `operandObstacles` has `.parameter` as often as the operand has parameters. -/
theorem count_operandObstacles (operand : Operand) :
    (operandObstacles operand).count .parameter = operand.parameterCount := by
  cases operand with
  | item i => exact count_itemObstacles i
  | _ => rfl

mutual

/-- **Parameters** of a condition are obstacles: `filterObstacles` has `parameterCount` of them. -/
theorem count_filterObstacles : (item : FilterItem) →
    (filterObstacles item).count .parameter = item.parameterCount
  | .compare left op operand => by
      rw [filterObstacles, List.count_append, count_operandObstacles, count_itemObstacles]
      rfl
  | .anyOf items => count_filtersObstacles items
  | .expression text => rfl

/-- **Parameters** of conditions are obstacles: `filtersObstacles` has `parameterCounts` of them. -/
theorem count_filtersObstacles : (items : List FilterItem) →
    (filtersObstacles items).count .parameter = FilterItem.parameterCounts items
  | [] => rfl
  | item :: rest => by
      rw [filtersObstacles, List.count_append, count_filterObstacles item,
        count_filtersObstacles rest]
      rfl

end

/-- An obstacle has the error of a parameter only if it is one. -/
theorem Obstacle.error_eq_iff {o : Obstacle} {expected actual : Nat} :
    o.error (.parameterCount expected actual) = .parameterCount expected actual ↔
      o = .parameter := by
  cases o with
  | parameter => exact iff_of_true rfl rfl
  | aggregate => exact iff_of_false nofun nofun
  | expression text => exact iff_of_false nofun nofun

/-! ## Deletions -/

/-- The conditions of a deletion are bound without values: `Evaluation.ofQuery` stops at the first
of their obstacles. -/
theorem stopsAt_ofQuery (t : Table) (filters : List FilterItem) :
    StopsAt (.parameterCount (FilterItem.parameterCounts filters) 0) (fun _ => True)
      (filtersObstacles filters)
      (Evaluation.ofQuery { sources := [.ofTable t], filters } .empty) := by
  have hmissing : FilterItem.parameterCounts (filters ++ []) =
      FilterItem.parameterCounts filters := by
    rw [List.append_nil]
  rw [← hmissing]
  exact (stopsAt_bindFilters _ filters).map fun _ _ => trivial

namespace Store

variable {s : Store} {t : Table} {d : SchemaDecl} {filters : List FilterItem}

/-- A deletion from a declared table fails with the `Obstacle.error` of the first obstacle of its
conditions. -/
theorem change_delete_of_obstacles {first : Obstacle} {rest : List Obstacle}
    (hschema : findDecl? s.schemas t.schemaName = some d) (htable : d.contains t.name = true)
    (hobstacles : filtersObstacles filters = first :: rest) :
    s.change (.delete t filters) =
      .error (first.error (.parameterCount (FilterItem.parameterCounts filters) 0)) := by
  have hdeclared : s.checkDeclared t = .ok () := by
    rw [checkDeclared, hschema]
    exact if_pos htable
  have hbound := stopsAt_ofQuery t filters
  rw [hobstacles] at hbound
  show s.delete t filters = _
  rw [delete, hdeclared]
  generalize Evaluation.ofQuery { sources := [.ofTable t], filters } .empty = outcome at hbound
  cases hbound
  rfl

/-- **Deletions.** A deletion from a declared table fails if its conditions have parameters, and the
store stays as it was. The error is that of the first of the `filtersObstacles`, in the order of
reading. So it is about the number of parameters (`parameterCount`), of which all were expected and
none was given, exactly if a parameter is read before all expressions and aggregates. -/
theorem delete_parameters_iff (hschema : findDecl? s.schemas t.schemaName = some d)
    (htable : d.contains t.name = true) (hparameters : 0 < FilterItem.parameterCounts filters) :
    let missing := Error.parameterCount (FilterItem.parameterCounts filters) 0
    ∃ first rest, filtersObstacles filters = first :: rest ∧
      source.update (.delete t filters) s = (.error (first.error missing), s) ∧
      ((source.update (.delete t filters) s).1 = .error missing ↔ first = .parameter) := by
  intro missing
  have hmem : .parameter ∈ filtersObstacles filters := by
    rw [← List.count_pos_iff, count_filtersObstacles]
    exact hparameters
  obtain ⟨first, rest, hobstacles⟩ := List.exists_cons_of_ne_nil (List.ne_nil_of_mem hmem)
  have hfails : source.update (.delete t filters) s = (.error (first.error missing), s) := by
    have hupdate (u : Update) : source.update u s = update u s := updateInPlace_eq_update s u
    rw [hupdate, update_eq_settle, change_delete_of_obstacles hschema htable hobstacles]
    rfl
  refine ⟨first, rest, hobstacles, hfails, ?_⟩
  rw [hfails, Except.error.injEq]
  exact Obstacle.error_eq_iff

/-- The only table of the store with one row. -/
def tableOfOneRow : Table := (oneTable.build 0).tables[0]

/-- The condition that a cell is the value of a parameter. -/
def givenCell : FilterItem :=
  .compare (.ofColumn ⟨tableOfOneRow.columns[0], none⟩) .equal .parameter

/-- An expression behind two parameters, one of them in a group, is not reached. In front of them it
is the error. -/
theorem delete_parameters_iff_expression :
    let delete (filters : List FilterItem) := source.update (.delete tableOfOneRow filters) oneRow
    delete [.anyOf [givenCell], .expression "1 = 1", givenCell] =
      (.error (.parameterCount 2 0), oneRow) ∧
    (delete [.expression "1 = 1", .anyOf [givenCell], givenCell]).1 ≠
      .error (.parameterCount 2 0) := by
  intro delete
  have hreached : 0 < FilterItem.parameterCounts [.anyOf [givenCell], .expression "1 = 1",
    givenCell] := by decide
  have hunreached : 0 < FilterItem.parameterCounts [.expression "1 = 1", .anyOf [givenCell],
    givenCell] := by decide
  obtain ⟨first, rest, hobstacles, hfails, -⟩ :=
    delete_parameters_iff (s := oneRow) (t := tableOfOneRow) (d :=
      oneTable) rfl (by decide) hreached
  obtain ⟨first', rest', hobstacles', -, hreported⟩ :=
    delete_parameters_iff (s := oneRow) (t := tableOfOneRow) (d :=
      oneTable) rfl (by decide) hunreached
  cases hobstacles
  cases hobstacles'
  exact ⟨hfails, mt hreported.mp nofun⟩

/-- Not every deletion with parameters has the error `parameterCount`. -/
theorem delete_parameter_unreported :
    ¬ ∀ (s : Store) (t : Table) (d : SchemaDecl) (filters : List FilterItem),
      findDecl? s.schemas t.schemaName = some d → d.contains t.name = true →
      0 < FilterItem.parameterCounts filters →
      (source.update (.delete t filters) s).1 =
        .error (.parameterCount (FilterItem.parameterCounts filters) 0) := by
  intro h
  have hreported :=
    h oneRow tableOfOneRow oneTable [.expression "1 = 1", givenCell] rfl (by decide) (by decide)
  have hfails : (source.update (.delete tableOfOneRow [.expression "1 = 1", givenCell]) oneRow).1 =
      .error (opaqueExpression "1 = 1") := rfl
  cases hfails.symm.trans hreported

end Store

end Memory
end DataAccess
