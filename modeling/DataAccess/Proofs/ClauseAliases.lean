import DataAccess.Dialect.Basic
import Mathlib.Algebra.GroupWithZero.Nat

/-!
# Clause aliases: aliases that are written outside the selection

A selected item is written with its alias, `x AS n`. The same items stand in conditions, in the
grouping and in the order, where SQL has no aliases. On the left side of a comparison the alias is
left out. On the right side, in the grouping and in the order it is written.

* **Without aliases** (`Query.bareClauses`): a query whose items have no aliases but where they are
  selected.
* **What is written more** (`Fragment.Extends`): a fragment that is another one with some bytes
  more, through appends, separated lists and clauses.
* **Clauses** (`compile_bareClauses`): the SQL of a query is longer than without the aliases by just
  those of the items on right sides, in the grouping and in the order (`Query.clauseItems`). It is
  the same only if these have none.
-/

namespace DataAccess

open Catalog

/-! ## Without aliases -/

/-- The operand without the alias of its item (`SelectItem.bare`). -/
def Operand.bare : Operand → Operand
  | item i => item i.bare
  | operand => operand

/-- The items of an operand. -/
def Operand.items : Operand → List SelectItem
  | item i => [i]
  | value _ | parameter | list _ => []

mutual

/-- The condition without aliases, on either side and at any depth, by `SelectItem.bare`. -/
def FilterItem.bare : FilterItem → FilterItem
  | .compare left op operand => .compare left.bare op operand.bare
  | .anyOf items => .anyOf (FilterItem.allBare items)
  | .expression text => .expression text

/-- The conditions without aliases. -/
def FilterItem.allBare : List FilterItem → List FilterItem
  | [] => []
  | item :: rest => item.bare :: FilterItem.allBare rest

end

mutual

/-- The items on the right sides of a condition, at any depth. Those on left sides are written
without their aliases anyway, `SelectItem.bare`. -/
def FilterItem.operandItems : FilterItem → List SelectItem
  | .compare _ _ operand => operand.items
  | .anyOf items => FilterItem.allOperandItems items
  | .expression _ => []

/-- The items on the right sides of conditions. -/
def FilterItem.allOperandItems : List FilterItem → List SelectItem
  | [] => []
  | item :: rest => item.operandItems ++ FilterItem.allOperandItems rest

end

/-- The order item without its alias. -/
def OrderItem.bare (o : OrderItem) : OrderItem := { o with item := o.item.bare }

namespace Query

/-- The query without aliases in its conditions, its grouping and its order. The items of `q.select`
keep theirs. -/
def bareClauses (q : Query) : Query :=
  { q with
    filters := FilterItem.allBare q.filters
    groupBy := q.groupBy.map (·.bare)
    having := FilterItem.allBare q.having
    orderBy := q.orderBy.map (·.bare) }

/-- The items of a query whose aliases are written although they name nothing: on the right sides of
conditions, in `groupBy` and in `orderBy`. -/
def clauseItems (q : Query) : List SelectItem :=
  FilterItem.allOperandItems q.filters ++ q.groupBy ++ FilterItem.allOperandItems q.having ++
    q.orderBy.map (·.item)

end Query

namespace Dialect

open Fragment

/-! ## Aliases -/

section Aliases

variable (held : Holdings) (i : SelectItem) (items : List SelectItem)

/-- What is written of the alias of an item: ` AS ` and the identifier, nothing if it has none. -/
def aliasText : String :=
  match i.asName with
  | some shownAs => " AS " ++ identifier shownAs
  | none => ""

/-- The number of bytes that are written of the aliases of some items (`aliasText`). -/
def aliasSize : Nat := (items.map fun i => (aliasText i).utf8ByteSize).sum

/-- The alias of an item is written behind it: `itemText` is that of `i.bare` and then
`aliasText i`. -/
theorem itemText_eq : itemText held i = itemText held i.bare ++ aliasText i := by
  unfold itemText aliasText SelectItem.bare
  cases i.asName with
  | none => simp
  | some shownAs => simp [String.append_assoc]

/-- `aliasText i = ""` only for an item without an alias. -/
theorem aliasText_eq_empty_iff : aliasText i = "" ↔ i.asName = none := by
  unfold aliasText
  cases i.asName with
  | none => simp
  | some shownAs => simp

/-- Nothing is written of the aliases of items (`aliasSize = 0`) only if they have none. -/
theorem aliasSize_eq_zero_iff : aliasSize items = 0 ↔ ∀ i ∈ items, i.asName = none := by
  induction items with
  | nil => simp [aliasSize]
  | cons i rest ih =>
      have hcons : aliasSize (i :: rest) = (aliasText i).utf8ByteSize + aliasSize rest := rfl
      rw [hcons, Nat.add_eq_zero_iff, String.utf8ByteSize_eq_zero_iff, aliasText_eq_empty_iff, ih,
        List.forall_mem_cons]

@[simp]
theorem aliasSize_append (items items' : List SelectItem) :
    aliasSize (items ++ items') = aliasSize items + aliasSize items' := by
  simp [aliasSize]

end Aliases

/-! ## What is written more -/

/-- Whether the fragment `f` is written with `extra` bytes more than `g`, and is the same if there
are none more. -/
structure Fragment.Extends (extra : Nat) (f g : Fragment) : Prop where
  /-- The bytes that are written more. -/
  size_eq : (sql f).utf8ByteSize = (sql g).utf8ByteSize + extra
  /-- Nothing else is written differently. -/
  eq_of_zero : extra = 0 → f = g

/-- Whether fragments extend others one by one (`Fragment.Extends`), with so many bytes more
altogether. -/
inductive Fragment.AllExtend : Nat → List Fragment → List Fragment → Prop where
  | nil : AllExtend 0 [] []
  | cons {m n : Nat} {f g : Fragment} {fs gs : List Fragment} (h : f.Extends m g)
    (hs : AllExtend n fs gs) :
      AllExtend (m + n) (f :: fs) (g :: gs)

namespace Fragment

variable {m n : Nat} {f f' g g' : Fragment} {fs gs : List Fragment}

theorem Extends.refl (f : Fragment) : f.Extends 0 f := ⟨rfl, fun _ => rfl⟩

/-- `Extends` adds up: `f ++ f'` extends `g ++ g'` by `m + n`. -/
theorem Extends.append (h : f.Extends m g) (h' : f'.Extends n g') :
    (f ++ f').Extends (m + n) (g ++ g') where
  size_eq := by
    simp only [sql_append, String.utf8ByteSize_append, h.size_eq, h'.size_eq]
    omega
  eq_of_zero := by
    intro hzero
    rw [h.eq_of_zero (by omega), h'.eq_of_zero (by omega)]

/-- `Extends` is kept behind a fragment that is the same. -/
theorem Extends.behind (h : f.Extends n g) (front : Fragment) :
    (front ++ f).Extends n (front ++ g) := by
  simpa using (Extends.refl front).append h

/-- `Extends` is kept in front of a fragment that is the same. -/
theorem Extends.before (h : f.Extends n g) (back : Fragment) :
    (f ++ back).Extends n (g ++ back) := by
  simpa using h.append (.refl back)

/-- A text with `extra` inside extends the text without it by the size of `extra`. -/
theorem extends_ofText (front extra back : String) :
    (ofText (front ++ extra ++ back)).Extends extra.utf8ByteSize (ofText (front ++ back)) where
  size_eq := by
    simp only [sql_ofText, String.utf8ByteSize_append]
    omega
  eq_of_zero := by
    intro hzero
    rw [String.utf8ByteSize_eq_zero_iff.mp hzero, String.append_empty]

/-- Fragments that extend others one by one do so with a `separator` between each and the next. -/
theorem AllExtend.separated (h : AllExtend n fs gs) (separator : String) :
    (separated separator fs).Extends n (separated separator gs) := by
  induction h with
  | nil => exact .refl _
  | cons h hs ih =>
      cases hs with
      | nil => exact h
      | cons => exact (h.before (ofText separator)).append ih

/-- A `clause` extends another one by as much as its fragments do altogether. -/
theorem AllExtend.clause (h : AllExtend n fs gs) (keyword separator : String) :
    (clause keyword separator fs).Extends n (clause keyword separator gs) := by
  cases h with
  | nil => exact .refl _
  | cons h hs => exact ((AllExtend.cons h hs).separated separator).behind (ofText keyword)

end Fragment

/-! ## Clauses -/

section Clauses

variable (held : Holdings)

/-- `itemText` extends that of the bare item by the alias. -/
theorem extends_itemText (i : SelectItem) :
    (ofText (itemText held i)).Extends (aliasSize [i]) (ofText (itemText held i.bare)) := by
  have h := extends_ofText (itemText held i.bare) (aliasText i) ""
  rw [String.append_empty, String.append_empty, ← itemText_eq] at h
  simpa [aliasSize] using h

/-- The right side of a comparison extends that of `operand.bare` by the aliases of
`operand.items`. -/
theorem extends_comparisonFragment (op : Operator) (operand : Operand) :
    (comparisonFragment held op operand).Extends (aliasSize operand.items)
      (comparisonFragment held op operand.bare) := by
  cases operand with
  | value | parameter | list => exact .refl _
  | item i =>
      have hitem := extends_itemText held i
      cases op with
      | isIn | notIn => exact (hitem.behind _).before (ofText ")")
      | _ => exact hitem.behind _

mutual

/-- A condition extends the bare one by the aliases of its `operandItems`. -/
theorem extends_filterFragment : (item : FilterItem) →
    (filterFragment held item).Extends (aliasSize item.operandItems) (filterFragment held item.bare)
  | .compare left op operand => by
      rw [filterFragment, FilterItem.bare, filterFragment, FilterItem.operandItems]
      exact (extends_comparisonFragment held op operand).behind (ofText (itemText held left.bare))
  | .anyOf items => by
      rw [filterFragment, FilterItem.bare, filterFragment, FilterItem.operandItems]
      exact (((allExtend_filterFragments items).separated " OR ").behind (ofText "(")).before
        (ofText ")")
  | .expression _ => .refl _

/-- Conditions, one by one. -/
theorem allExtend_filterFragments : (items : List FilterItem) →
    AllExtend (aliasSize (FilterItem.allOperandItems items)) (filterFragments held items)
      (filterFragments held (FilterItem.allBare items))
  | [] => .nil
  | item :: rest => by
      rw [FilterItem.allOperandItems, aliasSize_append]
      exact .cons (extends_filterFragment item) (allExtend_filterFragments rest)

end

/-- Items, one by one. -/
theorem allExtend_itemFragments (items : List SelectItem) :
    AllExtend (aliasSize items) (itemFragments held items)
      (itemFragments held (items.map (·.bare))) := by
  induction items with
  | nil => exact .nil
  | cons i rest ih => exact .cons (extends_itemText held i) ih

/-- Order items extend the bare ones, one by one. The direction stands behind the alias. -/
theorem allExtend_orderText (items : List OrderItem) :
    AllExtend (aliasSize (items.map (·.item))) (items.map fun o => ofText (orderText held o))
      ((items.map (·.bare)).map fun o => ofText (orderText held o)) := by
  induction items with
  | nil => exact .nil
  | cons o rest ih =>
      have horder : (ofText (orderText held o)).Extends (aliasSize [o.item])
          (ofText (orderText held o.bare)) := by
        have h :=
          extends_ofText (itemText held o.item.bare) (aliasText o.item) (" " ++ o.direction.name)
        rw [← itemText_eq, ← String.append_assoc, ← String.append_assoc] at h
        exact h
      exact .cons horder ih

/-- A query without its window extends the one with `bareClauses` by the aliases of its
`clauseItems`. -/
theorem extends_queryFragment (q : Query) :
    (queryFragment held q).Extends (aliasSize q.clauseItems)
      (queryFragment held q.bareClauses) := by
  have hfilters := (allExtend_filterFragments held q.filters).clause " WHERE " " AND "
  have hgroup := (allExtend_itemFragments held q.groupBy).clause " GROUP BY " ", "
  have hhaving := (allExtend_filterFragments held q.having).clause " HAVING " " AND "
  have horder := (allExtend_orderText held q.orderBy).clause " ORDER BY " ", "
  unfold Query.clauseItems
  simp only [aliasSize_append]
  exact (((hfilters.behind _).append hgroup).append hhaving).append horder

end Clauses

end Dialect

namespace SqlDialect

open Dialect Fragment

/-- **Clauses.** The SQL of a query is longer than that of the query without aliases in its
conditions, its grouping and its order (`bareClauses`), by what is written of the aliases of items
on right sides, in the grouping and in the order (`clauseItems`). Both are compiled to the same SQL
and markers just if none of these items has an alias. The alias of a left side is never written. -/
theorem compile_bareClauses (d : SqlDialect) (outside : Holdings) (q : Query) :
    (d.compile outside q).sql.utf8ByteSize =
      (d.compile outside q.bareClauses).sql.utf8ByteSize + aliasSize q.clauseItems ∧
    (d.compile outside q = d.compile outside q.bareClauses ↔ ∀ i ∈ q.clauseItems,
      i.asName = none) := by
  have hextends : (d.fragment outside q).Extends (aliasSize q.clauseItems)
      (d.fragment outside q.bareClauses) :=
    (extends_queryFragment (q.holdings.union outside) q).before _
  refine ⟨hextends.size_eq, ?_⟩
  rw [← aliasSize_eq_zero_iff]
  constructor
  · intro hsame
    have hsize := hextends.size_eq
    have hsql : sql (d.fragment outside q) = sql (d.fragment outside q.bareClauses) :=
      congrArg Rendered.sql hsame
    rw [hsql] at hsize
    omega
  · intro hzero
    exact congrArg Fragment.rendered (hextends.eq_of_zero hzero)

/-- The number of rows under a name, in the order of that number under the same name. -/
def countsQuery : Query where
  select := [{ kind := .countAll, asName := some "n" }]
  orderBy := [⟨{ kind := .countAll, asName := some "n" }, .ascending⟩]

/-- An alias is written outside the selection, too: `q` and `q.bareClauses` are not always compiled
alike. -/
theorem alias_written_in_order :
    ¬ ∀ (d : SqlDialect) (outside : Holdings) (q : Query),
      d.compile outside q = d.compile outside q.bareClauses := by
  intro hsame
  exact absurd (hsame base {} countsQuery) (by decide +kernel)

end SqlDialect

end DataAccess
