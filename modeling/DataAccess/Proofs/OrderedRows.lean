import DataAccess.Proofs.RowOrder
import DataAccess.Proofs.ThreeValuedFilters
import Mathlib.Data.List.Induction
import Mathlib.Data.List.Nodup

/-!
# Ordered rows: what ORDER BY and DISTINCT give

A query puts the rows that match into an order and gives what it selects of each. With DISTINCT it
gives each such result once.

* **Order** (`InOrder`, `Agree`): rows in the order of the items of a query, with an earlier item
  before a later one, and rows that no item tells apart.
* **Comparison** (`compareBy_ne_gt_iff`, `compareBy_eq_eq_iff`): that is how rows are compared, if
  no cell is a floating-point number and each column that they are ordered by is of one kind.
* **First occurrences** (`KeepsFirst`, `keepsFirst_firstOccurrences`): a list of which each element
  is kept where it stands first.
* **Queries** (`apply_ordered`): the result of a query is sorted, keeps the stored order where the
  items do not decide, and holds each row that matches once, or each result once.
-/

namespace DataAccess

open Value

/-! ## Order -/

namespace Memory

/-- Whether the row `a` stands before `b` by a single item: its value is `Below` that of `b` where
the item is ascending, and above it where it is descending. -/
def OrderItem.Before (o : OrderItem) (a b : Record) : Prop :=
  match o.direction with
  | .ascending => Below (o.item.read a) (o.item.read b)
  | .descending => Below (o.item.read b) (o.item.read a)

/-- Whether the row `a` may stand before `b`: by the first item that tells them apart, if there is
one. This is the lexicographic order of `OrderItem.Before`. -/
def InOrder : List OrderItem → Record → Record → Prop
  | [], _, _ => True
  | o :: rest, a, b => OrderItem.Before o a b ∨ (o.item.read a = o.item.read b ∧ InOrder rest a b)

/-- Whether no item tells two rows apart: they have the same values under all of them. -/
def Agree (items : List OrderItem) (a b : Record) : Prop :=
  ∀ o ∈ items, o.item.read a = o.item.read b

/-- Whether no cell of a row is a floating-point number. -/
def WithoutFloats (row : Record) : Prop :=
  ∀ v ∈ row, v.kind ≠ .float

/-! ## Comparison -/

section Comparison

variable {rows : List Record} {a b : Record} {items : List OrderItem}
    {order : List (Nat × Direction)}

/-- `cell a ordinal` is no floating-point number for any `ordinal`, for it is null beyond the end of
the row. -/
theorem WithoutFloats.cell (h : WithoutFloats a) (ordinal : Nat) :
    (cell a ordinal).kind ≠ .float := by
  unfold Memory.cell
  cases hcell : a[ordinal]? with
  | none => nofun
  | some v => exact h v (List.mem_of_getElem? hcell)

/-- An element of the first list is paired with one of the second. -/
theorem exists_mem_of_forall₂ {α β : Type} {R : α → β → Prop} {as : List α} {bs : List β}
    (h : List.Forall₂ R as bs) {a : α} (ha : a ∈ as) : ∃ b ∈ bs, R a b := by
  induction h with
  | nil => cases ha
  | @cons _ b _ bs hfirst _ ih =>
      rcases List.mem_cons.mp ha with rfl | ha
      · exact ⟨b, List.mem_cons_self, hfirst⟩
      · obtain ⟨other, hother, hpair⟩ := ih ha
        exact ⟨other, List.mem_cons_of_mem b hother, hpair⟩

/-- `orderOf` gives for each item the ordinal that it reads, `ordinalOf`, and its direction. -/
theorem forall₂_of_orderOf (h : orderOf items = .ok order) :
    List.Forall₂ (fun o p => ordinalOf o.item = .ok p.1 ∧ o.direction = p.2) items order := by
  induction items generalizing order with
  | nil =>
      cases h
      exact .nil
  | cons o rest ih =>
      obtain ⟨ordinal, hordinal, h⟩ := exists_of_bind_eq_ok h
      obtain ⟨others, hothers, h⟩ := exists_of_bind_eq_ok h
      cases h
      exact .cons ⟨hordinal, rfl⟩ (ih hothers)

/-- The cells at the ordinals of `ordinalsOf items` are the values that the items `read`. -/
theorem map_cell_of_ordinalsOf {items : List SelectItem} {ordinals : List Nat}
    (h : ordinalsOf items = .ok ordinals) (row : Record) :
    ordinals.map (cell row) = items.map (·.read row) := by
  induction items generalizing ordinals with
  | nil =>
      cases h
      rfl
  | cons i rest ih =>
      obtain ⟨ordinal, hordinal, h⟩ := exists_of_bind_eq_ok h
      obtain ⟨others, hothers, h⟩ := exists_of_bind_eq_ok h
      cases h
      rw [List.map_cons, List.map_cons, cell_ordinalOf hordinal, ih hothers]

/-- Whether `compare?` has an order for the values of two rows under an item. -/
def OrderItem.Decides (o : OrderItem) (a b : Record) : Prop :=
  ((o.item.read a).compare? (o.item.read b)).isSome

/-- `Evaluation.orderBy` is `sortOrder` on the values under the item, swapped where it is
descending. -/
theorem orderBy_eq {o : OrderItem} {p : Nat × Direction} (hordinal : ordinalOf o.item = .ok p.1)
    (hdirection : o.direction = p.2) (a b : Record) :
    Evaluation.orderBy p a b = match o.direction with
      | .ascending => sortOrder (o.item.read a) (o.item.read b)
      | .descending => (sortOrder (o.item.read a) (o.item.read b)).swap := by
  cases hp : p.2 with
  | ascending => simp only [Evaluation.orderBy, hdirection, hp, cell_ordinalOf hordinal]
  | descending => simp only [Evaluation.orderBy, hdirection, hp, cell_ordinalOf hordinal]

/-- `Evaluation.orderBy` gives `.eq` if the item does not tell the rows apart. -/
theorem orderBy_eq_eq_iff {o : OrderItem} {p : Nat × Direction}
    (hordinal : ordinalOf o.item = .ok p.1) (hdirection : o.direction = p.2) (ha : WithoutFloats a)
    (hb : WithoutFloats b) (hdecides : OrderItem.Decides o a b) :
    Evaluation.orderBy p a b = .eq ↔ o.item.read a = o.item.read b := by
  have hequal : sortOrder (o.item.read a) (o.item.read b) = .eq ↔
      o.item.read a = o.item.read b := by
    rw [sortOrder_eq_iff hdecides]
    exact compare?_eq_eq_iff (cell_ordinalOf hordinal ▸ ha.cell p.1)
      (cell_ordinalOf hordinal ▸ hb.cell p.1)
  rw [orderBy_eq hordinal hdirection, ← hequal]
  cases o.direction with
  | ascending => exact Iff.rfl
  | descending => exact Ordering.swap_eq_eq

/-- `Evaluation.orderBy` gives `.lt` if the row stands `Before` the other one by the item. -/
theorem orderBy_eq_lt_iff {o : OrderItem} {p : Nat × Direction}
    (hordinal : ordinalOf o.item = .ok p.1) (hdirection : o.direction = p.2) (ha : WithoutFloats a)
    (hb : WithoutFloats b) (hdecides : OrderItem.Decides o a b) :
    Evaluation.orderBy p a b = .lt ↔ OrderItem.Before o a b := by
  have hkind : (o.item.read a).kind ≠ .float := cell_ordinalOf hordinal ▸ ha.cell p.1
  have hkind' : (o.item.read b).kind ≠ .float := cell_ordinalOf hordinal ▸ hb.cell p.1
  rw [orderBy_eq hordinal hdirection, OrderItem.Before]
  cases o.direction with
  | ascending => exact (sortOrder_eq_iff hdecides).trans (compare?_eq_lt_iff hkind hkind')
  | descending =>
      show (sortOrder (o.item.read a) (o.item.read b)).swap = .lt ↔ _
      have hback : ((o.item.read b).compare? (o.item.read a)).isSome := by
        rw [compare?_swap, Option.isSome_map]
        exact hdecides
      rw [← sortOrder_swap, sortOrder_eq_iff hback]
      exact compare?_eq_lt_iff hkind' hkind

/-- **Comparison**: `Evaluation.compareBy order a b = .eq` exactly if `Agree items a b`. -/
theorem compareBy_eq_eq_iff
    (horder : List.Forall₂ (fun o p => ordinalOf o.item = .ok p.1 ∧ o.direction = p.2) items order)
    (ha : WithoutFloats a) (hb : WithoutFloats b) (hdecides : ∀ o ∈ items,
      OrderItem.Decides o a b) :
    Evaluation.compareBy order a b = .eq ↔ Agree items a b := by
  unfold Agree
  induction horder with
  | nil => exact ⟨fun _ _ h => absurd h List.not_mem_nil, fun _ => rfl⟩
  | cons hfirst _ ih =>
      obtain ⟨hdecided, hothers⟩ := List.forall_mem_cons.mp hdecides
      rw [Evaluation.compareBy_cons, compareLex_eq_eq,
        orderBy_eq_eq_iff hfirst.1 hfirst.2 ha hb hdecided,
        ih hothers, List.forall_mem_cons]

/-- **Comparison**: `Evaluation.compareBy order a b ≠ .gt` exactly if `InOrder items a b`. The
induction is on the items and what is prepared of them. -/
theorem compareBy_ne_gt_iff
    (horder : List.Forall₂ (fun o p => ordinalOf o.item = .ok p.1 ∧ o.direction = p.2) items order)
    (ha : WithoutFloats a) (hb : WithoutFloats b) (hdecides : ∀ o ∈ items,
      OrderItem.Decides o a b) :
    Evaluation.compareBy order a b ≠ .gt ↔ InOrder items a b := by
  have hthen (o o' : Ordering) : o.then o' ≠ .gt ↔ o = .lt ∨ (o = .eq ∧ o' ≠ .gt) := by
    cases o <;> simp
  induction horder with
  | nil => exact ⟨fun _ => trivial, fun _ => nofun⟩
  | cons hfirst _ ih =>
      obtain ⟨hdecided, hothers⟩ := List.forall_mem_cons.mp hdecides
      rw [Evaluation.compareBy_cons, compareLex, hthen,
        orderBy_eq_lt_iff hfirst.1 hfirst.2 ha hb hdecided,
        orderBy_eq_eq_iff hfirst.1 hfirst.2 ha hb hdecided]
      exact or_congr_right (and_congr_right fun _ => ih hothers)

end Comparison

/-! ## First occurrences -/

section FirstOccurrences

variable {α : Type}

/-- What is kept of a list if each element stays where it stands first: `first` says that what
is kept before an element stands before its first occurrence, and what is kept behind it stands
behind. -/
structure KeepsFirst (l kept : List α) : Prop where
  /-- Nothing is kept twice. -/
  nodup : kept.Nodup
  /-- What is kept stands as before. -/
  sublist : kept.Sublist l
  /-- Each element is kept. -/
  mem_iff : ∀ a, a ∈ kept ↔ a ∈ l
  /-- It is kept where it stands first. -/
  first : ∀ before a behind, kept = before ++ a :: behind →
    ∃ front rest, l = front ++ a :: rest ∧ a ∉ front ∧ before.Sublist front ∧ behind.Sublist rest

namespace KeepsFirst

variable {l kept : List α} {a : α}

/-- An element that has occurred is not kept again: `KeepsFirst` goes from `l` to `l ++ [a]` for
`a ∈ l`. -/
theorem concat_of_mem (h : KeepsFirst l kept) (ha : a ∈ l) : KeepsFirst (l ++ [a]) kept where
  nodup := h.nodup
  sublist := h.sublist.trans (List.sublist_append_left l [a])
  mem_iff x := by
    rw [h.mem_iff, List.mem_append, List.mem_singleton]
    exact ⟨.inl, fun hx => hx.elim id fun hxa => hxa ▸ ha⟩
  first before x behind hkept := by
    obtain ⟨front, rest, rfl, hfront, hbefore, hbehind⟩ := h.first before x behind hkept
    refine ⟨front, rest ++ [a], ?_, hfront, hbefore,
      hbehind.trans (List.sublist_append_left rest [a])⟩
    rw [List.append_assoc, List.cons_append]

/-- An element that has not occurred is kept behind the others. -/
theorem concat_of_not_mem (h : KeepsFirst l kept) (ha : a ∉ l) :
    KeepsFirst (l ++ [a]) (kept ++ [a]) where
  nodup := by
    rw [← List.concat_eq_append]
    exact .concat (fun hkept => ha ((h.mem_iff a).mp hkept)) h.nodup
  sublist := h.sublist.append (List.Sublist.refl [a])
  mem_iff x := by rw [List.mem_append, List.mem_append, h.mem_iff]
  first before x behind hkept := by
    rcases List.eq_nil_or_concat behind with rfl | ⟨others, last, rfl⟩
    · obtain ⟨rfl, hlast⟩ := List.append_inj' hkept rfl
      obtain rfl := List.singleton_inj.mp hlast
      exact ⟨l, [], rfl, ha, h.sublist, List.Sublist.refl []⟩
    · rw [List.concat_eq_append] at hkept ⊢
      rw [← List.cons_append, ← List.append_assoc] at hkept
      obtain ⟨hothers, hlast⟩ := List.append_inj' hkept rfl
      obtain rfl := List.singleton_inj.mp hlast
      obtain ⟨front, rest, rfl, hfront, hbefore, hbehind⟩ := h.first before x others hothers
      refine ⟨front, rest ++ [a], ?_, hfront, hbefore, hbehind.append (List.Sublist.refl [a])⟩
      rw [List.append_assoc, List.cons_append]

end KeepsFirst

/-- `firstOccurrences` on `l ++ [a]`: the last element is kept if it is not yet there. -/
theorem firstOccurrences_concat [BEq α] (l : List α) (a : α) :
    firstOccurrences (l ++ [a]) =
      if (firstOccurrences l).contains a then firstOccurrences l
        else firstOccurrences l ++ [a] := by
  rw [firstOccurrences, List.foldl_append]
  rfl

/-- **First occurrences**: `firstOccurrences l` has `KeepsFirst`, where `==` is equality on the
elements of `l`. -/
theorem keepsFirst_firstOccurrences [BEq α] {l : List α}
    (h : ∀ a ∈ l, ∀ b ∈ l, (a == b) = true ↔ a = b) :
    KeepsFirst l (firstOccurrences l) := by
  induction l using List.reverseRecOn with
  | nil =>
      exact ⟨.nil, .slnil, fun _ => Iff.rfl,
        fun before a behind hkept => by simp [firstOccurrences] at hkept⟩
  | append_singleton l a ih =>
      have hl : ∀ x ∈ l, x ∈ l ++ [a] := fun x hx => List.mem_append_left [a] hx
      have hkeeps := ih fun x hx y hy => h x (hl x hx) y (hl y hy)
      have hcontains : (firstOccurrences l).contains a = true ↔ a ∈ l := by
        rw [List.contains_iff_exists_mem_beq]
        constructor
        · rintro ⟨b, hb, hab⟩
          have hmem := (hkeeps.mem_iff b).mp hb
          rwa [(h a (List.mem_concat_self) b (hl b hmem)).mp hab]
        · intro ha
          exact ⟨a, (hkeeps.mem_iff a).mpr ha, (h a (hl a ha) a (hl a ha)).mpr rfl⟩
      rw [firstOccurrences_concat]
      by_cases ha : a ∈ l
      · rw [if_pos (hcontains.mpr ha)]
        exact hkeeps.concat_of_mem ha
      · rw [if_neg (mt hcontains.mp ha)]
        exact hkeeps.concat_of_not_mem ha

end FirstOccurrences

/-! ## Queries -/

section Queries

variable {q : Query} {params : Params} {e : Evaluation} {rows : List Record}

/-- On rows without floating-point numbers `==` is equality. A NaN is not equal to itself. -/
theorem WithoutFloats.beq_iff_eq {a b : Record} (ha : WithoutFloats a) :
    (a == b) = true ↔ a = b := by
  induction a generalizing b with
  | nil => cases b <;> simp
  | cons v a ih =>
      obtain ⟨hv, ha⟩ := List.forall_mem_cons.mp ha
      cases b with
      | nil => simp
      | cons w b =>
          rw [List.cons_beq_cons, Bool.and_eq_true, beq_iff_eq_of_kind hv, ih ha, List.cons.injEq]

/-- `e.project row` is without floating-point numbers if `row` is. -/
theorem WithoutFloats.project {row : Record} (h : WithoutFloats row) (e : Evaluation) :
    WithoutFloats (e.project row) := by
  intro v hv
  obtain ⟨ordinal, -, rfl⟩ := List.mem_map.mp hv
  exact h.cell ordinal

/-- The cells that an item reads are `OneKind` if those that are not null have one `kind`. -/
theorem oneKind_cellsOf {i : SelectItem} {ordinal : Nat} (hordinal : ordinalOf i = .ok ordinal)
    (hfloats : ∀ row ∈ rows, WithoutFloats row)
    (hkinds : ∀ a ∈ rows, ∀ b ∈ rows, i.read a ≠ .null → i.read b ≠ .null →
      (i.read a).kind = (i.read b).kind) :
    OneKind (cellsOf rows ordinal) where
  kind_eq := by
    unfold cellsOf
    simp only [List.forall_mem_map, cell_ordinalOf hordinal]
    exact hkinds
  beq_self x hx := by
    obtain ⟨row, hrow, hcell⟩ := List.mem_map.mp hx
    have hkind := (hfloats row hrow).cell ordinal
    rw [hcell] at hkind
    exact absurd rfl hkind

section Sorting

variable {items : List OrderItem} {order : List (Nat × Direction)}
  (horder : List.Forall₂ (fun o p => ordinalOf o.item = .ok p.1 ∧ o.direction = p.2) items order)
  (hkind : ∀ o ∈ items, ∀ ordinal, ordinalOf o.item = .ok ordinal → OneKind (cellsOf rows ordinal))

include horder hkind

/-- Each item `Decides` between rows whose cells under it are of one kind. -/
theorem decides_of_oneKind {a b : Record} (ha : a ∈ rows) (hb : b ∈ rows) :
    ∀ o ∈ items, OrderItem.Decides o a b := by
  intro o ho
  obtain ⟨p, -, hordinal, -⟩ := exists_mem_of_forall₂ horder ho
  unfold OrderItem.Decides
  rw [← cell_ordinalOf hordinal, ← cell_ordinalOf hordinal]
  exact (hkind o ho p.1 hordinal).compare?_isSome (List.mem_map_of_mem ha) (List.mem_map_of_mem hb)

/-- `Evaluation.compareBy` is `Chained` on such rows, so they can be sorted by it. -/
theorem chained_of_oneKind : Chained (Evaluation.compareBy order) rows := by
  refine Evaluation.chained_compareBy fun p hp => ?_
  obtain ⟨o, ho, hordinal, -⟩ := exists_mem_of_forall₂ horder.flip hp
  have hcells := hkind o ho p.1 hordinal
  exact (chained_iff_not_straddled hcells.faithful).mpr hcells.not_straddled

/-- Such rows are sorted so that each is `InOrder` with those behind it. -/
theorem pairwise_inOrder_mergeSort (hfloats : ∀ row ∈ rows, WithoutFloats row) :
    (rows.mergeSort fun a b => Evaluation.compareBy order a b != .gt).Pairwise (InOrder items) := by
  refine (chained_of_oneKind horder hkind).pairwise_mergeSort.imp_of_mem fun {a b} ha hb hab => ?_
  have ha := (List.mergeSort_perm rows _).mem_iff.mp ha
  have hb := (List.mergeSort_perm rows _).mem_iff.mp hb
  have hdecides := decides_of_oneKind horder hkind ha hb
  exact (compareBy_ne_gt_iff horder (hfloats a ha) (hfloats b hb) hdecides).mp hab

/-- Sorting is stable: rows that `Agree` keep their order. -/
theorem sublist_mergeSort_of_agree (hfloats : ∀ row ∈ rows, WithoutFloats row) {group : List Record}
    (hgroup : group.Sublist rows) (hagree : group.Pairwise (Agree items)) :
    group.Sublist (rows.mergeSort fun a b => Evaluation.compareBy order a b != .gt) := by
  refine (chained_of_oneKind horder hkind).sublist_mergeSort hgroup
    (hagree.imp_of_mem fun {a b} ha hb hab => ?_)
  have ha := hgroup.subset ha
  have hb := hgroup.subset hb
  have hdecides := decides_of_oneKind horder hkind ha hb
  rw [(compareBy_eq_eq_iff horder (hfloats a ha) (hfloats b hb) hdecides).mpr hab]
  nofun

end Sorting

/-- **Queries.** Let no cell of the rows be a floating-point number, and let the cells that are not
null have one `kind` under each item of `q.orderBy`. Then there is a list `sorted` such that

* `sorted` is a permutation of the rows that `e.selects`;
* each row of it is `InOrder` with those behind it;
* each group of rows that `Agree` is a sublist of it as it was before.

The result `e.apply rows` is what is selected of `sorted`, or with DISTINCT its first occurrences,
`KeepsFirst`. -/
theorem apply_ordered (h : Evaluation.ofQuery q params = .ok e)
    (hfloats : ∀ row ∈ rows, WithoutFloats row)
    (hkinds : ∀ o ∈ q.orderBy, ∀ a ∈ rows, ∀ b ∈ rows, o.item.read a ≠ .null →
      o.item.read b ≠ .null →
      (o.item.read a).kind = (o.item.read b).kind) :
    ∃ sorted : List Record,
      sorted.Perm (rows.filter e.selects) ∧
      sorted.Pairwise (InOrder q.orderBy) ∧
      (∀ group : List Record, group.Sublist (rows.filter e.selects) →
        group.Pairwise (Agree q.orderBy) →
        group.Sublist sorted) ∧
      (q.distinct = false → e.apply rows = sorted.map fun row => q.select.map (·.read row)) ∧
      (q.distinct = true → KeepsFirst (sorted.map fun row => q.select.map (·.read row))
        (e.apply rows)) := by
  obtain ⟨hprojection, -, horder, hdistinct⟩ := parts_of_ofQuery h
  have hitems := forall₂_of_orderOf horder
  have hproject : (fun row => q.select.map (·.read row)) = e.project :=
    funext fun row => (map_cell_of_ordinalsOf hprojection row).symm
  have hmatching : ∀ row ∈ rows.filter e.selects, row ∈ rows :=
    fun row hrow => (List.mem_filter.mp hrow).1
  have hwithout : ∀ row ∈ rows.filter e.selects, WithoutFloats row :=
    fun row hrow => hfloats row (hmatching row hrow)
  have hkind : ∀ o ∈ q.orderBy, ∀ ordinal, ordinalOf o.item = .ok ordinal →
      OneKind (cellsOf (rows.filter e.selects) ordinal) := by
    intro o ho ordinal hordinal
    refine oneKind_cellsOf hordinal hwithout fun a ha b hb => ?_
    exact hkinds o ho a (hmatching a ha) b (hmatching b hb)
  have hperm : (e.sortRows (rows.filter e.selects)).Perm (rows.filter e.selects) :=
    List.mergeSort_perm _ _
  refine ⟨e.sortRows (rows.filter e.selects), hperm,
    pairwise_inOrder_mergeSort hitems hkind hwithout,
    fun _ hgroup hagree => sublist_mergeSort_of_agree hitems hkind hwithout hgroup hagree,
    ?_, ?_⟩
  · intro hall
    rw [hproject, Evaluation.apply, hdistinct, hall]
    rfl
  · intro honce
    rw [hproject, Evaluation.apply, hdistinct, honce]
    refine keepsFirst_firstOccurrences fun a ha b _ => WithoutFloats.beq_iff_eq ?_
    obtain ⟨row, hrow, rfl⟩ := List.mem_map.mp ha
    exact (hwithout row (hperm.mem_iff.mp hrow)).project e

/-- A column of `employees` as an item. -/
def employeeItem (ordinal : Fin 5) : SelectItem := .ofColumn ⟨employees.columns.get ordinal, none⟩

/-- The titles of the employees whose last name is not the parameter, each once: ordered by whom
they report to, and then by first name, descending. -/
def titlesQuery : Query where
  select := [employeeItem 3]
  sources := [.ofTable employees]
  filters := [.compare (employeeItem 1) .notEqual .parameter]
  orderBy := [⟨employeeItem 4, .ascending⟩, ⟨employeeItem 2, .descending⟩]
  distinct := true

/-- Five employees, of whom two have the same first name and report to the same one, and two have
the same title. -/
def staff : List Record :=
  [Sample.employee 1056 "Patterson" "Mary" "Sales Rep" (some 1002),
    Sample.employee 1002 "Murphy" "Diane" "President" none,
    Sample.employee 1076 "Firrelli" "Jeff" "Sales Rep" (some 1002),
    Sample.employee 1143 "Bow" "Mary" "Sales Manager" (some 1002),
    Sample.employee 1165 "Jennings" "Leslie" "President" none]

theorem apply_ordered_staff :
    ∃ e, Evaluation.ofQuery titlesQuery ⟨[.text "Jennings"]⟩ = .ok e ∧
      staff.filter e.selects = staff.take 4 ∧
      ∃ sorted : List Record,
        sorted.Perm (staff.take 4) ∧ sorted.Pairwise (InOrder titlesQuery.orderBy) ∧
        [staff[0], staff[3]].Sublist sorted ∧
        KeepsFirst (sorted.map fun row => titlesQuery.select.map (·.read row)) (e.apply staff) := by
  have hprepared : Evaluation.ofQuery titlesQuery ⟨[.text "Jennings"]⟩ = .ok _ := rfl
  have hfloats : ∀ row ∈ staff, WithoutFloats row := by
    unfold WithoutFloats
    decide
  have hkinds : ∀ o ∈ titlesQuery.orderBy, ∀ a ∈ staff, ∀ b ∈ staff, o.item.read a ≠ .null →
      o.item.read b ≠ .null → (o.item.read a).kind = (o.item.read b).kind := by
    have hcells : ∀ o ∈ titlesQuery.orderBy, ∀ a ∈ staff, ∀ b ∈ staff,
      (o.item.read a).kind = .null ∨
        (o.item.read b).kind = .null ∨ (o.item.read a).kind = (o.item.read b).kind := by decide
    have hnull {v : Value} (h : v.kind = .null) : v = .null := by
      cases v <;> cases h
      rfl
    intro o ho a ha b hb hna hnb
    exact ((hcells o ho a ha b hb).resolve_left (mt hnull hna)).resolve_left (mt hnull hnb)
  obtain ⟨sorted, hperm, hsorted, hstable, -, hfirst⟩ := apply_ordered hprepared hfloats hkinds
  have htied : [staff[0], staff[3]].Sublist (staff.take 4) :=
    .cons_cons _ (.cons _ (.cons _ (.refl _)))
  refine ⟨_, hprepared, rfl, sorted, hperm, hsorted, hstable _ htied ?_, hfirst rfl⟩
  refine List.pairwise_pair.mpr fun o ho => ?_
  simp only [titlesQuery, List.mem_cons, List.not_mem_nil, or_false] at ho
  rcases ho with rfl | rfl <;> rfl

end Queries

end Memory

end DataAccess
