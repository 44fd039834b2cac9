import DataAccess.Proofs.StoreConsistency
import DataAccess.Proofs.ValueOrder

/-!
# Row order: what rows are sorted by

Rows are sorted by a comparison of some of their cells, one after another, each in its own
direction. A sort needs a total preorder: the comparison the other way round is the reverse, and
"not greater" is transitive.

* **Total preorders** (`Chained.lex`, `Chained.equivalence`, `Chained.pairwise_mergeSort`):
  comparisons one after another are as good as both, and what is sorted by a total preorder is in
  order.
* **Items** (`chained_orderBy_iff`): a comparison by one cell is as good as the order of the cells
  of that column.
* **Lists of items** (`chained_compareBy`): comparisons by several cells are as good as all of them.
* **All queries** (`rows_preordered`): comparisons are total preorders on rows if "not greater" is
  transitive among the cells of each column. So it is in columns of one kind, and in faithful ones
  without straddled cells.
* **Mixed columns** (`not_chained_mixedRows`): a source holds any rows of the right width, and there
  are some on which comparisons are no total preorders.
-/

namespace DataAccess

/-! ## Total preorders -/

namespace Chained

variable {α : Type} {f g : α → α → Ordering} {as : List α} [Std.OrientedCmp f]

/-- Elements neither of which is greater are equal, where `f b a` is `f a b` swapped. -/
theorem eq_of_ne_gt {a b : α} (hab : f a b ≠ .gt) (hba : f b a ≠ .gt) : f a b = .eq :=
  Std.OrientedCmp.isLE_antisymm (Ordering.ne_gt_iff_isLE.mp hab) (Ordering.ne_gt_iff_isLE.mp hba)

/-- The order the other way round is `Chained` as well. -/
theorem swap (h : Chained f as) : Chained (fun a b => (f a b).swap) as := by
  have hback : (fun a b => (f a b).swap) = fun a b => f b a := by
    funext a b
    exact Std.OrientedCmp.eq_swap.symm
  rw [hback]
  intro a ha b hb c hc hab hbc
  exact h c hc b hb a ha hbc hab

/-- Where the ends of a chain are equal, so are its parts. -/
theorem eq_of_eq (h : Chained f as) {a b c : α} (ha : a ∈ as) (hb : b ∈ as) (hc : c ∈ as)
    (hab : f a b ≠ .gt) (hbc : f b c ≠ .gt) (hac : f a c = .eq) : f a b = .eq ∧ f b c = .eq := by
  have hca : f c a ≠ .gt := by
    rw [Std.OrientedCmp.eq_comm.mp hac]
    nofun
  exact ⟨eq_of_ne_gt hab (h b hb c hc a ha hbc hca), eq_of_ne_gt hbc (h c hc a ha b hb hca hab)⟩

/-- `compareLex f g` is `Chained` if `f` and `g` are. -/
theorem lex (hf : Chained f as) (hg : Chained g as) : Chained (compareLex f g) as := by
  have hparts {a b : α} : compareLex f g a b ≠ .gt ↔ f a b ≠ .gt ∧ (f a b = .eq → g a b ≠ .gt) := by
    rw [compareLex, Ne, Ordering.then_eq_gt, not_or, not_and]
  intro a ha b hb c hc hab hbc
  rw [hparts] at hab hbc ⊢
  refine ⟨hf a ha b hb c hc hab.1 hbc.1, fun hac => ?_⟩
  obtain ⟨hfab, hfbc⟩ := hf.eq_of_eq ha hb hc hab.1 hbc.1 hac
  exact hg a ha b hb c hc (hab.2 hfab) (hbc.2 hfbc)

/-- Being equal in a total preorder is an equivalence on the elements. -/
theorem equivalence (h : Chained f as) : Equivalence fun a b : {a // a ∈ as} => f a b = .eq := by
  have hsymm {a b : α} (hab : f a b = .eq) : f b a = .eq := Std.OrientedCmp.eq_comm.mp hab
  have hle {a b : α} (hab : f a b = .eq) : f a b ≠ .gt := by
    rw [hab]
    nofun
  refine ⟨fun a => Std.ReflCmp.compare_self, hsymm, fun {a b c} hab hbc => ?_⟩
  have hac := h a a.2 b b.2 c c.2 (hle hab) (hle hbc)
  have hca := h c c.2 b b.2 a a.2 (hle (hsymm hbc)) (hle (hsymm hab))
  exact eq_of_ne_gt hac hca

/-- The sorted list of `as` is that of `as.attach`, by an order `le` that is transitive and total.
On all of the type, which the lemmas on `mergeSort` ask for, `f` need not be so. -/
theorem exists_attached_order (h : Chained f as) :
    ∃ le : {a // a ∈ as} → {a // a ∈ as} → Bool,
      (∀ a b, le a b = true ↔ f a b ≠ .gt) ∧
      (∀ a b c, le a b = true → le b c = true → le a c = true) ∧
        (∀ a b, (le a b || le b a) = true) ∧
      (as.attach.mergeSort le).map Subtype.val = as.mergeSort fun a b => f a b != .gt := by
  refine ⟨fun a b => f a b != .gt, fun a b => bne_iff_ne, fun a b c hab hbc => ?_,
    fun a b => ?_, ?_⟩
  · rw [bne_iff_ne] at hab hbc ⊢
    exact h a a.2 b b.2 c c.2 hab hbc
  · have hswap : f b a = (f a b).swap := Std.OrientedCmp.eq_swap
    show (f a b != .gt || f b a != .gt) = true
    rw [hswap]
    cases f a b <;> rfl
  · rw [List.map_mergeSort (s := fun a b => f a b != .gt) fun _ _ _ _ => rfl,
      List.attach_map_subtype_val]

/-- What is sorted by a total preorder is in order: `f a b ≠ .gt` for each `a` before `b`. -/
theorem pairwise_mergeSort (h : Chained f as) :
    (as.mergeSort fun a b => f a b != .gt).Pairwise fun a b => f a b ≠ .gt := by
  obtain ⟨le, hle, htrans, htotal, hmap⟩ := h.exists_attached_order
  rw [← hmap, List.pairwise_map]
  exact (List.pairwise_mergeSort htrans htotal as.attach).imp fun {a b} hab => (hle a b).mp hab

/-- A sublist that stands in order is a sublist of the sorted list. So sorting is stable. -/
theorem sublist_mergeSort (h : Chained f as) {group : List α} (hgroup : group.Sublist as)
    (horder : group.Pairwise fun a b => f a b ≠ .gt) :
    group.Sublist (as.mergeSort fun a b => f a b != .gt) := by
  obtain ⟨le, hle, htrans, htotal, hmap⟩ := h.exists_attached_order
  rw [← List.attach_map_subtype_val as] at hgroup
  obtain ⟨members, hmembers, rfl⟩ := List.sublist_map_iff.mp hgroup
  rw [← hmap]
  refine (List.sublist_mergeSort htrans htotal ?_ hmembers).map Subtype.val
  exact (List.pairwise_map.mp horder).imp fun {a b} hab => (hle a b).mpr hab

end Chained

namespace Memory

open Catalog Value

/-- The cells of the column at `ordinal`, one for each row. -/
def cellsOf (rows : List Record) (ordinal : Nat) : List Value := rows.map (cell · ordinal)

namespace Evaluation

variable {rows : List Record} {item : Nat × Direction} {items : List (Nat × Direction)}

/-! ## Items -/

/-- The order of two rows by one cell, `sortOrder`, which is swapped for a descending item. -/
def orderBy (item : Nat × Direction) (a b : Record) : Ordering :=
  match item.2 with
  | .ascending => sortOrder (cell a item.1) (cell b item.1)
  | .descending => (sortOrder (cell a item.1) (cell b item.1)).swap

/-- `orderBy item a b` is `orderBy item b a` swapped. -/
theorem orderBy_swap (item : Nat × Direction) (a b : Record) :
    orderBy item a b = (orderBy item b a).swap := by
  unfold orderBy
  rw [sortOrder_swap]
  cases item.2 <;> rfl

instance : Std.OrientedCmp (orderBy item) := ⟨orderBy_swap item _ _⟩

/-- **Items**: `orderBy item` is `Chained` on rows exactly if `sortOrder` is so on their cells. -/
theorem chained_orderBy_iff : Chained (orderBy item) rows ↔
    Chained sortOrder (cellsOf rows item.1) := by
  have hcells : Chained sortOrder (cellsOf rows item.1) ↔
      Chained (orderBy (item.1, .ascending)) rows := by
    unfold Chained cellsOf
    simp only [List.forall_mem_map]
    exact Iff.rfl
  rw [hcells]
  obtain ⟨ordinal, _ | _⟩ := item
  · exact Iff.rfl
  · have hback : orderBy (ordinal, .ascending) = fun a b =>
        (orderBy (ordinal, .descending) a b).swap := by
      funext a b
      exact Ordering.swap_swap.symm
    refine ⟨fun h => ?_, Chained.swap⟩
    rw [hback]
    exact h.swap

/-! ## Lists of items -/

/-- `compareBy` is lexicographic: by the first item, and if the rows are equal by the others. -/
theorem compareBy_cons (item : Nat × Direction) (items : List (Nat × Direction)) :
    compareBy (item :: items) = compareLex (orderBy item) (compareBy items) := by
  obtain ⟨ordinal, _ | _⟩ := item <;> rfl

/-- `compareBy [item] = orderBy item`. -/
theorem compareBy_singleton (item : Nat × Direction) : compareBy [item] = orderBy item := by
  rw [compareBy_cons]
  funext a b
  exact Ordering.then_eq

instance : Std.OrientedCmp (compareBy items) := by
  induction items with
  | nil => exact ⟨rfl⟩
  | cons item items ih =>
      rw [compareBy_cons]
      infer_instance

/-- **Lists of items**: `compareBy items` is `Chained` on rows if `sortOrder` is so on the cells of
each column. -/
theorem chained_compareBy (h : ∀ item ∈ items, Chained sortOrder (cellsOf rows item.1)) :
    Chained (compareBy items) rows := by
  induction items with
  | nil => exact fun _ _ _ _ _ _ _ _ => nofun
  | cons item items ih =>
      have hfirst := chained_orderBy_iff.mpr (h item List.mem_cons_self)
      have hrest := ih fun other hother => h other (List.mem_cons_of_mem _ hother)
      rw [compareBy_cons]
      exact hfirst.lex hrest

/-! ## All queries -/

/-- **All queries.** For rows that are compared by `e.compareRows`,

* `e.compareRows a b` is `e.compareRows b a` swapped;
* if `sortOrder` is `Chained` on the cells of each column of `e.order`, then so is `e.compareRows`
  on the rows, being equal is an equivalence, and `e.sortRows rows` is in order;
* for a single item the converse holds as well.

On the cells of a column `sortOrder` is `Chained` if they are `OneKind`. If they are `Faithful`, it
is so exactly if they are not `Straddled`. -/
theorem rows_preordered (e : Evaluation) (rows : List Record) :
    (∀ a b, e.compareRows a b = (e.compareRows b a).swap) ∧
    ((∀ item ∈ e.order, Chained sortOrder (cellsOf rows item.1)) →
      Chained e.compareRows rows ∧
      (Equivalence fun a b : {row // row ∈ rows} => e.compareRows a b = .eq) ∧
      (e.sortRows rows).Pairwise fun a b => e.compareRows a b ≠ .gt) ∧
    (∀ item, e.order = [item] →
      (Chained e.compareRows rows ↔ Chained sortOrder (cellsOf rows item.1))) ∧
    ∀ i, (OneKind (cellsOf rows i) → Chained sortOrder (cellsOf rows i)) ∧
      (Faithful (cellsOf rows i) →
        (Chained sortOrder (cellsOf rows i) ↔ ¬ Straddled (cellsOf rows i))) := by
  have horiented : Std.OrientedCmp e.compareRows :=
    inferInstanceAs (Std.OrientedCmp (compareBy e.order))
  refine ⟨fun a b => Std.OrientedCmp.eq_swap, fun hcolumns => ?_, fun item hitem => ?_, fun i => ?_⟩
  · have hrows : Chained e.compareRows rows := chained_compareBy hcolumns
    exact ⟨hrows, hrows.equivalence, hrows.pairwise_mergeSort⟩
  · have hcompare : e.compareRows = orderBy item := by
      rw [← compareBy_singleton, ← hitem]
      rfl
    rw [hcompare, chained_orderBy_iff]
  · exact ⟨fun h => (chained_iff_not_straddled h.faithful).mpr h.not_straddled,
      chained_iff_not_straddled⟩

/-- Rows of numbers and texts, some of them null, are in order. -/
theorem rows_preordered_numbers :
    let rows : List Record :=
      [[.integer 2, .text "b"], [.float 1.5, .text "a"], [.null, .text "b"], [.integer 1, .null]]
    let e : Evaluation :=
      ⟨(Store.wide "T").build 0 (some "A") 0, [0], [], [(1, .ascending), (0, .descending)], false⟩
    Faithful (cellsOf rows 0) ∧ ¬ Straddled (cellsOf rows 0) ∧ OneKind (cellsOf rows 1) ∧
      Chained e.compareRows rows ∧ (e.sortRows rows).Pairwise fun a b =>
        e.compareRows a b ≠ .gt := by
  intro rows e
  have hfaithful : Faithful (cellsOf rows 0) := by
    have hint : ∀ k, integer k ∈ cellsOf rows 0 → k = 2 ∨ k = 1 := by simp [cellsOf, rows, cell]
    intro m n hm hn _
    obtain rfl | rfl := hint m hm <;> obtain rfl | rfl := hint n hn <;> decide +kernel
  have hnot : ¬ Straddled (cellsOf rows 0) := by decide +kernel
  have hkind : OneKind (cellsOf rows 1) :=
    ⟨by simp [cellsOf, rows, cell, kind], by simp [cellsOf, rows, cell]⟩
  obtain ⟨-, hrows, -, hcolumn⟩ := rows_preordered e rows
  have hnumbers := ((hcolumn 0).2 hfaithful).mpr hnot
  have htexts := (hcolumn 1).1 hkind
  obtain ⟨hchained, -, hsorted⟩ :=
    hrows (List.forall_mem_cons.mpr ⟨htexts, List.forall_mem_singleton.mpr hnumbers⟩)
  exact ⟨hfaithful, hnot, hkind, hchained, hsorted⟩

/-! ## Mixed columns -/

/-- `Update.checkWidth` accepts rows with a value for each column of the declaration, on the table
that is built from it. -/
theorem checkWidth_build {decl : TableDecl}
    (hwidth : ∀ row ∈ rows, row.length = decl.columns.length) (id : SchemaId) (schema : SchemaName)
    (position : Nat) :
    Update.checkWidth (decl.build id schema position) rows = .ok () := by
  have hfits : rows.find? (fun row => row.length != (decl.build id schema position).width) =
      none := by
    rw [List.find?_eq_none]
    intro row hrow
    simp [hwidth row hrow, TableDecl.build, TableDecl.buildColumns, Table.width]
  rw [Update.checkWidth, hfits]

/-- A table that has been created can be filled with any rows of its width, and then holds them. -/
theorem rows_filled (schema : SchemaName) (decl : TableDecl)
    (hwidth : ∀ row ∈ rows, row.length = decl.columns.length) :
    let t := decl.build 0 schema 0
    (Store.run {} [.createTable schema decl, .insert t rows]).rows (Store.nameOf t) = rows := by
  intro t
  let s : Store := { schemas := [⟨schema, [decl]⟩], contents := [(Store.nameOf t, [])] }
  have hdeclared : s.checkDeclared t = .ok () := by
    have hfound : findDecl? s.schemas t.schemaName = some ⟨schema, [decl]⟩ :=
      List.find?_cons_of_pos (beq_self_eq_true schema)
    have hcontains : SchemaDecl.contains ⟨schema, [decl]⟩ t.name = true :=
      List.any_eq_true.mpr ⟨decl, List.mem_singleton_self decl,
        Text.equalIgnoringAsciiCase_iff.mpr rfl⟩
    rw [Store.checkDeclared, hfound]
    exact if_pos hcontains
  have hempty : s.rows (Store.nameOf t) = [] := by
    rw [Store.rows, Store.rows?, List.lookup_cons_self]
    rfl
  have hinserted : s.insert t rows = .ok (s.insertRows (Store.nameOf t) rows) := by
    rw [Store.insert, hdeclared, checkWidth_build hwidth]
    rfl
  show (s.update (.insert t rows)).2.rows (Store.nameOf t) = rows
  rw [Store.update, Store.change, hinserted]
  show (s.setRows (Store.nameOf t) (s.rows (Store.nameOf t) ++ rows)).rows (Store.nameOf t) = rows
  rw [hempty, Store.rows, Store.rows?_setRows, if_pos rfl]
  rfl

/-- Rows of a single cell: with a text between two integers, with a NaN between two numbers, and
with a floating-point number between two integers that are rounded to it. -/
def mixedRows : List (List Record) :=
  [[[.integer 2], [.text "a"], [.integer 1]],
    [[.float 2], [.float (Float.ofBits 0x7ff8000000000000)], [.float 1]],
    [[.integer 9007199254740993], [.float 9007199254740992], [.integer 9007199254740992]]]

/-- **Mixed columns**: a source can hold each of `mixedRows`, a query can order them, and
`compareRows` is not `Chained` on them. -/
theorem not_chained_mixedRows :
    let table := (Store.narrow "T").build 0 (some "A") 0
    let items := table.columns.map fun c => SelectItem.ofColumn { column := c }
    let q : Query :=
      { select := items, sources := [.ofTable table], orderBy :=
        items.map fun i => ⟨i, .ascending⟩ }
    ∃ e, Evaluation.ofQuery q .empty = .ok e ∧ ∀ rows ∈ mixedRows,
      let s := Store.run {} [.createTable (some "A") (Store.narrow "T"), .insert table rows]
      s.rows (Store.nameOf table) = rows ∧ ¬ Chained e.compareRows rows := by
  intro table items q
  refine ⟨⟨table, [0], [], [(0, .ascending)], false⟩, rfl, ?_⟩
  intro rows hrows
  simp only [mixedRows, List.mem_cons, List.not_mem_nil, or_false] at hrows
  have hwidth : ∀ row ∈ rows, row.length = 1 := by rcases hrows with rfl | rfl | rfl <;> simp
  have hnot : ¬ Chained (compareBy [(0, .ascending)]) rows := by
    rcases hrows with rfl | rfl | rfl <;> decide +kernel
  exact ⟨rows_filled _ _ hwidth, hnot⟩

end Evaluation

end Memory

end DataAccess
