import DataAccess.Dialect.Basic
import DataAccess.Proofs.QuoteScan

/-!
# Sealed rendering: names and literals bring in no markers

A query is tame if nothing in it reaches the text as it stands that could hold a quote or a question
mark: it has no opaque text, and the aliases of tables, which are written without quotes of their
own, have neither. All else is free: the names of schemas, tables and columns, the aliases of items,
and the values.

* **A fragment of sealed texts scans to its markers** (`scanMarks_sql`): what the reader of SQL
  takes for markers in the text are the recorded places, no more and no fewer.
* **The text of a tame query is sealed between its markers** (`Fragment.IsSealed`), one lemma for
  each part of a query.
* **No name or literal hides or brings in a marker** (`scanMarks_compile`).
-/

namespace DataAccess

open Catalog Dialect

/-! ## Tame queries -/

/-- Whether the alias of the table, if there is one, `isUnmarked`. -/
def ColumnRef.isTame (c : ColumnRef) : Bool := c.tableAlias.all isUnmarked

/-- Whether an item is no opaque text and its table alias has no quote and no question mark
(`ColumnRef.isTame`). Its own alias is written as an identifier and may be anything. -/
def SelectItem.isTame (i : SelectItem) : Bool :=
  match i.kind with
  | .column c | .aggregate _ c => c.isTame
  | .countAll => true
  | .expression _ => false

/-- Whether an item reads a table, under no alias or one that `isUnmarked`. -/
def FromItem.isTame (i : FromItem) : Bool := i.table?.isSome && i.asName.all isUnmarked

/-- Whether an operand is a tame item or no item. -/
def Operand.isTame : Operand → Bool
  | .item i => i.isTame
  | .value _ | .parameter | .list _ => true

mutual

/-- Whether all items of a condition are tame (`SelectItem.isTame`) and no part of it is an opaque
text. -/
def FilterItem.isTame : FilterItem → Bool
  | .compare left _ operand => left.isTame && operand.isTame
  | .anyOf items => FilterItem.allTame items
  | .expression _ => false

/-- Whether all of a list of conditions are tame. -/
def FilterItem.allTame : List FilterItem → Bool
  | [] => true
  | item :: rest => item.isTame && FilterItem.allTame rest

end

/-- Whether a query has no opaque text and no table alias with a quote or a question mark. These two
are written as they are, everything else is quoted by `identifier` and `literal`. -/
def Query.isTame (q : Query) : Bool :=
  q.select.all (·.isTame) && q.sources.all (·.isTame) && FilterItem.allTame q.filters &&
    q.groupBy.all (·.isTame) && FilterItem.allTame q.having && q.orderBy.all (·.item.isTame)

namespace Dialect

/-! ## Fragments of sealed texts -/

/-- Whether every text of a fragment is `Sealed`. -/
def Fragment.IsSealed (f : Fragment) : Prop := ∀ s, .text s ∈ f → Sealed s

namespace Fragment

/-- **A fragment of sealed texts scans to its markers**: `scanMarks` finds the places of
`markersFrom`, and ends outside quotes. -/
theorem scanMarks_sql {f : Fragment} (h : f.IsSealed) (offset : Nat) :
    scanMarks none offset (sql f).toList = some (markersFrom offset f) := by
  induction f generalizing offset with
  | nil => rfl
  | cons piece rest ih =>
      have hrest : IsSealed rest := fun s hs => h s (List.mem_cons_of_mem piece hs)
      cases piece with
      | text s =>
          rw [sql, String.toList_append, markersFrom, pieceText, h s List.mem_cons_self, ih hrest]
      | marker =>
          have hsql : (sql (.marker :: rest)).toList = '?' :: (sql rest).toList := by
            simp [sql, pieceText]
          rw [hsql, scanMarks_question, ih hrest, markersFrom, Option.map_some]

theorem isSealed_nil : IsSealed [] := fun _ hs => nomatch hs

theorem isSealed_marker : IsSealed [.marker] := by
  intro s hs
  simp at hs

theorem isSealed_ofText {s : String} (h : Sealed s) : IsSealed (ofText s) := by
  intro t ht
  simp only [ofText, List.mem_singleton, Piece.text.injEq] at ht
  exact ht ▸ h

theorem IsSealed.append {f g : Fragment} (hf : f.IsSealed) (hg : g.IsSealed) :
    IsSealed (f ++ g) := fun s hs => (List.mem_append.mp hs).elim (hf s) (hg s)

theorem isSealed_separated {separator : String} (hsep : Sealed separator) {fs : List Fragment}
    (h : ∀ f ∈ fs, f.IsSealed) : IsSealed (separated separator fs) := by
  induction fs with
  | nil => exact isSealed_nil
  | cons f rest ih =>
      cases rest with
      | nil => exact h f List.mem_cons_self
      | cons g rest =>
          have hback := ih fun g hg => h g (List.mem_cons_of_mem f hg)
          exact ((h f List.mem_cons_self).append (isSealed_ofText hsep)).append hback

theorem isSealed_clause {keyword separator : String} (hkey : Sealed keyword)
    (hsep : Sealed separator) {fs : List Fragment} (h : ∀ f ∈ fs, f.IsSealed) :
    IsSealed (clause keyword separator fs) := by
  unfold clause
  split_ifs
  · exact isSealed_nil
  · exact (isSealed_ofText hkey).append (isSealed_separated hsep h)

end Fragment

open Fragment

variable (held : Holdings)

/-! ## Items -/

/-- A tame column is `Sealed`: it is written behind a harmless alias or behind an identifier. -/
theorem sealed_columnText {c : ColumnRef} (h : c.isTame = true) : Sealed (columnText held c) := by
  have hname := sealed_identifier c.column.name
  have hdot : Sealed "." := sealed_of_isUnmarked (by decide)
  have hqualifier : ∀ q, qualifierText? held c = some q → Sealed q := by
    intro q hq
    unfold qualifierText? at hq
    cases ha : c.tableAlias with
    | some a =>
        rw [ha] at hq
        rw [ColumnRef.isTame, ha] at h
        obtain rfl : a = q := Option.some.inj hq
        exact sealed_of_isUnmarked h
    | none =>
        rw [ha] at hq
        change Option.map _ _ = some q at hq
        obtain ⟨t, -, rfl⟩ := Option.map_eq_some_iff.mp hq
        exact sealed_identifier t.name
  unfold columnText
  split
  · next q hq => exact ((hqualifier q hq).append hdot).append hname
  · exact hname

/-- `kindText` is sealed for an item that `isTame`. -/
theorem sealed_kindText {i : SelectItem} (h : i.isTame = true) : Sealed (kindText held i.kind) := by
  unfold SelectItem.isTame at h
  cases hk : i.kind with
  | column c =>
      rw [hk] at h
      exact sealed_columnText held h
  | aggregate f c =>
      rw [hk] at h
      have hname : Sealed f.name := by cases f <;> exact sealed_of_isUnmarked (by decide)
      have hopen : Sealed "(" := sealed_of_isUnmarked (by decide)
      have hclose : Sealed ")" := sealed_of_isUnmarked (by decide)
      exact ((hname.append hopen).append (sealed_columnText held h)).append hclose
  | countAll =>
      have hcount : isUnmarked "COUNT(*)" = true := by decide
      exact sealed_of_isUnmarked hcount
  | expression text =>
      rw [hk] at h
      cases h

/-- A tame item is `Sealed` under any alias. -/
theorem sealed_itemText {i : SelectItem} (h : i.isTame = true) : Sealed (itemText held i) := by
  have hkind := sealed_kindText held h
  unfold itemText
  split
  · next shownAs _ =>
      have has : Sealed " AS " := sealed_of_isUnmarked (by decide)
      exact (hkind.append has).append (sealed_identifier shownAs)
  · exact hkind

/-- Every table is `Sealed`. -/
theorem sealed_tableText (t : Table) : Sealed (tableText t) := by
  unfold tableText
  split
  · next schema _ =>
      have hdot : Sealed "." := sealed_of_isUnmarked (by decide)
      exact ((sealed_identifier schema).append hdot).append (sealed_identifier t.name)
  · exact sealed_identifier t.name

/-- `sourceText` is sealed for a source that `isTame`. -/
theorem sealed_sourceText {i : FromItem} (h : i.isTame = true) : Sealed (sourceText i) := by
  rw [FromItem.isTame, Bool.and_eq_true] at h
  obtain ⟨htable, halias⟩ := h
  rcases i with ⟨_ | text, asName⟩
  · next t =>
      cases asName with
      | none => exact sealed_tableText t
      | some a =>
          have hspace : Sealed " " := sealed_of_isUnmarked (by decide)
          exact ((sealed_tableText t).append hspace).append (sealed_of_isUnmarked halias)
  · cases htable

/-- A tame order item is sealed. -/
theorem sealed_orderText {o : OrderItem} (h : o.item.isTame = true) :
    Sealed (orderText held o) := by
  have hspace : Sealed " " := sealed_of_isUnmarked (by decide)
  have hdirection : Sealed o.direction.name := by
    cases o.direction <;> exact sealed_of_isUnmarked (by decide)
  exact ((sealed_itemText held h).append hspace).append hdirection

/-! ## Conditions -/

/-- `literalList` is sealed, whatever the values. -/
theorem sealed_literalList (vs : List Value) : Sealed (literalList vs) := by
  refine sealed_intercalate (sealed_of_isUnmarked (by decide)) _ fun t ht => ?_
  obtain ⟨v, -, rfl⟩ := List.mem_map.mp ht
  exact sealed_literal v

/-- A tame operand is sealed around its marker. -/
theorem isSealed_operandFragment {operand : Operand} (h : operand.isTame = true) :
    (operandFragment held operand).IsSealed := by
  cases operand with
  | value v => exact isSealed_ofText (sealed_literal v)
  | parameter => exact isSealed_marker
  | item i => exact isSealed_ofText (sealed_itemText held h)
  | list vs =>
      have hopen : Sealed "(" := sealed_of_isUnmarked (by decide)
      have hclose : Sealed ")" := sealed_of_isUnmarked (by decide)
      exact isSealed_ofText ((hopen.append (sealed_literalList vs)).append hclose)

/-- The members of a tame membership test are sealed around their marker. -/
theorem isSealed_membersFragment {operand : Operand} (h : operand.isTame = true) :
    (membersFragment held operand).IsSealed := by
  cases operand with
  | value v => exact isSealed_operandFragment held h
  | parameter => exact isSealed_operandFragment held h
  | item i => exact isSealed_operandFragment held h
  | list vs => exact isSealed_ofText (sealed_literalList vs)

/-- `comparisonFragment` is sealed around its marker, for an operand that `isTame`. -/
theorem isSealed_comparisonFragment (op : Operator) {operand : Operand}
    (h : operand.isTame = true) : (comparisonFragment held op operand).IsSealed := by
  have hop : isUnmarked op.text = true := by cases op <;> decide
  have hspaced : Sealed (" " ++ op.text ++ " ") := by
    apply sealed_of_isUnmarked
    rw [isUnmarked_append, isUnmarked_append, hop]
    decide
  have hmember : Sealed (" " ++ op.text ++ " (") := by
    apply sealed_of_isUnmarked
    rw [isUnmarked_append, isUnmarked_append, hop]
    decide
  have hclose : Sealed ")" := sealed_of_isUnmarked (by decide)
  have hmembership := ((isSealed_ofText hmember).append (isSealed_membersFragment held h)).append
    (isSealed_ofText hclose)
  unfold comparisonFragment
  split
  · exact isSealed_ofText (sealed_of_isUnmarked (by decide))
  · exact isSealed_ofText (sealed_of_isUnmarked (by decide))
  · exact hmembership
  · exact hmembership
  · exact (isSealed_ofText hspaced).append (isSealed_operandFragment held h)

mutual

/-- A tame condition is sealed around its markers (`IsSealed`), at any depth. -/
theorem isSealed_filterFragment :
    (item : FilterItem) → item.isTame = true → (filterFragment held item).IsSealed
  | .compare left op operand, h => by
      rw [FilterItem.isTame, Bool.and_eq_true] at h
      have hleft : left.bare.isTame = true := h.1
      exact (isSealed_ofText (sealed_itemText held hleft)).append
        (isSealed_comparisonFragment held op h.2)
  | .anyOf items, h => by
      have hopen : Sealed "(" := sealed_of_isUnmarked (by decide)
      have hor : Sealed " OR " := sealed_of_isUnmarked (by decide)
      have hclose : Sealed ")" := sealed_of_isUnmarked (by decide)
      have hitems := isSealed_separated hor (isSealed_filterFragments items h)
      exact ((isSealed_ofText hopen).append hitems).append (isSealed_ofText hclose)
  | .expression _, h => nomatch h

/-- `filterFragments` are sealed around their markers, for conditions with `FilterItem.allTame`. -/
theorem isSealed_filterFragments :
    (items : List FilterItem) → FilterItem.allTame items = true →
      ∀ f ∈ filterFragments held items, f.IsSealed
  | [], _ => fun f hf => nomatch hf
  | item :: rest, h => by
      rw [FilterItem.allTame, Bool.and_eq_true] at h
      intro f hf
      rcases List.mem_cons.mp hf with rfl | hf
      · exact isSealed_filterFragment item h.1
      · exact isSealed_filterFragments rest h.2 f hf

end

/-! ## Queries -/

/-- Texts are sealed if each of them is. -/
theorem isSealed_ofText_map {α : Type} {text : α → String} {tame : α → Bool} {xs : List α}
    (h : xs.all tame = true) (hsealed : ∀ x, tame x = true → Sealed (text x)) :
    ∀ f ∈ xs.map fun x => ofText (text x), f.IsSealed := by
  intro f hf
  obtain ⟨x, hx, rfl⟩ := List.mem_map.mp hf
  exact isSealed_ofText (hsealed x (List.all_eq_true.mp h x hx))

/-- **A tame query is sealed around its markers** (`IsSealed`), clause by clause. -/
theorem isSealed_queryFragment {q : Query} (h : q.isTame = true) :
    (queryFragment held q).IsSealed := by
  simp only [Query.isTame, Bool.and_eq_true] at h
  obtain ⟨⟨⟨⟨⟨hselect, hsources⟩, hfilters⟩, hgroup⟩, hhaving⟩, horder⟩ := h
  have hword : ∀ {s : String}, isUnmarked s = true → Sealed s := sealed_of_isUnmarked
  have hcomma : Sealed ", " := hword (by decide)
  have hand : Sealed " AND " := hword (by decide)
  have hitem : ∀ i : SelectItem, i.isTame = true → Sealed (itemText held i) :=
    fun _ hi => sealed_itemText held hi
  have hhead : (selectFragment held q).IsSealed := by
    unfold selectFragment
    refine IsSealed.append (isSealed_ofText ?_) ?_
    · split_ifs <;> exact hword (by decide)
    · split_ifs
      · exact isSealed_ofText (hword (by decide))
      · exact isSealed_separated hcomma (isSealed_ofText_map hselect hitem)
  unfold queryFragment
  refine ((((hhead.append ?_).append ?_).append ?_).append ?_).append ?_
  · exact isSealed_clause (hword (by decide)) hcomma
      (isSealed_ofText_map hsources fun _ hi => sealed_sourceText hi)
  · exact isSealed_clause (hword (by decide)) hand (isSealed_filterFragments held _ hfilters)
  · exact isSealed_clause (hword (by decide)) hcomma (isSealed_ofText_map hgroup hitem)
  · exact isSealed_clause (hword (by decide)) hand (isSealed_filterFragments held _ hhaving)
  · exact isSealed_clause (hword (by decide)) hcomma
      (isSealed_ofText_map horder fun _ ho => sealed_orderText held ho)

/-- A window is sealed. -/
theorem sealed_suffixText (s : Pagination.Suffix) : Sealed s.text := by
  apply sealed_of_isUnmarked
  unfold Pagination.Suffix.text
  split
  all_goals simp only [isUnmarked_append, isUnmarked_toString_nat]
  all_goals decide

end Dialect

namespace SqlDialect

/-- **No name or literal hides or brings in a marker.** For a query without opaque texts whose table
aliases have no quotes and question marks (`Query.isTame`), the compiled text ends outside quotes,
and the question marks that stand outside quotes (`scanMarks`) are exactly the markers. -/
theorem scanMarks_compile (d : SqlDialect) (outside : Holdings) (q : Query) (h : q.isTame = true) :
    scanMarks none 0 (d.compile outside q).sql.toList = some (d.compile outside q).markers := by
  refine Fragment.scanMarks_sql ?_ 0
  unfold fragment
  refine (isSealed_queryFragment _ h).append ?_
  split
  · exact Fragment.isSealed_ofText (sealed_suffixText _)
  · exact Fragment.isSealed_nil

/-- A table whose names have quotes and question marks. -/
def quotedTable : Table :=
  let ref : TableRef := ⟨⟨0, 0⟩, some "a?", "it's \"b\""⟩
  ⟨ref, .table, [⟨{ name := "c?'", type := .varchar }, 0, ref⟩]⟩

/-- A query of `quotedTable` with a question mark in an alias and in a literal, before its
marker. -/
def quotedQuery : Query where
  select := [⟨.countAll, some "n\"?"⟩]
  sources := [⟨.table quotedTable, some "t"⟩, ⟨.table quotedTable, none⟩]
  filters := quotedTable.columns.flatMap fun c => [
    .compare (.ofColumn ⟨c, none⟩) .equal (.value (.text "O'B?")),
    .compare (.ofColumn ⟨c, some "t"⟩) .like .parameter]

theorem scanMarks_compile_quotedQuery :
    quotedQuery.isTame = true ∧
    (base.compile {} quotedQuery).sql =
      "SELECT COUNT(*) AS \"n\"\"?\" FROM \"a?\".\"it's \"\"b\"\"\" t, \"a?\".\"it's \"\"b\"\"\"" ++
        " WHERE \"it's \"\"b\"\"\".\"c?'\" = 'O''B?' AND t.\"c?'\" LIKE ?" ∧
    scanMarks none 0 (base.compile {} quotedQuery).sql.toList = some [122] := by
  have htame : quotedQuery.isTame = true := by decide
  have hmarkers : (base.compile {} quotedQuery).markers = [122] := by decide +kernel
  refine ⟨htame, by decide +kernel, ?_⟩
  rw [scanMarks_compile base {} quotedQuery htame, hmarkers]

end SqlDialect

end DataAccess
