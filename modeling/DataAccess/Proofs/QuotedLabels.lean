import DataAccess.Proofs.AliasedColumns
import DataAccess.Proofs.CaseRules
import DataAccess.Proofs.LabelSoundness

/-!
# Quoted labels: names that the tables of a query do not take

A label `NAME.COLUMN` names a column behind the alias of an item, or behind the name of its table.
With both parts in double quotes it does not: the front of the label that is compared with a
qualifier is as long as that qualifier, quotes counted in, so a qualifier without quotes is never
found before the dot. The label is then left to the catalog, which knows no aliases.

* **Quotes** (`unquote_wrapped`, `utf8Len_eq_add_count`): a text in quotes, and the size of the
  quotes around one.
* **Qualifiers** (`afterQualifier?_quoted_iff`): what a qualifier has to look like to be found in
  quotes.
* **Blanks** (`trimChars_join_unquoted`, `trimChars_join_quoted`): neither label is trimmed.
* **Items** (`Query.wrappedColumn?`, `column_quoted`): the column to which a quoted label leads.
* **With and without** (`quoted_label_leads_iff`): when a quoted label leads where it does without
  quotes.
* **Aliases in quotes** (`quoted_alias_missed`): a quoted alias need not be found.
-/

namespace DataAccess

open Catalog Text

variable {cs rest : List Char} {a x qualifier : String}

/-! ## Quotes -/

/-- The text `cs` in double quotes. -/
def wrapped (cs : List Char) : List Char :=
  '"' :: (cs ++ ['"'])

/-- The characters of `Label.join true [a, x]`: both names in quotes and a dot between them. -/
theorem toList_join_quoted (a x : String) :
    (Label.join true [a, x]).toList = wrapped a.toList ++ '.' :: wrapped x.toList := by
  simp [Label.join, Label.written, Label.between, Label.quotes, wrapped]

/-- `Label.join false [a, x]` is the two names with a dot between them. -/
theorem join_unquoted (a x : String) : Label.join false [a, x] = a ++ "." ++ x := by
  rw [← String.toList_inj]
  simp [Label.join, Label.written, Label.between, Label.quotes]

/-- `Label.unquote` reads `cs` from `wrapped cs` if `cs` neither begins nor ends with a quote. -/
theorem unquote_wrapped (hne : cs ≠ []) (hfirst : ∀ c ∈ cs.head?, Label.isQuote c = false)
    (hlast : ∀ c ∈ cs.getLast?, Label.isQuote c = false) :
    Label.unquote (wrapped cs) = String.ofList cs := by
  have hquote : ∀ c ∈ ['"'], Label.isQuote c = true := List.forall_mem_singleton.mpr rfl
  have hfront : (wrapped cs).dropWhile Label.isQuote = cs ++ ['"'] := by
    show (['"'] ++ (cs ++ ['"'])).dropWhile Label.isQuote = cs ++ ['"']
    apply Label.dropWhile_append hquote
    rwa [List.head?_append_of_ne_nil _ hne]
  have hback : (cs ++ ['"']).reverse.dropWhile Label.isQuote = cs.reverse := by
    rw [List.reverse_append]
    apply Label.dropWhile_append hquote
    rwa [List.head?_reverse]
  rw [Label.unquote, trimWith, hfront, hback, List.reverse_reverse]

/-- What `trimWith p` takes from a text are a `front` and a `back` of characters with `p`. -/
theorem exists_append_trimWith (p : Char → Bool) (cs : List Char) :
    ∃ front back, cs = front ++ (trimWith p cs ++ back) ∧ (∀ c ∈ front, p c = true) ∧
      ∀ c ∈ back, p c = true := by
  refine ⟨cs.takeWhile p, ((cs.dropWhile p).reverse.takeWhile p).reverse, ?_, ?_, ?_⟩
  · rw [trimWith, ← List.reverse_append, List.takeWhile_append_dropWhile, List.reverse_reverse,
      List.takeWhile_append_dropWhile]
  · exact List.all_eq_true.mp List.all_takeWhile
  · intro c hc
    exact List.all_eq_true.mp List.all_takeWhile c (List.mem_reverse.mp hc)

/-- A text of quotes has as many bytes as quotes. -/
theorem utf8Len_eq_count (h : ∀ c ∈ cs, Label.isQuote c = true) :
    String.utf8Len cs = cs.count '"' := by
  induction cs with
  | nil => rfl
  | cons c cs ih =>
      obtain ⟨hc, hcs⟩ := List.forall_mem_cons.mp h
      obtain rfl : c = '"' := beq_iff_eq.mp hc
      rw [String.utf8Len_cons, ih hcs, List.count_cons_self]
      rfl

/-- The bytes of a text that has quotes but at its ends are those of what is left and one for each
quote. -/
theorem utf8Len_eq_add_count (h : '"' ∉ trimWith Label.isQuote cs) :
    String.utf8Len cs = String.utf8Len (trimWith Label.isQuote cs) + cs.count '"' := by
  obtain ⟨front, back, hcs, hfront, hback⟩ := exists_append_trimWith Label.isQuote cs
  generalize trimWith Label.isQuote cs = middle at *
  rw [hcs, String.utf8Len_append, String.utf8Len_append, List.count_append, List.count_append,
    utf8Len_eq_count hfront, utf8Len_eq_count hback, List.count_eq_zero_of_not_mem h]
  omega

/-! ## Qualifiers -/

/-- Whether a qualifier is the name `a` with two double quotes at its ends, up to the case of ASCII
letters (`equalIgnoringAsciiCase`). Only such a qualifier is as long as the name in quotes, at which
the label is cut. -/
def Wraps (a qualifier : String) : Bool :=
  equalIgnoringAsciiCase a (Label.unquote qualifier.toList) && qualifier.toList.count '"' == 2

/-- Names that differ in the case of ASCII letters alone have their quotes in common. -/
theorem quote_mem_of_equalIgnoringAsciiCase {b : String} (h : equalIgnoringAsciiCase a b = true)
    (hb : '"' ∈ b.toList) : '"' ∈ a.toList := by
  have hlower : '"' ∈ a.toList.map Char.toLower :=
    equalIgnoringAsciiCase_iff.mp h ▸ List.mem_map_of_mem (f := Char.toLower) hb
  obtain ⟨c, hc, hquote⟩ := List.mem_map.mp hlower
  exact eq_of_toLower_eq (by decide) hquote ▸ hc

/-- The bytes of a qualifier that is `a` but for the quotes at its ends: those of `a` and one for
each quote. -/
theorem utf8ByteSize_eq_add_count (ha : '"' ∉ a.toList)
    (hsame : equalIgnoringAsciiCase a (Label.unquote qualifier.toList) = true) :
    qualifier.utf8ByteSize = String.utf8Len a.toList + qualifier.toList.count '"' := by
  have hmiddle : '"' ∉ trimWith Label.isQuote qualifier.toList := by
    intro hmem
    refine ha (quote_mem_of_equalIgnoringAsciiCase hsame ?_)
    rwa [Label.unquote, String.toList_ofList]
  have hsize : String.utf8Len a.toList =
      String.utf8Len (trimWith Label.isQuote qualifier.toList) := by
    have hlower := congrArg String.utf8Len (equalIgnoringAsciiCase_iff.mp hsame)
    rwa [utf8Len_map_toLower, utf8Len_map_toLower, Label.unquote, String.toList_ofList] at hlower
  rw [← String.utf8Len_toList, utf8Len_eq_add_count hmiddle, hsize]

/-- No character of a part of a label is a quote. -/
theorem Catalog.Label.IsToken.not_isQuote (ha : Label.IsToken a) :
    ∀ c ∈ a.toList, Label.isQuote c = false := by
  intro c hc
  rw [Bool.eq_false_iff]
  exact fun hquote => ha.not_mem (Label.isDelimiter_of_isQuote hquote) hc

/-- `unquote_wrapped` for a part of a label, which has no quotes. -/
theorem unquote_wrapped_token (ha : Label.IsToken a) : Label.unquote (wrapped a.toList) = a := by
  rw [unquote_wrapped ha.1 (fun c hc => ha.not_isQuote c (List.mem_of_mem_head? hc))
    fun c hc => ha.not_isQuote c (List.mem_of_mem_getLast? hc), String.ofList_toList]

/-- The label `Label.join true [a, x]` as a whole keeps the quotes around the dot, and loses those
at its ends. -/
theorem unquote_join_quoted (ha : Label.IsToken a) (hx : Label.IsToken x) :
    Label.unquote (Label.join true [a, x]).toList =
      String.ofList (a.toList ++ '"' :: '.' :: '"' :: x.toList) := by
  have hlabel : wrapped a.toList ++ '.' :: wrapped x.toList =
      wrapped (a.toList ++ '"' :: '.' :: '"' :: x.toList) := by
    simp [wrapped]
  rw [toList_join_quoted, hlabel]
  refine unquote_wrapped (List.append_ne_nil_of_left_ne_nil ha.1 _) (fun c hc => ?_) fun c hc => ?_
  · rw [List.head?_append_of_ne_nil _ ha.1] at hc
    exact ha.not_isQuote c (List.mem_of_mem_head? hc)
  · rw [List.getLast?_append_of_ne_nil _ (List.cons_ne_nil _ _),
      List.getLast?_cons_of_ne_nil (List.cons_ne_nil _ _),
      List.getLast?_cons_of_ne_nil (List.cons_ne_nil _ _), List.getLast?_cons_of_ne_nil hx.1] at hc
    exact hx.not_isQuote c (List.mem_of_mem_getLast? hc)

/-- The dot is not in `wrapped a.toList`, so that the first dot of a quoted label is the one behind
it. -/
theorem dot_not_mem_wrapped (ha : Label.IsToken a) : '.' ∉ wrapped a.toList := by
  have hdot : '.' ∉ a.toList := ha.not_mem rfl
  simp [wrapped, hdot]

/-- **Qualifiers**: `afterQualifier?` reads a qualifier from the front of a quoted label exactly if
`Wraps a qualifier`, and leaves the name of the column in its quotes. -/
theorem afterQualifier?_quoted_iff (ha : Label.IsToken a) (hx : Label.IsToken x) :
    afterQualifier? qualifier (wrapped a.toList ++ '.' :: wrapped x.toList) = some rest ↔
      rest = wrapped x.toList ∧ Wraps a qualifier = true := by
  have hquote : '"' ∉ a.toList := ha.not_mem rfl
  have hwrapped : String.utf8Len (wrapped a.toList) = String.utf8Len a.toList + 2 := by
    rw [wrapped, String.utf8Len_cons, String.utf8Len_append]
    rfl
  rw [Wraps, Bool.and_eq_true, beq_iff_eq]
  unfold afterQualifier?
  constructor
  · intro h
    split at h
    · rename_i front back hsplit
      obtain ⟨hlabel, hsize⟩ := append_of_splitAtByte? hsplit
      obtain ⟨rfl, -, rfl⟩ :=
        (List.append_cons_inj_of_notMem (dot_not_mem_wrapped ha) (dot_not_mem_wrapped hx)).mp hlabel
      rw [unquote_wrapped_token ha] at h
      split at h
      · rename_i hsame
        obtain rfl := Option.some.inj h
        have hcount := utf8ByteSize_eq_add_count hquote hsame
        exact ⟨rfl, hsame, by omega⟩
      · cases h
    · cases h
  · rintro ⟨rfl, hsame, hcount⟩
    rw [utf8ByteSize_eq_add_count hquote hsame, hcount, ← hwrapped, splitAtByte?_append]
    show (if equalIgnoringAsciiCase (Label.unquote (wrapped a.toList))
      (Label.unquote qualifier.toList) then
      some (wrapped x.toList) else none) = _
    rw [unquote_wrapped_token ha, if_pos hsame]

/-- `afterQualifier?_quoted_iff` as an equation. -/
theorem afterQualifier?_quoted (ha : Label.IsToken a) (hx : Label.IsToken x) :
    afterQualifier? qualifier (wrapped a.toList ++ '.' :: wrapped x.toList) =
      if Wraps a qualifier then some (wrapped x.toList) else none := by
  ext rest
  rw [afterQualifier?_quoted_iff ha hx]
  cases Wraps a qualifier with
  | true => rw [if_pos rfl, Option.some_inj, and_iff_left rfl, eq_comm]
  | false => exact iff_of_false (fun h => Bool.noConfusion h.2) nofun

/-! ## Blanks -/

/-- There are no blanks around `Label.join false [a, x]` if there are none around `a` and `x`. -/
theorem trimChars_join_unquoted (ha : a.toList ≠ []) (htrim : trim a = a) (htrim' : trim x = x) :
    trimChars (Label.join false [a, x]).toList = (Label.join false [a, x]).toList := by
  rw [join_unquoted]
  exact trimChars_dotted ha (trimChars_of_trim htrim) (trimChars_of_trim htrim')

/-- There are no blanks around `Label.join true [a, x]`, whatever the names. -/
theorem trimChars_join_quoted :
    trimChars (Label.join true [a, x]).toList = (Label.join true [a, x]).toList := by
  rw [toList_join_quoted]
  apply Label.trimWith_eq_self_of_ends
  · intro c hc
    obtain rfl : '"' = c := Option.some.inj hc
    decide
  · intro c hc
    have hlast : (wrapped a.toList ++ '.' :: wrapped x.toList).getLast? = some '"' := by
      rw [List.getLast?_append_of_ne_nil _ (List.cons_ne_nil _ _), wrapped, ← List.cons_append,
        ← List.cons_append,
        List.getLast?_concat]
    obtain rfl : '"' = c := Option.some.inj (hlast.symm.trans hc)
    decide

/-! ## Items -/

/-- The column of an item to which `x` leads in quotes, behind `a` in quotes: a column of the name
`x`, if `Wraps a` holds of the alias of the item or of the name of its table. -/
def FromItem.wrappedColumn? (a x : String) (i : FromItem) : Option ColumnRef :=
  i.table?.bind fun t =>
    if (FromItem.qualifiers t i.asName).any (Wraps a) then (t.column? x).map fun c =>
      ⟨c, i.asName⟩ else none

/-- A search with `findSome?` for one and the same `found?`, under a condition, finds it if an
element meets the condition. -/
theorem findSome?_if {α β : Type} (p : α → Bool) (found? : Option β) (xs : List α) :
    (xs.findSome? fun x => if p x then found? else none) = if xs.any p then found? else none := by
  induction xs with
  | nil => rfl
  | cons x xs ih =>
      rw [List.findSome?_cons, List.any_cons, ih]
      cases p x <;> cases found? <;> simp

/-- `FromItem.qualifiedColumn?` on a quoted label is `FromItem.wrappedColumn?`. -/
theorem qualifiedColumn?_quoted (ha : Label.IsToken a) (hx : Label.IsToken x) (i : FromItem) :
    i.qualifiedColumn? (Label.join true [a, x]).toList = i.wrappedColumn? a x := by
  rw [toList_join_quoted, FromItem.qualifiedColumn?, FromItem.wrappedColumn?]
  refine congrArg i.table?.bind (funext fun t => ?_)
  rw [← findSome?_if]
  refine congrArg (List.findSome? · _) (funext fun qualifier => ?_)
  rw [afterQualifier?_quoted ha hx]
  split
  · rw [Option.bind_some, unquote_wrapped_token hx]
  · rfl

namespace Query

variable {q : Query}

/-- The column of a query to which a quoted label leads: the first of `FromItem.wrappedColumn?`, or
else the first of `FromItem.bareColumn?`, which takes the whole label for the name of a column. -/
def wrappedColumn? (q : Query) (a x : String) : Option ColumnRef :=
  q.sources.findSome? (·.wrappedColumn? a x) <|>
    q.sources.findSome? (·.bareColumn? (Label.join true [a, x]).toList)

/-- The column that a label names in the catalog, if the query reads its table, and else an
error. -/
def catalogColumn (q : Query) (label : String) : Lookup ColumnRef := do
  let found ← Lookup.columnByLabel? label
  match found.bind fun c => q.sources.findSome? (·.ownColumn? c) with
  | some c => return c
  | none => .fail (.columnNotFound label q.scope)

/-- **Items**: a quoted label leads to `q.wrappedColumn? a x`, or else to `q.catalogColumn`. -/
theorem column_quoted (ha : Label.IsToken a) (hx : Label.IsToken x) :
    q.column (Label.join true [a, x]) = match q.wrappedColumn? a x with
      | some c => pure c
      | none => q.catalogColumn (Label.join true [a, x]) := by
  have hitems : (q.sources.findSome? (·.qualifiedColumn? (Label.join true [a, x]).toList) <|>
      q.sources.findSome? (·.bareColumn? (Label.join true [a, x]).toList)) =
        q.wrappedColumn? a x := by
    rw [wrappedColumn?, funext (qualifiedColumn?_quoted ha hx)]
  unfold column
  dsimp only
  rw [trimChars_join_quoted, hitems]
  cases q.wrappedColumn? a x with
  | some c => rfl
  | none => exact congrArg q.catalogColumn (String.ofList_toList (s := Label.join true [a, x]))

/-- Whether no alias, table or column that the query reads has a double quote in its name. -/
def HasNoQuotes (q : Query) : Prop :=
  ∀ i ∈ q.sources, ∀ t ∈ i.table?, (∀ name ∈ FromItem.qualifiers t i.asName, '"' ∉ name.toList) ∧
    ∀ x ∈ t.columns, '"' ∉ x.name.toList

/-- With `q.HasNoQuotes` no qualifier has quotes around it, and no column has a name in quotes. -/
theorem wrappedColumn?_eq_none (h : q.HasNoQuotes) (ha : Label.IsToken a) (hx : Label.IsToken x) :
    q.wrappedColumn? a x = none := by
  refine (Option.orElse_eq_none _ _).mpr ⟨List.findSome?_eq_none_iff.mpr fun i hi => ?_,
    List.findSome?_eq_none_iff.mpr fun i hi => ?_⟩
  · refine Option.bind_eq_none_iff.mpr fun t ht => if_neg fun hany => ?_
    obtain ⟨name, hname, hwraps⟩ := List.any_eq_true.mp hany
    rw [Wraps, Bool.and_eq_true, beq_iff_eq] at hwraps
    have hmem : '"' ∈ name.toList := List.count_pos_iff.mp (by omega)
    exact (h i hi t ht).1 name hname hmem
  · refine Option.bind_eq_none_iff.mpr fun t ht => ?_
    rw [Option.map_eq_none_iff]
    refine Option.eq_none_iff_forall_not_mem.mpr fun column hcolumn => ?_
    obtain ⟨hmem, hsame⟩ := mem_of_column? hcolumn
    -- between the two names there are two quotes that are not at an end of the label
    have hlabel : '"' ∈ (Label.unquote (Label.join true [a, x]).toList).toList := by
      rw [unquote_join_quoted ha hx]
      simp
    exact (h i hi t ht).2 column hmem
      ((mem_of_equalIgnoringCase (by decide) (by decide) hsame).mpr hlabel)

/-! ## With and without -/

/-- `q.catalogColumn` succeeds with what `Lookup.columnByLabel?` finds and `FromItem.ownColumn?`
accepts. -/
theorem run_catalogColumn_iff {σ : Type} {answer : Answering σ} {w w' : Site σ} {c : ColumnRef}
    {label : String} :
    (q.catalogColumn label).run answer w = (.ok c, w') ↔ ∃ column,
      (Lookup.columnByLabel? label).run answer w = (.ok (some column), w') ∧
        q.sources.findSome? (·.ownColumn? column) = some c := by
  show (Lookup.bind _ _).run answer w = (.ok c, w') ↔ _
  rw [Lookup.run_bind]
  rcases (Lookup.columnByLabel? label).run answer w with ⟨e | found, w₁⟩
  · exact iff_of_false nofun fun ⟨_, h, _⟩ => nomatch h
  · cases howner : found.bind fun column => q.sources.findSome? (·.ownColumn? column) with
    | none =>
        refine iff_of_false (fun h => ?_) ?_
        · simp only [howner] at h
          cases h
        · rintro ⟨column, hfound, hown⟩
          cases hfound
          cases howner.symm.trans hown
    | some c' =>
        simp only [howner]
        constructor
        · intro h
          cases h
          obtain ⟨column, rfl, hown⟩ := Option.bind_eq_some_iff.mp howner
          exact ⟨column, rfl, hown⟩
        · rintro ⟨column, hfound, hown⟩
          cases hfound
          obtain rfl := Option.some.inj (howner.symm.trans hown)
          rfl

/-- `column_quoted` in terms of runs: a quoted label leads to a column either at once, by
`q.wrappedColumn?`, or as the catalog has it. -/
theorem run_column_quoted_iff {σ : Type} {answer : Answering σ} {w w' : Site σ} {c : ColumnRef}
    (ha : Label.IsToken a) (hx : Label.IsToken x) :
    (q.column (Label.join true [a, x])).run answer w = (.ok c, w') ↔
      q.wrappedColumn? a x = some c ∧ w' = w ∨
      q.wrappedColumn? a x = none ∧ ∃ column,
        (Lookup.columnByLabel? (Label.join true [a, x])).run answer w = (.ok (some column), w') ∧
        q.sources.findSome? (·.ownColumn? column) = some c := by
  rw [column_quoted ha hx]
  cases hwrapped : q.wrappedColumn? a x with
  | some found =>
      rw [Option.some_inj, or_iff_left fun h => nomatch h.1]
      show (Except.ok found, w) = (Except.ok c, w') ↔ _
      rw [Prod.mk.injEq, Except.ok.injEq, eq_comm (a := w)]
  | none =>
      rw [or_iff_right fun h => nomatch h.1]
      exact run_catalogColumn_iff.trans (and_iff_right rfl).symm

/-- The label `Label.join false [a, x]` leads to a column of an item that `Takes` it, if there is
one, without a lookup in the catalog. -/
theorem column_unquoted (ha : Label.IsToken a) (hx : Label.IsToken x) (htrim : trim a = a)
    (htrim' : trim x = x) {i : FromItem} (hi : i ∈ q.sources) {c : ColumnRef}
    (htakes : i.Takes (Label.join false [a, x]) c) :
    ∃ c, (∃ j ∈ q.sources, j.Takes (Label.join false [a, x]) c) ∧
      q.column (Label.join false [a, x]) = pure c := by
  have hquote : '"' ∉ (Label.join false [a, x]).toList := by
    have hfront : '"' ∉ a.toList := ha.not_mem rfl
    have hrest : '"' ∉ x.toList := hx.not_mem rfl
    simp [join_unquoted, hfront, hrest]
  have hsome : (q.sources.findSome? (·.qualifiedColumn? (Label.join false [a, x]).toList)).isSome :=
    List.findSome?_isSome_iff.mpr ⟨i, hi, htakes.isSome hquote⟩
  obtain ⟨found, hfound⟩ := Option.isSome_iff_exists.mp hsome
  obtain ⟨j, hj, hitem⟩ := List.exists_of_findSome?_eq_some hfound
  exact ⟨found, ⟨j, hj, takes_of_qualifiedColumn? hquote hitem⟩,
    column_of_qualifiedColumn? (trimChars_join_unquoted ha.1 htrim htrim') hfound⟩

/-- **With and without.** Let `i` read the table `t`, let `a` be its alias or the name of `t`, and
let `column ∈ t.columns`, where both names are parts of a label with no blanks around them. The
label `a.column` leads to a column `c` of an item that `Takes` it. With quotes around both names it
leads to `c` exactly if

* `q.wrappedColumn?` gives `c`, behind a qualifier that is in quotes itself, or
* `q.wrappedColumn?` gives nothing, and the catalog has a column under the label for which
  `FromItem.ownColumn?` gives `c`.

With `q.HasNoQuotes` only the catalog can decide. -/
theorem quoted_label_leads_iff {i : FromItem} {t : Table} {column : Column} (hi : i ∈ q.sources)
    (ht : i.table? = some t) (hqualifier : a ∈ FromItem.qualifiers t i.asName)
    (hcolumn : column ∈ t.columns) (ha : Label.IsToken a) (hx : Label.IsToken column.name)
    (htrim : trim a = a) (htrim' : trim column.name = column.name) :
    ∃ c, (∃ j ∈ q.sources, j.Takes (Label.join false [a, column.name]) c) ∧
      q.column (Label.join false [a, column.name]) = pure c ∧
      (∀ {σ : Type} (answer : Answering σ) (w w' : Site σ),
        (q.column (Label.join true [a, column.name])).run answer w = (.ok c, w') ↔
          q.wrappedColumn? a column.name = some c ∧ w' = w ∨
          q.wrappedColumn? a column.name = none ∧ ∃ found,
            (Lookup.columnByLabel? (Label.join true [a, column.name])).run answer w =
              (.ok (some found), w') ∧
            q.sources.findSome? (·.ownColumn? found) = some c) ∧
      (q.HasNoQuotes → q.wrappedColumn? a column.name = none) := by
  obtain ⟨found, hfound⟩ := exists_column? hcolumn
  have htakes : i.Takes (Label.join false [a, column.name]) ⟨found, i.asName⟩ := by
    have hown : equalIgnoringAsciiCase a a = true := equalIgnoringAsciiCase_iff.mpr rfl
    exact ⟨t, a, column.name, found, ht, ⟨a, mem_qualifiers.mp hqualifier, hown⟩,
      join_unquoted _ _, hfound, rfl⟩
  obtain ⟨c, hitem, hleads⟩ := column_unquoted ha hx htrim htrim' hi htakes
  exact ⟨c, hitem, hleads, fun _ _ _ => run_column_quoted_iff ha hx,
    fun h => wrappedColumn?_eq_none h ha hx⟩

/-- A catalog of one schema with one table of one column. -/
def columnCatalog (name column : String) : FixedCatalog where
  schemas :=
    [{ name := some "A", tables := [{ name, columns := [{ name := column, type := .integer }] }] }]

/-- A run whose result is `some result` by `Except.toOption` is that result and the site it
leaves. -/
theorem eq_ok_of_toOption {α σ : Type} {run : Except Error α × σ} {result : α}
    (h : run.1.toOption = some result) :
    run = (.ok result, run.2) := by
  rcases run with ⟨e | other, w⟩
  · cases h
  · obtain rfl := Option.some.inj h
    rfl

/-- A table that is read under no alias is found in quotes, for the catalog has `"C"."x"` under its
name. -/
theorem quoted_label_leads_iff_tableName :
    let q : Query := { sources := [⟨.table (columnTable "C" "x" 0), none⟩] }
    let site := (Shared.new none 0 (columnCatalog "C" "x")).site
    q.HasNoQuotes ∧ q.column "C.x" = pure ⟨onlyColumn "C" "x" 0, none⟩ ∧ ∃ w',
      (q.column "\"C\".\"x\"").run (.ofSource FixedCatalog.answer) site =
        (.ok ⟨onlyColumn "C" "x" 0, none⟩, w') := by
  intro q site
  have hquotes : q.HasNoQuotes := by
    intro i hi t ht
    obtain rfl := List.mem_singleton.mp hi
    obtain rfl : columnTable "C" "x" 0 = t := Option.some.inj ht
    decide +kernel
  have hlabel : Label.join false ["C", (onlyColumn "C" "x" 0).name] = "C.x" := by decide +kernel
  have hlabel' : Label.join true ["C", (onlyColumn "C" "x" 0).name] =
    "\"C\".\"x\"" := by decide +kernel
  have hmem : onlyColumn "C" "x" 0 ∈ (columnTable "C" "x" 0).columns := List.mem_cons_self
  obtain ⟨c, -, hleads, hquoted, hnone⟩ :=
    quoted_label_leads_iff (q := q) (a := "C") List.mem_cons_self rfl (by decide)
    hmem (by decide) (by decide) (by decide) (by decide)
  rw [hlabel] at hleads
  rw [hlabel'] at hquoted
  have hcolumn : ((q.column "C.x").run (.ofSource FixedCatalog.answer) site).1.toOption =
      some ⟨onlyColumn "C" "x" 0, none⟩ := by decide +kernel
  rw [hleads] at hcolumn
  obtain rfl : c = ⟨onlyColumn "C" "x" 0, none⟩ := Option.some.inj hcolumn
  have hread :
    ((Lookup.columnByLabel? "\"C\".\"x\"").run (.ofSource FixedCatalog.answer) site).1.toOption =
      some (some (onlyColumn "C" "x" 0)) := by decide +kernel
  refine ⟨hquotes, hleads, _,
    (hquoted _ _ _).mpr (.inr ⟨hnone hquotes, _, eq_ok_of_toOption hread, ?_⟩)⟩
  decide +kernel

/-- **Aliases in quotes**: a query that has been built on a catalog finds a column under `a.x`, for
its alias `a`, and need not find it with quotes around both names. -/
theorem quoted_alias_missed :
    ¬ ∀ (source : FixedCatalog) (label a : String) (q : Query) (w w' : Site FixedCatalog)
      (t : Table) (x : Column)
      (c : ColumnRef), (readTable {} label (some a)).run (.ofSource FixedCatalog.answer)
        (Shared.new none 0 source).site = (.ok q, w) →
      q.sources = [⟨.table t, some a⟩] → x ∈ t.columns → Label.IsToken a → Label.IsToken x.name →
      trim a = a → trim x.name = x.name →
      (q.column (Label.join false [a, x.name])).run (.ofSource FixedCatalog.answer)
        w = (.ok c, w') →
      ∃ w'', (q.column (Label.join true [a, x.name])).run (.ofSource FixedCatalog.answer) w =
        (.ok c, w'') := by
  intro h
  let found :=
    (table "A.T").run (.ofSource FixedCatalog.answer)
      (Shared.new none 0 (columnCatalog "T" "x")).site
  let q : Query := { sources := [⟨.table (columnTable "T" "x" 0), some "c"⟩] }
  have hfound : found = (.ok (columnTable "T" "x" 0), found.2) :=
    eq_ok_of_toOption (by decide +kernel)
  have hbuilt : (readTable {} "A.T" (some "c")).run (.ofSource FixedCatalog.answer)
      (Shared.new none 0 (columnCatalog "T" "x")).site = (.ok q, found.2) :=
        Lookup.run_bind_of_ok hfound
  have hcolumn : (q.column (Label.join false ["c", (onlyColumn "T" "x" 0).name])).run
    (.ofSource FixedCatalog.answer)
      found.2 = (.ok ⟨onlyColumn "T" "x" 0, some "c"⟩, _) := eq_ok_of_toOption (by decide +kernel)
  obtain ⟨w, hquoted⟩ :=
    h _ _ "c" q _ _ _ (onlyColumn "T" "x" 0) _ hbuilt rfl List.mem_cons_self (by decide)
    (by decide) (by decide) (by decide) hcolumn
  have hmissed : ((q.column (Label.join true ["c", (onlyColumn "T" "x" 0).name])).run
      (.ofSource FixedCatalog.answer) found.2).1.toOption = none := by decide +kernel
  rw [hquoted] at hmissed
  cases hmissed

end Query

end DataAccess
