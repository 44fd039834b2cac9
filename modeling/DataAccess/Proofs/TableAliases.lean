import DataAccess.Proofs.ColumnReferences
import Mathlib.Data.List.TakeWhile

/-!
# Table aliases: which of them are names in SQL

A table is read under an alias, `A.T t`, and its columns are written behind that alias, `t.x`. Other
names are set between double quotes where they are no plain words. An alias is written as it is.

* **Readers** (`length_of_readQuoted?`, `readName?_self_iff`): a text that is written as it is is
  read back as a name only if it is a plain word, since a name between quotes is shorter than what
  is written of it.
* **What follows** (`exists_sql_compile_source`): whatever the dialect, nothing that continues a
  name follows what is read.
* **Aliases** (`alias_read_iff`): an alias is read back from where its table is read, and from the
  columns behind it, if and only if it is a plain word.
-/

namespace DataAccess

open Catalog Dialect Fragment Query

namespace Dialect

/-! ## Readers -/

section Readers

variable {quote c : Char} {cs front back rest : List Char} {name : String}

/-- What `readQuoted?` reads and leaves is shorter than what was there, by the closing quote at
least. -/
theorem length_of_readQuoted? (h : readQuoted? quote cs = some (front, back)) :
    front.length + back.length < cs.length := by
  fun_induction readQuoted? quote cs generalizing front with
  | case1 => cases h
  | case2 =>
      cases h
      simp
  | case3 => cases h
  | case4 rest ih =>
      obtain ⟨⟨front', back'⟩, hread, hpair⟩ := Option.map_eq_some_iff.mp h
      cases hpair
      have := ih hread
      simp only [List.length_cons]
      omega
  | case5 d rest hd =>
      cases h
      simp
  | case6 c d rest hc ih =>
      obtain ⟨⟨front', back'⟩, hread, hpair⟩ := Option.map_eq_some_iff.mp h
      cases hpair
      have := ih hread
      simp only [List.length_cons] at this ⊢
      omega

/-- A character with `beginsWord` has `continuesWord`. -/
theorem continuesWord_of_beginsWord (h : beginsWord c = true) : continuesWord c = true := by
  simp only [beginsWord, continuesWord, Char.isAlphanum, Bool.or_eq_true] at h ⊢
  exact h.imp_left .inl

/-- `readName?` reads no name from what ends one. -/
theorem readName?_of_endsName (h : EndsName rest) : readName? rest = none := by
  cases rest with
  | nil => rfl
  | cons c rest =>
      obtain ⟨hcontinues, hquote⟩ := h c rfl
      have hbegins : ¬ beginsWord c = true := fun hbegins => by
        simp [continuesWord_of_beginsWord hbegins] at hcontinues
      rw [readName?, if_neg hquote, if_neg hbegins]

/-- **Readers**: a text that is written as it is is read back as a name by `readName?` only if it is
a plain word (`isPlainName`). -/
theorem readName?_self_iff (hrest : EndsName rest) :
    readName? (name.toList ++ rest) = some (name, rest) ↔ isPlainName name.toList = true := by
  constructor
  · intro hread
    cases hname : name.toList with
    | nil =>
        rw [hname, List.nil_append, readName?_of_endsName hrest] at hread
        cases hread
    | cons c cs =>
        rw [hname, List.cons_append, readName?] at hread
        split_ifs at hread with hquote hbegins
        · -- A name between quotes is shorter than the text from which it is read.
          obtain ⟨⟨front, back⟩, hquoted, hpair⟩ := Option.map_eq_some_iff.mp hread
          obtain ⟨hfront, rfl⟩ := Prod.mk.inj hpair
          have hshorter := length_of_readQuoted? hquoted
          have hlength := congrArg List.length hname
          rw [← hfront, String.toList_ofList] at hlength
          simp only [List.length_append, List.length_cons] at hshorter hlength
          omega
        · obtain ⟨hword, -⟩ := Prod.mk.inj (Option.some.inj hread)
          have hchars := congrArg String.toList hword
          rw [String.toList_ofList, hname] at hchars
          have htake := (List.cons.inj hchars).2
          have hcontinues : ∀ d ∈ cs, continuesWord d = true := by
            intro d hd
            rw [← htake] at hd
            exact List.mem_takeWhile_imp hd
          exact Bool.and_eq_true_iff.mpr ⟨hbegins, List.all_eq_true.mpr hcontinues⟩
  · intro hplain
    rw [readName?_word hplain hrest, String.ofList_toList]

end Readers

/-! ## What follows -/

section Rests

variable {s t keyword : String} {f : Fragment} {fs : List Fragment}

/-- What ends a name ends it whatever follows, unless it is empty. -/
theorem EndsName.append_of_ne (hs : EndsName s.toList) (hne : s ≠ "") (t : String) :
    EndsName (s ++ t).toList := by
  rw [String.toList_append]
  cases hchars : s.toList with
  | nil => exact absurd (String.toList_inj.mp hchars) hne
  | cons c cs => simpa [EndsName, hchars] using hs

/-- `EndsName` holds of `s ++ t` if it does of both texts. -/
theorem EndsName.append (hs : EndsName s.toList) (ht : EndsName t.toList) :
    EndsName (s ++ t).toList := by
  by_cases hempty : s = ""
  · rw [hempty, String.empty_append]
    exact ht
  · exact hs.append_of_ne hempty t

/-- `clause keyword separator fs` ends a name if its keyword does. -/
theorem endsName_clause (hkeyword : EndsName keyword.toList) (hne : keyword ≠ "")
    (separator : String) (fs : List Fragment) :
    EndsName (sql (clause keyword separator fs)).toList := by
  unfold clause
  split_ifs
  · exact endsName_empty
  · rw [sql_append, sql_ofText]
    exact hkeyword.append_of_ne hne _

/-- One of several separated fragments stands before the end or before a `separator`. -/
theorem exists_sql_separated (separator : String) (hf : f ∈ fs) :
    ∃ front back, sql (separated separator fs) = front ++ sql f ++ back ∧
      (back = "" ∨ ∃ rest, back = separator ++ rest) := by
  induction fs with
  | nil => cases hf
  | cons g fs ih =>
      cases fs with
      | nil =>
          obtain rfl := List.mem_singleton.mp hf
          exact ⟨"", "", by simp [separated], .inl rfl⟩
      | cons g' fs =>
          rcases List.mem_cons.mp hf with rfl | hmem
          · exact ⟨"", separator ++ sql (separated separator (g' :: fs)), by simp [separated],
              .inr ⟨_, rfl⟩⟩
          · obtain ⟨front, back, hsql, hback⟩ := ih hmem
            refine ⟨sql g ++ separator ++ front, back, ?_, hback⟩
            simp [separated, hsql, String.append_assoc]

/-- What begins with a blank ends a name. -/
theorem endsName_blank_append (s : String) : EndsName (" " ++ s).toList := by
  refine EndsName.append_of_ne (fun c hc => ?_) (by decide) s
  obtain rfl := Option.some.inj hc
  decide

/-- The text of a window ends a name: it is empty or begins with a blank. -/
theorem endsName_suffixText (s : Pagination.Suffix) : EndsName s.text.toList := by
  have hblank : ∃ rest, s.text = " " ++ rest := by
    cases s with
    | offsetFetch offset rows => exact ⟨s!"OFFSET {offset} ROWS FETCH NEXT {rows} ROWS ONLY", rfl⟩
    | limitOffset rows offset =>
        cases offset with
        | zero => exact ⟨s!"LIMIT {rows}", rfl⟩
        | succ n => exact ⟨s!"LIMIT {rows} OFFSET {n + 1}", rfl⟩
  obtain ⟨rest, htext⟩ := hblank
  rw [htext]
  exact endsName_blank_append rest

end Rests

end Dialect

/-- What follows the sources in the SQL of a query: its other clauses and the text of its window. -/
def Query.behindFragment (d : SqlDialect) (outside : Holdings) (q : Query) : Fragment :=
  let held := q.holdings.union outside
  clause " WHERE " " AND " (filterFragments held q.filters) ++
    (clause " GROUP BY " ", " (itemFragments held q.groupBy) ++
    (clause " HAVING " " AND " (filterFragments held q.having) ++
    (clause " ORDER BY " ", " (q.orderBy.map fun o => ofText (orderText held o)) ++
    match d.pagination.suffix? q with
    | some s => ofText s.text
    | none => [])))

namespace SqlDialect

/-- What follows the sources of a query `EndsName`: each clause begins with a blank. -/
theorem endsName_behindFragment (d : SqlDialect) (outside : Holdings) (q : Query) :
    EndsName (sql (q.behindFragment d outside)).toList := by
  have hwindow : EndsName (sql (match d.pagination.suffix? q with
      | some s => ofText s.text
      | none => [])).toList := by
    cases d.pagination.suffix? q with
    | none => exact endsName_empty
    | some s =>
        rw [sql_ofText]
        exact endsName_suffixText s
  unfold Query.behindFragment
  simp only [sql_append]
  exact (endsName_clause (endsName_blank_append "WHERE ") (by decide) _ _).append
    ((endsName_clause (endsName_blank_append "GROUP BY ") (by decide) _ _).append
    ((endsName_clause (endsName_blank_append "HAVING ") (by decide) _ _).append
    ((endsName_clause (endsName_blank_append "ORDER BY ") (by decide) _ _).append hwindow)))

/-- **What follows**: whatever the dialect, the text of a source stands in the compiled query before
something that `EndsName`. -/
theorem exists_sql_compile_source (d : SqlDialect) (outside : Holdings) {q : Query} {i : FromItem}
    (hi : i ∈ q.sources) :
    ∃ front back, (d.compile outside q).sql = front ++ sourceText i ++ back ∧
      EndsName back.toList := by
  let sources : List Fragment := q.sources.map fun i => ofText (sourceText i)
  have hmem : ofText (sourceText i) ∈ sources := List.mem_map_of_mem hi
  obtain ⟨front, back, hsources, hback⟩ := exists_sql_separated ", " hmem
  have hclause : clause " FROM " ", " sources = ofText " FROM " ++ separated ", " sources :=
    if_neg (by simpa using List.ne_nil_of_mem hmem)
  have hrest : restFragment d outside q = clause " FROM " ", " sources ++
    q.behindFragment d outside := rfl
  have hback' : EndsName back.toList := by
    rcases hback with rfl | ⟨rest, rfl⟩
    · exact endsName_empty
    · refine EndsName.append_of_ne (fun c hc => ?_) (by decide) rest
      obtain rfl := Option.some.inj hc
      decide
  refine ⟨sql (selectFragment (q.holdings.union outside) q) ++ " FROM " ++ front,
    back ++ sql (q.behindFragment d outside), ?_,
      hback'.append (endsName_behindFragment d outside q)⟩
  show sql (d.fragment outside q) = _
  rw [fragment_eq, hrest, hclause]
  simp only [sql_append, sql_ofText, hsources, String.append_assoc]

end SqlDialect

/-! ## Aliases -/

namespace Dialect

/-- **Aliases.** Whatever the dialect and the query, the alias `a` of what is read stands between a
blank and something that `EndsName`. In front of a column it stands before a dot. In both places
`readName?` gives the alias, and leaves what follows it, if and only if the alias is a plain word
(`isPlainName`). -/
theorem alias_read_iff {i : FromItem} {c : ColumnRef} {a : String} (hi : i.asName = some a)
    (hc : c.tableAlias = some a) :
    (∀ (d : SqlDialect) (outside : Holdings) (q : Query), i ∈ q.sources → ∃ front back,
      (d.compile outside q).sql = front ++ sourceText { i with asName := none } ++
        " " ++ (a ++ back) ∧
      EndsName back.toList ∧
      (readName? (a ++ back).toList = some (a, back.toList) ↔ isPlainName a.toList = true)) ∧
    ∀ held : Holdings,
      let back := "." ++ identifier c.column.name
      columnText held c = a ++ back ∧
      (readName? (a ++ back).toList = some (a, back.toList) ↔ isPlainName a.toList = true) := by
  have hread {back : String} (hback : EndsName back.toList) :
      readName? (a ++ back).toList = some (a, back.toList) ↔ isPlainName a.toList = true := by
    rw [String.toList_append]
    exact readName?_self_iff hback
  constructor
  · intro d outside q hmem
    obtain ⟨front, back, hsql, hback⟩ := d.exists_sql_compile_source outside hmem
    have hsource : sourceText i = sourceText { i with asName := none } ++ " " ++ a := by
      unfold sourceText
      rw [hi]
    refine ⟨front, back, ?_, hback, hread hback⟩
    rw [hsql, hsource]
    simp only [String.append_assoc]
  · intro held back
    refine ⟨?_, hread (endsName_dot_append _)⟩
    have hqualifier : qualifierText? held c = some a := by simp [qualifierText?, hc]
    rw [columnText, hqualifier, ← String.append_assoc]

/-- A query that reads a table twice, under a plain word and under an alias with a blank. -/
def twiceQuery : Query where
  sources := [⟨.table (dottedTable 2), some "t"⟩, ⟨.table (dottedTable 2), some "my t"⟩]
  filters :=
    [.compare (.ofColumn ⟨dottedColumn 2, some "t"⟩) .less
      (.item (.ofColumn ⟨dottedColumn 2, some "my t"⟩))]

/-- In the SQL of `twiceQuery` only the plain word `t` is read back, where the table is read and in
front of its columns. -/
theorem alias_read_iff_twiceQuery :
    let reads (a back : String) := readName? (a ++ back).toList = some (a, back.toList)
    let sql := (SqlDialect.base.compile {} twiceQuery).sql
    (∃ front back, sql = front ++ "A.T" ++ " " ++ ("t" ++ back) ∧ reads "t" back) ∧
    (∃ front back, sql = front ++ "A.T" ++ " " ++ ("my t" ++ back) ∧ ¬ reads "my t" back) ∧
    reads "t" ".x" ∧ ¬ reads "my t" ".x" := by
  intro reads sql
  obtain ⟨hsource, hcolumn⟩ := alias_read_iff (i := ⟨.table (dottedTable 2), some "t"⟩)
    (c := ⟨dottedColumn 2, some "t"⟩) rfl rfl
  obtain ⟨hsource', hcolumn'⟩ := alias_read_iff (i := ⟨.table (dottedTable 2), some "my t"⟩)
    (c := ⟨dottedColumn 2, some "my t"⟩) rfl rfl
  have hplain : isPlainName "t".toList = true := by decide +kernel
  have hblank : ¬ isPlainName "my t".toList = true := by decide +kernel
  have htable : sourceText ⟨.table (dottedTable 2), none⟩ = "A.T" := by decide +kernel
  have hx : "." ++ identifier (dottedColumn 2).name = ".x" := by decide +kernel
  refine ⟨?_, ?_, ?_, ?_⟩
  · obtain ⟨front, back, hsql, -, hread⟩ := hsource .base {} twiceQuery List.mem_cons_self
    rw [htable] at hsql
    exact ⟨front, back, hsql, hread.mpr hplain⟩
  · obtain ⟨front, back, hsql, -, hread⟩ :=
      hsource' .base {} twiceQuery (List.mem_cons_of_mem _ List.mem_cons_self)
    rw [htable] at hsql
    exact ⟨front, back, hsql, mt hread.mp hblank⟩
  · have hread := (hcolumn {}).2.mpr hplain
    rw [hx] at hread
    exact hread
  · have hread := mt (hcolumn' {}).2.mp hblank
    rw [hx] at hread
    exact hread

/-- An alias with a blank, `my t`, is read back neither where its table is read nor in front of a
column. -/
theorem alias_not_read :
    ¬ ∀ (i : FromItem) (c : ColumnRef) (a : String) (held : Holdings), i.asName = some a →
      c.tableAlias = some a →
      (∃ back, sourceText i = sourceText { i with asName := none } ++ " " ++ back ∧
        readName? back.toList = some (a, [])) ∨
      readName? (columnText held c).toList =
        some (a, ("." ++ identifier c.column.name).toList) := by
  intro hread
  rcases hread ⟨.table (dottedTable 2), some "my t"⟩ ⟨dottedColumn 2, some "my t"⟩ "my t" {}
    rfl rfl with ⟨back, hsource, hback⟩ | hcolumn
  · have htext : sourceText ⟨.table (dottedTable 2), some "my t"⟩ =
        sourceText ⟨.table (dottedTable 2), none⟩ ++ " " ++ "my t" := rfl
    obtain rfl := (String.append_right_inj _).mp (hsource.symm.trans htext)
    exact absurd hback (by decide +kernel)
  · exact absurd hcolumn (by decide +kernel)

end Dialect

end DataAccess
