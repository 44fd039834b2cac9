import DataAccess.Proofs.LabelParts
import DataAccess.Query.Scope
import Mathlib.Data.List.Basic
import Mathlib.Data.String.Basic

/-!
# Aliased columns: the item that a label leads to

A label `NAME.COLUMN` names a column behind the alias of an item, or behind the name of its table.
The items of a query are asked in their order, and the first one that takes the label has it.

* **Qualifiers** (`afterQualifier?_eq_some_iff`): a label without quotes is taken apart behind a
  qualifier that stands at its front, up to the case of ASCII letters.
* **Blanks** (`trimChars_dotted`): a label of two names is not trimmed if they are not.
* **Items** (`FromItem.Takes`): what it is for an item to take a label, whatever other items there
  are.
* **Aliases** (`column_behind_alias`): a label behind an alias leads to the item of that alias,
  unless an earlier item takes it. A table of that name does, if it has such a column.
* **Hidden aliases** (`alias_hidden`): an item need not be found under its alias.
-/

namespace DataAccess

open Catalog Text

/-! ## Qualifiers -/

section Qualifiers

variable {cs front back label rest : List Char} {size : Nat} {qualifier : String}

/-- `splitAtByte?` splits a text behind any part at its front, by the size of that part. -/
theorem splitAtByte?_append (front back : List Char) :
    splitAtByte? (String.utf8Len front) (front ++ back) = some (front, back) := by
  induction front with
  | nil => simp [splitAtByte?]
  | cons c front ih =>
      obtain ⟨size, hsize⟩ := Nat.exists_eq_add_one_of_ne_zero (Nat.ne_of_gt c.utf8Size_pos)
      have hstep : String.utf8Len (c :: front) = String.utf8Len front + size + 1 := by
        rw [String.utf8Len_cons, hsize, Nat.add_assoc]
      rw [hstep, List.cons_append, splitAtByte?, if_pos (by omega), hsize,
        show String.utf8Len front + size + 1 - (size + 1) = String.utf8Len front by omega, ih]
      rfl

/-- A text is split by `splitAtByte?` into two parts, the first of which has the given size. -/
theorem append_of_splitAtByte? (h : splitAtByte? size cs = some (front, back)) :
    cs = front ++ back ∧ String.utf8Len front = size := by
  induction cs generalizing size front with
  | nil =>
      cases size with
      | zero =>
          rw [splitAtByte?] at h
          cases h
          exact ⟨rfl, rfl⟩
      | succ size =>
          rw [splitAtByte?] at h
          cases h
  | cons c cs ih =>
      cases size with
      | zero =>
          rw [splitAtByte?] at h
          cases h
          exact ⟨rfl, rfl⟩
      | succ size =>
          rw [splitAtByte?] at h
          split at h
          · rename_i hle
            obtain ⟨⟨before, behind⟩, hsplit, hparts⟩ := Option.map_eq_some_iff.mp h
            cases hparts
            obtain ⟨hcs, hsize⟩ := ih hsplit
            rw [String.utf8Len_cons, hsize]
            exact ⟨congrArg (c :: ·) hcs, by omega⟩
          · cases h

/-- `Label.unquote` reads a text without quotes as it is. -/
theorem unquote_eq_ofList (h : '"' ∉ cs) : Label.unquote cs = String.ofList cs := by
  rw [Label.unquote, Label.trimWith_eq_self fun c hc => ?_]
  exact beq_eq_false_iff_ne.mpr (ne_of_mem_of_not_mem hc h)

/-- The case of ASCII letters makes no difference to the size of a text in bytes. -/
theorem utf8Len_map_toLower (cs : List Char) :
    String.utf8Len (cs.map Char.toLower) = String.utf8Len cs := by
  have hsize (c : Char) : c.toLower.utf8Size = c.utf8Size := by
    rcases toLower_cases c with hsame | ⟨-, hupper, hlower⟩
    · rw [hsame]
    · have hsmall : c.utf8Size = 1 := Char.utf8Size_eq_one_iff.mpr (show c.toNat ≤ 127 by omega)
      rw [hsmall]
      exact Char.utf8Size_eq_one_iff.mpr (show c.toLower.toNat ≤ 127 by omega)
  induction cs with
  | nil => rfl
  | cons c cs ih => rw [List.map_cons, String.utf8Len_cons, String.utf8Len_cons, ih, hsize]

/-- A part of a text with as many bytes as the text is all of it. -/
theorem eq_of_sublist_of_utf8Len {part cs : List Char} (h : part.Sublist cs)
    (hsize : String.utf8Len part = String.utf8Len cs) : part = cs := by
  induction h with
  | slnil => rfl
  | @cons part cs c h ih =>
      have hle := String.utf8Len_le_of_sublist h
      have hpos := c.utf8Size_pos
      rw [String.utf8Len_cons] at hsize
      omega
  | cons_cons c h ih =>
      rw [String.utf8Len_cons, String.utf8Len_cons] at hsize
      rw [ih (by omega)]

/-- **Qualifiers**: `afterQualifier?` reads a qualifier from the front of a label without quotes
up to the case of ASCII letters. If it has quotes around it, it is not found there, since it is
longer. -/
theorem afterQualifier?_eq_some_iff (hlabel : '"' ∉ label) :
    afterQualifier? qualifier label = some rest ↔
      ∃ front, label = front ++ '.' :: rest ∧
        equalIgnoringAsciiCase (String.ofList front) qualifier = true := by
  unfold afterQualifier?
  constructor
  · intro h
    split at h
    · rename_i front back hsplit
      obtain ⟨rfl, hsize⟩ := append_of_splitAtByte? hsplit
      split at h
      · rename_i hequal
        obtain rfl := Option.some.inj h
        refine ⟨front, rfl, ?_⟩
        rw [unquote_eq_ofList fun hmem => hlabel (List.mem_append_left _ hmem)] at hequal
        -- the part that is compared is as large as the whole qualifier
        have hcase := equalIgnoringAsciiCase_iff.mp hequal
        have hlen := congrArg String.utf8Len hcase
        rw [utf8Len_map_toLower, utf8Len_map_toLower, String.toList_ofList, hsize, Label.unquote,
          String.toList_ofList, ← String.utf8Len_toList] at hlen
        have hwhole := eq_of_sublist_of_utf8Len Label.trimWith_sublist hlen.symm
        rwa [Label.unquote, hwhole, String.ofList_toList] at hequal
      · cases h
    · cases h
  · rintro ⟨front, rfl, hequal⟩
    have hcase := equalIgnoringAsciiCase_iff.mp hequal
    rw [String.toList_ofList] at hcase
    have hsize : qualifier.utf8ByteSize = String.utf8Len front := by
      rw [← String.utf8Len_toList, ← utf8Len_map_toLower, ← hcase, utf8Len_map_toLower]
    have hfront : '"' ∉ front := fun hmem => hlabel (List.mem_append_left _ hmem)
    have hqualifier : '"' ∉ qualifier.toList := by
      intro hmem
      have hlower : '"' ∈ front.map Char.toLower :=
        hcase ▸ List.mem_map_of_mem (f := Char.toLower) hmem
      obtain ⟨c, hc, hquote⟩ := List.mem_map.mp hlower
      exact hfront (eq_of_toLower_eq (by decide) hquote ▸ hc)
    rw [hsize, splitAtByte?_append]
    show (if equalIgnoringAsciiCase (Label.unquote front)
      (Label.unquote qualifier.toList) then some rest
      else none) = some rest
    rw [unquote_eq_ofList hfront, unquote_eq_ofList hqualifier, String.ofList_toList, if_pos hequal]

/-- `afterQualifier?` finds what stands behind a qualifier, if the label has no quotes. -/
theorem exists_afterQualifier? {front name : String} (hlabel : '"' ∉ (front ++ "." ++ name).toList)
    (hequal : equalIgnoringAsciiCase front qualifier = true) :
    ∃ rest, afterQualifier? qualifier (front ++ "." ++ name).toList = some rest ∧
      Label.unquote rest = name := by
  have hlist : (front ++ "." ++ name).toList = front.toList ++ '.' :: name.toList := by simp
  have hname : '"' ∉ name.toList := by
    rw [hlist] at hlabel
    exact fun hmem => hlabel (List.mem_append_right _ (List.mem_cons_of_mem _ hmem))
  refine ⟨name.toList, (afterQualifier?_eq_some_iff hlabel).mpr ⟨front.toList, hlist, ?_⟩, ?_⟩
  · rwa [String.ofList_toList]
  · rw [unquote_eq_ofList hname, String.ofList_toList]

end Qualifiers

/-! ## Blanks -/

section Blanks

variable {cs : List Char} {a name : String}

/-- There is nothing to trim at the front of a trimmed text. -/
theorem not_of_mem_head? {p : Char → Bool} (h : trimWith p cs = cs) :
    ∀ c ∈ cs.head?, p c = false := by
  intro c hc
  obtain ⟨cs, rfl⟩ := List.head?_eq_some_iff.mp hc
  by_contra hp
  rw [Bool.not_eq_false] at hp
  have hrest : trimWith p (c :: cs) =
    trimWith p cs := by rw [trimWith, List.dropWhile_cons_of_pos hp, ← trimWith]
  have hle : (trimWith p cs).length ≤ cs.length := Label.trimWith_sublist.length_le
  rw [← hrest, h, List.length_cons] at hle
  omega

/-- A trimmed name. -/
theorem trimChars_of_trim (h : trim name = name) : trimChars name.toList = name.toList := by
  have hchars := congrArg String.toList h
  rwa [trim, String.toList_ofList] at hchars

/-- There are no blanks around two texts with a dot between them if there are none around either. -/
theorem trimChars_dotted (hne : a.toList ≠ []) (ha : trimChars a.toList = a.toList)
    (hname : trimChars name.toList = name.toList) :
    trimChars (a ++ "." ++ name).toList = (a ++ "." ++ name).toList := by
  have hlist : (a ++ "." ++ name).toList = a.toList ++ '.' :: name.toList := by simp
  rw [hlist]
  apply Label.trimWith_eq_self_of_ends
  · rw [List.head?_append_of_ne_nil _ hne]
    exact not_of_mem_head? ha
  · intro c hc
    rw [List.getLast?_append, List.getLast?_cons, Option.some_or, Option.mem_some_iff] at hc
    subst hc
    cases hlast : name.toList.getLast? with
    | none => decide
    | some c => exact Label.getLast?_trimWith c (hname ▸ hlast)

end Blanks

/-! ## Items -/

/-- Whether the item `i` takes the label of the column `c`, whatever other items there are: there is
a dot behind its alias or behind the name of its table, up to the case of ASCII letters, and the
table has a column under what follows. -/
def FromItem.Takes (i : FromItem) (label : String) (c : ColumnRef) : Prop :=
  ∃ (t : Table) (front name : String) (column : Column), i.table? = some t ∧
    (∃ qualifier, (i.asName = some qualifier ∨ t.name = qualifier) ∧
      equalIgnoringAsciiCase front qualifier = true) ∧
    label = front ++ "." ++ name ∧ t.column? name = some column ∧ c = ⟨column, i.asName⟩

section Items

variable {i : FromItem} {label : String} {c : ColumnRef}

/-- The `FromItem.qualifiers` of an item are its alias and the name of its table. -/
theorem mem_qualifiers {t : Table} {asName : Option String} {a : String} :
    a ∈ FromItem.qualifiers t asName ↔ asName = some a ∨ t.name = a := by
  rw [FromItem.qualifiers, List.mem_append, Option.mem_toList, List.mem_singleton, eq_comm (a := a)]

/-- What `qualifiedColumn?` finds for a label without quotes is a column whose label the item
`Takes`. -/
theorem takes_of_qualifiedColumn? (hlabel : '"' ∉ label.toList)
    (h : i.qualifiedColumn? label.toList = some c) :
    i.Takes label c := by
  obtain ⟨t, ht, h⟩ := Option.bind_eq_some_iff.mp h
  obtain ⟨qualifier, hqualifier, h⟩ := List.exists_of_findSome?_eq_some h
  obtain ⟨rest, hrest, h⟩ := Option.bind_eq_some_iff.mp h
  obtain ⟨column, hcolumn, rfl⟩ := Option.map_eq_some_iff.mp h
  obtain ⟨front, hfront, hequal⟩ := (afterQualifier?_eq_some_iff hlabel).mp hrest
  have hquote : '"' ∉ rest :=
    fun hmem => hlabel (hfront ▸ List.mem_append_right _ (List.mem_cons_of_mem _ hmem))
  rw [unquote_eq_ofList hquote] at hcolumn
  refine ⟨t, String.ofList front, String.ofList rest, column, ht,
    ⟨qualifier, mem_qualifiers.mp hqualifier, hequal⟩, ?_,
    hcolumn, rfl⟩
  rw [← String.toList_inj, hfront]
  simp

/-- A label without quotes is not found in an item that does not take it (`Takes`). -/
theorem qualifiedColumn?_eq_none (hlabel : '"' ∉ label.toList) (h : ∀ c, ¬ i.Takes label c) :
    i.qualifiedColumn? label.toList = none :=
  Option.eq_none_iff_forall_not_mem.mpr fun c hc => h c (takes_of_qualifiedColumn? hlabel hc)

/-- `FromItem.qualifiedColumn?` finds a label without quotes in an item that `Takes` it. -/
theorem FromItem.Takes.isSome (h : i.Takes label c) (hlabel : '"' ∉ label.toList) :
    (i.qualifiedColumn? label.toList).isSome := by
  obtain ⟨t, front, name, column, ht, ⟨qualifier, hqualifier, hequal⟩, rfl, hcolumn, rfl⟩ := h
  obtain ⟨rest, hrest, hname⟩ := exists_afterQualifier? hlabel hequal
  rw [FromItem.qualifiedColumn?, ht, Option.bind_some, List.findSome?_isSome_iff]
  refine ⟨qualifier, mem_qualifiers.mpr hqualifier, ?_⟩
  rw [hrest, Option.bind_some, hname, hcolumn]
  rfl

/-- Whether an item takes a label behind a name `a` without dots, if there are none in the rest of
the label: its alias or the name of its table is `a` up to case. -/
theorem exists_takes_iff {a name : String} (ha : '.' ∉ a.toList) (hname : '.' ∉ name.toList) :
    (∃ c, i.Takes (a ++ "." ++ name) c) ↔
      ∃ t, i.table? = some t ∧ (t.column? name).isSome ∧
        ((∃ b, i.asName = some b ∧ equalIgnoringAsciiCase a b = true) ∨
          equalIgnoringAsciiCase a t.name = true) := by
  constructor
  · rintro ⟨c, t, front, rest, column, ht, ⟨qualifier, hqualifier, hequal⟩, hlabel, hcolumn, -⟩
    have hlists : a.toList ++ '.' :: name.toList = front.toList ++ '.' :: rest.toList := by
      have hchars := congrArg String.toList hlabel
      simpa using hchars
    obtain ⟨hfront, -, hrest⟩ := (List.append_cons_inj_of_notMem ha hname).mp hlists
    obtain rfl := String.toList_inj.mp hfront
    obtain rfl := String.toList_inj.mp hrest
    refine ⟨t, ht, Option.isSome_iff_exists.mpr ⟨column, hcolumn⟩, ?_⟩
    rcases hqualifier with hasName | rfl
    · exact .inl ⟨qualifier, hasName, hequal⟩
    · exact .inr hequal
  · rintro ⟨t, ht, hcolumn, hnamed⟩
    obtain ⟨column, hcolumn⟩ := Option.isSome_iff_exists.mp hcolumn
    have hqualifier : ∃ qualifier, (i.asName = some qualifier ∨ t.name = qualifier) ∧
        equalIgnoringAsciiCase a qualifier = true := by
      rcases hnamed with ⟨b, hb, hequal⟩ | hequal
      · exact ⟨b, .inl hb, hequal⟩
      · exact ⟨t.name, .inr rfl, hequal⟩
    exact ⟨_, t, a, name, column, ht, hqualifier, rfl, hcolumn, rfl⟩

/-- An item takes the label `a.name` behind its alias `a`. -/
theorem qualifiedColumn?_alias {t : Table} {a name : String} {column : Column}
    (hlabel : '"' ∉ (a ++ "." ++ name).toList) (hcolumn : t.column? name = some column) :
    FromItem.qualifiedColumn? (a ++ "." ++ name).toList ⟨.table t, some a⟩ =
      some ⟨column, some a⟩ := by
  obtain ⟨rest, hrest, hname⟩ := exists_afterQualifier? hlabel (equalIgnoringAsciiCase_iff.mpr rfl)
  have htable : FromItem.table? ⟨.table t, some a⟩ = some t := rfl
  rw [FromItem.qualifiedColumn?, htable, Option.bind_some, FromItem.qualifiers, Option.toList_some,
    List.singleton_append, List.findSome?_cons, hrest, Option.bind_some, hname, hcolumn]
  rfl

end Items

/-! ## Aliases -/

namespace Query

section Aliases

variable {q : Query} {t : Table} {a : String} {before after : List FromItem} {x : Column}

/-- A table has a column under the name of each of its columns. -/
theorem exists_column? (hx : x ∈ t.columns) : ∃ column, t.column? x.name = some column := by
  have hexact : (t.columns.find? (·.name == x.name)).isSome :=
    List.find?_isSome.mpr ⟨x, hx, beq_self_eq_true x.name⟩
  obtain ⟨column, hcolumn⟩ := Option.isSome_iff_exists.mp hexact
  exact ⟨column, by rw [Table.column?, hcolumn]; rfl⟩

/-- A label without blanks around it leads by `Query.column` to what is found behind a qualifier. -/
theorem column_of_qualifiedColumn? {label : String} {c : ColumnRef}
    (hblank : trimChars label.toList = label.toList)
    (h : q.sources.findSome? (·.qualifiedColumn? label.toList) = some c) :
    q.column label = pure c := by
  unfold column
  dsimp only
  rw [hblank, h]
  rfl

/-- The first item that takes a label has it: `Query.column` gives a column that this item
`Takes`. -/
theorem column_of_takes {label : String} {i : FromItem} {front rest : List FromItem}
    (hlabel : '"' ∉ label.toList) (hblank : trimChars label.toList = label.toList)
    (hsources : q.sources = front ++ i :: rest) (hnone : ∀ j ∈ front, ∀ c, ¬ j.Takes label c)
    (htakes : ∃ c, i.Takes label c) : ∃ c, i.Takes label c ∧ q.column label = pure c := by
  obtain ⟨_, htakes⟩ := htakes
  obtain ⟨c, hc⟩ := Option.isSome_iff_exists.mp (htakes.isSome hlabel)
  refine ⟨c, takes_of_qualifiedColumn? hlabel hc, column_of_qualifiedColumn? hblank ?_⟩
  rw [hsources]
  exact List.findSome?_eq_some_iff.mpr
    ⟨front, i, rest, rfl, hc, fun j hj => qualifiedColumn?_eq_none hlabel (hnone j hj)⟩

/-- There are no blanks around `a ++ "." ++ name` for a part of a label `a`, if there are none
around `name`. -/
theorem trimChars_behind_alias {name : String} (ha : Label.IsPart a) (hname : trim name = name) :
    trimChars (a ++ "." ++ name).toList = (a ++ "." ++ name).toList :=
  trimChars_dotted ha.nonempty (Label.trimWith_eq_self ha.noBlank) (trimChars_of_trim hname)

/-- **Aliases.** Let an item of a query read a table `t` under an alias `a` without dots, quotes and
blanks (`Label.IsPart`), which no earlier item has, and let a column `x` of the table have a name
without quotes and without blanks around it. Behind the alias, that name leads to the column that
the table has under it, unless an earlier item takes the label (`FromItem.Takes`). Then it leads to
what the first of these has, which is read through another item.

If there is no dot in the name either, the items that take the label are those whose tables have the
alias for a name, and a column under that name. -/
theorem column_behind_alias (hsources : q.sources = before ++ ⟨.table t, some a⟩ :: after)
    (ha : Label.IsPart a)
    (hothers : ∀ i ∈ before, ∀ b, i.asName = some b → equalIgnoringAsciiCase a b = false)
    (hx : x ∈ t.columns) (hquote : '"' ∉ x.name.toList) (hblank : trim x.name = x.name) :
    let label := a ++ "." ++ x.name
    ∃ column, t.column? x.name = some column ∧
      ((∀ i ∈ before, ∀ c, ¬ i.Takes label c) → q.column label = pure ⟨column, some a⟩) ∧
      (∀ front i rest, before = front ++ i :: rest → (∀ j ∈ front, ∀ c, ¬ j.Takes label c) →
        (∃ c, i.Takes label c) → ∃ c, i.Takes label c ∧ q.column label = pure c ∧
          c.tableAlias ≠ some a) ∧
      ('.' ∉ x.name.toList → ∀ i ∈ before, (∃ c, i.Takes label c) ↔
        ∃ u, i.table? = some u ∧ (u.column? x.name).isSome ∧
          equalIgnoringAsciiCase a u.name = true) := by
  intro label
  obtain ⟨column, hcolumn⟩ := exists_column? hx
  have hdot : '.' ∉ a.toList := fun hmem => absurd (ha.noDelimiter _ hmem) (by decide)
  have hlabel : '"' ∉ label.toList := by
    have hfront : '"' ∉ a.toList := fun hmem => absurd (ha.noDelimiter _ hmem) (by decide)
    simp [label, hfront, hquote]
  have htrim : trimChars label.toList = label.toList := trimChars_behind_alias ha hblank
  refine ⟨column, hcolumn, fun hnone => ?_, fun front i rest hbefore hnone htakes => ?_,
    fun hname i hi => ?_⟩
  · apply column_of_qualifiedColumn? htrim
    rw [hsources]
    exact List.findSome?_eq_some_iff.mpr ⟨before, _, after, rfl,
      qualifiedColumn?_alias hlabel hcolumn,
      fun i hi => qualifiedColumn?_eq_none hlabel (hnone i hi)⟩
  · have hparts : q.sources = front ++ i :: (rest ++ ⟨.table t, some a⟩ :: after) := by
      rw [hsources, hbefore, List.append_assoc, List.cons_append]
    obtain ⟨c, hc, hfound⟩ := column_of_takes hlabel htrim hparts hnone htakes
    refine ⟨c, hc, hfound, fun halias => ?_⟩
    obtain ⟨_, _, _, _, -, -, -, -, rfl⟩ := hc
    have hi : i ∈ before := hbefore ▸ List.mem_append_right _ List.mem_cons_self
    cases (hothers i hi a halias).symm.trans (equalIgnoringAsciiCase_iff.mpr rfl)
  · rw [exists_takes_iff hdot hname]
    refine exists_congr fun u => and_congr_right fun _ => and_congr_right fun _ => ?_
    refine or_iff_right ?_
    rintro ⟨b, hb, hequal⟩
    cases (hothers i hi b hb).symm.trans hequal

end Aliases

/-- A table of one column. -/
def columnTable (name column : String) (position : Nat) : Table :=
  TableDecl.build { name, columns := [{ name := column, type := .integer }] } 0 (some "A") position

/-- Its column. -/
def onlyColumn (name column : String) (position : Nat) : Column :=
  (columnTable name column position).columns.get ⟨0, Nat.one_pos⟩

/-- The second of three tables is read under the name of the first one, and the third under that of
the second. -/
def hidingQuery : Query where
  sources := [{ source := .expression "VALUES (1)" }, ⟨.table (columnTable "C" "x" 0), some "c.d"⟩,
    ⟨.table (columnTable "T" "x" 1), some "c"⟩, ⟨.table (columnTable "U" "y" 2), some "t"⟩]

theorem column_behind_alias_hidingQuery :
    (∃ column, hidingQuery.column "t.y" = pure ⟨column, some "t"⟩) ∧
      ∃ c, hidingQuery.column "c.x" = pure c ∧ c.tableAlias ≠ some "c" := by
  constructor
  · have hsources : hidingQuery.sources =
        hidingQuery.sources.take 3 ++ ⟨.table (columnTable "U" "y" 2), some "t"⟩ :: [] := rfl
    obtain ⟨column, -, hfound, -, htakes⟩ :=
      column_behind_alias (x := onlyColumn "U" "y" 2) hsources (by decide)
      (by decide) List.mem_cons_self (by decide) (by decide)
    have hnone : ∀ i ∈ hidingQuery.sources.take 3, ∀ u ∈ i.table?,
      ¬ (u.column? "y").isSome := by decide +kernel
    refine ⟨column, hfound fun i hi c hc => ?_⟩
    obtain ⟨u, hu, hcolumn, -⟩ := (htakes (by decide) i hi).mp ⟨c, hc⟩
    exact hnone i hi u hu hcolumn
  · have hsources : hidingQuery.sources = hidingQuery.sources.take 2 ++
        ⟨.table (columnTable "T" "x" 1), some "c"⟩ :: hidingQuery.sources.drop 3 := rfl
    obtain ⟨-, -, -, hhidden, htakes⟩ :=
      column_behind_alias (x := onlyColumn "T" "x" 1) hsources (by decide)
      (by decide) List.mem_cons_self (by decide) (by decide)
    have hfirst := (htakes (by decide) ⟨.table (columnTable "C" "x" 0), some "c.d"⟩ (by decide)).mpr
      ⟨columnTable "C" "x" 0, rfl, by decide +kernel, by decide⟩
    obtain ⟨c, -, hfound, halias⟩ := hhidden [{ source := .expression "VALUES (1)" }] _ [] rfl
      (List.forall_mem_singleton.mpr fun c ⟨_, _, _, _, htable, _⟩ => by cases htable) hfirst
    exact ⟨c, hfound, halias⟩

/-- **Hidden aliases**: the label `a.x` need not lead to the item with the alias `a`, for the name
of an earlier table may be `a`. -/
theorem alias_hidden :
    ¬ ∀ (q : Query) (before after : List FromItem) (t : Table) (a : String) (x : Column),
      q.sources = before ++ ⟨.table t, some a⟩ :: after → Label.IsPart a →
      (∀ i ∈ before ++ after, ∀ b, i.asName = some b → equalIgnoringAsciiCase a b = false) →
      x ∈ t.columns → '"' ∉ x.name.toList → trim x.name = x.name →
      ∃ column, t.column? x.name = some column ∧
        q.column (a ++ "." ++ x.name) = pure ⟨column, some a⟩ := by
  intro hnamed
  obtain ⟨column, -, hcolumn⟩ :=
    hnamed hidingQuery (hidingQuery.sources.take 2) (hidingQuery.sources.drop 3)
      (columnTable "T" "x" 1) "c" (onlyColumn "T" "x" 1) rfl (by decide) (by decide)
      List.mem_cons_self (by decide) (by decide)
  have hsources : hidingQuery.sources = { source := .expression "VALUES (1)" } ::
      ⟨.table (columnTable "C" "x" 0), some "c.d"⟩ :: hidingQuery.sources.drop 2 := rfl
  have htakes : FromItem.Takes ⟨.table (columnTable "C" "x" 0), some "c.d"⟩ "c.x"
      ⟨onlyColumn "C" "x" 0, some "c.d"⟩ :=
    ⟨_, "c", "x", _, rfl, ⟨"C", .inr rfl, by decide⟩, by decide, by decide +kernel, rfl⟩
  obtain ⟨c, ⟨_, _, _, _, -, -, -, -, rfl⟩, hfound⟩ := column_of_takes (by decide) (by decide)
    (hsources.trans (List.singleton_append).symm)
    (List.forall_mem_singleton.mpr fun c ⟨_, _, _, _, htable, _⟩ => by cases htable) ⟨_, htakes⟩
  have hsame := Lookup.done.inj (hcolumn.symm.trans hfound)
  have halias : some "c" = some "c.d" := congrArg ColumnRef.tableAlias hsame
  exact absurd halias (by decide)

end Query

end DataAccess
