import DataAccess.Proofs.LabelSearch
import Mathlib.Data.List.Pairwise

/-!
# Label round trip: a qualified label is read back

The qualified label of a table or a column is made of the names of its schema, its table and itself.
If these are names without dots, quotes and blanks, and siblings have different names, the label is
read back as that table or column, with and without quotes around the names. If the names are ASCII
and different in more than case the same holds of each label that differs from it in case alone.

* **Different names** (`Label.Case.TellsApart`): siblings of which a rule for case finds the right
  one.
* **Written in another case** (`exists_join_of_same`): such a label is made of names in another
  case.
* **One schema** (`tableByPath?_written`, `columnByPath?_written`): what is found in the right
  schema, and that nothing is found in the nameless one (`tableByPath?_stray`,
  `columnByPath?_stray`).
* **All schemas** (`exists_of_searched`): no other schema comes first.
* **Round trip** (`tableByLabel?_join`, `columnByLabel?_join`): the names of a label lead to what
  has these names.
-/

namespace DataAccess.Catalog

open Text

variable {σ α β : Type}

/-! ## Different names -/

namespace Label

/-- Whether two names are equal under a rule for case: `a = b` under `.sensitive`, and
`equalIgnoringAsciiCase a b` under `.insensitive`. Only the letters of ASCII have a case here. -/
def Case.Same : Case → String → String → Prop
  | .sensitive, a, b => a = b
  | .insensitive, a, b => equalIgnoringAsciiCase a b = true

/-- Whether `name` may be part of a label (`IsPart`). Under `.insensitive` it is in ASCII, too, so
that `equalIgnoringCase` and `equalIgnoringAsciiCase` agree on it. -/
structure Case.Admits (case : Case) (name : String) : Prop where
  /-- It has no dots, quotes and blanks. -/
  part : IsPart name
  /-- It is in ASCII. -/
  ascii : case = .insensitive → ∀ c ∈ name.toList, IsAscii c

/-- Whether the names of siblings may be parts of labels and are different under a rule for case: no
two of them are `case.Same`. -/
structure Case.TellsApart (case : Case) (names : List String) : Prop where
  /-- They may be parts of labels. -/
  admits : ∀ name ∈ names, case.Admits name
  /-- They are different. -/
  different : names.Pairwise fun a b => ¬ case.Same a b

variable {case : Case} {a b c name : String}

instance : Decidable (case.Same a b) :=
  match case with
  | .sensitive => inferInstanceAs (Decidable (a = b))
  | .insensitive => inferInstanceAs (Decidable (equalIgnoringAsciiCase a b = true))

instance : Decidable (case.Admits name) :=
  decidable_of_iff (IsPart name ∧
    (case = .insensitive → name.toList.all (fun c => decide (IsAscii c)) = true)) <| by
    simp only [List.all_eq_true, decide_eq_true_eq]
    exact ⟨fun h => ⟨h.1, h.2⟩, fun h => ⟨h.part, h.ascii⟩⟩

instance {names : List String} : Decidable (case.TellsApart names) :=
  decidable_of_iff ((∀ name ∈ names, case.Admits name) ∧ names.Pairwise fun a b => ¬ case.Same a b)
    ⟨fun h => ⟨h.1, h.2⟩, fun h => ⟨h.admits, h.different⟩⟩

theorem Case.Same.refl (case : Case) (a : String) : case.Same a a := by
  cases case with
  | sensitive => rfl
  | insensitive => exact equalIgnoringAsciiCase_iff.mpr rfl

theorem Case.Same.symm (h : case.Same a b) : case.Same b a := by
  cases case with
  | sensitive => exact Eq.symm h
  | insensitive => exact equalIgnoringAsciiCase_iff.mpr (equalIgnoringAsciiCase_iff.mp h).symm

theorem Case.Same.trans (h : case.Same a b) (h' : case.Same b c) : case.Same a c := by
  cases case with
  | sensitive => exact Eq.trans h h'
  | insensitive =>
      exact equalIgnoringAsciiCase_iff.mpr
        ((equalIgnoringAsciiCase_iff.mp h).trans (equalIgnoringAsciiCase_iff.mp h'))

/-- If two texts differ in case alone, each character of the one is in the other in some case. -/
theorem exists_toLower_eq {c : Char} {cs ds : List Char}
    (h : cs.map Char.toLower = ds.map Char.toLower) (hc : c ∈ cs) :
    ∃ d ∈ ds, d.toLower = c.toLower :=
  List.mem_map.mp (h ▸ List.mem_map_of_mem hc)

/-- A name that is `case.Same` as one that `case` admits is admitted, too. -/
theorem Case.Admits.of_same (h : case.Admits b) (hsame : case.Same a b) : case.Admits a := by
  cases case with
  | sensitive =>
      obtain rfl : a = b := hsame
      exact h
  | insensitive =>
      have hlower := equalIgnoringAsciiCase_iff.mp hsame
      refine ⟨⟨?_, ?_, ?_⟩, fun _ c hc => ?_⟩
      · intro hnil
        rw [hnil] at hlower
        exact h.part.nonempty (List.map_eq_nil_iff.mp hlower.symm)
      · intro c hc
        obtain ⟨d, hd, hdc⟩ := exists_toLower_eq hlower hc
        rw [← isDelimiter_toLower, ← hdc, isDelimiter_toLower]
        exact h.part.noDelimiter d hd
      · intro c hc
        obtain ⟨d, hd, hdc⟩ := exists_toLower_eq hlower hc
        rw [← isBlank_toLower, ← hdc, isBlank_toLower]
        exact h.part.noBlank d hd
      · obtain ⟨d, hd, hdc⟩ := exists_toLower_eq hlower hc
        rw [← isAscii_toLower, ← hdc, isAscii_toLower]
        exact h.ascii rfl d hd

/-- So are names that are `case.Same` one by one. -/
theorem admits_of_forall₂ {names parts : List String} (h : List.Forall₂ case.Same names parts)
    (hparts : ∀ part ∈ parts, case.Admits part) : ∀ name ∈ names, case.Admits name := by
  induction h with
  | nil => exact nofun
  | cons hsame _ ih =>
      obtain ⟨hpart, hparts⟩ := List.forall_mem_cons.mp hparts
      exact List.forall_mem_cons.mpr ⟨hpart.of_same hsame, ih hparts⟩

/-- For admitted names, `Spells`, which goes by characters, is `case.Same`. -/
theorem spells_iff_same (ha : case.Admits a) (hb : case.Admits b) :
    Spells case a.toList b.toList ↔ case.Same a b := by
  cases case with
  | sensitive => exact spells_sensitive.trans String.toList_inj
  | insensitive =>
      exact (spells_insensitive (ha.ascii rfl) (hb.ascii rfl)).trans equalIgnoringAsciiCase_iff.symm

end Label

/-! ## Written in another case -/

namespace Label

variable {case : Case} {quoted : Bool}

/-- Delimiters have no case: a text that differs from delimiters in case alone is equal to them. -/
theorem eq_of_map_toLower_eq {cs ds : List Char} (hds : ∀ d ∈ ds, isDelimiter d = true)
    (h : cs.map Char.toLower = ds.map Char.toLower) : cs = ds := by
  induction ds generalizing cs with
  | nil => exact List.map_eq_nil_iff.mp h
  | cons d ds ih =>
      obtain ⟨hd, hds⟩ := List.forall_mem_cons.mp hds
      have hlow : d.toNat < 65 := by
        rcases isDelimiter_iff.mp hd with rfl | rfl <;> decide
      obtain ⟨c, cs, rfl, hc, hcs⟩ := List.map_eq_cons_iff.mp h
      rw [eq_of_toLower_eq hlow (hc.trans (toLower_of_lt hlow)), ih hds hcs]

/-- A text that differs from `written quoted parts` in case alone is `written quoted parts'` for
names `parts'` that differ from `parts` in case alone. -/
theorem exists_written_of_map_toLower : (parts : List String) → {cs : List Char} →
    cs.map Char.toLower = (written quoted parts).map Char.toLower →
      ∃ parts', cs = written quoted parts' ∧ List.Forall₂ Case.insensitive.Same parts' parts
  | [], cs, h => ⟨[], List.map_eq_nil_iff.mp h, .nil⟩
  | [part], cs, h => by
      rw [written, List.map_append] at h
      obtain ⟨name, ends, rfl, hname, hends⟩ := List.map_eq_append_iff.mp h
      have hquotes :=
        eq_of_map_toLower_eq (fun c hc => isDelimiter_of_isQuote (isQuote_of_mem_quotes hc)) hends
      refine ⟨[String.ofList name], ?_, .cons (equalIgnoringAsciiCase_iff.mpr ?_) .nil⟩
      · rw [written, String.toList_ofList, hquotes]
      · rw [String.toList_ofList, hname]
  | part :: next :: parts, cs, h => by
      rw [written, List.map_append, List.map_append] at h
      obtain ⟨name, after, rfl, hname, hafter⟩ := List.map_eq_append_iff.mp h
      obtain ⟨delimiters, rest, rfl, hdelimiters, hrest⟩ := List.map_eq_append_iff.mp hafter
      have hbetween := eq_of_map_toLower_eq (fun c hc => isDelimiter_of_mem_between hc) hdelimiters
      obtain ⟨parts', rfl, hparts⟩ := exists_written_of_map_toLower (next :: parts) hrest
      refine ⟨String.ofList name :: parts', ?_, .cons (equalIgnoringAsciiCase_iff.mpr ?_) hparts⟩
      · cases hparts with
        | cons _ _ => rw [written, String.toList_ofList, hbetween]
      · rw [String.toList_ofList, hname]

/-- **Written in another case**: a label that is `case.Same` as `join quoted parts` is
`join quoted parts'` for names with `case.Same` one by one. -/
theorem exists_join_of_same {label : String} {parts : List String}
    (h : case.Same label (join quoted parts)) :
    ∃ parts', label = join quoted parts' ∧ List.Forall₂ case.Same parts' parts := by
  cases case with
  | sensitive => exact ⟨parts, h, List.forall₂_same.mpr fun part _ => .refl .sensitive part⟩
  | insensitive =>
      have hlower := equalIgnoringAsciiCase_iff.mp h
      rw [join, String.toList_ofList, List.map_append] at hlower
      obtain ⟨front, rest, hlabel, hfront, hrest⟩ := List.map_eq_append_iff.mp hlower
      have hquotes :=
        eq_of_map_toLower_eq (fun c hc => isDelimiter_of_isQuote (isQuote_of_mem_quotes hc)) hfront
      obtain ⟨parts', rfl, hparts⟩ := exists_written_of_map_toLower parts hrest
      refine ⟨parts', ?_, hparts⟩
      rw [join, ← hquotes, ← hlabel, String.ofList_toList]

end Label

/-! ## Finding names -/

section Finding

open Label

variable {case : Case} {xs : List β} {nameOf : β → String} {x : β} {name : String}

/-- If `x` is the only element of `xs` with `p`, then `xs.find? p = some x`. -/
theorem find?_eq_some_of_unique {p : β → Bool} (hx : x ∈ xs) (hp : p x = true)
    (hunique : ∀ y ∈ xs, p y = true → y = x) : xs.find? p = some x := by
  cases hfind : xs.find? p with
  | none => exact absurd hp (List.find?_eq_none.mp hfind x hx)
  | some y => rw [hunique y (List.mem_of_find?_eq_some hfind) (List.find?_some hfind)]

/-- The alternative `x? <|> y?` is `some x` if `x?` can be nothing else and `y?` is `some x` where
`x?` is `none`. -/
theorem orElse_eq_some {x? y? : Option β} (h : ∀ y, x? = some y → y = x)
    (hnone : x? = none → y? = some x) :
    (x? <|> y?) = some x := by
  cases x? with
  | none => exact hnone rfl
  | some y => rw [h y rfl]; rfl

/-- Siblings that a rule `TellsApart` and whose names are `case.Same` are one. -/
theorem eq_of_same (h : case.TellsApart (xs.map nameOf)) {y : β} (hx : x ∈ xs) (hy : y ∈ xs)
    (hsame : case.Same (nameOf y) (nameOf x)) : y = x := by
  by_contra hne
  have hpairwise := List.pairwise_map.mp h.different
  have : Std.Symm fun a b : β => ¬ case.Same (nameOf a) (nameOf b) :=
    ⟨fun _ _ hdiffer hback => hdiffer hback.symm⟩
  exact hpairwise.forall hy hx hne hsame

/-- A name that is `case.Same` as that of the sibling `x` finds `x`, by `==` or else by
`equalIgnoringCase`. -/
theorem find_eq_some (h : case.TellsApart (xs.map nameOf)) (hx : x ∈ xs)
    (hname : case.Same name (nameOf x)) :
    (xs.find? (fun y => nameOf y == name) <|> xs.find? fun y => equalIgnoringCase (nameOf y) name) =
      some x := by
  have hadmits : ∀ y ∈ xs, case.Admits (nameOf y) := fun y hy => h.admits _ (List.mem_map_of_mem hy)
  have hadmitted : case.Admits name := (hadmits x hx).of_same hname
  apply orElse_eq_some
  · intro y hfound
    have hexact : nameOf y = name := by simpa using List.find?_some hfound
    exact eq_of_same h hx (List.mem_of_find?_eq_some hfound) (hexact ▸ hname)
  · intro hnone
    cases case with
    | sensitive =>
        obtain rfl : name = nameOf x := hname
        exact absurd (by simp) (List.find?_eq_none.mp hnone x hx)
    | insensitive =>
        have hsame : ∀ y ∈ xs, (equalIgnoringCase (nameOf y) name = true ↔
            Case.insensitive.Same (nameOf y) name) :=
          fun y hy =>
            equalIgnoringCase_iff_of_isAscii ((hadmits y hy).ascii rfl) (hadmitted.ascii rfl)
        apply find?_eq_some_of_unique hx ((hsame x hx).mpr hname.symm)
        exact fun y hy hfound => eq_of_same h hx hy (((hsame y hy).mp hfound).trans hname)

/-- A name with a dot finds no sibling, since none of their names has one (`Case.Admits`). -/
theorem find_eq_none (h : case.TellsApart (xs.map nameOf)) (hname : '.' ∈ name.toList) :
    (xs.find? (fun y => nameOf y == name) <|> xs.find? fun y => equalIgnoringCase (nameOf y) name) =
      none := by
  have hdiffers : ∀ y ∈ xs, equalIgnoringCase (nameOf y) name = false := by
    intro y hy
    rcases hsame : equalIgnoringCase (nameOf y) name with _ | _
    · rfl
    · have hdot := (mem_of_equalIgnoringCase (by decide) (by decide) hsame).mpr hname
      exact absurd ((h.admits _ (List.mem_map_of_mem hy)).part.noDelimiter '.' hdot) (by decide)
  have hexact : xs.find? (fun y => nameOf y == name) = none := by
    apply List.find?_eq_none.mpr
    intro y hy hsame
    have hdiffer := hdiffers y hy
    rw [beq_iff_eq.mp hsame, equalIgnoringCase_iff.mpr rfl] at hdiffer
    cases hdiffer
  rw [hexact]
  exact List.find?_eq_none.mpr fun y hy => by simp [hdiffers y hy]

end Finding

/-! ## One schema -/

open Label

/-- Whether a rule for case `TellsApart` the names of the tables of a declaration, and the names of
the columns of each table. -/
structure SchemaDecl.Plain (case : Label.Case) (d : SchemaDecl) : Prop where
  /-- The names of the tables. -/
  tables : case.TellsApart (d.tables.map (·.name))
  /-- The names of the columns of each table. -/
  columns : ∀ t ∈ d.tables, case.TellsApart (t.columns.map (·.name))

instance {case : Label.Case} {d : SchemaDecl} : Decidable (d.Plain case) :=
  decidable_of_iff (case.TellsApart (d.tables.map (·.name)) ∧
      ∀ t ∈ d.tables, case.TellsApart (t.columns.map (·.name)))
    ⟨fun h => ⟨h.1, h.2⟩, fun h => ⟨h.tables, h.columns⟩⟩

/-- The names that lead to a table: that of its schema, if it has one, and its own. -/
def Table.parts (t : Table) : List String :=
  t.schemaName.toList ++ [t.name]

/-- The names that lead to a column: those of its schema and table, and its own. -/
def Column.parts (c : Column) : List String :=
  c.owner.schemaName.toList ++ [c.owner.name, c.name]

/-- The qualified label of a table is `join false t.parts`. -/
theorem Table.qualifiedLabel_eq_join (t : Table) : t.qualifiedLabel = join false t.parts := by
  unfold Table.qualifiedLabel TableRef.qualifiedLabel Table.parts Table.schemaName
  split
  · rename_i schema hname
    simp [hname, join, written, quotes, between, Table.name, ← String.toList_inj]
  · rename_i hname
    simp [hname, join, written, quotes, Table.name]

/-- The qualified label of a column is `join false c.parts` if its table is held. -/
theorem Column.qualifiedLabel_eq_join {held : Holdings} (c : Column)
    (hheld : held.holdsTable c.owner.key = true) :
    c.qualifiedLabel held = join false c.parts := by
  unfold Column.qualifiedLabel Column.table? Column.parts
  rw [if_pos hheld]
  unfold TableRef.qualifiedLabel
  dsimp only
  split
  · rename_i schema hname
    simp [hname, join, written, quotes, between, ← String.toList_inj]
  · rename_i hname
    simp [hname, join, written, quotes, between, ← String.toList_inj]

section Schema

variable {case : Label.Case} {d : SchemaDecl} {id : SchemaId} {t : Table} {c : Column}
    {quoted : Bool}

/-- A table of `d.build id` is built from a table that `d` declares. -/
theorem exists_of_mem_build (ht : t ∈ (d.build id).tables) :
    ∃ td ∈ d.tables, ∃ position, t = td.build id d.name position := by
  obtain ⟨⟨td, position⟩, hmem, rfl⟩ := List.mem_map.mp ht
  exact ⟨td, (List.mem_zipIdx' hmem).2 ▸ List.getElem_mem _, position, rfl⟩

/-- Each table of `d.build id` has the schema name `d.name`. -/
theorem schemaName_of_mem_build (ht : t ∈ (d.build id).tables) : t.schemaName = d.name := by
  obtain ⟨td, -, position, rfl⟩ := exists_of_mem_build ht
  rfl

/-- Each column of such a table refers to it: `c.owner = t.ref`. -/
theorem owner_of_mem_build (ht : t ∈ (d.build id).tables) (hc : c ∈ t.columns) :
    c.owner = t.ref := by
  obtain ⟨td, -, position, rfl⟩ := exists_of_mem_build ht
  obtain ⟨_, -, rfl⟩ := List.mem_map.mp hc
  rfl

/-- A rule for case `TellsApart` the names of the tables of `d.build id`, if `d.Plain case`. -/
theorem SchemaDecl.Plain.tellsTables (h : d.Plain case) (id : SchemaId) :
    case.TellsApart ((d.build id).tables.map (·.name)) := by
  have hnames := d.build_tableNames id
  unfold Schema.tableNames at hnames
  exact hnames ▸ h.tables

/-- So it does with the columns of each of these tables. -/
theorem SchemaDecl.Plain.tellsColumns (h : d.Plain case) (ht : t ∈ (d.build id).tables) :
    case.TellsApart (t.columns.map (·.name)) := by
  obtain ⟨td, htd, position, rfl⟩ := exists_of_mem_build ht
  have hnames := td.build_columnNames id d.name position
  unfold Table.columnNames at hnames
  exact hnames ▸ h.columns td htd

/-- The path of one name that is `case.Same` as `t.name` leads to `t`. -/
theorem tableByPath?_written (h : d.Plain case) (ht : t ∈ (d.build id).tables) {name : String}
    (hname : case.Same name t.name) :
    (d.build id).tableByPath? (written quoted [name]) = some t := by
  have hadmits := (h.tellsTables id).admits t.name (List.mem_map_of_mem ht)
  unfold Schema.tableByPath? Schema.table?
  rw [unquote_written (hadmits.of_same hname).part]
  exact find_eq_some (h.tellsTables id) ht hname

/-- A path of several names leads to no table of a plain declaration. -/
theorem tableByPath?_stray (h : d.Plain case) (part next : String) (parts : List String) :
    (d.build id).tableByPath? (written quoted (part :: next :: parts)) = none :=
  find_eq_none (h.tellsTables id) dot_mem_unquote_written

/-- The path of one name that is `case.Same` as `c.name` leads to `c`, in the table of `c`. -/
theorem column?_written (h : d.Plain case) (ht : t ∈ (d.build id).tables) (hc : c ∈ t.columns)
    {name : String} (hname : case.Same name c.name) :
    t.column? (unquote (written quoted [name])) = some c := by
  have hadmits := (h.tellsColumns ht).admits c.name (List.mem_map_of_mem hc)
  unfold Table.column?
  rw [unquote_written (hadmits.of_same hname).part]
  exact find_eq_some (h.tellsColumns ht) hc hname

/-- A path of several names leads to no column of a table of a plain declaration. -/
theorem column?_stray (h : d.Plain case) (ht : t ∈ (d.build id).tables) (part next : String)
    (parts : List String) : t.column? (unquote (written quoted (part :: next :: parts))) = none :=
  find_eq_none (h.tellsColumns ht) dot_mem_unquote_written

/-- Names that spell each other under a `rule` that is tried, `.sensitive` or `case` itself, are
`case.Same`. -/
theorem same_of_spells {rule : Label.Case} (hrule : rule = .sensitive ∨ rule = case) {a b : String}
    (ha : case.Admits a) (hb : case.Admits b) (hspells : Spells rule a.toList b.toList) :
    case.Same a b := by
  rcases hrule with rfl | rfl
  · rw [String.toList_inj.mp (spells_sensitive.mp hspells)]
    exact .refl case b
  · exact (spells_iff_same ha hb).mp hspells

variable (h : d.Plain case) (ht : t ∈ (d.build id).tables) (hc : c ∈ t.columns)
variable {table column : String} (htable : case.Same table t.name)
    (hcolumn : case.Same column c.name)

include h ht hc htable hcolumn

/-- Under a `rule` that is tried, `columnOfTables?` finds no column but `c` for the names of its
table and itself. -/
theorem eq_of_columnOfTables? {rule : Label.Case} (hrule : rule = .sensitive ∨ rule = case)
    {found : Column} (hfound : columnOfTables? rule (written quoted [table, column])
      (d.build id).tables = some found) :
    found = c := by
  have htables := h.tellsTables id
  have hadmits :=
    fun t' (ht' : t' ∈ (d.build id).tables) => htables.admits _ (List.mem_map_of_mem ht')
  obtain ⟨t', ht', hstrip⟩ := List.exists_of_findSome?_eq_some hfound
  obtain ⟨path, hpath, hcolumn'⟩ := Option.bind_eq_some_iff.mp hstrip
  have hadmitted := (hadmits t ht).of_same htable
  have hnext := ((h.tellsColumns ht).admits _ (List.mem_map_of_mem hc)).of_same hcolumn
  obtain ⟨hspells, rfl⟩ :=
    (stripName?_written (hadmits t' ht').part hadmitted.part hnext.part).mp hpath
  have hsame := same_of_spells hrule hadmitted (hadmits t' ht') hspells
  obtain rfl := eq_of_same htables ht ht' (hsame.symm.trans htable)
  exact Option.some.inj (hcolumn'.symm.trans (column?_written h ht hc hcolumn))

/-- Under `case` itself it does find a column. -/
theorem columnOfTables?_ne_none :
    columnOfTables? case (written quoted [table, column]) (d.build id).tables ≠ none := by
  have hadmits := (h.tellsTables id).admits _ (List.mem_map_of_mem ht)
  have hadmitted := hadmits.of_same htable
  have hnext := ((h.tellsColumns ht).admits _ (List.mem_map_of_mem hc)).of_same hcolumn
  have hstrip : stripName? case t.name (written quoted [table, column]) =
      some (written quoted [column]) :=
    (stripName?_written hadmits.part hadmitted.part hnext.part).mpr
      ⟨(spells_iff_same hadmitted hadmits).mpr htable, rfl⟩
  intro hnone
  have hmiss := List.findSome?_eq_none_iff.mp hnone t ht
  rw [hstrip, Option.bind_some, column?_written h ht hc hcolumn] at hmiss
  cases hmiss

/-- **One schema**: the path of the names of its table and itself leads to the column `c`. -/
theorem columnByPath?_written :
    (d.build id).columnByPath? (written quoted [table, column]) = some c := by
  have honly : ∀ rule, rule = .sensitive ∨ rule = case → ∀ found,
      columnOfTables? rule (written quoted [table, column]) (d.build id).tables =
        some found → found = c :=
    fun rule hrule found => eq_of_columnOfTables? h ht hc htable hcolumn hrule
  have hfound : columnOfTables? case (written quoted [table, column]) (d.build id).tables ≠ none :=
    columnOfTables?_ne_none h ht hc htable hcolumn
  unfold Schema.columnByPath?
  apply orElse_eq_some (honly _ (.inl rfl))
  intro hnone
  cases case with
  | sensitive => exact absurd hnone hfound
  | insensitive => exact orElse_eq_some (honly _ (.inr rfl)) fun hnone => absurd hnone hfound

omit ht hc htable hcolumn

/-- A path of three names or more leads to no column of a plain declaration. -/
theorem columnByPath?_stray {part next : String} (hpart : case.Admits part)
    (hnext : case.Admits next) (more : String) (parts : List String) :
    (d.build id).columnByPath? (written quoted (part :: next :: more :: parts)) = none := by
  have hmiss : ∀ rule, columnOfTables? rule (written quoted (part :: next :: more :: parts))
    (d.build id).tables =
      none := by
    intro rule
    apply List.findSome?_eq_none_iff.mpr
    intro t ht
    apply Option.bind_eq_none_iff.mpr
    intro path hpath
    have hadmits := (h.tellsTables id).admits _ (List.mem_map_of_mem ht)
    obtain ⟨-, rfl⟩ := (stripName?_written hadmits.part hpart.part hnext.part).mp hpath
    exact column?_stray h ht next more parts
  unfold Schema.columnByPath?
  rw [hmiss, hmiss]
  rcases htables : (d.build id).tables with _ | ⟨t, _ | ⟨t', ts⟩⟩
  · rfl
  · exact column?_stray h (htables ▸ List.mem_singleton_self t) part next (more :: parts)
  · rfl

end Schema

/-! ## All schemas -/

/-- Whether the names of the listed schemas may be parts of labels (`Case.Admits`), and no two of
them are `case.Same`. -/
structure PlainNames (case : Label.Case) (listed : List SchemaName) : Prop where
  /-- They may be parts of labels. -/
  admits : ∀ name, some name ∈ listed → case.Admits name
  /-- They are different. -/
  different : ∀ a b, some a ∈ listed → some b ∈ listed → case.Same a b → a = b

section Searching

variable {answer : (call : SourceCall) → σ → Except Error call.Answer × σ} {inSource : σ → Prop}
variable {mayFail : Prop} {listed : List SchemaName} {case : Label.Case} {r : Registry}
variable {find : Schema → List Char → Option α} {quoted : Bool} {part next : String}
    {parts : List String}
variable {a? : Option α}

/-- If the nameless schema is listed it comes first, so what `find` makes of the whole label there
is the result. -/
theorem exists_of_searched_none {label : List Char} (hlisted : none ∈ listed)
    (hsearched : r.Searched find label (sortNames listed) a?) :
    ∃ s, r.schema? (cacheKey none) = some s ∧ ∀ a, find s label = some a → a? = some a := by
  obtain ⟨names, hnames⟩ := sortNames_of_mem_none hlisted
  rw [hnames] at hsearched
  have hmissed : ∀ {first? : Option α}, r.Reads find .sensitive label none none →
      ∃ s, r.schema? (cacheKey none) = some s ∧ ∀ a, find s label = some a → first? = some a := by
    rintro first? ⟨s, hs, hnone⟩
    exact ⟨s, hs, fun a ha => nomatch hnone.trans ha⟩
  rcases hsearched with ⟨hfirst, -⟩ | ⟨hfirst, -⟩
  · cases hfirst with
    | hit hreads =>
        obtain ⟨s, hs, ha⟩ := hreads
        exact ⟨s, hs, fun a' ha' => ha.trans ha'⟩
    | miss hreads _ => exact hmissed hreads
  · cases hfirst with
    | miss hreads _ => exact hmissed hreads

variable (hr : (catalogStock answer inSource mayFail listed (SchemaDecl.Plain case)).Holds r)
variable (hlisted : PlainNames case listed) {own : String} (hown : some own ∈ listed)
variable (hpart : case.Same part own) (hnext : case.Admits next)
variable (hstray : ∀ (d : SchemaDecl) (id : SchemaId), d.Plain case →
  find (d.build id) (written quoted (part :: next :: parts)) = none)

include hlisted hown hpart hnext

/-- After `own`, of which `part` is a spelling, the label `written quoted (part :: next :: parts)`
goes on with `written quoted (next :: parts)`. -/
theorem pathAfter?_own : Label.pathAfter? case (written quoted (part :: next :: parts)) (some own) =
    some (written quoted (next :: parts)) := by
  have hadmits := hlisted.admits own hown
  have hadmitted := hadmits.of_same hpart
  exact (stripName?_written hadmits.part hadmitted.part hnext.part).mpr
    ⟨(spells_iff_same hadmitted hadmits).mpr hpart, rfl⟩

include hr hstray

/-- A result for the label that begins with `part` is read in the schema of `own`, under each `rule`
that is tried: no other listed name, and not the nameless schema, gives one. -/
theorem eq_own_of_reads {rule : Label.Case} (hrule : rule = .sensitive ∨ rule = case)
    {name : SchemaName} {a : α} (hname : name ∈ listed)
    (hreads : r.Reads find rule (written quoted (part :: next :: parts)) name (some a)) :
    ∃ s, r.schema? (cacheKey (some own)) = some s ∧
      find s (written quoted (next :: parts)) = some a := by
  have hadmitted := (hlisted.admits own hown).of_same hpart
  unfold Registry.Reads at hreads
  cases name with
  | none =>
      obtain ⟨s, hs, ha⟩ := hreads
      obtain ⟨d, id, -, -, hplain, rfl⟩ := hr.schemas _ s hs
      exact nomatch ha.trans (hstray d id hplain)
  | some name =>
      rcases hpath : Label.pathAfter? rule (written quoted (part :: next :: parts))
        (some name) with _ | path
      · simp only [hpath] at hreads
        cases hreads
      · simp only [hpath] at hreads
        obtain ⟨s, hs, ha⟩ := hreads
        have hadmits := hlisted.admits name hname
        obtain ⟨hspells, rfl⟩ :=
          (stripName?_written hadmits.part hadmitted.part hnext.part).mp hpath
        have hsame := same_of_spells hrule hadmitted hadmits hspells
        obtain rfl := hlisted.different name own hname hown (hsame.symm.trans hpart)
        exact ⟨s, hs, ha.symm⟩

/-- **All schemas**: what the search (`Registry.Searched`) comes to for a label that begins with a
name is what `find` makes of the rest of it in the schema of that name. -/
theorem exists_of_searched
    (hsearched : r.Searched find (written quoted (part :: next :: parts)) (sortNames listed) a?) :
    ∃ s, r.schema? (cacheKey (some own)) = some s ∧
      ∀ a, find s (written quoted (next :: parts)) = some a → a? = some a := by
  have hlists : ∀ name ∈ sortNames listed, name ∈ listed := fun name => mem_sortNames.mp
  have hhit : ∀ {rule : Label.Case} {name : SchemaName} {a : α}, rule = .sensitive ∨ rule = case →
      name ∈ listed → r.Reads find rule (written quoted (part :: next :: parts)) name (some a) →
      ∃ s, r.schema? (cacheKey (some own)) = some s ∧
        ∀ a', find s (written quoted (next :: parts)) = some a' → some a = some a' := by
    intro rule name a hrule hname hreads
    obtain ⟨s, hs, ha⟩ := eq_own_of_reads hr hlisted hown hpart hnext hstray hrule hname hreads
    exact ⟨s, hs, fun a' ha' => ha.symm.trans ha'⟩
  have hmiss : ∀ {first? : Option α},
    r.Reads find case (written quoted (part :: next :: parts)) (some own) none →
      ∃ s, r.schema? (cacheKey (some own)) = some s ∧
        ∀ a', find s (written quoted (next :: parts)) = some a' → first? = some a' := by
    intro first? hreads
    unfold Registry.Reads at hreads
    rw [pathAfter?_own hlisted hown hpart hnext] at hreads
    obtain ⟨s, hs, hnone⟩ := hreads
    exact ⟨s, hs, fun a' ha' => nomatch hnone.trans ha'⟩
  rcases hsearched with ⟨hexact, hfound⟩ | ⟨hexact, hother⟩
  · obtain ⟨a, rfl⟩ := Option.ne_none_iff_exists'.mp hfound
    obtain ⟨name, hname, hreads⟩ := hexact.exists_of_some
    exact hhit (.inl rfl) (hlists name hname) hreads
  · cases case with
    | sensitive => exact hmiss (hexact.forall_of_none (some own) (mem_sortNames.mpr hown))
    | insensitive =>
        cases a? with
        | some a =>
            obtain ⟨name, hname, hreads⟩ := hother.exists_of_some
            obtain ⟨_, hmem, rfl⟩ := List.mem_filterMap.mp hname
            exact hhit (.inr rfl) (hlists _ hmem) hreads
        | none =>
            have hmem : own ∈ (sortNames listed).filterMap id :=
              List.mem_filterMap.mpr ⟨some own, mem_sortNames.mpr hown, rfl⟩
            exact hmiss (hother.forall_of_none own hmem)

end Searching

/-! ## Round trip -/

/-- The function `cacheKey` is injective on names that are `PlainNames`. -/
theorem PlainNames.eq_of_cacheKey {case : Label.Case} {listed : List SchemaName}
    (h : PlainNames case listed)
    {a b : SchemaName} (ha : a ∈ listed) (hb : b ∈ listed) (hkey : cacheKey a = cacheKey b) :
    a = b := by
  have htoken : some namelessKey ∉ listed := by
    intro hmem
    exact absurd ((h.admits namelessKey hmem).part.noDelimiter '.' (by decide)) (by decide)
  exact eq_of_cacheKey_of_ne (fun hclash => htoken (hclash ▸ ha))
    (fun hclash => htoken (hclash ▸ hb)) hkey

section RoundTrip

variable {answer : (call : SourceCall) → σ → Except Error call.Answer × σ} {inSource : σ → Prop}
variable {listed : List SchemaName} {case : Label.Case} {w : Site σ}
variable {find : Schema → List Char → Option α}

/-- The regime of `catalogStock` does not depend on whether lookups may fail (`mayFail`). -/
theorem at_catalogStock {mayFail : Prop} (mayFail' : Prop) {good : SchemaDecl → Prop}
    (h : (catalogStock answer inSource mayFail listed good).regime.At w) :
    (catalogStock answer inSource mayFail' listed good).regime.At w :=
  ⟨⟨h.1.names, h.1.schemas, h.1.nextId⟩, h.2⟩

/-- After any run of `SharedEvent`s on a source that `Provides` the listed names, the site is in the
regime of `catalogStock`. -/
theorem Provides.at_run {good : SchemaDecl → Prop} (h : Provides answer inSource listed good)
    (preferred : Option String) (firstId : SchemaId) {source : σ} (hsource : inSource source)
    (es : List SharedEvent) :
    (catalogStock answer inSource True listed good).regime.At
      ((Shared.new preferred firstId source).run answer es).site :=
  (h.supplied True fun hnot => absurd trivial hnot).at_run h.stays
    (fun _ _ _ _ => trivial) preferred
    (Nat.zero_le firstId) hsource es

/-- What is cached under `key` after `resolve? find label` is `d.build id` for a good declaration
`d` with a listed name and `key = cacheKey d.name`. -/
theorem Provides.exists_of_cached {good : SchemaDecl → Prop}
    (h : Provides answer inSource listed good)
    (hw : (catalogStock answer inSource True listed good).regime.At w) {label : String}
    {key : CacheKey} {s : Schema}
    (hcached : ((Lookup.resolve? find label).run (.ofSource answer) w).2.registry.schema?
      key = some s) :
    ∃ d id, d.name ∈ listed ∧ key = cacheKey d.name ∧ good d ∧ s = d.build id := by
  have hsupplied := h.supplied True fun hnot => absurd trivial hnot
  exact (hsupplied.at_resolve? h.stays (fun _ _ _ _ => trivial) hw find label).1.schemas key s
    hcached

variable (h : Provides answer inSource listed (SchemaDecl.Plain case))
    (hdelivers : Delivers answer inSource listed)
variable (hlisted : PlainNames case listed)
variable (hw : (catalogStock answer inSource True listed (SchemaDecl.Plain case)).regime.At w)

include h hdelivers hw

/-- If each search for the label comes to what `find` makes of `rest` in the schema of `name`, so
does `resolve?`, and that schema is cached then. -/
theorem resolve?_of_searched {label : String} {path rest : List Char} {name : SchemaName}
    (hlabel : Label.normalize label = path) (hpath : path ≠ []) (hsearched : ∀ r a?,
      (catalogStock answer inSource True listed (SchemaDecl.Plain case)).Holds r →
      r.Searched find path (sortNames listed) a? →
        ∃ s, r.schema? (cacheKey name) = some s ∧ ∀ a, find s rest = some a → a? = some a) :
    ∃ s, ((Lookup.resolve? find label).run (.ofSource answer) w).2.registry.schema?
      (cacheKey name) = some s ∧
      ∀ a, find s rest = some a → ((Lookup.resolve? find label).run (.ofSource answer) w).1 =
        .ok (some a) := by
  have hsupplied := h.supplied False fun _ => hdelivers
  obtain ⟨a?, w₁, names, hsearch, hw₁, hnames, hfound⟩ :=
    exists_run_searchListed hsupplied h.stays id find path (at_catalogStock False hw)
  have hrun : (Lookup.searchListed find path).run (.ofSource answer) w = (.ok a?, w₁) := hsearch
  obtain rfl : names = sortNames listed := hnames
  obtain ⟨s, hs, ha⟩ := hsearched _ a? (at_catalogStock True hw₁).1 hfound
  subst hlabel
  rw [Lookup.resolve?_eq find label (by simpa using hpath), Lookup.run_bind_of_ok hrun]
  cases a? with
  | some found => exact ⟨s, hs, fun a hfound => by rw [← ha a hfound]; rfl⟩
  | none =>
      exact ⟨s, (Lookup.within_run answer _ w₁).schemas _ s hs, fun a hfound => nomatch ha a hfound⟩

include hlisted

/-- **Round trip**: for a label that is `case.Same` as `join quoted (name.toList ++ next :: parts)`,
`resolve? find` comes to what `find` makes of the names behind that of the schema. The schema of
`name` is cached then. -/
theorem resolve?_join (find : Schema → List Char → Option α) {name : SchemaName}
    (hname : name ∈ listed) {quoted : Bool} {next : String} {parts : List String}
    (hparts : ∀ part ∈ next :: parts, case.Admits part)
    (hstray : ∀ part next parts', List.Forall₂ case.Same parts' parts → case.Admits part →
      case.Admits next →
      ∀ (d : SchemaDecl) (id : SchemaId), d.Plain case →
        find (d.build id) (Label.written quoted (part :: next :: parts')) = none)
    {label : String} (hlabel : case.Same label (Label.join quoted (name.toList ++ next :: parts))) :
    ∃ others, List.Forall₂ case.Same others (next :: parts) ∧
      ∃ s, ((Lookup.resolve? find label).run (.ofSource answer) w).2.registry.schema?
        (cacheKey name) = some s ∧
        ∀ a, find s (Label.written quoted others) = some a →
          ((Lookup.resolve? find label).run (.ofSource answer) w).1 = .ok (some a) := by
  obtain ⟨names, rfl, hnames⟩ := Label.exists_join_of_same hlabel
  cases name with
  | none =>
      have hall := Label.admits_of_forall₂ hnames hparts
      obtain ⟨first, others, -, -, rfl⟩ := List.forall₂_cons_right_iff.mp hnames
      have hfirst := (hall first List.mem_cons_self).part
      refine ⟨first :: others, hnames, ?_⟩
      apply resolve?_of_searched h hdelivers hw (normalize_join fun p hp => (hall p hp).part)
        (written_ne_nil hfirst others)
      exact fun r a? _ hsearched => exists_of_searched_none hname hsearched
  | some own =>
      have hall := Label.admits_of_forall₂ hnames
        (List.forall_mem_cons.mpr ⟨hlisted.admits own hname, hparts⟩)
      obtain ⟨part, others, hpart, hothers, rfl⟩ := List.forall₂_cons_right_iff.mp hnames
      obtain ⟨second, more, -, hmore, rfl⟩ := List.forall₂_cons_right_iff.mp hothers
      have hfirst := hall part List.mem_cons_self
      have hsecond := hall second (List.mem_cons_of_mem _ List.mem_cons_self)
      refine ⟨second :: more, hothers, ?_⟩
      apply resolve?_of_searched h hdelivers hw (normalize_join fun p hp => (hall p hp).part)
        (written_ne_nil hfirst.part (second :: more))
      exact fun r a? hr hsearched => exists_of_searched hr hlisted hname hpart hsecond
        (hstray part second more hmore hfirst hsecond) hsearched

/-- **Round trip**: a label that is `case.Same` as `join quoted (name.toList ++ [table])` leads to
the schema of `name` and to the table there whose name is `case.Same` as `table`. -/
theorem tableByLabel?_join {name : SchemaName} (hname : name ∈ listed) {quoted : Bool}
    {table : String} (htable : case.Admits table) {label : String}
    (hlabel : case.Same label (Label.join quoted (name.toList ++ [table]))) :
    ∃ s, ((Lookup.tableByLabel? label).run (.ofSource answer) w).2.registry.schema?
      (cacheKey name) = some s ∧
      s.name = name ∧ ∀ t ∈ s.tables, case.Same table t.name →
        ((Lookup.tableByLabel? label).run (.ofSource answer) w).1 = .ok (some t) := by
  have hadmits : ∀ part ∈ [table], case.Admits part := by simpa using htable
  obtain ⟨others, hothers, s, hcached, hfound⟩ := resolve?_join h hdelivers hlisted hw
    Schema.tableByPath? hname hadmits
      (fun part next parts _ _ _ d id hplain => tableByPath?_stray hplain part next parts) hlabel
  obtain ⟨table', _, hsame, hnil, rfl⟩ := List.forall₂_cons_right_iff.mp hothers
  obtain rfl := List.forall₂_nil_right_iff.mp hnil
  obtain ⟨d, id, hd, hkey, hplain, rfl⟩ := h.exists_of_cached hw hcached
  refine ⟨d.build id, hcached, (hlisted.eq_of_cacheKey hname hd hkey).symm, fun t ht htable' => ?_⟩
  exact hfound t (tableByPath?_written hplain ht (hsame.trans htable'))

/-- **Round trip**: a label that is `case.Same` as `join quoted (name.toList ++ [table, column])`
leads to the schema of `name` and to the column there whose name and whose table's name are
`case.Same` as these. -/
theorem columnByLabel?_join {name : SchemaName} (hname : name ∈ listed) {quoted : Bool}
    {table column : String}
    (htable : case.Admits table) (hcolumn : case.Admits column) {label : String}
    (hlabel : case.Same label (Label.join quoted (name.toList ++ [table, column]))) :
    ∃ s, ((Lookup.columnByLabel? label).run (.ofSource answer) w).2.registry.schema?
      (cacheKey name) = some s ∧
      s.name = name ∧ ∀ t ∈ s.tables, ∀ c ∈ t.columns, case.Same table t.name →
        case.Same column c.name →
        ((Lookup.columnByLabel? label).run (.ofSource answer) w).1 = .ok (some c) := by
  have hadmits : ∀ part ∈ [table, column], case.Admits part := by simpa using ⟨htable, hcolumn⟩
  have hstray : ∀ part next parts, List.Forall₂ case.Same parts [column] → case.Admits part →
    case.Admits next →
      ∀ (d : SchemaDecl) (id : SchemaId), d.Plain case →
        (d.build id).columnByPath? (Label.written quoted (part :: next :: parts)) = none := by
    intro part next parts hparts hpart hnext d id hplain
    obtain ⟨more, rest, -, -, rfl⟩ := List.forall₂_cons_right_iff.mp hparts
    exact columnByPath?_stray hplain hpart hnext more rest
  obtain ⟨others, hothers, s, hcached, hfound⟩ := resolve?_join h hdelivers hlisted hw
    Schema.columnByPath? hname hadmits hstray hlabel
  obtain ⟨table', _, hsame, hmore, rfl⟩ := List.forall₂_cons_right_iff.mp hothers
  obtain ⟨column', _, hsame', hnil, rfl⟩ := List.forall₂_cons_right_iff.mp hmore
  obtain rfl := List.forall₂_nil_right_iff.mp hnil
  obtain ⟨d, id, hd, hkey, hplain, rfl⟩ := h.exists_of_cached hw hcached
  refine ⟨d.build id, hcached, (hlisted.eq_of_cacheKey hname hd hkey).symm,
    fun t ht c hc htable' hcolumn' => ?_⟩
  exact hfound c (columnByPath?_written hplain ht hc (hsame.trans htable') (hsame'.trans hcolumn'))

/-- **Round trip**: a table `t` of a cached schema is found by a label that is `case.Same` as
`t.qualifiedLabel`, or as `join true t.parts`, with quotes around each name. -/
theorem tableByLabel?_of_cached {label : String} {key : CacheKey} {s : Schema} {t : Table}
    (hcached : ((Lookup.tableByLabel? label).run (.ofSource answer) w).2.registry.schema? key =
      some s)
    (ht : t ∈ s.tables)
    (hlabel : case.Same label t.qualifiedLabel ∨ case.Same label (Label.join true t.parts)) :
    ((Lookup.tableByLabel? label).run (.ofSource answer) w).1 = .ok (some t) := by
  obtain ⟨d, id, hd, rfl, hplain, rfl⟩ := h.exists_of_cached hw hcached
  have htable := (hplain.tellsTables id).admits t.name (List.mem_map_of_mem ht)
  have hwritten : ∃ quoted, case.Same label (Label.join quoted (d.name.toList ++ [t.name])) := by
    rw [← schemaName_of_mem_build ht]
    rcases hlabel with hlabel | hlabel
    · exact ⟨false, t.qualifiedLabel_eq_join ▸ hlabel⟩
    · exact ⟨true, hlabel⟩
  obtain ⟨quoted, hlabel⟩ := hwritten
  obtain ⟨s, hsame, -, hfound⟩ := tableByLabel?_join h hdelivers hlisted hw hd htable hlabel
  obtain rfl := Option.some.inj (hcached.symm.trans hsame)
  exact hfound t ht (.refl case t.name)

/-- **Round trip**: so is a column `c` by `c.qualifiedLabel held`, as long as its table is held, or
by `join true c.parts`. -/
theorem columnByLabel?_of_cached {held : Holdings} {label : String} {key : CacheKey} {s : Schema}
    {t : Table} {c : Column}
    (hcached : ((Lookup.columnByLabel? label).run (.ofSource answer) w).2.registry.schema? key =
      some s)
    (ht : t ∈ s.tables) (hc : c ∈ t.columns)
    (hlabel : held.holdsTable t.ref.key = true ∧ case.Same label (c.qualifiedLabel held) ∨
      case.Same label (Label.join true c.parts)) :
    ((Lookup.columnByLabel? label).run (.ofSource answer) w).1 = .ok (some c) := by
  obtain ⟨d, id, hd, rfl, hplain, rfl⟩ := h.exists_of_cached hw hcached
  have htable := (hplain.tellsTables id).admits t.name (List.mem_map_of_mem ht)
  have hcolumn := (hplain.tellsColumns ht).admits c.name (List.mem_map_of_mem hc)
  have howner := owner_of_mem_build ht hc
  have hparts : c.parts = d.name.toList ++ [t.name, c.name] := by
    rw [← schemaName_of_mem_build ht, Column.parts, howner]
    rfl
  have hwritten : ∃ quoted, case.Same label (Label.join quoted c.parts) := by
    rcases hlabel with ⟨hheld, hlabel⟩ | hlabel
    · exact ⟨false, c.qualifiedLabel_eq_join (howner ▸ hheld) ▸ hlabel⟩
    · exact ⟨true, hlabel⟩
  obtain ⟨quoted, hlabel⟩ := hwritten
  rw [hparts] at hlabel
  obtain ⟨s, hsame, -, hfound⟩ :=
    columnByLabel?_join h hdelivers hlisted hw hd htable hcolumn hlabel
  obtain rfl := Option.some.inj (hcached.symm.trans hsame)
  exact hfound t ht c hc (.refl case t.name) (.refl case c.name)

end RoundTrip

/-- **Round trip**: whatever has been looked up and refreshed (`es`), let a label be `case.Same` as
the qualified label of a table or of a column of a schema that is cached in the end, or as
`Label.join true` of its `parts`. Then `tableByLabel?` answers with that table, and `columnByLabel?`
with that column. For names `table` and `column` that the rule admits, a label made of the name of a
listed schema and of these leads to what they name there, and that schema is cached then. -/
theorem label_roundTrip {answer : (call : SourceCall) → σ → Except Error call.Answer × σ}
    {inSource : σ → Prop} {listed : List SchemaName} {case : Label.Case}
    (h : Provides answer inSource listed (SchemaDecl.Plain case))
    (hdelivers : Delivers answer inSource listed) (hlisted : PlainNames case listed)
    (preferred : Option String) (firstId : SchemaId) {source : σ} (hsource : inSource source)
    (es : List SharedEvent) (held : Holdings) (label : String) :
    let w := ((Shared.new preferred firstId source).run answer es).site
    let tables := (Lookup.tableByLabel? label).run (.ofSource answer) w
    let columns := (Lookup.columnByLabel? label).run (.ofSource answer) w
    (∀ key s t, tables.2.registry.schema? key = some s → t ∈ s.tables →
        case.Same label t.qualifiedLabel ∨ case.Same label (Label.join true t.parts) →
          tables.1 = .ok (some t)) ∧
      (∀ key s t c, columns.2.registry.schema? key = some s → t ∈ s.tables → c ∈ t.columns →
        held.holdsTable t.ref.key = true ∧ case.Same label (c.qualifiedLabel held) ∨
            case.Same label (Label.join true c.parts) →
          columns.1 = .ok (some c)) ∧
      ∀ name ∈ listed, ∀ quoted table, case.Admits table →
        (case.Same label (Label.join quoted (name.toList ++ [table])) →
            ∃ s, tables.2.registry.schema? (cacheKey name) = some s ∧ s.name = name) ∧
          ∀ column, case.Admits column →
            case.Same label (Label.join quoted (name.toList ++ [table, column])) →
              ∃ s, columns.2.registry.schema? (cacheKey name) = some s ∧ s.name = name := by
  intro w tables columns
  have hw := h.at_run preferred firstId hsource es
  refine ⟨?_, ?_, fun name hname quoted table htable =>
    ⟨fun hlabel => ?_, fun column hcolumn hlabel => ?_⟩⟩
  · exact fun key s t hcached => tableByLabel?_of_cached h hdelivers hlisted hw hcached
  · exact fun key s t c hcached => columnByLabel?_of_cached h hdelivers hlisted hw hcached
  · obtain ⟨s, hcached, hs, -⟩ := tableByLabel?_join h hdelivers hlisted hw hname htable hlabel
    exact ⟨s, hcached, hs⟩
  · obtain ⟨s, hcached, hs, -⟩ :=
      columnByLabel?_join h hdelivers hlisted hw hname htable hcolumn hlabel
    exact ⟨s, hcached, hs⟩

/-- The same names in another case and with quotes, in a catalog with a nameless schema that has the
same table. -/
theorem label_roundTrip_otherCase :
    let table : TableDecl :=
      ⟨"T", .table, [⟨"A", .integer, none, none, none⟩, ⟨"B", .integer, none, none, none⟩]⟩
    let schemas : List SchemaDecl := [⟨none, [table]⟩, ⟨some "S", [table]⟩]
    let inSource := fun c : FixedCatalog => c.schemas = schemas ∧ c.phantoms = []
    let site := (Shared.new none 0 (⟨schemas, [], none, 0, 0⟩ : FixedCatalog)).site
    Provides FixedCatalog.answer inSource [none, some "S"] (SchemaDecl.Plain .insensitive) ∧
      Delivers FixedCatalog.answer inSource [none, some "S"] ∧
        PlainNames .insensitive [none, some "S"] ∧
      inSource ⟨schemas, [], none, 0, 0⟩ ∧
      ∃ c,
        ((Lookup.columnByLabel? "\"s\".\"t\".\"b\"").run (.ofSource FixedCatalog.answer) site).1 =
          .ok (some c) ∧
        c.parts = ["S", "T", "B"] := by
  intro table schemas inSource site
  have hprovides : Provides FixedCatalog.answer inSource [none, some "S"]
      (SchemaDecl.Plain .insensitive) :=
    FixedCatalog.provides (by decide +kernel)
  have hdelivers : Delivers FixedCatalog.answer inSource [none, some "S"] :=
    FixedCatalog.delivers schemas
  have hplain : PlainNames .insensitive [none, some "S"] := by
    have honly : ∀ {name : String}, some name ∈ [none, some "S"] → name = "S" := by simp
    constructor
    · intro name hname
      obtain rfl := honly hname
      decide +kernel
    · intro a b ha hb _
      rw [honly ha, honly hb]
  have hsource : inSource ⟨schemas, [], none, 0, 0⟩ := ⟨rfl, rfl⟩
  refine ⟨hprovides, hdelivers, hplain, hsource, ?_⟩
  obtain ⟨-, hcolumns, hnamed⟩ :=
    label_roundTrip hprovides hdelivers hplain none 0 hsource [] {} "\"s\".\"t\".\"b\""
  obtain ⟨s, hcached, -⟩ :=
    (hnamed (some "S") (by simp) true "T" (by decide +kernel)).2 "B" (by decide +kernel)
    (by decide +kernel)
  have hdeclared : Provides FixedCatalog.answer inSource [none, some "S"] (· ∈ schemas) :=
    FixedCatalog.provides fun _ hd => hd
  obtain ⟨d, id, -, hkey, hd, rfl⟩ :=
    hdeclared.exists_of_cached (hdeclared.at_run none 0 hsource []) hcached
  obtain rfl : d = ⟨some "S", [table]⟩ := by
    rcases List.mem_pair.mp hd with rfl | rfl
    · exact absurd hkey (by decide)
    · rfl
  refine ⟨_, hcolumns "S" _ _ _ hcached List.mem_cons_self
    (List.mem_cons_of_mem _ List.mem_cons_self) (.inr ?_), rfl⟩
  exact (by decide +kernel : Label.Case.insensitive.Same "\"s\".\"t\".\"b\""
    (Label.join true ["S", "T", "B"]))

end DataAccess.Catalog
