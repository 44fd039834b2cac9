import DataAccess.Dialect.Basic
import DataAccess.Proofs.NameReader

/-!
# Table statements: what the statements that create and drop tables tell of them

The statement that creates a table names it, behind its schema if there is one, and then its columns
in order. Names may contain anything, commas, parentheses and whole statements included. They are
told from what stands around them all the same.

* **Columns** (`columnDefinition_eq`, `comma_not_mem_columnTraits`): a column is written as its name
  and then as its traits, which are the type, the size and whether it may be null. There is no comma
  in the traits.
* **Lists of columns** (`definitions_eq_iff`): lists of columns are written alike only if the names
  and the traits are the same, one by one.
* **Statements** (`tableStatement_eq_iff`): so are the statements that create tables, and those that
  drop them, only if schema and name are the same as well.
-/

namespace DataAccess

open Catalog Dialect

namespace SqlDialect

variable {d d' : SqlDialect} {c c' : Column} {cs cs' : List Column}

/-! ## Columns -/

/-- What is written of a column behind its name: the type (`typeName`), the size, and whether it may
be null. -/
def columnTraits (d : SqlDialect) (c : Column) : String :=
  " " ++ typeName d.vendor? c.type ++
    (match c.size with
      | some size => "(" ++ toString size ++ ")"
      | none => "") ++
    if c.nullable = some false then " NOT NULL" else ""

/-- **Columns**: a column is written as its `identifier` and then as its `columnTraits`. -/
theorem columnDefinition_eq (d : SqlDialect) (c : Column) :
    d.columnDefinition c = identifier c.name ++ d.columnTraits c := by
  unfold columnTraits
  rw [← String.append_assoc, ← String.append_assoc, ← String.append_assoc]
  rfl

/-- There is no comma in a `typeName`, in no dialect. -/
theorem comma_not_mem_typeName (vendor : Option Vendor) (t : ColumnType) :
    ',' ∉ (typeName vendor t).toList := by
  have hname (t : ColumnType) : ',' ∉ t.name.toList := by
    cases t <;> decide
  unfold typeName
  split <;> first | decide | exact hname _

/-- There is no comma in the traits of a column. -/
theorem comma_not_mem_columnTraits (d : SqlDialect) (c : Column) :
    ',' ∉ (d.columnTraits c).toList := by
  have hsize : ',' ∉ (match c.size with
      | some size => "(" ++ toString size ++ ")"
      | none => "").toList := by
    cases c.size with
    | none => decide
    | some size =>
        have hdigits : ',' ∉ (toString size).toList := by
          intro h
          have hdigit := Nat.isDigit_of_mem_toDigits (by decide) (by decide)
            (Nat.toList_repr (n := size.toNat) ▸ h)
          exact absurd hdigit (by decide)
        simp only [String.toList_append, List.mem_append, not_or]
        exact ⟨⟨by decide, hdigits⟩, by decide⟩
  have hnull : ',' ∉ (if c.nullable = some false then " NOT NULL" else "").toList := by
    split <;> decide
  unfold columnTraits
  simp only [String.toList_append, List.mem_append, not_or]
  exact ⟨⟨⟨by decide, comma_not_mem_typeName _ _⟩, hsize⟩, hnull⟩

/-! ## Lists of columns -/

/-- The definitions of columns, `columnDefinition`, each behind a comma and a blank. -/
def definitionsBehind (d : SqlDialect) : List Column → String
  | [] => ""
  | c :: rest => ", " ++ (d.columnDefinition c ++ definitionsBehind d rest)

/-- The definitions of columns with commas between them are the first one and
`definitionsBehind`. -/
theorem intercalate_definitions (d : SqlDialect) (c : Column) (cs : List Column) :
    ", ".intercalate ((c :: cs).map d.columnDefinition) = d.columnDefinition c ++
      d.definitionsBehind cs := by
  induction cs generalizing c with
  | nil =>
      rw [List.map_singleton, String.intercalate_singleton, definitionsBehind, String.append_empty]
  | cons c' cs ih =>
      rw [List.map_cons, List.map_cons, String.intercalate_cons_cons, ← List.map_cons, ih,
        definitionsBehind,
        String.append_assoc]

/-- What follows the traits of a column begins with a comma if there is anything. -/
theorem head?_definitionsBehind (d : SqlDialect) (cs : List Column) :
    ∀ c ∈ (d.definitionsBehind cs).toList.head?, (c != ',') = false := by
  cases cs with
  | nil => exact nofun
  | cons c cs =>
      intro first hfirst
      rw [definitionsBehind, String.toList_append] at hfirst
      obtain rfl := Option.some.inj hfirst
      rfl

/-- The name of a column ends where its `columnTraits` begin. -/
theorem endsName_columnTraits (d : SqlDialect) (c : Column) (rest : String) :
    EndsName (d.columnTraits c ++ rest).toList := by
  intro first hfirst
  unfold columnTraits at hfirst
  simp only [String.append_assoc, String.toList_append] at hfirst
  obtain rfl := Option.some.inj hfirst
  decide

/-- Columns are written alike, whatever columns follow, only if their names, their `columnTraits`
and what follows are the same: the traits end at the first comma. -/
theorem columnDefinition_append_inj (h : d.columnDefinition c ++ d.definitionsBehind cs =
    d'.columnDefinition c' ++ d'.definitionsBehind cs') :
    c.name = c'.name ∧ d.columnTraits c = d'.columnTraits c' ∧
      d.definitionsBehind cs = d'.definitionsBehind cs' := by
  have hcomma {d : SqlDialect} {c : Column} : ∀ x ∈ (d.columnTraits c).toList,
      (x != ',') = true := by
    intro x hx
    refine bne_iff_ne.mpr fun hxc => comma_not_mem_columnTraits d c (hxc ▸ hx)
  rw [columnDefinition_eq, columnDefinition_eq, String.append_assoc, String.append_assoc,
    identifier_append_inj (endsName_columnTraits _ _ _) (endsName_columnTraits _ _ _)] at h
  obtain ⟨hname, hrest⟩ := h
  have hchars := congrArg String.toList hrest
  rw [String.toList_append, String.toList_append] at hchars
  obtain ⟨htraits, hbehind⟩ := append_inj_of_head? hcomma (d.head?_definitionsBehind cs) hcomma
    (d'.head?_definitionsBehind cs') hchars
  exact ⟨hname, String.toList_inj.mp htraits, String.toList_inj.mp hbehind⟩

/-- Definitions behind commas are not empty. -/
theorem definitionsBehind_cons_ne_empty (d : SqlDialect) (c : Column) (cs : List Column) :
    d.definitionsBehind (c :: cs) ≠ "" := by
  intro h
  have hchars := congrArg String.toList h
  rw [definitionsBehind, String.toList_append] at hchars
  cases hchars

/-- `definitionsBehind` are equal only if the names of the columns and their traits are. -/
theorem definitionsBehind_inj (h : d.definitionsBehind cs = d'.definitionsBehind cs') :
    cs.map (·.name) = cs'.map (·.name) ∧ cs.map d.columnTraits = cs'.map d'.columnTraits := by
  induction cs generalizing cs' with
  | nil =>
      cases cs' with
      | nil => exact ⟨rfl, rfl⟩
      | cons c' cs' => exact absurd h.symm (definitionsBehind_cons_ne_empty d' c' cs')
  | cons c cs ih =>
      cases cs' with
      | nil => exact absurd h (definitionsBehind_cons_ne_empty d c cs)
      | cons c' cs' =>
          obtain ⟨hname, htraits, hbehind⟩ :=
            columnDefinition_append_inj ((String.append_right_inj ", ").mp h)
          obtain ⟨hnames, hothers⟩ := ih hbehind
          rw [List.map_cons, List.map_cons, List.map_cons, List.map_cons, hname, htraits,
            hnames, hothers]
          exact ⟨rfl, rfl⟩

/-- A definition is not empty. -/
theorem columnDefinition_append_ne_empty (d : SqlDialect) (c : Column) (rest : String) :
    d.columnDefinition c ++ rest ≠ "" := by
  intro h
  have hread := readName?_identifier c.name (endsName_columnTraits d c rest)
  rw [← String.toList_append, ← String.append_assoc, ← columnDefinition_eq, h] at hread
  cases hread

/-- `columnDefinition` is the name of a column and its `columnTraits`. -/
theorem map_columnDefinition (d : SqlDialect) (cs : List Column) :
    cs.map d.columnDefinition =
      List.zipWith (fun name traits => identifier name ++ traits) (cs.map (·.name))
        (cs.map d.columnTraits) := by
  rw [List.zipWith_map, List.zipWith_self]
  exact List.map_congr_left fun c _ => columnDefinition_eq d c

/-- **Lists of columns** are written alike only if their names and their `columnTraits` are the
same, in order. -/
theorem definitions_eq_iff :
    ", ".intercalate (cs.map d.columnDefinition) = ", ".intercalate (cs'.map d'.columnDefinition) ↔
      cs.map (·.name) = cs'.map (·.name) ∧ cs.map d.columnTraits = cs'.map d'.columnTraits := by
  constructor
  · intro h
    cases cs with
    | nil =>
        cases cs' with
        | nil => exact ⟨rfl, rfl⟩
        | cons c' cs' =>
            rw [intercalate_definitions] at h
            exact absurd h.symm (columnDefinition_append_ne_empty _ _ _)
    | cons c cs =>
        rw [intercalate_definitions] at h
        cases cs' with
        | nil => exact absurd h (columnDefinition_append_ne_empty _ _ _)
        | cons c' cs' =>
            rw [intercalate_definitions] at h
            have hbehind : d.definitionsBehind (c :: cs) = d'.definitionsBehind (c' :: cs') :=
              congrArg (", " ++ ·) h
            exact definitionsBehind_inj hbehind
  · rintro ⟨hnames, htraits⟩
    rw [map_columnDefinition, map_columnDefinition, hnames, htraits]

/-! ## Statements -/

/-- **Statements.** The statements that create two tables, be it in different dialects `d` and `d'`,
are the same only if the tables have the same schema or both none, the same name, and columns of the
same names and `columnTraits` in the same order. The statements that drop two tables are the same
only if schema and name are. -/
theorem tableStatement_eq_iff (d d' : SqlDialect) (t u : Table) :
    (d.createTable t = d'.createTable u ↔
      t.schemaName = u.schemaName ∧ t.name = u.name ∧ t.columnNames = u.columnNames ∧
        t.columns.map d.columnTraits = u.columns.map d'.columnTraits) ∧
    (d.dropTable t = d'.dropTable u ↔ t.schemaName = u.schemaName ∧ t.name = u.name) := by
  have hopens (rest : String) : EndsTable (" (" ++ rest).toList := by
    rw [String.toList_append]
    exact ⟨fun c hc => Option.some.inj hc ▸ by decide, by simp⟩
  constructor
  · unfold createTable
    rw [String.append_left_inj, String.append_assoc, String.append_assoc, String.append_assoc,
      String.append_assoc,
      String.append_right_inj, tableText_append_inj (hopens _) (hopens _), String.append_right_inj,
        definitions_eq_iff]
    rfl
  · unfold dropTable
    rw [String.append_right_inj, tableText_eq_iff]

end SqlDialect

end DataAccess
