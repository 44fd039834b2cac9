import DataAccess.Proofs.LabelParts
import DataAccess.Proofs.LiteralReader
import DataAccess.Proofs.TableStatements

/-!
# Column sizes: the sizes that are read back from a table statement

The statement that creates a table writes the type of a column as a name and, if the column has a
size, the size in parentheses behind it. The size of a type is read from the first parentheses there
are. Those are not the ones behind the name if the name has parentheses of its own.

* **Words** (`readUInt32?_toString`): a word of 32 bits is read back from its digits.
* **The first parentheses** (`nativeTypeSize?_parentheses`): what stands between them decides,
  whatever follows.
* **Parentheses of its own** (`parenthesis_not_mem_typeName`): the name of a type has none, but for
  the truth values of Oracle and the long texts and bytes of SQL Server.
* **Types** (`nativeTypeSize?_typeName`): which size is read back from a type that has been given a
  size or none.
* **Statements** (`createTable_sizes`): the statement that creates a table tells the sizes of its
  columns exactly if those types have the sizes that their names tell.
-/

namespace DataAccess

open Catalog Dialect Text

/-! ## Words -/

namespace Text

/-- **Words**: a word of 32 bits is read back from its digits, by `readUInt32?`. -/
@[simp] theorem readUInt32?_toString (n : UInt32) : readUInt32? (toString n).toList = some n := by
  have htext : (toString n).toList = Nat.toDigits 10 n.toNat := Nat.toList_repr
  obtain ⟨c, cs, hcs⟩ := List.exists_cons_of_ne_nil (Nat.toDigits_ne_nil (b := 10) (n := n.toNat))
  have hsign : c ≠ '+' := by
    rintro rfl
    have hdigit : '+'.isDigit = true :=
      isDigit_of_mem_toDigits (n := n.toNat) (hcs ▸ List.mem_cons_self)
    exact absurd hdigit (by decide)
  have hread : readDigits? 0 (c :: cs) = some n.toNat := by
    rw [← hcs, readDigits?_eq fun _ hc => isDigit_of_mem_toDigits hc, Nat.ofDigitChars_ten_toDigits]
  unfold readUInt32?
  rw [htext, hcs]
  split
  next h => exact absurd (List.cons.inj h).1 hsign
  next => simp [hread, n.toNat_lt_size]

/-- A digit is no blank. -/
theorem not_isBlank_of_isDigit {c : Char} (h : c.isDigit = true) : isBlank c = false := by
  have hrange : 48 ≤ c.toNat ∧ c.toNat ≤ 57 := by
    simpa [Char.isDigit, UInt32.le_iff_toNat_le] using h
  simp only [isBlank, Bool.or_eq_false_iff, Bool.and_eq_false_iff, decide_eq_false_iff_not,
    beq_eq_false_iff_ne]
  omega

/-- The characters of a word are digits. -/
theorem isDigit_of_mem_toString {n : UInt32} {c : Char} (h : c ∈ (toString n).toList) :
    c.isDigit = true :=
  isDigit_of_mem_toDigits (Nat.toList_repr (n := n.toNat) ▸ h)

end Text

/-! ## The size of a type -/

namespace Dialect

variable {front inside : String}

/-- A character that is not in a text differs from all that are. -/
theorem bne_of_not_mem {a : Char} {cs : List Char} (h : a ∉ cs) : ∀ c ∈ cs, (c != a) = true :=
  fun _ hc => bne_iff_ne.mpr fun hca => h (hca ▸ hc)

/-- A type without parentheses has no size for `nativeTypeSize?`. -/
theorem nativeTypeSize?_eq_none {native : String} (h : '(' ∉ native.toList) :
    nativeTypeSize? native = none := by
  have hdrop : (native.toList ++ []).dropWhile (· != '(') = [] :=
    (takeWhile_append_of_head? (bne_of_not_mem h) (by simp)).2
  rw [List.append_nil] at hdrop
  rw [nativeTypeSize?, hdrop]

/-- **The first parentheses** decide about `nativeTypeSize?`, up to the first comma between them and
whatever follows. -/
theorem nativeTypeSize?_parentheses (hfront : '(' ∉ front.toList) (hinside : ')' ∉ inside.toList)
    (behind : String) :
    nativeTypeSize? (front ++ ("(" ++ inside ++ ")" ++ behind)) =
      readUInt32? (trimChars (inside.toList.takeWhile (· != ','))) := by
  have hopens : (front ++ ("(" ++ inside ++ ")" ++ behind)).toList.dropWhile (· != '(') =
      '(' :: (inside.toList ++ ')' :: behind.toList) := by
    simp only [String.toList_append, List.append_assoc]
    exact (takeWhile_append_of_head? (bne_of_not_mem hfront) (by simp)).2
  have hcloses : (inside.toList ++ ')' :: behind.toList).takeWhile (· != ')') = inside.toList :=
    (takeWhile_append_of_head? (bne_of_not_mem hinside) (by simp)).1
  rw [nativeTypeSize?, hopens]
  simp [hcloses]

/-- `nativeTypeSize?` reads the size in the first parentheses back. -/
theorem nativeTypeSize?_toString (hfront : '(' ∉ front.toList) (size : UInt32) (behind : String) :
    nativeTypeSize? (front ++ ("(" ++ toString size ++ ")" ++ behind)) = some size := by
  have hno {c : Char} (hc : c.isDigit = false) : c ∉ (toString size).toList := by
    intro h
    rw [isDigit_of_mem_toString h] at hc
    cases hc
  have hcomma : ((toString size).toList ++ []).takeWhile (· != ',') = (toString size).toList :=
    (takeWhile_append_of_head? (bne_of_not_mem (hno (by decide))) (by simp)).1
  rw [List.append_nil] at hcomma
  have hblank : trimChars (toString size).toList = (toString size).toList :=
    Label.trimWith_eq_self fun _ hc => not_isBlank_of_isDigit (isDigit_of_mem_toString hc)
  rw [nativeTypeSize?_parentheses hfront (hno (by decide)), hcomma, hblank, readUInt32?_toString]

/-- `nativeTypeSize?` reads no size from `(MAX)`. -/
theorem nativeTypeSize?_max (hfront : '(' ∉ front.toList) (behind : String) :
    nativeTypeSize? (front ++ ("(MAX)" ++ behind)) = none := by
  have hinside : ')' ∉ "MAX".toList := by decide
  exact (nativeTypeSize?_parentheses hfront hinside behind).trans (by decide)

/-! ## Types in table statements -/

/-- The size behind the name of a type, in parentheses, or nothing for `none`. -/
def sizeText : Option UInt32 → String
  | some size => "(" ++ toString size ++ ")"
  | none => ""

/-- The size that the `typeName` of a type and the size behind it tell. Some names tell a size of
their own, or have something else in its place. -/
def sizeToldBy (vendor : Option Vendor) (t : ColumnType) (size : Option UInt32) : Option UInt32 :=
  match vendor, t with
  | some .oracle, .boolean => some 1
  | some .sqlServer, .clob | some .sqlServer, .blob => none
  | _, _ => size

/-- **Parentheses of its own**: a `typeName` has none, but for the truth values of Oracle and the
long texts and bytes of SQL Server. -/
theorem parenthesis_not_mem_typeName {vendor : Option Vendor} {t : ColumnType}
    (htruth : vendor = some .oracle → t ≠ .boolean)
    (hlong : vendor = some .sqlServer → t ≠ .clob ∧ t ≠ .blob) :
    '(' ∉ (typeName vendor t).toList := by
  have hname (t : ColumnType) : '(' ∉ t.name.toList := by
    cases t <;> decide
  unfold typeName
  split
  all_goals first
    | decide
    | exact absurd rfl (htruth rfl)
    | exact absurd rfl (hlong rfl).1
    | exact absurd rfl (hlong rfl).2
    | exact hname _

/-- **Types**: which size is read back from a type that has been given a size or none:
`sizeToldBy`. -/
theorem nativeTypeSize?_typeName (vendor : Option Vendor) (t : ColumnType) (size : Option UInt32) :
    nativeTypeSize? (typeName vendor t ++ sizeText size) = sizeToldBy vendor t size := by
  unfold sizeToldBy
  split
  next =>
    have hfront : '(' ∉ "NUMBER".toList := by decide
    exact nativeTypeSize?_toString hfront 1 (sizeText size)
  next =>
    have hfront : '(' ∉ "NVARCHAR".toList := by decide
    exact nativeTypeSize?_max hfront (sizeText size)
  next =>
    have hfront : '(' ∉ "VARBINARY".toList := by decide
    exact nativeTypeSize?_max hfront (sizeText size)
  next htruth hclob hblob =>
    have hname : '(' ∉ (typeName vendor t).toList :=
      parenthesis_not_mem_typeName (fun hv ht => htruth hv ht) fun hv => ⟨hclob hv, hblob hv⟩
    cases size with
    | none => rw [sizeText, String.append_empty, nativeTypeSize?_eq_none hname]
    | some size =>
        have hread := nativeTypeSize?_toString hname size ""
        rwa [String.append_empty] at hread

/-- The size that is read back (`sizeToldBy`) is the one given, unless the name has parentheses of
its own that say something else. -/
theorem sizeToldBy_eq_iff {vendor : Option Vendor} {t : ColumnType} {size : Option UInt32} :
    sizeToldBy vendor t size = size ↔
      (vendor = some .oracle → t = .boolean → size = some 1) ∧
        (vendor = some .sqlServer → t = .clob ∨ t = .blob → size = none) := by
  unfold sizeToldBy
  split
  next => simp [eq_comm]
  next => simp [eq_comm]
  next => simp [eq_comm]
  next htruth hclob hblob =>
    simp only [true_iff]
    refine ⟨fun hv ht => (htruth hv ht).elim, ?_⟩
    rintro hv (ht | ht)
    · exact (hclob hv ht).elim
    · exact (hblob hv ht).elim

end Dialect

namespace SqlDialect

/-- The type of a column as the statement that creates its table has it: `typeName`, and `sizeText`
behind it. -/
def typeText (d : SqlDialect) (c : Column) : String :=
  typeName d.vendor? c.type ++ sizeText c.size

/-- What a statement says of the empty cells of a column. -/
def nullabilityText (c : Column) : String :=
  if c.nullable = some false then " NOT NULL" else ""

/-- `d.columnDefinition c` is the name of the column, its `typeText` and its `nullabilityText`. -/
theorem columnDefinition_eq_typeText (d : SqlDialect) (c : Column) :
    d.columnDefinition c = identifier c.name ++ " " ++ d.typeText c ++ nullabilityText c := by
  rw [typeText, ← String.append_assoc]
  rfl

/-- **Statements.** The statement `d.createTable t` has the type of each column (`typeText`) between
its name and what is said of its empty cells. The sizes that are read back from these types by
`nativeTypeSize?` are the sizes of the columns exactly if each truth value in the dialect of Oracle
has the size one, and no long text or bytes in that of SQL Server have a size. -/
theorem createTable_sizes (d : SqlDialect) (t : Table) :
    d.createTable t = "CREATE TABLE " ++ tableText t ++ " (" ++
        ", ".intercalate (t.columns.map fun c => identifier c.name ++ " " ++ d.typeText c ++
          nullabilityText c) ++ ")" ∧
      (t.columns.map fun c => nativeTypeSize? (d.typeText c)) =
        t.columns.map (fun c => sizeToldBy d.vendor? c.type c.size) ∧
      ((t.columns.map fun c => nativeTypeSize? (d.typeText c)) = t.columns.map (·.size) ↔
        ∀ c ∈ t.columns, (d.vendor? = some .oracle → c.type = .boolean → c.size = some 1) ∧
          (d.vendor? = some .sqlServer → c.type = .clob ∨ c.type = .blob → c.size = none)) := by
  have hread (c : Column) : nativeTypeSize? (d.typeText c) = sizeToldBy d.vendor? c.type c.size :=
    nativeTypeSize?_typeName d.vendor? c.type c.size
  have hwritten : t.columns.map d.columnDefinition =
      t.columns.map fun c => identifier c.name ++ " " ++ d.typeText c ++ nullabilityText c :=
    List.map_congr_left fun c _ => columnDefinition_eq_typeText d c
  refine ⟨?_, List.map_congr_left fun c _ => hread c, ?_⟩
  · exact congrArg (fun columns => "CREATE TABLE " ++ tableText t ++ " (" ++
      ", ".intercalate columns ++ ")") hwritten
  · simp only [List.map_inj_left, hread, sizeToldBy_eq_iff]

/-- A column of truth values that has been given the size 5. -/
def sizedTruth : Column :=
  { name := "x", type := .boolean, size := some 5, ordinal := 0, owner := default }

/-- The size of `sizedTruth` does not survive in the dialect of Oracle: it is written behind the
`(1)` of `NUMBER(1)`, and the 1 is read. -/
theorem createTable_size_replaced :
    (ofProduct ⟨"Oracle", "12.2"⟩).columnDefinition sizedTruth = "x NUMBER(1)(5)" ∧
      nativeTypeSize? "NUMBER(1)(5)" = some 1 ∧
      ¬ ∀ (d : SqlDialect) (c : Column) (n : UInt32), c.size = some n →
        nativeTypeSize? (d.typeText c) = some n := by
  refine ⟨by decide, by decide, fun h => ?_⟩
  have hread := h (ofProduct ⟨"Oracle", "12.2"⟩) sizedTruth 5 rfl
  rw [typeText, nativeTypeSize?_typeName] at hread
  exact absurd hread (by decide)

end SqlDialect

end DataAccess
