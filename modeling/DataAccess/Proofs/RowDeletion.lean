import DataAccess.Proofs.ParameterBinding
import Mathlib.Algebra.GroupWithZero.Nat

/-!
# Row deletion: what is deleted is what would be selected

The statement that deletes the rows of a table for which all conditions hold differs from the query
for these rows in its keyword alone. Both are written with the same conditions behind the same
table.

* **Behind a text** (`rendered_append`): a fragment behind a text has its markers where they were,
  moved by the length of that text.
* **Deletions** (`deleteRows_eq_behind`, `compile_eq_behind`): a deletion and a query are the same
  conditions behind different texts.
* **The same rows** (`deleteRows_eq_compile`): the text of a deletion is that of the query with
  `DELETE` in the place of `SELECT *`, and all its markers are moved by the difference.
-/

namespace DataAccess

open Catalog Dialect Fragment

/-! ## Behind a text -/

namespace Dialect

/-- A rendered text behind the text `front`: its markers are moved by `front.utf8ByteSize`. -/
def Rendered.behind (front : String) (r : Rendered) : Rendered :=
  ⟨front ++ r.sql, r.markers.map (front.utf8ByteSize + ·)⟩

namespace Fragment

/-- The places of the markers move with the place where a fragment begins:
`markersFrom (shift + offset) f` adds `shift` to each. -/
theorem markersFrom_add (shift offset : Nat) (f : Fragment) :
    markersFrom (shift + offset) f = (markersFrom offset f).map (shift + ·) := by
  induction f generalizing offset with
  | nil => rfl
  | cons piece rest ih =>
      cases piece with
      | text s => rw [markersFrom, markersFrom, Nat.add_assoc, ih]
      | marker => rw [markersFrom, markersFrom, Nat.add_assoc, ih, List.map_cons]

/-- **Behind a text**: a fragment `g` behind one without markers is rendered `behind` the text of
that one. -/
theorem rendered_append {f : Fragment} (h : f.count .marker = 0) (g : Fragment) :
    (f ++ g).rendered = g.rendered.behind (sql f) := by
  have hnone : markersFrom 0 f = [] :=
    List.eq_nil_of_length_eq_zero ((length_markersFrom 0 f).trans h)
  unfold rendered Rendered.behind markers
  rw [sql_append, markersFrom_append, hnone, List.nil_append, Nat.add_comm, markersFrom_add]

end Fragment

end Dialect

/-! ## Deletions -/

/-- The number of parameters of several conditions is the sum of theirs. -/
theorem FilterItem.parameterCounts_eq_sum (filters : List FilterItem) :
    FilterItem.parameterCounts filters = (filters.map (·.parameterCount)).sum := by
  induction filters with
  | nil => rfl
  | cons item rest ih => rw [FilterItem.parameterCounts, List.map_cons, List.sum_cons, ih]

namespace SqlDialect

/-- The conditions of a query or of a deletion, with their keyword: the `clause` " WHERE " of
`filterFragments`. -/
def conditions (held : Holdings) (filters : List FilterItem) : Fragment :=
  clause " WHERE " " AND " (filterFragments held filters)

/-- Conditions have a marker for each of their parameters. -/
theorem length_markers_conditions (held : Holdings) (filters : List FilterItem) :
    (conditions held filters).rendered.markers.length = (filters.map (·.parameterCount)).sum := by
  rw [← FilterItem.parameterCounts_eq_sum, ← totalMarkers_filterFragments held]
  exact (length_markers _).trans (count_clause _ _ _)

variable (d : SqlDialect) (outside : Holdings) (t : Table) (filters : List FilterItem)

/-- **Deletions**: `d.deleteRows outside t filters` is the `conditions` behind "DELETE FROM" and the
table. -/
theorem deleteRows_eq_behind :
    d.deleteRows outside t filters =
      (conditions ((Holdings.ofTable t).union outside) filters).rendered.behind
        ("DELETE FROM " ++ tableText t) := by
  show (ofText ("DELETE FROM " ++ tableText t) ++ conditions _ filters).rendered = _
  rw [rendered_append (count_ofText _), sql_ofText]

/-- **Queries** for the rows of a table: `d.compile` is the same `conditions` behind "SELECT * FROM"
and the table. -/
theorem compile_eq_behind :
    d.compile outside { sources := [.ofTable t], filters } =
      (conditions ((Holdings.ofTable t).union outside) filters).rendered.behind
        ("SELECT * FROM " ++ tableText t) := by
  have hwindow : d.pagination.suffix? { sources := [.ofTable t], filters } = none := by
    cases d.pagination <;> rfl
  let front : Fragment :=
    ofText "SELECT " ++ ofText "*" ++ (ofText " FROM " ++ ofText (tableText t))
  have hfragment : d.fragment outside { sources := [.ofTable t], filters } =
      front ++ conditions ((Holdings.ofTable t).union outside) filters := by
    unfold fragment
    rw [hwindow]
    show front ++ conditions _ filters ++ [] ++ [] ++ [] ++ [] = _
    simp only [List.append_nil]
    rfl
  have hcount : front.count .marker = 0 := rfl
  have hsql : sql front = "SELECT * FROM " ++ tableText t := by
    show sql (ofText "SELECT " ++ ofText "*" ++ (ofText " FROM " ++ ofText (tableText t))) = _
    simp only [sql_append, sql_ofText]
    rw [← String.append_assoc]
    rfl
  rw [compile, hfragment, rendered_append hcount, hsql]

/-- **The same rows**: the statement that deletes the rows of a table for which all conditions hold
is the query for these rows with `DELETE` in the place of `SELECT *`. Its markers are those of the
query, each moved by the difference of the two, and there is one for each parameter of the
conditions. -/
theorem deleteRows_eq_compile (d : SqlDialect) (outside : Holdings) (t : Table)
    (filters : List FilterItem) :
    let selected := d.compile outside { sources := [.ofTable t], filters }
    let deleted := d.deleteRows outside t filters
    (∃ rest, selected.sql = "SELECT *" ++ rest ∧ deleted.sql = "DELETE" ++ rest) ∧
    selected.markers = deleted.markers.map (· + ("SELECT *".utf8ByteSize - "DELETE".utf8ByteSize)) ∧
    deleted.markers.length = (filters.map (·.parameterCount)).sum := by
  intro selected deleted
  let written := (conditions ((Holdings.ofTable t).union outside) filters).rendered
  have hselected : selected = written.behind ("SELECT * FROM " ++ tableText t) :=
    compile_eq_behind d outside t filters
  have hdeleted : deleted = written.behind ("DELETE FROM " ++ tableText t) :=
    deleteRows_eq_behind d outside t filters
  refine ⟨⟨" FROM " ++ tableText t ++ written.sql, ?_, ?_⟩, ?_, ?_⟩
  · rw [hselected, ← String.append_assoc, ← String.append_assoc]
    rfl
  · rw [hdeleted, ← String.append_assoc, ← String.append_assoc]
    rfl
  · rw [hselected, hdeleted]
    show written.markers.map _ = (written.markers.map _).map _
    rw [List.map_map]
    refine List.map_congr_left fun m _ => ?_
    have hselect : "SELECT * FROM ".utf8ByteSize = 14 := by decide
    have hdelete : "DELETE FROM ".utf8ByteSize = 12 := by decide
    have hkeywords : "SELECT *".utf8ByteSize - "DELETE".utf8ByteSize = 2 := by decide
    rw [Function.comp_apply, hkeywords, String.utf8ByteSize_append, String.utf8ByteSize_append,
      hselect, hdelete]
    omega
  · rw [hdeleted]
    show (written.markers.map _).length = _
    rw [List.length_map, length_markers_conditions]

end SqlDialect

end DataAccess
