import DataAccess.Text.Letters
import DataAccess.Value

/-!
# Rows: values under labels

A `Header` is the list of labels of a result, and a `Row` is a record under such a header.
-/

namespace DataAccess

/-- The labels of the columns of a result. -/
structure Header where
  /-- The labels, in order. -/
  labels : List String := []
deriving DecidableEq, Inhabited

/-- The position of a label: of the same one, or else of the first that differs in case alone
(`Text.lowercase`). -/
def Header.indexOf? (h : Header) (label : String) : Option Nat :=
  h.labels.findIdx? (· == label) <|>
    h.labels.findIdx? fun l => Text.lowercase l == Text.lowercase label

/-- A record under a header. -/
structure Row where
  /-- The labels. -/
  header : Header
  /-- The values. -/
  values : Record
deriving Inhabited

namespace Row

/-- The value at a position. -/
def get? (r : Row) (index : Nat) : Option Value := r.values[index]?

/-- The value under a label (`Header.indexOf?`). -/
def getByLabel? (r : Row) (label : String) : Option Value :=
  (r.header.indexOf? label).bind r.get?

/-- A row as shown to a reader. -/
def display (r : Row) : String :=
  "Row[values=[" ++ ", ".intercalate (r.values.map (·.display)) ++ "]]"

end Row

end DataAccess
