import DataAccess.Dialect.Product
import DataAccess.Query.Basic

/-!
# Pagination: the window of rows in SQL

A `Pagination` says how a dialect writes the window of a query. `suffix?` is what is written, and
`isRendered` says whether that is the whole window, so that nothing is left to do with the rows.
-/

namespace DataAccess.Dialect

/-- How the window of a query is written. -/
inductive Pagination where
  /-- Not at all. -/
  | unwritten
  /-- As `OFFSET n ROWS FETCH NEXT m ROWS ONLY`, if both ends are set. -/
  | offsetFetch
  /-- As `LIMIT m OFFSET n`, if the number of rows is set. -/
  | limitOffset
deriving DecidableEq, Inhabited

namespace Pagination

/-- A word for each policy. -/
def word : Pagination → String
  | unwritten => "none"
  | offsetFetch => "offset_fetch"
  | limitOffset => "limit_offset"

/-- All policies. -/
def all : List Pagination := [unwritten, offsetFetch, limitOffset]

/-- The policy of that word. -/
def ofWord? (w : String) : Option Pagination :=
  all.find? fun p => p.word == w

/-- The policy of a product: `unwritten` without a known `vendor?`. Two vendors have `offsetFetch`
from a certain `majorVersion` on. -/
def ofProduct (p : Product) : Pagination :=
  match p.vendor? with
  | some .sqlServer => if 11 ≤ p.majorVersion then offsetFetch else unwritten
  | some .oracle => if 12 ≤ p.majorVersion then offsetFetch else unwritten
  | some .sqlite | some .postgres | some .mysql | some .mariadb | some .h2 | some .hsqldb =>
      limitOffset
  | none => unwritten

/-- Whether a largest number of rows can be written. -/
def writesMaxRows (p : Pagination) : Bool := p != unwritten

/-- Whether a first row can be written. -/
def writesFirstRow (p : Pagination) : Bool := p != unwritten

/-- Whether the whole window of a query is written: `suffix?` is there if the query is paginated. -/
def isRendered (p : Pagination) (q : Query) : Bool :=
  !q.isPaginated || match p with
    | unwritten => false
    | offsetFetch => q.maxRows.isSome && q.firstRow.isSome
    | limitOffset => q.maxRows.isSome

/-- A window as it is written. -/
inductive Suffix where
  /-- Skip `offset` rows and fetch the next `rows`. -/
  | offsetFetch (offset rows : Nat)
  /-- Take `rows` rows after `offset`. -/
  | limitOffset (rows offset : Nat)
deriving DecidableEq

/-- What is written of the window of a query under the policy `p`, `none` if `p` writes nothing for
it. -/
def suffix? (p : Pagination) (q : Query) : Option Suffix :=
  match p, q.maxRows, q.firstRow with
  | offsetFetch, some rows, some _ => some (.offsetFetch q.offset rows)
  | limitOffset, some rows, _ => some (.limitOffset rows q.offset)
  | _, _, _ => none

/-- The text of a window. An offset of zero is left out where the syntax allows it. -/
def Suffix.text : Suffix → String
  | offsetFetch offset rows => s!" OFFSET {offset} ROWS FETCH NEXT {rows} ROWS ONLY"
  | limitOffset rows 0 => s!" LIMIT {rows}"
  | limitOffset rows offset => s!" LIMIT {rows} OFFSET {offset}"

end Pagination

end DataAccess.Dialect
