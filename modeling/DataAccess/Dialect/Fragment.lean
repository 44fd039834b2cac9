/-!
# Fragments: SQL text with parameter markers

A `Fragment` is a piece of SQL in which the parameter markers are still told apart from the text
around them. `Fragment.sql` is its text, with a question mark for each marker, and
`Fragment.markers` are the places of the markers in that text, in bytes.
-/

namespace DataAccess.Dialect

/-- A text or a marker. -/
inductive Piece where
  /-- A text. -/
  | text (s : String)
  /-- A parameter marker. -/
  | marker
deriving DecidableEq, Inhabited

/-- A sequence of texts and markers: SQL whose markers are still told apart from question marks in
texts. -/
abbrev Fragment := List Piece

namespace Fragment

/-- The text of a piece: a marker is written as "?". -/
def pieceText : Piece → String
  | .text s => s
  | .marker => "?"

/-- The text of a fragment. -/
def sql : Fragment → String
  | [] => ""
  | piece :: rest => pieceText piece ++ sql rest

/-- The places of the markers, if `offset` bytes come before the fragment. -/
def markersFrom (offset : Nat) : Fragment → List Nat
  | [] => []
  | .text s :: rest => markersFrom (offset + s.utf8ByteSize) rest
  | .marker :: rest => offset :: markersFrom (offset + 1) rest

/-- The places of the markers of a fragment, in bytes of `sql f`: `markersFrom 0 f`. -/
def markers (f : Fragment) : List Nat := markersFrom 0 f

/-- The fragment that consists of one text. -/
def ofText (s : String) : Fragment := [.text s]

/-- Fragments one after another, with the text `separator` between each and the next. -/
def separated (separator : String) : List Fragment → Fragment
  | [] => []
  | [f] => f
  | f :: rest => f ++ ofText separator ++ separated separator rest

/-- A clause: `[]` if there are no fragments, or else the `keyword` and the `separated`
fragments. -/
def clause (keyword separator : String) (fs : List Fragment) : Fragment :=
  if fs.isEmpty then [] else ofText keyword ++ separated separator fs

@[simp]
theorem sql_append (f g : Fragment) : sql (f ++ g) = sql f ++ sql g := by
  induction f with
  | nil => simp [sql]
  | cons piece rest ih => simp [sql, ih, String.append_assoc]

@[simp]
theorem sql_ofText (s : String) : sql (ofText s) = s := by
  simp [ofText, sql, pieceText]

theorem markersFrom_append (offset : Nat) (f g : Fragment) :
    markersFrom offset (f ++ g) =
      markersFrom offset f ++ markersFrom (offset + (sql f).utf8ByteSize) g := by
  induction f generalizing offset with
  | nil => simp [markersFrom, sql]
  | cons piece rest ih =>
      cases piece with
      | text s =>
          simp only [List.cons_append, markersFrom, ih, sql, pieceText, String.utf8ByteSize_append,
            Nat.add_assoc]
      | marker =>
          have h : ("?" : String).utf8ByteSize = 1 := by decide
          simp only [List.cons_append, markersFrom, ih, sql, pieceText, String.utf8ByteSize_append,
            Nat.add_assoc, h]

end Fragment

/-- SQL with the places of its parameter markers. -/
structure Rendered where
  /-- The text. -/
  sql : String
  /-- The places of the markers, in bytes. -/
  markers : List Nat
deriving DecidableEq, Inhabited

/-- A fragment as a text with places: `⟨sql f, markers f⟩`. -/
def Fragment.rendered (f : Fragment) : Rendered := ⟨sql f, markers f⟩

end DataAccess.Dialect
