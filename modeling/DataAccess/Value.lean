import DataAccess.Text.Decimal
import DataAccess.Text.Numeral

/-!
# Value: the cells of rows

A `Value` is one cell exchanged with a source: null, a truth value, a number, a text or bytes.
`Value.compare?` orders values the way SQL does: nulls come first, integers and floating-point
numbers are compared with each other, and other mismatched kinds are not ordered at all.

`ToValue` collects the types whose elements can stand for a value.
-/

namespace DataAccess

/-- One cell. -/
inductive Value where
  /-- The absence of a value. -/
  | null
  /-- A truth value. -/
  | boolean (b : Bool)
  /-- A signed integer of 64 bits. -/
  | integer (n : Int64)
  /-- A floating-point number of 64 bits. -/
  | float (x : Float)
  /-- A text. -/
  | text (s : String)
  /-- A sequence of bytes. -/
  | blob (bytes : List UInt8)
deriving Inhabited

/-- The values of one stored row, in column order. -/
abbrev Record := List Value

namespace Value

/-! ## Equality and reading -/

/-- Equality of cells: the same kind and the same content. Floating-point numbers are compared as
numbers, so a NaN equals nothing and the two zeros are equal. See `compare?` for the order, which
compares integers with them, too. -/
def equals : Value → Value → Bool
  | null, null => true
  | boolean a, boolean b => a == b
  | integer a, integer b => a == b
  | float a, float b => a == b
  | text a, text b => a == b
  | blob a, blob b => a == b
  | _, _ => false

instance : BEq Value := ⟨equals⟩

/-- Whether the cell is empty. -/
def isNull : Value → Bool
  | null => true
  | _ => false

/-- The content of a text. -/
def asText? : Value → Option String
  | text s => some s
  | _ => none

/-- The content of an integer; the truth values count as zero and one. -/
def asInteger? : Value → Option Int64
  | integer n => some n
  | boolean b => some (if b then 1 else 0)
  | _ => none

/-- The content of a number, an integer rounded to the nearest floating-point number
(`Float.ofInt`). -/
def asFloat? : Value → Option Float
  | float x => some x
  | integer n => some (Float.ofInt n.toInt)
  | _ => none

/-! ## Order -/

/-- The order of two floating-point numbers, `none` if one of them is a NaN. -/
def compareFloats? (x y : Float) : Option Ordering :=
  if x < y then some .lt
  else if x == y then some .eq
  else if y < x then some .gt
  else none

/-- The order of two values, `none` if they are not ordered. -/
def compare? : Value → Value → Option Ordering
  | null, null => some .eq
  | null, _ => some .lt
  | _, null => some .gt
  | boolean a, boolean b => some (compare a b)
  | integer a, integer b => some (compare a.toInt b.toInt)
  | text a, text b => some (compare a b)
  | blob a, blob b => some (compare a b)
  | a, b => match a.asFloat?, b.asFloat? with
      | some x, some y => compareFloats? x y
      | _, _ => none

/-! ## Display -/

/-- A value as shown to a reader. -/
def display : Value → String
  | null => "null"
  | boolean b => if b then "true" else "false"
  | integer n => toString n.toInt
  | float x => Text.floatText x
  | text s => s
  | blob bytes => "0x" ++ Text.hexBytes 'a' bytes

instance : ToString Value := ⟨display⟩

end Value

/-! ## Conversion -/

/-- The types whose elements stand for a value. -/
class ToValue (α : Type) where
  /-- The value that an element stands for. -/
  toValue : α → Value

export ToValue (toValue)

instance : ToValue Value := ⟨id⟩

instance : ToValue Bool := ⟨.boolean⟩

instance : ToValue Int64 := ⟨.integer⟩

instance : ToValue Int8 := ⟨fun n => .integer (Int64.ofInt n.toInt)⟩

instance : ToValue Int16 := ⟨fun n => .integer (Int64.ofInt n.toInt)⟩

instance : ToValue Int32 := ⟨fun n => .integer (Int64.ofInt n.toInt)⟩

instance : ToValue UInt8 := ⟨fun n => .integer (Int64.ofNat n.toNat)⟩

instance : ToValue UInt16 := ⟨fun n => .integer (Int64.ofNat n.toNat)⟩

instance : ToValue UInt32 := ⟨fun n => .integer (Int64.ofNat n.toNat)⟩

instance : ToValue Float := ⟨.float⟩

instance : ToValue Float32 := ⟨fun x => .float x.toFloat⟩

instance : ToValue String := ⟨.text⟩

instance : ToValue (List UInt8) := ⟨.blob⟩

instance {α : Type} [ToValue α] : ToValue (Option α) where
  toValue
    | some a => toValue a
    | none => .null

end DataAccess
