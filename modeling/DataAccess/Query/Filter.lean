import DataAccess.Query.Item
import DataAccess.Value

/-!
# Filters: conditions on rows

A `FilterItem` compares an item with an operand, joins conditions by OR, or is an opaque text. An
operand may be a parameter, whose value is bound at execution; `parameterCount` counts them.
-/

namespace DataAccess

/-- How two sides are compared. -/
inductive Operator where
  | equal
  | notEqual
  | less
  | lessOrEqual
  | greater
  | greaterOrEqual
  | like
  | notLike
  | isIn
  | notIn
deriving DecidableEq, Inhabited

namespace Operator

/-- The SQL text. -/
def text : Operator → String
  | equal => "="
  | notEqual => "<>"
  | less => "<"
  | lessOrEqual => "<="
  | greater => ">"
  | greaterOrEqual => ">="
  | like => "LIKE"
  | notLike => "NOT LIKE"
  | isIn => "IN"
  | notIn => "NOT IN"

/-- All operators. -/
def all : List Operator :=
  [equal, notEqual, less, lessOrEqual, greater, greaterOrEqual, like, notLike, isIn, notIn]

/-- The operator of that SQL text. -/
def ofText? (t : String) : Option Operator :=
  all.find? fun o => o.text == t

end Operator

/-- The right side of a comparison. -/
inductive Operand where
  /-- A value. -/
  | value (v : Value)
  /-- A value bound at execution. -/
  | parameter
  /-- Another item of the row. -/
  | item (i : SelectItem)
  /-- A list of values. -/
  | list (vs : List Value)
deriving Inhabited

/-- A condition on rows. -/
inductive FilterItem where
  /-- A comparison. -/
  | compare (left : SelectItem) (op : Operator) (operand : Operand)
  /-- At least one of the conditions. -/
  | anyOf (items : List FilterItem)
  /-- A text that the source understands. -/
  | expression (text : String)
deriving Inhabited

/-- The number of parameters of an operand. -/
def Operand.parameterCount : Operand → Nat
  | parameter => 1
  | value _ | item _ | list _ => 0

mutual

/-- The number of parameters of a condition, with those of its parts (`parameterCounts`). -/
def FilterItem.parameterCount : FilterItem → Nat
  | compare _ _ operand => operand.parameterCount
  | anyOf items => FilterItem.parameterCounts items
  | expression _ => 0

/-- The number of parameters of a list of conditions. -/
def FilterItem.parameterCounts : List FilterItem → Nat
  | [] => 0
  | item :: rest => item.parameterCount + FilterItem.parameterCounts rest

end

theorem FilterItem.parameterCounts_append (xs ys : List FilterItem) :
    FilterItem.parameterCounts (xs ++ ys) =
      FilterItem.parameterCounts xs + FilterItem.parameterCounts ys := by
  induction xs with
  | nil => simp [FilterItem.parameterCounts]
  | cons x xs ih => simp [FilterItem.parameterCounts, ih, Nat.add_assoc]

end DataAccess
