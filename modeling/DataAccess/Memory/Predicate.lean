import DataAccess.Query.Filter

/-!
# Predicates: conditions ready to be tested

A `Predicate` is a condition whose parameters are bound and whose columns are positions in a row.
`Predicate.holds` tests a row. A comparison with an empty cell or with values that are not ordered
does not hold; only a literal null asks whether the cell is empty.
-/

namespace DataAccess.Memory

/-- The right side of a comparison: an `Operand` whose parameter has a value. A `bound` null and a
`literal` one are told apart, since only the literal one asks whether the left side is null. -/
inductive Side where
  /-- A value that stands in the query. -/
  | literal (v : Value)
  /-- A value that was bound to a parameter. -/
  | bound (v : Value)
  /-- The cell of another column. -/
  | column (ordinal : Nat)
  /-- A list of values. -/
  | list (vs : List Value)
deriving Inhabited

/-- A condition on the cells of a row. -/
inductive Predicate where
  /-- A comparison of the cell of a column. -/
  | compare (left : Nat) (op : Operator) (right : Side)
  /-- At least one of the conditions. -/
  | anyOf (items : List Predicate)
deriving Inhabited

/-! ## Comparisons -/

/-- The cell of a column. A row that is too short has empty cells at its end. -/
def cell (row : Record) (ordinal : Nat) : Value :=
  row[ordinal]?.getD .null

/-- Whether a text matches a pattern, in which `%` stands for any run of characters and `_` for
exactly one. -/
def like : (pattern text : List Char) → Bool
  | [], text => text.isEmpty
  | '%' :: pattern, text => anySuffix (like pattern) text
  | '_' :: pattern, text => match text with
      | [] => false
      | _ :: rest => like pattern rest
  | c :: pattern, text => match text with
      | [] => false
      | d :: rest => d == c && like pattern rest
where
  /-- Whether some suffix of a text is accepted. -/
  anySuffix (accepts : List Char → Bool) : List Char → Bool
    | [] => accepts []
    | c :: rest => accepts (c :: rest) || anySuffix accepts rest

/-- Whether a cell is in a list of values, or for `notIn` surely not in it: no value is equal to it
and none is null. -/
def isMember (left : Value) (vs : List Value) (op : Operator) : Bool :=
  if left.isNull then false
  else
    let found := vs.any fun v => left.compare? v == some .eq
    if op = .notIn then !found && vs.all fun v => !v.isNull else found

/-- Whether an order of two values fits a comparison. The operators that are no comparisons fit
none. -/
def fits : Operator → Ordering → Bool
  | .equal, o => o == .eq
  | .notEqual, o => o != .eq
  | .less, o => o == .lt
  | .lessOrEqual, o => o != .gt
  | .greater, o => o == .gt
  | .greaterOrEqual, o => o != .lt
  | .like, _ | .notLike, _ | .isIn, _ | .notIn, _ => false

/-- Whether a text matches a pattern (`like`), or for `notLike` surely does not. Values that are no
texts do neither. -/
def matchesPattern (left : Value) (op : Operator) (right : Value) : Bool :=
  match left.asText?, right.asText? with
  | some text, some pattern => like pattern.toList text.toList == decide (op = .like)
  | _, _ => false

/-- Whether a comparison of two values holds. It does not if one of them is null, or if they are not
ordered (`Value.compare?`). -/
def compareValues (left : Value) (op : Operator) (right : Value) : Bool :=
  if left.isNull || right.isNull then false
  else match op with
    | .like | .notLike => matchesPattern left op right
    | .isIn | .notIn => isMember left [right] op
    | op => match left.compare? right with
        | some o => fits op o
        | none => false

/-- Whether a comparison of a cell holds in a row. A literal null on the right makes `equal` and
`notEqual` ask whether the cell is null, and a list is a membership test (`isMember`) under every
operator. -/
def compareSide (row : Record) (left : Value) (op : Operator) : Side → Bool
  | .literal .null => match op with
      | .equal => left.isNull
      | .notEqual => !left.isNull
      | op => compareValues left op .null
  | .literal v | .bound v => compareValues left op v
  | .column ordinal => compareValues left op (cell row ordinal)
  | .list vs => isMember left vs op

/-! ## Rows -/

mutual

/-- Whether a condition holds in a row (`compareSide` for a comparison). -/
def Predicate.holds (row : Record) : Predicate → Bool
  | .compare left op right => compareSide row (cell row left) op right
  | .anyOf items => Predicate.anyHolds row items

/-- Whether one of several conditions holds in a row. -/
def Predicate.anyHolds (row : Record) : List Predicate → Bool
  | [] => false
  | item :: rest => item.holds row || Predicate.anyHolds row rest

end

end DataAccess.Memory
