import DataAccess.Memory.Evaluation
import DataAccess.Proofs.StoreConsistency
import DataAccess.Sample
import Mathlib.Data.List.Forall2

/-!
# Three-valued filters: conditions with unknown outcomes

A comparison with an absent value is neither true nor false. `Truth` has a third value for it, with
the connectives of Kleene, and `FilterItem.truth` gives each condition of a query its truth in a
row, as the conditions stand in the query and with the values of its parameters.

The evaluation of a prepared query has two values only: what is not true does not hold. That is the
same wherever nothing is negated afterwards, and the negated operators are told apart below it.

* **Comparisons** (`compareValues_iff`, `isMember_iff`): a comparison holds if it is true. The
  negated ones hold if what they negate is false.
* **Conditions** (`holds_bindFilter`): a bound condition holds in the rows in which the condition is
  true, whatever is nested in it.
* **Queries** (`selects_iff_all_truths`): a row is selected if the conjunction of the conditions is
  true.
-/

namespace DataAccess

namespace Memory

/-! ## Truth -/

/-- The outcome of a condition, in the logic of three values. -/
inductive Truth where
  | no
  | unknown
  | yes
deriving DecidableEq, Inhabited

namespace Truth

/-- The outcome of a test that is `yes` or `no`. -/
def ofBool : Bool → Truth
  | true => yes
  | false => no

/-- Negation: `unknown` stays `unknown`. -/
def not : Truth → Truth
  | no => yes
  | unknown => unknown
  | yes => no

/-- Disjunction: `yes` if one side is `yes`, and `no` if both are `no`. -/
def or : Truth → Truth → Truth
  | yes, _ | _, yes => yes
  | no, no => no
  | _, _ => unknown

/-- Conjunction: `no` if one side is `no`, and `yes` if both are `yes`. -/
def and : Truth → Truth → Truth
  | no, _ | _, no => no
  | yes, yes => yes
  | _, _ => unknown

/-- Disjunction of a list, `no` for the empty one. -/
def any (ts : List Truth) : Truth := ts.foldr or no

/-- Conjunction of a list, `yes` for the empty one. -/
def all (ts : List Truth) : Truth := ts.foldr and yes

theorem ofBool_eq_yes {b : Bool} : ofBool b = yes ↔ b = true := by
  cases b <;> decide

theorem not_eq_yes {t : Truth} : t.not = yes ↔ t = no := by
  cases t <;> decide

theorem or_eq_yes {s t : Truth} : s.or t = yes ↔ s = yes ∨ t = yes := by
  cases s <;> cases t <;> decide

theorem or_eq_no {s t : Truth} : s.or t = no ↔ s = no ∧ t = no := by
  cases s <;> cases t <;> decide

theorem and_eq_yes {s t : Truth} : s.and t = yes ↔ s = yes ∧ t = yes := by
  cases s <;> cases t <;> decide

/-- `any ts` is `yes` if one of `ts` is. -/
theorem any_eq_yes {ts : List Truth} : any ts = yes ↔ yes ∈ ts := by
  induction ts with
  | nil => decide
  | cons t ts ih =>
      rw [List.mem_cons, ← ih, eq_comm (a := yes)]
      exact or_eq_yes

/-- `any ts` is `no` if all of `ts` are. -/
theorem any_eq_no {ts : List Truth} : any ts = no ↔ ∀ t ∈ ts, t = no := by
  induction ts with
  | nil => decide
  | cons t ts ih =>
      rw [List.forall_mem_cons, ← ih]
      exact or_eq_no

end Truth

/-! ## Comparisons -/

/-- Whether two values stand in an order that is accepted: `unknown` if one of them is null, or if
`compare?` has no order for them. -/
def ordered (accepts : Ordering → Bool) (a b : Value) : Truth :=
  if a.isNull || b.isNull then .unknown
  else match a.compare? b with
    | some o => .ofBool (accepts o)
    | none => .unknown

/-- Whether two values are equal, as a `Truth`. -/
def equation : Value → Value → Truth := ordered (· == .eq)

/-- Whether a value comes before another, as a `Truth`. -/
def precedence : Value → Value → Truth := ordered (· == .lt)

/-- Whether a text matches a pattern: `unknown` if one of them is null, or no text. -/
def likeness (a b : Value) : Truth :=
  match a.asText?, b.asText? with
  | some text, some pattern => .ofBool (like pattern.toList text.toList)
  | _, _ => .unknown

/-- Whether a value is one of several: the disjunction of the equations with them. -/
def membership (a : Value) (bs : List Value) : Truth := .any (bs.map (equation a))

end Memory

open Memory

/-- The truth of a comparison of two values. Each operator is put together of `equation`,
`precedence`, `likeness` and `membership` by the connectives, and not by the tests that evaluation
uses. -/
def Operator.truth : Operator → Value → Value → Truth
  | equal, a, b => equation a b
  | notEqual, a, b => (equation a b).not
  | less, a, b => precedence a b
  | lessOrEqual, a, b => (precedence a b).or (equation a b)
  | greater, a, b => ((precedence a b).or (equation a b)).not
  | greaterOrEqual, a, b => (precedence a b).not
  | like, a, b => likeness a b
  | notLike, a, b => (likeness a b).not
  | isIn, a, b => membership a [b]
  | notIn, a, b => (membership a [b]).not

/-- The value of an item in a row: the cell of its column, or null if it has none. -/
def SelectItem.read (row : Record) (i : SelectItem) : Value :=
  match i.kind with
  | .column c => cell row c.column.ordinal
  | .aggregate _ _ | .countAll | .expression _ => .null

/-- The truth of a comparison of a value with an operand, with the values of the parameters from
there on. A null that stands in the query and is compared by `=` or `<>` asks whether the value is
absent. -/
def Operand.truth (row : Record) (a : Value) (op : Operator) (vs : List Value) : Operand → Truth
  | value .null => match op with
      | .equal => .ofBool a.isNull
      | .notEqual => .ofBool !a.isNull
      | op => op.truth a .null
  | value b => op.truth a b
  | parameter => op.truth a (vs.headD .null)
  | item i => op.truth a (i.read row)
  | list bs => match op with
      | .notIn => (membership a bs).not
      | _ => membership a bs

mutual

/-- The truth of a condition in a row, where `vs` are the values of the parameters from there on. -/
def FilterItem.truth (row : Record) (vs : List Value) : FilterItem → Truth
  | .compare left op operand => operand.truth row (left.read row) op vs
  | .anyOf items => .any (FilterItem.truths row vs items)
  | .expression _ => .unknown

/-- The truths of conditions, each with the values that those before it leave. -/
def FilterItem.truths (row : Record) (vs : List Value) : List FilterItem → List Truth
  | [] => []
  | item :: rest => item.truth row vs :: FilterItem.truths row (vs.drop item.parameterCount) rest

end

/-! ## Comparable values -/

/-- Whether `compare?` has an order for two values, unless one of them is null. -/
def Value.Comparable (a b : Value) : Prop :=
  a.isNull = false → b.isNull = false → (a.compare? b).isSome = true

instance (a b : Value) : Decidable (a.Comparable b) :=
  inferInstanceAs (Decidable (_ → _))

/-- Whether a value is a text, unless it is null. -/
def Value.Textual (a : Value) : Prop :=
  a.isNull = false → a.asText?.isSome = true

instance (a : Value) : Decidable a.Textual :=
  inferInstanceAs (Decidable (_ → _))

/-- Whether an operator has a meaning for two values: `LIKE` and `NOT LIKE` for texts (`Textual`),
and all others for values that are `Comparable`. -/
def Operator.Suits (op : Operator) (a b : Value) : Prop :=
  if op = like ∨ op = notLike then a.Textual ∧ b.Textual else a.Comparable b

instance (op : Operator) (a b : Value) : Decidable (op.Suits a b) :=
  inferInstanceAs
    (Decidable (if op = .like ∨ op = .notLike then a.Textual ∧ b.Textual else a.Comparable b))

/-- Whether an operator has a meaning for a value and an operand. A list has elements and stands in
a membership test only, where its elements are `Comparable` with the value. -/
def Operand.Suits (row : Record) (a : Value) (op : Operator) (vs : List Value) : Operand → Prop
  | value b => op.Suits a b
  | parameter => op.Suits a (vs.headD .null)
  | item i => op.Suits a (i.read row)
  | list bs => bs ≠ [] ∧ (op = .isIn ∨ op = .notIn) ∧ ∀ b ∈ bs, a.Comparable b

instance (row : Record) (a : Value) (op : Operator) (vs : List Value) (operand : Operand) :
    Decidable (operand.Suits row a op vs) :=
  match operand with
  | .value b => inferInstanceAs (Decidable (op.Suits a b))
  | .parameter => inferInstanceAs (Decidable (op.Suits a _))
  | .item _ => inferInstanceAs (Decidable (op.Suits a _))
  | .list bs =>
      inferInstanceAs (Decidable (bs ≠ [] ∧ (op = .isIn ∨ op = .notIn) ∧ ∀ b ∈ bs, a.Comparable b))

mutual

/-- Whether all comparisons of a condition have a meaning in a row, as `Operand.Suits` says. -/
def FilterItem.Suits (row : Record) (vs : List Value) : FilterItem → Prop
  | .compare left op operand => operand.Suits row (left.read row) op vs
  | .anyOf items => FilterItem.AllSuit row vs items
  | .expression _ => True

/-- Whether all comparisons of several conditions have a meaning in a row, with the parameters
counted through. -/
def FilterItem.AllSuit (row : Record) (vs : List Value) : List FilterItem → Prop
  | [] => True
  | item :: rest => item.Suits row vs ∧ FilterItem.AllSuit row (vs.drop item.parameterCount) rest

end

mutual

/-- Decides `FilterItem.Suits`, along the condition. -/
@[reducible] def FilterItem.decideSuits (row : Record) :
    (item : FilterItem) → (vs : List Value) → Decidable (item.Suits row vs)
  | .compare left op operand, vs =>
      inferInstanceAs (Decidable (operand.Suits row (left.read row) op vs))
  | .anyOf items, vs => FilterItem.decideAllSuit row items vs
  | .expression _, _ => .isTrue trivial

/-- Decides `FilterItem.AllSuit`, along the list. -/
@[reducible] def FilterItem.decideAllSuit (row : Record) :
    (items : List FilterItem) → (vs : List Value) → Decidable (FilterItem.AllSuit row vs items)
  | [], _ => .isTrue trivial
  | item :: rest, vs => @instDecidableAnd _ _ (item.decideSuits row vs)
      (FilterItem.decideAllSuit row rest (vs.drop item.parameterCount))

end

instance (row : Record) (items : List FilterItem) (vs : List Value) :
    Decidable (FilterItem.AllSuit row vs items) :=
  FilterItem.decideAllSuit row items vs

namespace Memory

/-! ## Tests of two values -/

section Comparisons

variable {a b : Value} {op : Operator}

/-- `ordered` is `unknown` if one of the values is null. -/
theorem ordered_of_isNull {accepts : Ordering → Bool} (h : (a.isNull || b.isNull) = true) :
    ordered accepts a b = .unknown :=
  if_pos h

/-- `ordered` on values with an order `o` between them is `accepts o`. -/
theorem ordered_of_compare? {accepts : Ordering → Bool} {o : Ordering}
    (h : (a.isNull || b.isNull) = false) (ho : a.compare? b = some o) :
    ordered accepts a b = .ofBool (accepts o) := by
  rw [ordered, if_neg (Bool.eq_false_iff.mp h), ho]

/-- `likeness` is `unknown` if one of the values is null. -/
theorem likeness_of_isNull (h : (a.isNull || b.isNull) = true) : likeness a b = .unknown := by
  cases a <;> cases b <;> first | rfl | cases h

/-- `membership a [b] = equation a b`. -/
theorem membership_singleton : membership a [b] = equation a b := by
  show (equation a b).or .no = equation a b
  cases equation a b <;> rfl

/-- `op.truth a b` is `unknown` if one of the values is null, whatever the operator. -/
theorem truth_of_isNull (op : Operator) (h : (a.isNull || b.isNull) = true) :
    op.truth a b = .unknown := by
  have hordered (accepts) : ordered accepts a b = .unknown := ordered_of_isNull h
  have hlikeness : likeness a b = .unknown := likeness_of_isNull h
  cases op <;>
    simp only [Operator.truth, membership_singleton, equation, precedence, hordered, hlikeness,
      Truth.or, Truth.not]

/-- A value that is equal to one other than null is not null itself. -/
theorem isNull_of_compare?_eq (ha : a.isNull = false) (h : a.compare? b = some .eq) :
    b.isNull = false := by
  cases b with
  | null => cases a <;> simp [Value.compare?, Value.isNull] at ha h
  | _ => rfl

/-- `equation a b` is `yes` if `a` is not null and `compare?` gives `.eq`. -/
theorem equation_eq_yes : equation a b = .yes ↔ a.isNull = false ∧ a.compare? b = some .eq := by
  cases hnull : a.isNull || b.isNull with
  | true =>
      rw [equation, ordered_of_isNull hnull]
      refine ⟨nofun, fun ⟨ha, heq⟩ => ?_⟩
      rw [ha, isNull_of_compare?_eq ha heq] at hnull
      cases hnull
  | false =>
      obtain ⟨ha, -⟩ := Bool.or_eq_false_iff.mp hnull
      rw [equation, ordered, if_neg (Bool.eq_false_iff.mp hnull)]
      cases a.compare? b with
      | none => exact ⟨nofun, fun h => nomatch h.2⟩
      | some o => cases o <;> simp [ha, Truth.ofBool]

/-- `equation a b` is `no` if neither is null and `compare?` does not give `.eq`, where the values
are `Comparable`. -/
theorem equation_eq_no (h : a.Comparable b) :
    equation a b = .no ↔ a.isNull = false ∧ b.isNull = false ∧ a.compare? b ≠ some .eq := by
  cases hnull : a.isNull || b.isNull with
  | true =>
      rw [equation, ordered_of_isNull hnull]
      refine ⟨nofun, fun ⟨ha, hb, _⟩ => ?_⟩
      rw [ha, hb] at hnull
      cases hnull
  | false =>
      obtain ⟨ha, hb⟩ := Bool.or_eq_false_iff.mp hnull
      obtain ⟨o, ho⟩ := Option.isSome_iff_exists.mp (h ha hb)
      rw [equation, ordered_of_compare? hnull ho, ha, hb, ho]
      cases o <;> decide

/-- `membership a bs` is `yes` if one of the equations is. -/
theorem membership_eq_yes {bs : List Value} :
    membership a bs = .yes ↔ a.isNull = false ∧ ∃ b ∈ bs, a.compare? b = some .eq := by
  rw [membership, Truth.any_eq_yes, List.mem_map]
  constructor
  · rintro ⟨b, hb, heq⟩
    obtain ⟨ha, hcompare⟩ := equation_eq_yes.mp heq
    exact ⟨ha, b, hb, hcompare⟩
  · rintro ⟨ha, b, hb, hcompare⟩
    exact ⟨b, hb, equation_eq_yes.mpr ⟨ha, hcompare⟩⟩

/-- `membership a bs` is `no` if all of the equations are, for a list that is not empty. -/
theorem membership_eq_no {bs : List Value} (hbs : bs ≠ []) (h : ∀ b ∈ bs, a.Comparable b) :
    membership a bs = .no ↔
      a.isNull = false ∧ ∀ b ∈ bs, b.isNull = false ∧ a.compare? b ≠ some .eq := by
  have hequations : membership a bs = .no ↔
      ∀ b ∈ bs, a.isNull = false ∧ b.isNull = false ∧ a.compare? b ≠ some .eq := by
    rw [membership, Truth.any_eq_no, List.forall_mem_map]
    exact forall₂_congr fun b hb => equation_eq_no (h b hb)
  rw [hequations]
  constructor
  · intro hall
    obtain ⟨b, hb⟩ := List.exists_mem_of_ne_nil bs hbs
    exact ⟨(hall b hb).1, fun b hb => (hall b hb).2⟩
  · exact fun ⟨ha, hall⟩ b hb => ⟨ha, hall b hb⟩

/-- `isMember` decides whether `membership` is `yes`, for all operators but `NOT IN`. -/
theorem isMember_isIn_iff {bs : List Value} (hop : op ≠ .notIn) :
    isMember a bs op = true ↔ membership a bs = .yes := by
  rw [membership_eq_yes, isMember]
  cases a.isNull <;> simp [hop]

/-- `isMember` with `NOT IN` decides whether the negation of `membership` is `yes`. -/
theorem isMember_notIn_iff {bs : List Value} (hbs : bs ≠ []) (h : ∀ b ∈ bs, a.Comparable b) :
    isMember a bs .notIn = true ↔ (membership a bs).not = .yes := by
  rw [Truth.not_eq_yes, membership_eq_no hbs h, isMember]
  cases a.isNull <;> simp [← forall_and, and_comm]

/-- `matchesPattern` decides whether `op.truth` is `yes`, on texts other than null. -/
theorem matchesPattern_iff (hop : op = .like ∨ op = .notLike) (ha : a.Textual) (hb : b.Textual)
    (hnull : (a.isNull || b.isNull) = false) :
    matchesPattern a op b = true ↔ op.truth a b = .yes := by
  obtain ⟨ha', hb'⟩ := Bool.or_eq_false_iff.mp hnull
  obtain ⟨text, htext⟩ := Option.isSome_iff_exists.mp (ha ha')
  obtain ⟨pattern, hpattern⟩ := Option.isSome_iff_exists.mp (hb hb')
  rcases hop with rfl | rfl
  · simp [matchesPattern, Operator.truth, likeness, htext, hpattern, Truth.ofBool_eq_yes]
  · simp [matchesPattern, Operator.truth, likeness, htext, hpattern]
    cases like pattern.toList text.toList <;> decide

/-- **Two values**: `compareValues a op b` decides whether `op.truth a b` is `yes`, where
`op.Suits a b`. -/
theorem compareValues_iff (h : op.Suits a b) : compareValues a op b = true ↔
    op.truth a b = .yes := by
  unfold compareValues
  cases hnull : a.isNull || b.isNull with
  | true => simp [truth_of_isNull op hnull]
  | false =>
      have hordered (hcomparable : a.Comparable b) : ∃ o, a.compare? b = some o := by
        obtain ⟨ha, hb⟩ := Bool.or_eq_false_iff.mp hnull
        exact Option.isSome_iff_exists.mp (hcomparable ha hb)
      rw [if_neg Bool.false_ne_true]
      cases op with
      | like => exact matchesPattern_iff (.inl rfl) h.1 h.2 hnull
      | notLike => exact matchesPattern_iff (.inr rfl) h.1 h.2 hnull
      | isIn => exact isMember_isIn_iff (by decide)
      | notIn => exact isMember_notIn_iff (List.cons_ne_nil b []) (List.forall_mem_singleton.mpr h)
      | _ =>
          obtain ⟨o, ho⟩ := hordered h
          simp only [Operator.truth, equation, precedence, ordered_of_compare? hnull ho, ho]
          cases o <;> decide

end Comparisons

/-! ## Conditions -/

section Conditions

variable {row : Record} {missing : Error}

/-- The cell at `ordinalOf i` is the value `i.read row`. -/
theorem cell_ordinalOf {i : SelectItem} {n : Nat} (h : ordinalOf i = .ok n) :
    cell row n = i.read row := by
  unfold ordinalOf at h
  unfold SelectItem.read
  split at h
  · rename_i hkind
    rw [hkind, ← Except.ok.inj h]
  all_goals cases h

/-- A literal: only a null that is compared by `=` or `<>` is not compared as a value. -/
theorem compareSide_literal_iff {a b : Value} {op : Operator} {vs : List Value} (h : op.Suits a b) :
    compareSide row a op (.literal b) = true ↔ (Operand.value b).truth row a op vs = .yes := by
  cases b with
  | null =>
      cases op with
      | equal | notEqual => exact Truth.ofBool_eq_yes.symm
      | _ => exact compareValues_iff h
  | _ => exact compareValues_iff h

/-- **An operand**: `compareSide` on what `bindOperand` gives decides whether `operand.truth` is
`yes`, and the values that are left are those behind the parameters of the operand. -/
theorem compareSide_bindOperand {a : Value} {op : Operator} {operand : Operand}
    {vs rest : List Value} {side : Side} (hbind : bindOperand missing vs operand = .ok (side, rest))
    (h : operand.Suits row a op vs) :
    (compareSide row a op side = true ↔ operand.truth row a op vs = .yes) ∧
      rest = vs.drop operand.parameterCount := by
  cases operand with
  | value b =>
      cases hbind
      exact ⟨compareSide_literal_iff h, rfl⟩
  | parameter =>
      cases vs with
      | nil => cases hbind
      | cons v vs =>
          cases hbind
          exact ⟨compareValues_iff h, rfl⟩
  | item i =>
      obtain ⟨n, hn, hbind⟩ := exists_of_bind_eq_ok hbind
      cases hbind
      refine ⟨?_, rfl⟩
      rw [compareSide, cell_ordinalOf hn]
      exact compareValues_iff h
  | list bs =>
      cases hbind
      obtain ⟨hbs, hop, hcomparable⟩ := h
      refine ⟨?_, rfl⟩
      rcases hop with rfl | rfl
      · exact isMember_isIn_iff (by decide)
      · exact isMember_notIn_iff hbs hcomparable

/-- Whether a prepared condition holds in a row exactly if its truth is `yes`. -/
def Reports (row : Record) (p : Predicate) (t : Truth) : Prop :=
  p.holds row = true ↔ t = .yes

/-- `Predicate.anyHolds` decides whether the disjunction of the truths is `yes`, if each condition
`Reports` its own. -/
theorem anyHolds_iff {ps : List Predicate} {ts : List Truth}
    (h : List.Forall₂ (Reports row) ps ts) :
    Predicate.anyHolds row ps = true ↔ Truth.any ts = .yes := by
  induction h with
  | nil => exact ⟨nofun, nofun⟩
  | cons hp _ ih =>
      rw [Predicate.anyHolds, Bool.or_eq_true]
      exact (or_congr hp ih).trans Truth.or_eq_yes.symm

/-- All conditions hold exactly if the conjunction of the truths is `yes`, if each of them `Reports`
its own. -/
theorem all_holds_iff {ps : List Predicate} {ts : List Truth}
    (h : List.Forall₂ (Reports row) ps ts) :
    (ps.all fun p => p.holds row) = true ↔ Truth.all ts = .yes := by
  induction h with
  | nil => exact ⟨fun _ => rfl, fun _ => rfl⟩
  | cons hp _ ih =>
      rw [List.all_cons, Bool.and_eq_true]
      exact (and_congr hp ih).trans Truth.and_eq_yes.symm

mutual

/-- **A condition**: what `bindFilter` gives `Reports` the truth of the condition, where it `Suits`,
and the values that are left are those behind its parameters. The recursion is on the condition,
together with `holds_bindFilters`. -/
theorem holds_bindFilter :
    (item : FilterItem) → ∀ {vs rest : List Value} {p : Predicate},
      bindFilter missing vs item = .ok (p, rest) → item.Suits row vs →
      Reports row p (item.truth row vs) ∧ rest = vs.drop item.parameterCount
  | .compare left op operand, vs, rest, p, hbind, hsuits => by
      rw [bindFilter] at hbind
      obtain ⟨⟨side, _⟩, hside, hbind⟩ := exists_of_bind_eq_ok hbind
      obtain ⟨n, hn, hbind⟩ := exists_of_bind_eq_ok hbind
      cases hbind
      rw [FilterItem.Suits] at hsuits
      rw [Reports, Predicate.holds, FilterItem.truth, FilterItem.parameterCount, cell_ordinalOf hn]
      exact compareSide_bindOperand hside hsuits
  | .anyOf items, vs, rest, p, hbind, hsuits => by
      rw [bindFilter] at hbind
      obtain ⟨⟨ps, _⟩, hps, hbind⟩ := exists_of_bind_eq_ok hbind
      cases hbind
      rw [FilterItem.Suits] at hsuits
      obtain ⟨hreports, hrest⟩ := holds_bindFilters items hps hsuits
      rw [Reports, Predicate.holds, FilterItem.truth, FilterItem.parameterCount]
      exact ⟨anyHolds_iff hreports, hrest⟩
  | .expression _, _, _, _, hbind, _ => nomatch hbind

/-- **Conditions**: what `bindFilters` gives `Reports` the truths of the conditions, one by one. -/
theorem holds_bindFilters :
    (items : List FilterItem) → ∀ {vs rest : List Value} {ps : List Predicate},
      bindFilters missing vs items = .ok (ps, rest) → FilterItem.AllSuit row vs items →
      List.Forall₂ (Reports row) ps (FilterItem.truths row vs items) ∧
        rest = vs.drop (FilterItem.parameterCounts items)
  | [], vs, rest, ps, hbind, _ => by
      cases hbind
      exact ⟨.nil, rfl⟩
  | item :: items, vs, rest, ps, hbind, hsuits => by
      rw [bindFilters] at hbind
      obtain ⟨⟨p, left⟩, hp, hbind⟩ := exists_of_bind_eq_ok hbind
      obtain ⟨⟨others, _⟩, hothers, hbind⟩ := exists_of_bind_eq_ok hbind
      cases hbind
      rw [FilterItem.AllSuit] at hsuits
      obtain ⟨hreports, hleft⟩ := holds_bindFilter item hp hsuits.1
      have hrec := holds_bindFilters items hothers (by rw [hleft]; exact hsuits.2)
      rw [hleft, List.drop_drop] at hrec
      rw [FilterItem.truths, FilterItem.parameterCounts]
      exact ⟨.cons hreports hrec.1, hrec.2⟩

end

end Conditions

/-! ## Queries -/

/-- The parts of a prepared query, `Evaluation.ofQuery q params = .ok e`: its table, its projection,
its conditions, its order and `distinct`, each from its own part of `q`. -/
theorem ofQuery_eq_ok {q : Query} {params : Params} {e : Evaluation}
    (h : Evaluation.ofQuery q params = .ok e) :
    tableOf q = .ok e.table ∧ ordinalsOf q.select = .ok e.projection ∧
    (∃ missing rest, bindFilters missing params.toList q.filters = .ok (e.predicates, rest)) ∧
    orderOf q.orderBy = .ok e.order ∧ e.distinct = q.distinct := by
  obtain ⟨t, htable, h⟩ := exists_of_bind_eq_ok h
  dsimp only at h
  split at h
  · cases h
  · obtain ⟨projection, hprojection, h⟩ := exists_of_bind_eq_ok h
    obtain ⟨⟨predicates, rest⟩, hbind, h⟩ := exists_of_bind_eq_ok h
    obtain ⟨order, horder, h⟩ := exists_of_bind_eq_ok h
    cases h
    exact ⟨htable, hprojection, ⟨_, rest, hbind⟩, horder, rfl⟩

/-- `ofQuery_eq_ok` without the table. -/
theorem parts_of_ofQuery {q : Query} {params : Params} {e : Evaluation}
    (h : Evaluation.ofQuery q params = .ok e) :
    ordinalsOf q.select = .ok e.projection ∧
    (∃ missing rest, bindFilters missing params.toList q.filters = .ok (e.predicates, rest)) ∧
    orderOf q.orderBy = .ok e.order ∧ e.distinct = q.distinct :=
  (ofQuery_eq_ok h).2

/-- The conditions of a prepared query are those of `q.filters`, bound to the parameters. -/
theorem bindFilters_of_ofQuery {q : Query} {params : Params} {e : Evaluation}
    (h : Evaluation.ofQuery q params = .ok e) :
    ∃ missing rest, bindFilters missing params.toList q.filters = .ok (e.predicates, rest) :=
  (parts_of_ofQuery h).2.1

/-- **Queries**: `e.selects row` holds exactly if the conjunction of the truths of `q.filters` is
`yes` in that row, where all their comparisons have a meaning (`FilterItem.AllSuit`). -/
theorem selects_iff_all_truths {q : Query} {params : Params} {e : Evaluation}
    (h : Evaluation.ofQuery q params = .ok e) (row : Record)
    (hsuits : FilterItem.AllSuit row params.toList q.filters) :
    e.selects row = true ↔ Truth.all (FilterItem.truths row params.toList q.filters) = .yes := by
  obtain ⟨missing, rest, hbind⟩ := bindFilters_of_ofQuery h
  exact all_holds_iff (holds_bindFilters q.filters hbind hsuits).1

/-- The table of employees, as it is built from its declaration. -/
def employees : Catalog.Table := Sample.employeesTable.build 0 none 0

/-- The employees who report to someone else than 1002 or whose first name is unlike a pattern, or
who report to nobody or to someone, and who are not the one with a title. -/
def reportsQuery : Query where
  select := [.ofColumn ⟨employees.columns[0], none⟩]
  sources := [.ofTable employees]
  filters := [
    .anyOf [
      .compare (.ofColumn ⟨employees.columns[4], none⟩) .notIn (.list [.integer 1002, .null]),
      .compare (.ofColumn ⟨employees.columns[2], none⟩) .notLike .parameter,
      .anyOf [
        .compare (.ofColumn ⟨employees.columns[4], none⟩) .equal (.value .null),
        .compare (.ofColumn ⟨employees.columns[4], none⟩) .equal .parameter]],
    .compare (.ofColumn ⟨employees.columns[3], none⟩) .notEqual .parameter]

/-- Values for the parameters of `reportsQuery`. -/
def reportsValues : Params := ⟨[.text "Di%", .null, .text "VP Sales"]⟩

/-- An employee who reports to nobody. -/
def president : Record := Sample.employee 1002 "Murphy" "Diane" "President" none

/-- An employee of whom it is `unknown` whether she reports to the absent value. -/
def manager : Record := Sample.employee 1056 "Patterson" "Dianne" "Sales Manager" (some 1002)

theorem selects_iff_all_truths_reportsQuery :
    FilterItem.AllSuit president reportsValues.toList reportsQuery.filters ∧
    FilterItem.AllSuit manager reportsValues.toList reportsQuery.filters ∧
    ∃ e, Evaluation.ofQuery reportsQuery reportsValues = .ok e ∧
      FilterItem.truths president reportsValues.toList reportsQuery.filters = [.yes, .yes] ∧
      e.selects president = true ∧
      FilterItem.truths manager reportsValues.toList reportsQuery.filters = [.unknown, .yes] ∧
      e.selects manager ≠ true := by
  have hpresident : FilterItem.AllSuit president reportsValues.toList
    reportsQuery.filters := by decide
  have hmanager : FilterItem.AllSuit manager reportsValues.toList reportsQuery.filters := by decide
  have hprepared : Evaluation.ofQuery reportsQuery reportsValues = .ok _ := rfl
  have hselects {row} := selects_iff_all_truths hprepared row
  refine ⟨hpresident, hmanager, _, hprepared, rfl, (hselects hpresident).mpr rfl, rfl, fun h => ?_⟩
  exact absurd ((hselects hmanager).mp h) (by decide)

end Memory

end DataAccess
