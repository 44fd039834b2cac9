import DataAccess.Value
import Mathlib.Data.String.Basic
import Mathlib.Order.Compare

/-!
# Value order: which values are in order

`Value.compare?` puts null below all other values, compares values of one kind, and compares
integers with floating-point numbers by rounding the integer. Values of other kinds, and all numbers
with a NaN, are not in order. Where cells are sorted they count as equal then (`sortOrder`).

* **Numbers** (`compareFloats?_eq`): floating-point numbers are compared by sign, exponent and
  mantissa.
* **Both ways** (`compare?_swap`): the order of two values is the reverse of that of the same values
  the other way round.
* **Keys** (`compare?_eq_keys`): among values whose integers keep their order when they are rounded
  (`Faithful`), those that are not null are compared by keys.
* **Three values** (`compare?_trans`, `compare?_none_of_compare?`): the order of faithful values is
  transitive, and what is not in order with a value is not in order with those that this one is in
  order with.
* **Chains** (`chained_iff_not_straddled`): the order that faithful values are sorted by is
  transitive unless there are two, one below the other one, and a third that is not in order with
  either (`Straddled`).
* **One kind** (`OneKind.faithful`, `OneKind.not_straddled`): values of one kind are without
  exception.
* **Without floating-point numbers** (`Below`, `compare?_eq_lt_iff`, `compare?_eq_eq_iff`,
  `compare?_eq_none_iff`): null is below all other values, those of a kind are in the order of what
  they hold, no two of them are equal in that order, and those of different kinds are not in order.
  This is a partial order (`order_laws`).
-/

namespace DataAccess

/-- Whether "not greater" is transitive among some elements: `cmp a b ≠ .gt` and `cmp b c ≠ .gt`
give `cmp a c ≠ .gt`. -/
def Chained {α : Type} (cmp : α → α → Ordering) (as : List α) : Prop :=
  ∀ a ∈ as, ∀ b ∈ as, ∀ c ∈ as, cmp a b ≠ .gt → cmp b c ≠ .gt → cmp a c ≠ .gt

instance {α : Type} (cmp : α → α → Ordering) (as : List α) : Decidable (Chained cmp as) :=
  inferInstanceAs
    (Decidable (∀ a ∈ as, ∀ b ∈ as, ∀ c ∈ as, cmp a b ≠ .gt → cmp b c ≠ .gt → cmp a c ≠ .gt))

namespace Value

open Float.Model (UnpackedFloat)

/-! ## Numbers -/

/-- The place of a floating-point number in their order: the sign and whether it is finite, the
exponent, and the mantissa. -/
abbrev Place := Int × Int × Int

/-- The lexicographic order of places. -/
def comparePlaces : Place → Place → Ordering :=
  compareLex (compareOn (·.1)) (compareLex (compareOn (·.2.1)) (compareOn (·.2.2)))

instance : Std.TransCmp comparePlaces :=
  inferInstanceAs (Std.TransCmp (compareLex _ (compareLex _ _)))

/-- The `Place` of an unpacked number, none for a NaN. Exponent and mantissa of a negative number
are negated. -/
def placeOf? : UnpackedFloat → Option Place
  | .notANumber => none
  | .infinity .negative => some (-2, 0, 0)
  | .finite .negative mantissa exponent _ => some (-1, -exponent, -mantissa)
  | .zero _ => some (0, 0, 0)
  | .finite .positive mantissa exponent _ => some (1, exponent, mantissa)
  | .infinity .positive => some (2, 0, 0)

/-- The `Place` of a floating-point number, none for a NaN. -/
def place? (x : Float) : Option Place := placeOf? x.toModel.unpack

/-- Compares two options by `cmp` if both are there. -/
def compareBoth {α : Type} (cmp : α → α → Ordering) : Option α → Option α → Option Ordering
  | some a, some b => some (cmp a b)
  | _, _ => none

/-- Natural numbers are compared as integers. -/
theorem compare_natCast (m n : Nat) : compare (m : Int) n = compare m n := by
  rcases Nat.lt_trichotomy m n with h | rfl | h
  · rw [Nat.compare_eq_lt.mpr h, Int.compare_eq_lt.mpr (by omega)]
  · rw [Nat.compare_eq_eq.mpr rfl, Int.compare_eq_eq.mpr rfl]
  · rw [Nat.compare_eq_gt.mpr h, Int.compare_eq_gt.mpr (by omega)]

/-- Negated integers are compared the other way round. -/
theorem compare_neg (a b : Int) : compare (-a) (-b) = (compare a b).swap := by
  rcases Int.lt_trichotomy a b with h | rfl | h
  · rw [Int.compare_eq_lt.mpr h, Int.compare_eq_gt.mpr (by omega)]
    rfl
  · rw [Int.compare_eq_eq.mpr rfl, Int.compare_eq_eq.mpr rfl]
    rfl
  · rw [Int.compare_eq_gt.mpr h, Int.compare_eq_lt.mpr (by omega)]
    rfl

/-- Unpacked numbers are compared by their places, `placeOf?`, one case for each pair of
constructors. -/
theorem compare_unpacked (u v : UnpackedFloat) :
    u.compare v = compareBoth comparePlaces (placeOf? u) (placeOf? v) := by
  have hsame (s : Int) (e e' m m' : Int) :
      comparePlaces (s, e, m) (s, e', m') = (compare e e').then (compare m m') := by
    show (compare s s).then _ = _
    rw [Int.compare_eq_eq.mpr rfl]
    rfl
  rcases u with ⟨_ | _⟩ | _ | s | ⟨⟨_ | _⟩, m, e, h⟩ <;>
    rcases v with ⟨_ | _⟩ | _ | s' | ⟨⟨_ | _⟩, m', e', h'⟩
  -- Only two finite numbers of one sign are compared by more than that.
  all_goals try rfl
  · show some ((compare e e').then (compare m m')).swap =
      some (comparePlaces (-1, -e, -m) (-1, -e', -m'))
    rw [hsame, compare_neg, compare_neg, compare_natCast, Ordering.swap_then]
  · show some ((compare e e').then (compare m m')) = some (comparePlaces (1, e, m) (1, e', m'))
    rw [hsame, compare_natCast]

/-- `compareBoth cmp a b` is `compareBoth cmp b a` swapped. -/
theorem compareBoth_swap {α : Type} {cmp : α → α → Ordering} [Std.OrientedCmp cmp]
    (a b : Option α) :
    compareBoth cmp a b = (compareBoth cmp b a).map Ordering.swap := by
  cases a with
  | none => cases b <;> rfl
  | some a =>
      cases b with
      | none => rfl
      | some b => exact congrArg some Std.OrientedCmp.eq_swap

/-- **Numbers**: `compareFloats?` compares the places `place? x` and `place? y`. -/
theorem compareFloats?_eq (x y : Float) :
    compareFloats? x y = compareBoth comparePlaces (place? x) (place? y) := by
  have hlt (x y : Float) : x < y ↔ compareBoth comparePlaces (place? x) (place? y) = some .lt := by
    rw [place?, place?, ← compare_unpacked]
    exact decide_eq_true_iff.trans (beq_iff_eq (a := x.toModel.unpack.compare y.toModel.unpack))
  have heq (x y : Float) :
      (x == y) = true ↔ compareBoth comparePlaces (place? x) (place? y) = some .eq := by
    rw [place?, place?, ← compare_unpacked]
    exact beq_iff_eq (a := x.toModel.unpack.compare y.toModel.unpack)
  unfold compareFloats?
  simp only [hlt, heq]
  rw [compareBoth_swap (place? y)]
  rcases compareBoth comparePlaces (place? x) (place? y) with _ | _ | _ | _ <;> rfl

/-- A number with `x == x`, as all but a NaN have, has a place. -/
theorem exists_place?_of_beq_self {x : Float} (h : (x == x) = true) : ∃ p, place? x = some p := by
  have heq : x.toModel.unpack.compare x.toModel.unpack = some .eq :=
    (beq_iff_eq (a := x.toModel.unpack.compare x.toModel.unpack)).mp h
  rw [compare_unpacked] at heq
  rcases hp : placeOf? x.toModel.unpack with _ | p
  · rw [hp] at heq
    cases heq
  · exact ⟨p, hp⟩

/-! ## Both ways -/

/-- `compareFloats? x y` is `compareFloats? y x` swapped. -/
theorem compareFloats?_swap (x y : Float) :
    compareFloats? x y = (compareFloats? y x).map Ordering.swap := by
  rw [compareFloats?_eq, compareFloats?_eq]
  exact compareBoth_swap _ _

/-- **Both ways**: `a.compare? b` is `b.compare? a` swapped, and there is none if there was none. -/
theorem compare?_swap (a b : Value) : a.compare? b = (b.compare? a).map Ordering.swap := by
  have hsame {α : Type} [Ord α] [Std.OrientedOrd α] (x y : α) :
      some (compare x y) = (some (compare y x)).map Ordering.swap :=
    congrArg some Std.OrientedCmp.eq_swap
  cases a <;> cases b
  all_goals try rfl
  case boolean.boolean => exact hsame _ _
  case integer.integer => exact hsame _ _
  case integer.float => exact compareFloats?_swap _ _
  case float.integer => exact compareFloats?_swap _ _
  case float.float => exact compareFloats?_swap _ _
  case text.text => exact hsame _ _
  case blob.blob => exact hsame _ _

/-! ## Keys -/

/-- What values other than null are compared by, one constructor for each kind that is in order with
itself. -/
inductive Key where
  /-- A truth value. -/
  | boolean (b : Bool)
  /-- The place of a number. -/
  | number (p : Place)
  /-- A text. -/
  | text (s : String)
  /-- A sequence of bytes. -/
  | blob (bytes : List UInt8)

/-- The order of keys, none for those of different constructors. -/
def Key.compare? : Key → Key → Option Ordering
  | boolean a, boolean b => some (compare a b)
  | number p, number q => some (comparePlaces p q)
  | text a, text b => some (compare a b)
  | blob a, blob b => some (compare a b)
  | _, _ => none

/-- The `Place` of an integer, that of the nearest floating-point number if it is `rounded`. -/
def integerPlace? (rounded : Bool) (n : Int64) : Option Place :=
  if rounded then place? (Float.ofInt n.toInt) else some (n.toInt, 0, 0)

/-- The `Key` of a value, none for null and for a NaN. Integers are `rounded` where there are
floating-point numbers to compare them with. -/
def key? (rounded : Bool) : Value → Option Key
  | null => none
  | boolean b => some (.boolean b)
  | integer n => (integerPlace? rounded n).map .number
  | float x => (place? x).map .number
  | text s => some (.text s)
  | blob bytes => some (.blob bytes)

/-- Whether there are floating-point numbers among `vs`. -/
def hasFloats (vs : List Value) : Bool :=
  vs.any fun
    | float _ => true
    | _ => false

/-- A floating-point number of `vs` is one of them. -/
theorem hasFloats_of_mem {vs : List Value} {x : Float} (h : float x ∈ vs) : hasFloats vs = true :=
  List.any_eq_true.mpr ⟨float x, h, rfl⟩

/-- Whether integers of `vs` keep their order when they are rounded, if `hasFloats vs`. -/
def Faithful (vs : List Value) : Prop :=
  ∀ m n, integer m ∈ vs → integer n ∈ vs → hasFloats vs = true →
    compareFloats? (Float.ofInt m.toInt) (Float.ofInt n.toInt) = some (compare m.toInt n.toInt)

/-- Compares two keys if both are there. -/
def compareKeys? : Option Key → Option Key → Option Ordering
  | some k, some l => k.compare? l
  | _, _ => none

/-- The keys of two numbers are compared by `comparePlaces`. -/
theorem compareKeys?_number (p q : Option Place) :
    compareKeys? (p.map .number) (q.map .number) = compareBoth comparePlaces p q := by
  cases p <;> cases q <;> rfl

/-- A key of another kind is not in order with that of a number. -/
theorem compareKeys?_other {k : Key} (hk : ∀ q, k.compare? (.number q) = none) (p : Option Place) :
    compareKeys? (some k) (p.map .number) = none := by
  cases p with
  | none => rfl
  | some q => exact hk q

/-- The key of a number is not in order with one of another kind. -/
theorem compareKeys?_number_other {k : Key} (hk : ∀ q, (Key.number q).compare? k = none)
    (p : Option Place) : compareKeys? (p.map .number) (some k) = none := by
  cases p with
  | none => rfl
  | some q => exact hk q

variable {vs : List Value} {a b c : Value} {o o' : Ordering}

/-- Integers of values that are `Faithful` are compared by `integerPlace?`. -/
theorem Faithful.compare_integers (h : Faithful vs) {m n : Int64} (hm : integer m ∈ vs)
    (hn : integer n ∈ vs) :
    some (compare m.toInt n.toInt) =
      compareBoth comparePlaces (integerPlace? (hasFloats vs) m)
        (integerPlace? (hasFloats vs) n) := by
  cases hfloats : hasFloats vs with
  | true =>
      rw [← h m n hm hn hfloats, compareFloats?_eq]
      rfl
  | false =>
      show _ = some ((compare m.toInt n.toInt).then .eq)
      cases compare m.toInt n.toInt <;> rfl

/-- **Keys**: on values that are `Faithful`, those other than null are compared by their keys,
`key? (hasFloats vs)`. -/
theorem compare?_eq_keys (h : Faithful vs) (ha : a ∈ vs) (hb : b ∈ vs) (hna : a ≠ null)
    (hnb : b ≠ null) : a.compare? b = compareKeys? (a.key? (hasFloats vs))
      (b.key? (hasFloats vs)) := by
  -- Numbers of the two kinds meet only where integers are rounded.
  have hrounded {x : Float} (hx : float x ∈ vs) (n : Int64) :
      place? (Float.ofInt n.toInt) = integerPlace? (hasFloats vs) n := by
    rw [hasFloats_of_mem hx]
    rfl
  cases a <;> cases b
  case null.null | null.boolean | null.integer | null.float | null.text | null.blob =>
    exact absurd rfl hna
  case boolean.null | integer.null | float.null | text.null | blob.null => exact absurd rfl hnb
  case boolean.integer | boolean.float | text.integer | text.float | blob.integer | blob.float =>
    exact (compareKeys?_other (fun _ => rfl) _).symm
  case integer.boolean | float.boolean | integer.text | float.text | integer.blob | float.blob =>
    exact (compareKeys?_number_other (fun _ => rfl) _).symm
  case integer.integer => exact (h.compare_integers ha hb).trans (compareKeys?_number _ _).symm
  case integer.float m y =>
    refine (compareFloats?_eq _ _).trans ?_
    rw [hrounded hb]
    exact (compareKeys?_number _ _).symm
  case float.integer x n =>
    refine (compareFloats?_eq _ _).trans ?_
    rw [hrounded ha]
    exact (compareKeys?_number _ _).symm
  case float.float => exact (compareFloats?_eq _ _).trans (compareKeys?_number _ _).symm
  all_goals rfl

/-- "Not greater" is transitive for keys, and there is an order between the ends. -/
theorem compareKeys?_trans {k l m : Option Key} (hkl : compareKeys? k l = some o) (ho : o ≠ .gt)
    (hlm : compareKeys? l m = some o') (ho' : o' ≠ .gt) :
    ∃ o'', compareKeys? k m = some o'' ∧ o'' ≠ .gt := by
  rcases k with _ | _ | _ | _ | _ <;> rcases l with _ | _ | _ | _ | _ <;> try cases hkl
  all_goals rcases m with _ | _ | _ | _ | _ <;> try cases hlm
  -- Three keys of one kind are left.
  all_goals
    exact ⟨_, rfl, Ordering.isLE_iff_ne_gt.mp <|
      Std.TransCmp.isLE_trans (Ordering.isLE_iff_ne_gt.mpr ho) (Ordering.isLE_iff_ne_gt.mpr ho')⟩

/-- A key `m` that is not in order with `l` is not in order with any `k` that is in order with
`l`. -/
theorem compareKeys?_none {k l m : Option Key} (hkl : compareKeys? k l = some o)
    (hlm : compareKeys? l m = none) : compareKeys? k m = none := by
  rcases k with _ | _ | _ | _ | _ <;> rcases l with _ | _ | _ | _ | _ <;> try cases hkl
  all_goals rcases m with _ | _ | _ | _ | _ <;> first | rfl | cases hlm

/-! ## Three values -/

/-- Null is in order with every value and not above it. -/
theorem compare?_null_left (b : Value) : ∃ o, null.compare? b = some o ∧ o ≠ .gt := by
  cases b <;> exact ⟨_, rfl, nofun⟩

/-- Only null is not above null. -/
theorem eq_null_of_compare?_null (h : a.compare? null = some o) (ho : o ≠ .gt) : a = null := by
  cases a
  case null => rfl
  all_goals
    cases h
    exact absurd rfl ho

/-- "Not greater" is transitive for values that are `Faithful`, null included. -/
theorem compare?_trans (h : Faithful vs) (ha : a ∈ vs) (hb : b ∈ vs) (hc : c ∈ vs)
    (hab : a.compare? b = some o) (ho : o ≠ .gt) (hbc : b.compare? c = some o') (ho' : o' ≠ .gt) :
    ∃ o'', a.compare? c = some o'' ∧ o'' ≠ .gt := by
  by_cases hna : a = null
  · subst hna
    exact compare?_null_left c
  have hnb : b ≠ null := by
    rintro rfl
    exact hna (eq_null_of_compare?_null hab ho)
  have hnc : c ≠ null := by
    rintro rfl
    exact hnb (eq_null_of_compare?_null hbc ho')
  rw [compare?_eq_keys h ha hb hna hnb] at hab
  rw [compare?_eq_keys h hb hc hnb hnc] at hbc
  rw [compare?_eq_keys h ha hc hna hnc]
  exact compareKeys?_trans hab ho hbc ho'

/-- A value `c` that is not in order with `b` is not in order with any `a`, other than null, that is
in order with `b`. -/
theorem compare?_none_of_compare? (h : Faithful vs) (ha : a ∈ vs) (hb : b ∈ vs) (hc : c ∈ vs)
    (hna : a ≠ null) (hab : a.compare? b = some o) (hbc : b.compare? c = none) :
    a.compare? c = none := by
  have hnb : b ≠ null := by
    rintro rfl
    cases c <;> cases hbc
  have hnc : c ≠ null := by
    rintro rfl
    cases b <;> cases hbc
  rw [compare?_eq_keys h ha hb hna hnb] at hab
  rw [compare?_eq_keys h hb hc hnb hnc] at hbc
  rw [compare?_eq_keys h ha hc hna hnc]
  exact compareKeys?_none hab hbc

/-! ## Chains -/

/-- The order by which cells are sorted: `compare?`, and `.eq` for values that are not in order. -/
def sortOrder (a b : Value) : Ordering := (a.compare? b).getD .eq

/-- `sortOrder a b` is `sortOrder b a` swapped. -/
theorem sortOrder_swap (a b : Value) : sortOrder a b = (sortOrder b a).swap := by
  unfold sortOrder
  rw [compare?_swap]
  cases b.compare? a <;> rfl

/-- `sortOrder a b = .gt` exactly if `a.compare? b = some .gt`. -/
theorem sortOrder_eq_gt_iff : sortOrder a b = .gt ↔ a.compare? b = some .gt := by
  unfold sortOrder
  cases a.compare? b with
  | none => exact ⟨nofun, nofun⟩
  | some o => exact ⟨congrArg some, Option.some.inj⟩

/-- `sortOrder` is `compare?` for values that are in order. -/
theorem sortOrder_eq_iff (h : (a.compare? b).isSome) : sortOrder a b = o ↔
    a.compare? b = some o := by
  obtain ⟨order, horder⟩ := Option.isSome_iff_exists.mp h
  rw [sortOrder, horder]
  exact Option.some_inj.symm

/-- Whether a value `v` is not in order with two others, `low` and `high`, one of them below the
other one. -/
def Straddled (vs : List Value) : Prop :=
  ∃ low ∈ vs, ∃ v ∈ vs, ∃ high ∈ vs,
    low.compare? high = some .lt ∧ low.compare? v = none ∧ v.compare? high = none

instance (vs : List Value) : Decidable (Straddled vs) :=
  inferInstanceAs (Decidable (∃ low ∈ vs, ∃ v ∈ vs, ∃ high ∈ vs,
    low.compare? high = some .lt ∧ low.compare? v = none ∧ v.compare? high = none))

/-- `sortOrder` is not `Chained` on values that are `Straddled`: `high`, `v` and `low` are taken for
equal in turn, and `high` is above `low`. -/
theorem Straddled.not_chained (h : Straddled vs) : ¬ Chained sortOrder vs := by
  obtain ⟨low, hlow, v, hv, high, hhigh, hbelow, hlv, hvh⟩ := h
  intro hchained
  have hhv : sortOrder high v = .eq := by rw [sortOrder_swap, sortOrder, hvh]; rfl
  have hvl : sortOrder v low = .eq := by rw [sortOrder_swap, sortOrder, hlv]; rfl
  have hhl : sortOrder high low = .gt := by rw [sortOrder_swap, sortOrder, hbelow]; rfl
  exact hchained high hhigh v hv low hlow (by rw [hhv]; nofun) (by rw [hvl]; nofun) hhl

/-- **Chains**: on values that are `Faithful`, `sortOrder` is `Chained` exactly if they are not
`Straddled`. -/
theorem chained_iff_not_straddled (h : Faithful vs) : Chained sortOrder vs ↔ ¬ Straddled vs := by
  refine ⟨fun hchained hstraddled => hstraddled.not_chained hchained, ?_⟩
  intro hnot a ha b hb c hc hab hbc hgt
  rw [sortOrder_eq_gt_iff] at hgt
  have hca : c.compare? a = some .lt := by rw [compare?_swap, hgt]; rfl
  have hna : a ≠ null := by
    rintro rfl
    cases c <;> cases hgt
  rcases hoab : a.compare? b with _ | o <;> rcases hobc : b.compare? c with _ | o'
  · have hcb : c.compare? b = none := by rw [compare?_swap, hobc]; rfl
    have hba : b.compare? a = none := by rw [compare?_swap, hoab]; rfl
    exact hnot ⟨c, hc, b, hb, a, ha, hca, hcb, hba⟩
  · -- `c` is in order with both, so they are in order with each other.
    have hba : b.compare? a = none := by rw [compare?_swap, hoab]; rfl
    have hcb : c.compare? b = some o'.swap := by rw [compare?_swap, hobc]; rfl
    have hnc : c ≠ null := by
      rintro rfl
      cases eq_null_of_compare?_null hobc fun ho' => hbc (sortOrder_eq_gt_iff.mpr (ho' ▸ hobc))
      cases a <;> cases hba
    cases hca.symm.trans (compare?_none_of_compare? h hc hb ha hnc hcb hba)
  · cases hgt.symm.trans (compare?_none_of_compare? h ha hb hc hna hoab hobc)
  · have ho : o ≠ .gt := fun ho => hab (sortOrder_eq_gt_iff.mpr (ho ▸ hoab))
    have ho' : o' ≠ .gt := fun ho' => hbc (sortOrder_eq_gt_iff.mpr (ho' ▸ hobc))
    obtain ⟨o'', ho'', hle⟩ := compare?_trans h ha hb hc hoab ho hobc ho'
    cases hgt.symm.trans ho''
    exact hle rfl

/-! ## One kind -/

/-- The kinds of values, one for each constructor of `Value`. -/
inductive Kind where
  /-- Null. -/
  | null
  /-- Truth values. -/
  | boolean
  /-- Integers. -/
  | integer
  /-- Floating-point numbers. -/
  | float
  /-- Texts. -/
  | text
  /-- Sequences of bytes. -/
  | blob
deriving DecidableEq

/-- The `Kind` of a value. -/
def kind : Value → Kind
  | null => .null
  | boolean _ => .boolean
  | integer _ => .integer
  | float _ => .float
  | text _ => .text
  | blob _ => .blob

/-- Whether the values other than null are of one `Kind`, and none of them is a NaN. -/
structure OneKind (vs : List Value) : Prop where
  /-- Two values that are not null are of one kind. -/
  kind_eq : ∀ a ∈ vs, ∀ b ∈ vs, a ≠ null → b ≠ null → a.kind = b.kind
  /-- No floating-point number is a NaN. -/
  beq_self : ∀ x, float x ∈ vs → (x == x) = true

/-- Values of one kind are `Faithful`: no integer stands beside a floating-point number. -/
theorem OneKind.faithful (h : OneKind vs) : Faithful vs := by
  intro m _ hm _ hfloats
  obtain ⟨v, hv, hfloat⟩ := List.any_eq_true.mp hfloats
  cases v with
  | float x => cases h.kind_eq _ hm _ hv nofun nofun
  | _ => cases hfloat

/-- Values of one kind are in order. -/
theorem OneKind.compare?_isSome (h : OneKind vs) (ha : a ∈ vs) (hb : b ∈ vs) :
    (a.compare? b).isSome := by
  by_cases hna : a = null
  · subst hna
    cases b <;> rfl
  by_cases hnb : b = null
  · subst hnb
    cases a <;> rfl
  have hkind := h.kind_eq a ha b hb hna hnb
  cases a <;> cases b <;> cases hkind
  case float.float.refl x y =>
    obtain ⟨p, hp⟩ := exists_place?_of_beq_self (h.beq_self x ha)
    obtain ⟨q, hq⟩ := exists_place?_of_beq_self (h.beq_self y hb)
    show (compareFloats? x y).isSome
    rw [compareFloats?_eq, hp, hq]
    rfl
  all_goals rfl

/-- **One kind**: values of one kind are not `Straddled`. -/
theorem OneKind.not_straddled (h : OneKind vs) : ¬ Straddled vs := by
  rintro ⟨low, hlow, v, hv, -, -, -, hnone, -⟩
  have hsome := h.compare?_isSome hlow hv
  rw [hnone] at hsome
  cases hsome

/-! ## Without floating-point numbers -/

/-- Whether a value is below another one: it is null and the other one is not, or both are of one
kind, other than floating-point numbers, and in the order of that kind. `order_laws` shows that
`compare?` agrees with it. -/
inductive Below : Value → Value → Prop where
  /-- Null is below all other values. -/
  | null {v : Value} (h : v ≠ null) : Below null v
  /-- False is below true. -/
  | boolean : Below (boolean false) (boolean true)
  /-- Integers are in the order of numbers. -/
  | integer {m n : Int64} (h : m.toInt < n.toInt) : Below (integer m) (integer n)
  /-- Texts are in the order of their characters. -/
  | text {s t : String} (h : s < t) : Below (text s) (text t)
  /-- Sequences of bytes are in the order of their bytes. -/
  | blob {bs cs : List UInt8} (h : bs < cs) : Below (blob bs) (blob cs)

/-- `compare` on lists of bytes is their lexicographic order. -/
theorem compare_bytes_eq_lt_iff (bs cs : List UInt8) : compare bs cs = .lt ↔ bs < cs := by
  induction bs generalizing cs with
  | nil => cases cs <;> simp
  | cons b bs ih =>
      cases cs with
      | nil => simp
      | cons c cs =>
          rw [List.compare_cons_cons, Ordering.then_eq_lt, List.cons_lt_cons_iff, ih,
            Std.compare_eq_lt,
            Std.compare_eq_iff_eq]

/-- **Without floating-point numbers**: `a.compare? b = some .lt` exactly if `Below a b`. -/
theorem compare?_eq_lt_iff (ha : a.kind ≠ .float) (hb : b.kind ≠ .float) :
    a.compare? b = some .lt ↔ Below a b := by
  cases a <;> cases b
  case float.null | float.boolean | float.integer | float.float | float.text | float.blob =>
    exact absurd rfl ha
  case null.float | boolean.float | integer.float | text.float | blob.float => exact absurd rfl hb
  case null.null => exact ⟨nofun, fun | .null h => absurd rfl h⟩
  case null.boolean | null.integer | null.text | null.blob =>
    exact ⟨fun _ => .null nofun, fun _ => rfl⟩
  case boolean.boolean x y =>
    refine ⟨fun h => ?_, fun | .boolean => rfl⟩
    cases x <;> cases y <;> first | exact .boolean | cases h
  case integer.integer m n =>
    exact (Option.some_inj.trans compare_lt_iff_lt).trans ⟨.integer, fun | .integer h => h⟩
  case text.text s t =>
    exact (Option.some_inj.trans compare_lt_iff_lt).trans ⟨.text, fun | .text h => h⟩
  case blob.blob bs cs =>
    exact (Option.some_inj.trans (compare_bytes_eq_lt_iff bs cs)).trans ⟨.blob, fun | .blob h => h⟩
  all_goals exact ⟨nofun, nofun⟩

/-- **Without floating-point numbers**: `a.compare? b = some .eq` exactly if `a = b`. -/
theorem compare?_eq_eq_iff (ha : a.kind ≠ .float) (hb : b.kind ≠ .float) :
    a.compare? b = some .eq ↔ a = b := by
  cases a <;> cases b
  case float.null | float.boolean | float.integer | float.float | float.text | float.blob =>
    exact absurd rfl ha
  case null.float | boolean.float | integer.float | text.float | blob.float => exact absurd rfl hb
  case null.null => exact ⟨fun _ => rfl, fun _ => rfl⟩
  case boolean.boolean x y =>
    exact (Option.some_inj.trans Std.compare_eq_iff_eq).trans (Value.boolean.injEq x y ▸ Iff.rfl)
  case integer.integer m n =>
    refine (Option.some_inj.trans Std.compare_eq_iff_eq).trans ?_
    rw [Int64.toInt_inj, Value.integer.injEq]
  case text.text s t =>
    exact (Option.some_inj.trans Std.compare_eq_iff_eq).trans (Value.text.injEq s t ▸ Iff.rfl)
  case blob.blob bs cs =>
    exact (Option.some_inj.trans Std.compare_eq_iff_eq).trans (Value.blob.injEq bs cs ▸ Iff.rfl)
  all_goals exact ⟨nofun, nofun⟩

/-- **Without floating-point numbers**: `a.compare? b = none` exactly if neither is null and their
kinds differ. -/
theorem compare?_eq_none_iff (ha : a.kind ≠ .float) (hb : b.kind ≠ .float) :
    a.compare? b = none ↔ a.isNull = false ∧ b.isNull = false ∧ a.kind ≠ b.kind := by
  cases a <;> cases b
  case float.null | float.boolean | float.integer | float.float | float.text | float.blob =>
    exact absurd rfl ha
  case null.float | boolean.float | integer.float | text.float | blob.float => exact absurd rfl hb
  all_goals simp [compare?, isNull, kind, asFloat?]

/-- On values that are no floating-point numbers `==` is equality. -/
theorem beq_iff_eq_of_kind (ha : a.kind ≠ .float) : (a == b) = true ↔ a = b := by
  cases a <;> cases b
  case float.null | float.boolean | float.integer | float.float | float.text | float.blob =>
    exact absurd rfl ha
  case null.null => exact ⟨fun _ => rfl, fun _ => rfl⟩
  case boolean.boolean x y => exact (beq_iff_eq (a := x)).trans (Value.boolean.injEq x y ▸ Iff.rfl)
  case integer.integer m n => exact (beq_iff_eq (a := m)).trans (Value.integer.injEq m n ▸ Iff.rfl)
  case text.text s t => exact (beq_iff_eq (a := s)).trans (Value.text.injEq s t ▸ Iff.rfl)
  case blob.blob bs cs => exact (beq_iff_eq (a := bs)).trans (Value.blob.injEq bs cs ▸ Iff.rfl)
  all_goals exact ⟨nofun, nofun⟩

/-- Values of which none is a floating-point number are `Faithful`: no integer is rounded. -/
theorem faithful_of_kind (h : ∀ v ∈ vs, v.kind ≠ .float) : Faithful vs := by
  intro m n _ _ hfloats
  obtain ⟨v, hv, hfloat⟩ := List.any_eq_true.mp hfloats
  cases v with
  | float x => exact absurd rfl (h _ hv)
  | _ => cases hfloat

/-- Values other than null are in order exactly if they are of one `kind`. -/
theorem compare?_isSome_iff (ha : a.kind ≠ .float) (hb : b.kind ≠ .float) (hna : a.isNull = false)
    (hnb : b.isNull = false) : (a.compare? b).isSome = true ↔ a.kind = b.kind := by
  rw [Option.isSome_iff_ne_none, ne_eq, compare?_eq_none_iff ha hb]
  constructor
  · intro h
    by_contra hkind
    exact h ⟨hna, hnb, hkind⟩
  · rintro hkind ⟨-, -, hdiffer⟩
    exact hdiffer hkind

/-- **A partial order.** For values that are no floating-point numbers,

* `b.compare? a` is `a.compare? b` swapped;
* `a.compare? b = some .eq` exactly if `a == b`;
* "not greater" is transitive, `compare?` being there;
* null is below all others;
* two values other than null are in order exactly if they are of one `kind`;
* `a.compare? b = some .lt` exactly if `Below a b`: null below all others, and otherwise in the
  order of truth values, numbers, characters or bytes. -/
theorem order_laws (a b c : Value) (ha : a.kind ≠ .float) (hb : b.kind ≠ .float)
    (hc : c.kind ≠ .float) :
    b.compare? a = (a.compare? b).map Ordering.swap ∧
    (a.compare? b = some .eq ↔ (a == b) = true) ∧
    (∀ o o', a.compare? b = some o → o ≠ .gt → b.compare? c = some o' → o' ≠ .gt →
      ∃ o'', a.compare? c = some o'' ∧ o'' ≠ .gt) ∧
    (b.isNull = false → null.compare? b = some .lt) ∧
    (a.isNull = false → b.isNull = false → ((a.compare? b).isSome = true ↔ a.kind = b.kind)) ∧
    (a.compare? b = some .lt ↔ Below a b) := by
  have hfaithful : Faithful [a, b, c] := by
    apply faithful_of_kind
    intro v hv
    simp only [List.mem_cons, List.not_mem_nil, or_false] at hv
    obtain rfl | rfl | rfl := hv <;> assumption
  refine ⟨compare?_swap b a, ?_, ?_, ?_, compare?_isSome_iff ha hb, compare?_eq_lt_iff ha hb⟩
  · rw [compare?_eq_eq_iff ha hb, beq_iff_eq_of_kind ha]
  · intro o o' hab ho hbc ho'
    exact compare?_trans hfaithful (by simp) (by simp) (by simp) hab ho hbc ho'
  · intro hnb
    apply (compare?_eq_lt_iff (by decide) hb).mpr
    apply Below.null
    rintro rfl
    cases hnb

/-- Three sequences of bytes, the first of which is the beginning of the second one. -/
theorem order_laws_bytes :
    let a := blob [1]
    let b := blob [1, 0]
    let c := blob [2]
    b.compare? a = some .gt ∧ (a == b) = false ∧ (∃ o, a.compare? c = some o ∧ o ≠ .gt) ∧
    null.compare? b = some .lt ∧ (a.compare? b).isSome = true ∧ Below a b := by
  intro a b c
  obtain ⟨hswap, hequal, htrans, hnull, hkind, hbelow⟩ := order_laws a b c nofun nofun nofun
  have hab : a.compare? b = some .lt := by decide
  have hbc : b.compare? c = some .lt := by decide
  refine ⟨?_, ?_, htrans _ _ hab nofun hbc nofun, hnull rfl, (hkind rfl rfl).mpr rfl, hbelow.mp hab⟩
  · rw [hswap, hab]
    rfl
  · rw [Bool.eq_false_iff]
    intro h
    cases hab.symm.trans (hequal.mpr h)

end Value

end DataAccess
