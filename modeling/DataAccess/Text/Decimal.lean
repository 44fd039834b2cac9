/-!
# Decimal: the shortest decimal text of a floating-point number

`Decimal.shortest` finds the fewest digits that read back to a positive number, by exact arithmetic
on natural numbers, and among equally short candidates the nearest. `floatText` lays the digits out
positionally, never with an exponent.
-/

namespace DataAccess.Text

/-- `base` to the power `exponent`, and one where the exponent is negative. -/
def powerUp (base : Nat) (exponent : Int) : Nat :=
  base.pow exponent.toNat

/-- A positive binary number `mantissa * 2 ^ exponent`. -/
structure Binary where
  /-- The mantissa. -/
  mantissa : Nat
  /-- The exponent of two. -/
  exponent : Int
  /-- Whether the gap to the number below is half the gap to the number above. -/
  narrowBelow : Bool

/-- The absolute value of the finite number with the given bits. -/
def Binary.ofBits (bits : UInt64) : Binary :=
  let biased : Nat := bits.toNat / powerUp 2 52 % powerUp 2 11
  let fraction : Nat := bits.toNat % powerUp 2 52
  if biased = 0 then ⟨fraction, -1074, false⟩
  else ⟨powerUp 2 52 + fraction, (biased : Int) - 1075, fraction == 0 && 1 < biased⟩

/-- Digits and the place of their point: `digits * 10 ^ exponent`. -/
structure Decimal where
  /-- The digits, read as one number. -/
  digits : Nat
  /-- The exponent of ten. -/
  exponent : Int

/-- The order of `a * 10 ^ i` and `n * 2 ^ j`. -/
def compareScaled (a : Nat) (i : Int) (n : Nat) (j : Int) : Ordering :=
  compare (a * powerUp 10 i * powerUp 2 (-j)) (n * powerUp 2 j * powerUp 10 (-i))

/-- Whether `d` lies among the numbers that round to `x`. The ends of that interval count when the
mantissa is even. -/
def Binary.readsBack (x : Binary) (d : Decimal) : Bool :=
  let low := if x.narrowBelow then 4 * x.mantissa - 1 else 4 * x.mantissa - 2
  let high := 4 * x.mantissa + 2
  let below := compareScaled d.digits d.exponent low (x.exponent - 2)
  let above := compareScaled d.digits d.exponent high (x.exponent - 2)
  let ends := x.mantissa % 2 == 0
  (below == .gt || (ends && below == .eq)) && (above == .lt || (ends && above == .eq))

/-- The first power of ten above `x`, at most `fuel` steps up from `10 ^ k`. -/
def Binary.scaleFrom (x : Binary) : Nat → Int → Int
  | 0, k => k
  | fuel + 1, k =>
      if compareScaled 1 k x.mantissa x.exponent == .gt then k else x.scaleFrom fuel (k + 1)

/-- The largest multiple of `10 ^ e` that is at most `x`, counted in that unit. -/
def Binary.floorAt (x : Binary) (e : Int) : Nat :=
  x.mantissa * powerUp 2 x.exponent * powerUp 10 (-e) / (powerUp 2 (-x.exponent) * powerUp 10 e)

/-- Of the two neighbours of `x` on the grid of `10 ^ e`, the one that reads back, or the nearer if
both do. Halfway between them the upper one is taken. -/
def Binary.onGrid? (x : Binary) (e : Int) : Option Decimal :=
  let down : Decimal := ⟨x.floorAt e, e⟩
  let up : Decimal := ⟨x.floorAt e + 1, e⟩
  match x.readsBack down, x.readsBack up with
  | true, true =>
      if compareScaled (2 * down.digits + 1) e (2 * x.mantissa) x.exponent == .gt then some down
      else some up
  | true, false => some down
  | false, true => some up
  | false, false => none

/-- The first hit among the grids of `n`, `n + 1`, … digits below `10 ^ k`. If none of `fuel` grids
has one, the number itself is taken, in units of the smallest grid that holds it exactly. -/
def Binary.search (x : Binary) (k : Int) : Nat → Nat → Decimal
  | 0, _ => ⟨x.mantissa * powerUp 2 x.exponent * powerUp 5 (-x.exponent), min x.exponent 0⟩
  | fuel + 1, n => match x.onGrid? (k - n) with
      | some d => d
      | none => x.search k fuel (n + 1)

/-- The fewest digits that read back to `x`. The search for the scale starts below the smallest
positive number and seventeen digits are always enough. -/
def Binary.shortest (x : Binary) : Decimal :=
  x.search (x.scaleFrom 700 (-330)) 17 1

/-- A decimal number in positional notation, without an exponent and without a point after its last
digit. -/
def Decimal.text (d : Decimal) : String :=
  let digits := (Nat.toDigits 10 d.digits).reverse.dropWhile (· == '0')
  let dropped := (Nat.toDigits 10 d.digits).length - digits.length
  let exponent := d.exponent + dropped
  let shown := digits.reverse
  if 0 ≤ exponent then String.ofList (shown ++ List.replicate exponent.toNat '0')
  else
    let places := (-exponent).toNat
    let padded := List.replicate (places + 1 - shown.length) '0' ++ shown
    String.ofList (padded.take (padded.length - places) ++ '.' ::
      padded.drop (padded.length - places))

/-- The text of a floating-point number: the fewest digits that read back to it, in positional
notation. The sign of zero is kept. -/
def floatText (x : Float) : String :=
  if x.isNaN then "NaN"
  else
    let bits := x.toBits
    let sign := if bits.toNat < powerUp 2 63 then "" else "-"
    if x.isInf then sign ++ "inf"
    else
      let magnitude := Binary.ofBits bits
      if magnitude.mantissa = 0 then sign ++ "0" else sign ++ magnitude.shortest.text

end DataAccess.Text
