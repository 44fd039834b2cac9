import DataAccess.Dialect.Rendering
import DataAccess.Proofs.NameReader
import DataAccess.Proofs.ValueOrder

/-!
# Literal reader: the values in a text of SQL

`readLiteral?` is a reader of literals. It gives the value at the front of a text of SQL and what
follows it: a word, a number, a text in quotes where a quote written twice stands for itself, or
bytes as pairs of digits. `readList?` reads lists of literals between parentheses. Floating-point
numbers are left out.

* **Numbers** (`readInteger?_repr`), **bytes** (`readBytes?_hexBytes`) and **words**
  (`readWord?_append`) are read back from how they are written.
* **Literals** (`readLiteral?_literal`): every value is read back, if what follows does not continue
  it (`EndsLiteral`).
* **Lists** (`readList?_literalList`): so is every list of values.
* **Values and texts** (`literals_decode`): all values, in all conditions that they are members of.
-/

namespace DataAccess

/-! ## Numbers -/

namespace Text

/-- The number that a word of decimal digits stands for (`readDigits?`), none for the empty word. -/
def readNumber? (word : String) : Option Nat :=
  if word.isEmpty then none else readDigits? 0 word.toList

/-- `readDigits?` reads digits as the number `Nat.ofDigitChars` of them. -/
theorem readDigits?_eq {cs : List Char} (h : ∀ c ∈ cs, c.isDigit = true) (acc : Nat) :
    readDigits? acc cs = some (Nat.ofDigitChars 10 cs acc) := by
  induction cs generalizing acc with
  | nil => rfl
  | cons c cs ih =>
      have hc : c.isDigit = true := h c List.mem_cons_self
      have hcs : ∀ c ∈ cs, c.isDigit = true := fun c' hc' => h c' (List.mem_cons_of_mem _ hc')
      rw [readDigits?, if_pos hc, ih hcs, Nat.ofDigitChars_cons, Nat.mul_comm]

/-- The characters of a number are digits. -/
theorem isDigit_of_mem_toDigits {n : Nat} {c : Char} (hc : c ∈ Nat.toDigits 10 n) :
    c.isDigit = true :=
  Nat.isDigit_of_mem_toDigits (by decide) (by decide) hc

/-- A number that is written is read again. -/
@[simp] theorem readNumber?_repr (n : Nat) : readNumber? n.repr = some n := by
  have htext : n.repr.toList = Nat.toDigits 10 n := Nat.toList_repr
  have hempty : ¬ n.repr.isEmpty = true := by
    intro h
    rw [String.isEmpty_iff.mp h] at htext
    exact Nat.toDigits_ne_nil htext.symm
  rw [readNumber?, if_neg hempty, htext, readDigits?_eq fun _ hc => isDigit_of_mem_toDigits hc,
    Nat.ofDigitChars_ten_toDigits]

end Text

namespace Dialect

open Text

/-- The number at the front of a text (`readNumber?`), and what follows its digits. -/
def readNatural? (cs : List Char) : Option (Nat × List Char) :=
  (readNumber? (String.ofList (cs.takeWhile Char.isDigit))).map fun n =>
    (n, cs.dropWhile Char.isDigit)

/-- The number at the front of a text, with its sign if there is one, and what follows it
(`readNatural?`). -/
def readInteger? : List Char → Option (Int × List Char)
  | [] => none
  | c :: cs =>
      if c = '-' then (readNatural? cs).map fun (n, rest) => (-(n : Int), rest)
      else (readNatural? (c :: cs)).map fun (n, rest) => ((n : Int), rest)

section Numbers

variable {rest : List Char}

/-- `readNatural?` reads a number without a sign up to its last digit. -/
theorem readNatural?_repr (n : Nat) (hrest : ∀ c ∈ rest.head?, c.isDigit = false) :
    readNatural? (n.repr.toList ++ rest) = some (n, rest) := by
  have hdigits : ∀ c ∈ n.repr.toList, c.isDigit = true := by
    rw [Nat.toList_repr]
    exact fun _ hc => isDigit_of_mem_toDigits hc
  obtain ⟨htake, hdrop⟩ := takeWhile_append_of_head? hdigits hrest
  rw [readNatural?, htake, hdrop, String.ofList_toList, readNumber?_repr]
  rfl

/-- A number begins with its sign or with a digit. -/
theorem exists_cons_repr (n : Int) : ∃ c cs, n.repr.toList = c :: cs ∧
    (c = '-' ∨ c.isDigit = true) := by
  cases n with
  | ofNat m =>
      obtain ⟨c, cs, hcs⟩ := List.exists_cons_of_ne_nil (Nat.toDigits_ne_nil (b := 10) (n := m))
      have hc : c ∈ Nat.toDigits 10 m := hcs ▸ List.mem_cons_self
      exact ⟨c, cs, Nat.toList_repr.trans hcs, .inr (isDigit_of_mem_toDigits hc)⟩
  | negSucc m => exact ⟨'-', (m + 1).repr.toList, String.toList_append, .inl rfl⟩

/-- **Numbers** are read back, with their signs, from `n.repr` before anything that does not begin
with a digit. -/
theorem readInteger?_repr (n : Int) (hrest : ∀ c ∈ rest.head?, c.isDigit = false) :
    readInteger? (n.repr.toList ++ rest) = some (n, rest) := by
  cases n with
  | ofNat m =>
      obtain ⟨c, cs, hcs, -⟩ := exists_cons_repr (.ofNat m)
      have hc : c.isDigit = true := by
        have hmem : c ∈ m.repr.toList := hcs ▸ List.mem_cons_self
        rw [Nat.toList_repr] at hmem
        exact isDigit_of_mem_toDigits hmem
      have hsign : c ≠ '-' := by
        rintro rfl
        exact absurd hc (by decide)
      have hread := readNatural?_repr m hrest
      change (Int.ofNat m).repr.toList = c :: cs at hcs
      rw [show m.repr.toList = c :: cs from hcs] at hread
      rw [hcs, List.cons_append, readInteger?, if_neg hsign, ← List.cons_append, hread]
      rfl
  | negSucc m =>
      have htext : (Int.negSucc m).repr.toList = '-' :: (m + 1).repr.toList := String.toList_append
      rw [htext, List.cons_append, readInteger?, if_pos rfl, readNatural?_repr _ hrest]
      rfl

end Numbers

/-! ## Bytes -/

/-- The number that a hexadecimal digit stands for, `0` to `15`, in either case. -/
def hexDigit? (c : Char) : Option Nat :=
  if c.isDigit then some (c.toNat - '0'.toNat)
  else if 'A' ≤ c ∧ c ≤ 'F' then some (10 + (c.toNat - 'A'.toNat))
  else if 'a' ≤ c ∧ c ≤ 'f' then some (10 + (c.toNat - 'a'.toNat))
  else none

/-- Bytes as pairs of digits up to the quote that closes them, and what follows that quote. -/
def readBytes? : List Char → Option (List UInt8 × List Char)
  | [] => none
  | [c] => if c = '\'' then some ([], []) else none
  | c :: d :: rest =>
      if c = '\'' then some ([], d :: rest)
      else do
        let byte := UInt8.ofNat (16 * (← hexDigit? c) + (← hexDigit? d))
        let (bytes, rest) ← readBytes? rest
        return (byte :: bytes, rest)

/-- A digit is read back, and is not the quote. -/
theorem hexDigit?_digit : ∀ n < 16, hexDigit? (hexByte.digit 'A' n) = some n ∧
    hexByte.digit 'A' n ≠ '\'' := by
  decide

/-- **Bytes** are read back from their digits, `hexByte`, and the quote behind them. -/
theorem readBytes?_hexBytes (bytes : List UInt8) (rest : List Char) :
    readBytes? (bytes.flatMap (hexByte 'A') ++ '\'' :: rest) = some (bytes, rest) := by
  induction bytes with
  | nil => cases rest <;> rfl
  | cons b bytes ih =>
      have hb : b.toNat < 256 := b.toNat_lt
      obtain ⟨hhigh, hquote⟩ := hexDigit?_digit (b.toNat / 16) (by omega)
      obtain ⟨hlow, -⟩ := hexDigit?_digit (b.toNat % 16) (by omega)
      have hbyte : UInt8.ofNat (16 * (b.toNat / 16) + b.toNat % 16) = b := by
        rw [Nat.div_add_mod, UInt8.ofNat_toNat]
      show readBytes? (hexByte.digit 'A' (b.toNat / 16) :: hexByte.digit 'A' (b.toNat % 16) ::
        (bytes.flatMap (hexByte 'A') ++ '\'' :: rest)) = _
      rw [readBytes?, if_neg hquote, hhigh, hlow, ih]
      exact congrArg (fun b => some (b :: bytes, rest)) hbyte

/-! ## Words -/

/-- The words that stand for values: `NULL`, `TRUE` and `FALSE`. -/
def valueWords : List (String × Value) :=
  [("NULL", .null), ("TRUE", .boolean true), ("FALSE", .boolean false)]

/-- The word at the front of a text as a value of `valueWords`, and what follows it. -/
def readWord? (cs : List Char) : Option (Value × List Char) :=
  (valueWords.lookup (String.ofList (cs.takeWhile continuesWord))).map fun v =>
    (v, cs.dropWhile continuesWord)

/-- **Words** are read up to their ends: a word of `valueWords` before anything that does not
continue a word. -/
theorem readWord?_append {word : String} {v : Value} {rest : List Char}
    (hword : valueWords.lookup word = some v) (hchars : ∀ c ∈ word.toList, continuesWord c = true)
    (hrest : ∀ c ∈ rest.head?, continuesWord c = false) :
    readWord? (word.toList ++ rest) = some (v, rest) := by
  obtain ⟨htake, hdrop⟩ := takeWhile_append_of_head? hchars hrest
  rw [readWord?, htake, hdrop, String.ofList_toList, hword]
  rfl

/-! ## Literals -/

/-- A number as a value, if it is one of 64 bits, from `Int64.minValue` to `Int64.maxValue`. -/
def integerValue? (n : Int) : Option Value :=
  if Int64.minValue.toInt ≤ n ∧ n ≤ Int64.maxValue.toInt then some (.integer (Int64.ofInt n))
    else none

/-- The value at the front of a text, and what follows it. The first character tells which kind of
literal it is. -/
def readLiteral? : List Char → Option (Value × List Char)
  | [] => none
  | c :: rest =>
      if c = '\'' then
        (readQuoted? '\'' rest).map fun (front, back) => (.text (String.ofList front), back)
      else if c = 'X' ∧ rest.head? = some '\'' then
        (readBytes? rest.tail).map fun (bytes, back) => (.blob bytes, back)
      else if c = '-' ∨ c.isDigit then
        (readInteger? (c :: rest)).bind fun (n, back) => (integerValue? n).map fun v => (v, back)
      else readWord? (c :: rest)

/-- Whether the text `rest` does not continue a literal that stands before it: it is empty, or
begins with a blank, a comma or a closing parenthesis. -/
def EndsLiteral (rest : List Char) : Prop :=
  ∀ c ∈ rest.head?, c = ' ' ∨ c = ',' ∨ c = ')'

/-- Nothing at all ends a literal. -/
theorem endsLiteral_nil : EndsLiteral [] := nofun

section Literals

variable {rest : List Char}

/-- A text with `EndsLiteral` goes on with no word, no number and no quote. -/
theorem EndsLiteral.stops (h : EndsLiteral rest) :
    ∀ c ∈ rest.head?, continuesWord c = false ∧ c.isDigit = false ∧ c ≠ '\'' := by
  intro c hc
  rcases h c hc with rfl | rfl | rfl <;> decide

/-- `readLiteral?` reads an integer back. -/
theorem readLiteral?_integer (n : Int64) (hrest : EndsLiteral rest) :
    readLiteral? ((literal (.integer n)).toList ++ rest) = some (.integer n, rest) := by
  have hread := readInteger?_repr n.toInt fun c hc => (hrest.stops c hc).2.1
  obtain ⟨c, cs, hcs, hc⟩ := exists_cons_repr n.toInt
  have hfirst : c ≠ '\'' ∧ c ≠ 'X' := by
    constructor <;> rintro rfl <;> exact absurd hc (by decide)
  have hvalue : integerValue? n.toInt = some (.integer n) := by
    rw [integerValue?, if_pos ⟨n.minValue_le_toInt, n.toInt_le⟩, Int64.ofInt_toInt]
  show readLiteral? (n.toInt.repr.toList ++ rest) = _
  rw [hcs, List.cons_append] at hread ⊢
  rw [readLiteral?, if_neg hfirst.1, if_neg fun h => hfirst.2 h.1, if_pos hc, hread,
    Option.bind_some]
  show (integerValue? n.toInt).map _ = _
  rw [hvalue]
  rfl

/-- **Literals**: every value other than a floating-point number is read back from its `literal`,
before any text that `EndsLiteral`. -/
theorem readLiteral?_literal {v : Value} (hv : v.kind ≠ .float) (hrest : EndsLiteral rest) :
    readLiteral? ((literal v).toList ++ rest) = some (v, rest) := by
  have hword (word : String) {v : Value} (h : valueWords.lookup word = some v)
      (hchars : word.toList.all continuesWord = true) :=
    readWord?_append h (List.all_eq_true.mp hchars) fun c hc => (hrest.stops c hc).1
  cases v with
  | null => exact hword "NULL" rfl (by decide)
  | boolean b =>
      cases b with
      | false => exact hword "FALSE" rfl (by decide)
      | true => exact hword "TRUE" rfl (by decide)
  | integer n => exact readLiteral?_integer n hrest
  | float x => exact absurd rfl hv
  | text s =>
      rw [literal, doubled, String.toList_ofList, List.cons_append, List.append_assoc,
        List.singleton_append,
        readLiteral?, if_pos rfl, readQuoted?_doubleQuotes _ fun c hc => (hrest.stops c hc).2.2]
      exact congrArg (fun s => some (Value.text s, rest)) String.ofList_toList
  | blob bytes =>
      have htext : (literal (.blob bytes)).toList ++ rest =
          'X' :: '\'' :: (bytes.flatMap (hexByte 'A') ++ '\'' :: rest) := by
        simp [literal, hexBytes]
      rw [htext, readLiteral?, if_neg (by decide), if_pos ⟨rfl, rfl⟩, List.tail_cons,
        readBytes?_hexBytes]
      rfl

end Literals

/-! ## Lists -/

/-- Literals with commas between them up to the parenthesis that closes them, and what follows it.
There are `fuel` of them at most. -/
def readMembers? : (fuel : Nat) → List Char → Option (List Value × List Char)
  | 0, _ => none
  | fuel + 1, cs =>
      match readLiteral? cs with
      | some (v, ',' :: ' ' :: rest) =>
          (readMembers? fuel rest).map fun (vs, back) => (v :: vs, back)
      | some (v, ')' :: rest) => some ([v], rest)
      | _ => none

/-- Literals between parentheses (`readMembers?`), and what follows them. -/
def readList? : List Char → Option (List Value × List Char)
  | '(' :: ')' :: rest => some ([], rest)
  | '(' :: rest => readMembers? rest.length rest
  | _ => none

section Lists

variable {v : Value} {vs : List Value}

/-- `literalList` is the first literal, a comma and a blank, and the other ones. -/
theorem toList_literalList_cons_cons (v w : Value) (vs : List Value) :
    (literalList (v :: w :: vs)).toList = (literal v).toList ++ ',' :: ' ' ::
      (literalList (w :: vs)).toList := by
  unfold literalList
  rw [List.map_cons, List.map_cons, String.intercalate_cons_cons, ← List.map_cons]
  simp

/-- The `literal` of a value is not empty, and does not begin with `)`. -/
theorem exists_cons_literal (hv : v.kind ≠ .float) :
    ∃ c cs, (literal v).toList = c :: cs ∧ c ≠ ')' := by
  have hread := readLiteral?_literal hv endsLiteral_nil
  cases htext : (literal v).toList with
  | nil =>
      rw [htext] at hread
      cases hread
  | cons c cs =>
      refine ⟨c, cs, rfl, ?_⟩
      rintro rfl
      rw [htext] at hread
      cases hread

/-- Neither does a list of literals. -/
theorem exists_cons_literalList (vs : List Value) (hv : v.kind ≠ .float) :
    ∃ c cs, (literalList (v :: vs)).toList = c :: cs ∧ c ≠ ')' := by
  obtain ⟨c, cs, htext, hc⟩ := exists_cons_literal hv
  cases vs with
  | nil => exact ⟨c, cs, by rwa [literalList, List.map_singleton, String.intercalate_singleton], hc⟩
  | cons w vs => exact ⟨c, _, by rw [toList_literalList_cons_cons, htext, List.cons_append], hc⟩

/-- There are no more literals in `literalList` than characters. -/
theorem length_lt_length_literalList (hv : v.kind ≠ .float) (hvs : ∀ w ∈ vs, w.kind ≠ .float) :
    vs.length < (literalList (v :: vs)).toList.length := by
  induction vs generalizing v with
  | nil =>
      obtain ⟨c, cs, htext, -⟩ := exists_cons_literal hv
      rw [literalList, List.map_singleton, String.intercalate_singleton, htext]
      exact Nat.succ_pos _
  | cons w vs ih =>
      obtain ⟨hw, hothers⟩ := List.forall_mem_cons.mp hvs
      have hlast := ih hw hothers
      rw [toList_literalList_cons_cons]
      simp only [List.length_append, List.length_cons]
      omega

/-- Literals in a list are read back in order, with `fuel` for more than there are. -/
theorem readMembers?_literalList {fuel : Nat} (hv : v.kind ≠ .float)
    (hvs : ∀ w ∈ vs, w.kind ≠ .float) (hfuel : vs.length < fuel) (rest : List Char) :
    readMembers? fuel ((literalList (v :: vs)).toList ++ ')' :: rest) = some (v :: vs, rest) := by
  induction vs generalizing v fuel with
  | nil =>
      obtain ⟨fuel, rfl⟩ := Nat.exists_eq_succ_of_ne_zero (Nat.ne_of_gt hfuel)
      have hends : EndsLiteral (')' :: rest) := fun c hc => .inr (.inr (Option.some.inj hc).symm)
      rw [literalList, List.map_singleton, String.intercalate_singleton, readMembers?,
        readLiteral?_literal hv hends]
      rfl
  | cons w vs ih =>
      obtain ⟨fuel, rfl⟩ := Nat.exists_eq_succ_of_ne_zero (Nat.ne_of_gt (Nat.zero_lt_of_lt hfuel))
      obtain ⟨hw, hothers⟩ := List.forall_mem_cons.mp hvs
      have hlast := ih hw hothers (Nat.lt_of_succ_lt_succ hfuel)
      have hends : EndsLiteral (',' :: ' ' :: ((literalList (w :: vs)).toList ++ ')' :: rest)) :=
        fun c hc => .inr (.inl (Option.some.inj hc).symm)
      rw [toList_literalList_cons_cons, List.append_assoc, List.cons_append,
        List.cons_append, readMembers?,
        readLiteral?_literal hv hends]
      exact congrArg (Option.map fun (vs, back) => (v :: vs, back)) hlast

/-- **Lists** of values are read back from `literalList` between parentheses, the empty one
included. -/
theorem readList?_literalList (hvs : ∀ v ∈ vs, v.kind ≠ .float) (rest : List Char) :
    readList? (("(" ++ literalList vs ++ ")").toList ++ rest) = some (vs, rest) := by
  have htext : ("(" ++ literalList vs ++ ")").toList ++ rest = '(' ::
      ((literalList vs).toList ++ ')' :: rest) := by
    simp
  rw [htext]
  cases vs with
  | nil => rfl
  | cons v vs =>
      obtain ⟨hv, hothers⟩ := List.forall_mem_cons.mp hvs
      have hfuel : vs.length < ((literalList (v :: vs)).toList ++ ')' :: rest).length := by
        have hlength := length_lt_length_literalList hv hothers
        rw [List.length_append]
        omega
      have hmembers := readMembers?_literalList hv hothers hfuel rest
      obtain ⟨c, cs, hcs, hc⟩ := exists_cons_literalList vs hv
      rw [hcs, List.cons_append] at hmembers ⊢
      rw [readList?, hmembers]
      rintro back ⟨⟩
      exact hc rfl

end Lists

/-! ## Values and texts -/

/-- **Values and texts**: floating-point numbers apart, a value is read back from its `literal` up
to what does not continue it (`EndsLiteral`), and a list of values (`readList?`) from the condition
that an item is, or is not, a member of it. Values with one text are one value. All dialects share
these texts. -/
theorem literals_decode {vs : List Value} (hvs : ∀ v ∈ vs, v.kind ≠ .float) :
    (∀ v ∈ vs, ∀ rest, EndsLiteral rest →
      readLiteral? ((literal v).toList ++ rest) = some (v, rest)) ∧
      (∀ v ∈ vs, ∀ w ∈ vs, literal v = literal w → v = w) ∧
      ∀ held left op rest, op = .isIn ∨ op = .notIn →
        let list := "(" ++ literalList vs ++ ")"
        Fragment.sql (filterFragment held (.compare left op (.list vs))) =
            itemText held left.bare ++ " " ++ op.text ++ " " ++ list ∧
          readList? (list.toList ++ rest) = some (vs, rest) := by
  refine ⟨fun v hv rest hrest => readLiteral?_literal (hvs v hv) hrest, ?_, ?_⟩
  · intro v hv w hw htext
    have hread := readLiteral?_literal (hvs v hv) endsLiteral_nil
    rw [htext, readLiteral?_literal (hvs w hw) endsLiteral_nil] at hread
    exact (congrArg Prod.fst (Option.some.inj hread)).symm
  · intro held left op rest hop
    refine ⟨?_, readList?_literalList hvs rest⟩
    have hcompare : comparisonFragment held op (.list vs) =
        Fragment.ofText (" " ++ op.text ++ " (") ++ Fragment.ofText (literalList vs) ++
          Fragment.ofText ")" := by
      rcases hop with rfl | rfl <;> rfl
    rw [filterFragment, hcompare]
    simp only [Fragment.sql_append, Fragment.sql_ofText, String.append_assoc]
    rfl

/-- Texts made of quotes, the least number, bytes that stand for a quote, and words, one of them as
a text. -/
def trickyValues : List Value :=
  [.text "'", .text "', ''", .text "NULL", .integer Int64.minValue, .blob [0x27, 0xff], .null,
    .boolean true, .text ""]

/-- An item is one of `trickyValues` or another one, and the first of them stands before another
condition. -/
theorem literals_decode_trickyValues :
    (∀ v ∈ trickyValues, v.kind ≠ .float) ∧
      EndsLiteral " AND x = ', '''".toList ∧
      readLiteral? "'''' AND x = ', '''".toList = some (.text "'", " AND x = ', '''".toList) ∧
      literal (.text "'") ≠ literal (.text "', ''") ∧
      readList? (String.toList
        "('''', ''', ''''', 'NULL', -9223372036854775808, X'27FF', NULL, TRUE, '') OR x = '')'") =
        some (trickyValues, " OR x = '')'".toList) := by
  have hvs : ∀ v ∈ trickyValues, v.kind ≠ .float := by decide
  have hends : EndsLiteral " AND x = ', '''".toList := fun c hc => .inl (Option.some.inj hc).symm
  obtain ⟨hread, hinj, hlist⟩ := literals_decode hvs
  have hfirst : .text "'" ∈ trickyValues := List.mem_cons_self
  have hsecond : .text "', ''" ∈ trickyValues := List.mem_cons_of_mem _ List.mem_cons_self
  have hapart := mt (hinj _ hfirst _ hsecond) (by simp)
  obtain ⟨-, hmembers⟩ := hlist {} ⟨.expression "x", none⟩ .isIn " OR x = '')'".toList (.inl rfl)
  exact ⟨hvs, hends, hread _ hfirst _ hends, hapart, hmembers⟩

end Dialect

end DataAccess
