import DataAccess.Dialect.Literal
import Mathlib.Data.String.Basic

/-!
# Quote scan: which question marks of a text are markers

A reader of SQL takes a question mark for a parameter marker unless it stands inside `'…'` or `"…"`,
where a quote written twice stands for itself. `scanMarks` is that reader: it gives the byte places
of the question marks outside quotes, and fails if the text ends inside quotes.

* **A sealed text is passed over** (`Sealed`): read from outside quotes, it neither contains a
  marker nor leaves a quote open, whatever follows. Sealed texts are closed under `++`
  (`Sealed.append`).
* **What is sealed**: texts without quotes and question marks (`sealed_of_isUnmarked`), and every
  text whatsoever once it is set between doubled quotes (`sealed_doubled`).
* Hence every identifier (`sealed_identifier`) and every literal (`sealed_literal`) is sealed. For
  numbers that rests on what their digits can be (`isUnmarked_floatText`).
-/

namespace DataAccess.Dialect

/-! ## The scan -/

/-- The quotes of SQL, inside which `scanMarks` meets no marker. -/
inductive Quote where
  /-- Around the text of a literal. -/
  | single
  /-- Around a name. -/
  | double
deriving DecidableEq

namespace Quote

/-- The character of a quote. -/
def char : Quote → Char
  | single => '\''
  | double => '"'

/-- The quote that a character is, if it is one. -/
def ofChar? (c : Char) : Option Quote :=
  if c = '\'' then some single else if c = '"' then some double else none

@[simp] theorem ofChar?_char (quote : Quote) : ofChar? quote.char = some quote := by
  cases quote <;> decide

@[simp] theorem utf8Size_char (quote : Quote) : quote.char.utf8Size = 1 := by
  cases quote <;> decide

end Quote

/-- The byte places of the question marks outside quotes, in a text that begins at `offset` outside
quotes or inside the given ones. `none` if the text ends inside quotes. -/
def scanMarks : Option Quote → Nat → List Char → Option (List Nat)
  | none, _, [] => some []
  | none, offset, c :: rest =>
      match Quote.ofChar? c with
      | some quote => scanMarks (some quote) (offset + 1) rest
      | none =>
          if c = '?' then (scanMarks none (offset + 1) rest).map (offset :: ·)
          else scanMarks none (offset + c.utf8Size) rest
  | some _, _, [] => none
  | some quote, _, [c] => if c = quote.char then some [] else none
  | some quote, offset, c :: d :: rest =>
      if c = quote.char then
        if d = quote.char then scanMarks (some quote) (offset + 2) rest
        else scanMarks none (offset + 1) (d :: rest)
      else scanMarks (some quote) (offset + c.utf8Size) (d :: rest)

/-- A quote opens: `scanMarks` goes on inside it. -/
theorem scanMarks_quote (quote : Quote) (offset : Nat) (rest : List Char) :
    scanMarks none offset (quote.char :: rest) = scanMarks (some quote) (offset + 1) rest := by
  rw [scanMarks, Quote.ofChar?_char]

/-- A question mark outside quotes is met at its `offset`. -/
theorem scanMarks_question (offset : Nat) (rest : List Char) :
    scanMarks none offset ('?' :: rest) =
      (scanMarks none (offset + 1) rest).map (offset :: ·) := rfl

/-- Any other character outside quotes moves the `offset` by its size. -/
theorem scanMarks_outside {c : Char} (hquote : Quote.ofChar? c = none) (hmark : c ≠ '?')
    (offset : Nat) (rest : List Char) :
    scanMarks none offset (c :: rest) = scanMarks none (offset + c.utf8Size) rest := by
  rw [scanMarks, hquote]
  exact if_neg hmark

/-- A quote inside quotes can be read as closing them: if it comes twice, the second opens them
again. So `scanMarks` needs to know no more than whether it is inside quotes. -/
theorem scanMarks_close (quote : Quote) (offset : Nat) (rest : List Char) :
    scanMarks (some quote) offset (quote.char :: rest) = scanMarks none (offset + 1) rest := by
  cases rest with
  | nil => simp [scanMarks]
  | cons d rest =>
      by_cases hd : d = quote.char
      · subst hd
        rw [scanMarks_quote, scanMarks, if_pos rfl, if_pos rfl]
      · exact (if_pos rfl).trans (if_neg hd)

/-- Any character but the closing quote moves the `offset` inside quotes. -/
theorem scanMarks_inside {quote : Quote} {c : Char} (h : c ≠ quote.char) (offset : Nat)
    (rest : List Char) :
    scanMarks (some quote) offset (c :: rest) =
      scanMarks (some quote) (offset + c.utf8Size) rest := by
  cases rest with
  | nil => simp [scanMarks, h]
  | cons d rest => rw [scanMarks, if_neg h]

/-! ## Sealed texts -/

/-- Whether `s` is a text that the scan passes over, whatever follows it: `scanMarks` goes on behind
it, outside quotes, and has found no question mark. -/
def Sealed (s : String) : Prop :=
  ∀ offset rest,
    scanMarks none offset (s.toList ++ rest) = scanMarks none (offset + s.utf8ByteSize) rest

/-- The empty text is sealed. -/
theorem sealed_empty : Sealed "" := fun _ _ => rfl

/-- One sealed text after another is sealed: `Sealed (s ++ t)`. -/
theorem Sealed.append {s t : String} (hs : Sealed s) (ht : Sealed t) : Sealed (s ++ t) := by
  intro offset rest
  rw [String.toList_append, List.append_assoc, hs, ht, String.utf8ByteSize_append, Nat.add_assoc]

/-- Sealed texts with a sealed `separator` between each and the next are sealed. -/
theorem sealed_intercalate {separator : String} (hsep : Sealed separator) :
    (ts : List String) → (∀ t ∈ ts, Sealed t) → Sealed (separator.intercalate ts)
  | [], _ => by rw [String.intercalate_nil]; exact sealed_empty
  | [t], h => by rw [String.intercalate_singleton]; exact h t List.mem_cons_self
  | t :: u :: ts, h => by
      rw [String.intercalate_cons_cons]
      have hrest := sealed_intercalate hsep (u :: ts) fun v hv => h v (List.mem_cons_of_mem t hv)
      exact ((h t List.mem_cons_self).append hsep).append hrest

/-- Whether a character is neither a quote nor a question mark. -/
def isUnmarkedChar (c : Char) : Bool := c != '\'' && c != '"' && c != '?'

/-- Whether a text has no quote and no question mark, `isUnmarkedChar` for each of its
characters. -/
def isUnmarked (s : String) : Bool := s.toList.all isUnmarkedChar

/-- A character that is no quote and no question mark is passed over. -/
theorem scanMarks_of_isUnmarkedChar {c : Char} (h : isUnmarkedChar c = true) (offset : Nat)
    (rest : List Char) :
    scanMarks none offset (c :: rest) = scanMarks none (offset + c.utf8Size) rest := by
  simp only [isUnmarkedChar, Bool.and_eq_true, bne_iff_ne, ne_eq] at h
  obtain ⟨⟨hsingle, hdouble⟩, hmark⟩ := h
  refine scanMarks_outside ?_ hmark offset rest
  rw [Quote.ofChar?, if_neg hsingle, if_neg hdouble]

/-- Characters with `isUnmarkedChar` are passed over. -/
theorem scanMarks_of_all {cs : List Char} (h : cs.all isUnmarkedChar = true) (offset : Nat)
    (rest : List Char) :
    scanMarks none offset (cs ++ rest) = scanMarks none (offset + String.utf8Len cs) rest := by
  induction cs generalizing offset with
  | nil => simp
  | cons c cs ih =>
      rw [List.all_cons, Bool.and_eq_true] at h
      rw [List.cons_append, scanMarks_of_isUnmarkedChar h.1, ih h.2, String.utf8Len_cons,
        Nat.add_assoc, Nat.add_comm c.utf8Size]

/-- **A text without quotes and question marks is sealed**: `isUnmarked s` gives `Sealed s`. -/
theorem sealed_of_isUnmarked {s : String} (h : isUnmarked s = true) : Sealed s := by
  intro offset rest
  rw [scanMarks_of_all h, String.utf8Len_toList]

/-- Between quotes, a text with its quotes written twice (`Text.doubleQuotes`) is passed over. -/
theorem scanMarks_doubleQuotes (quote : Quote) (cs : List Char) (offset : Nat) (rest : List Char) :
    scanMarks (some quote) offset (Text.doubleQuotes quote.char cs ++ rest) =
      scanMarks (some quote) (offset + String.utf8Len (Text.doubleQuotes quote.char cs)) rest := by
  induction cs generalizing offset with
  | nil => simp [Text.doubleQuotes]
  | cons c cs ih =>
      by_cases hc : c = quote.char
      · rw [Text.doubleQuotes, if_pos hc, List.cons_append, List.cons_append, scanMarks_close,
          scanMarks_quote, ih]
        simp only [String.utf8Len_cons, Quote.utf8Size_char]
        congr 1
        omega
      · rw [Text.doubleQuotes, if_neg hc, List.cons_append, scanMarks_inside hc, ih,
          String.utf8Len_cons]
        congr 1
        omega

/-- **Every text is sealed by doubled quotes**: `Sealed (Text.doubled quote.char s)` for any `s`. -/
theorem sealed_doubled (quote : Quote) (s : String) : Sealed (Text.doubled quote.char s) := by
  intro offset rest
  rw [Text.doubled, String.toList_ofList, List.cons_append, List.append_assoc, scanMarks_quote,
    scanMarks_doubleQuotes, List.singleton_append, scanMarks_close, String.utf8ByteSize_ofList]
  simp only [String.utf8Len_cons, String.utf8Len_append, String.utf8Len_nil, Quote.utf8Size_char]
  congr 1
  omega

/-! ## Numbers -/

/-- A class `p` of characters that has no quotes and no question mark is unmarked. -/
theorem isUnmarkedChar_of_class (p : Char → Bool)
    (hp : p '\'' = false ∧ p '"' = false ∧ p '?' = false) {c : Char} (h : p c = true) :
    isUnmarkedChar c = true := by
  have hne : ∀ d : Char, p d = false → c ≠ d := by
    rintro d hd rfl
    rw [h] at hd
    cases hd
  simp only [isUnmarkedChar, Bool.and_eq_true, bne_iff_ne]
  exact ⟨⟨hne _ hp.1, hne _ hp.2.1⟩, hne _ hp.2.2⟩

/-- The digits of a natural number are unmarked. -/
theorem isUnmarkedChar_of_mem_toDigits {n : Nat} {c : Char} (h : c ∈ Nat.toDigits 10 n) :
    isUnmarkedChar c = true :=
  isUnmarkedChar_of_class Char.isDigit (by decide)
    (Nat.isDigit_of_mem_toDigits (by decide) (by decide) h)

@[simp] theorem isUnmarked_append (s t : String) :
    isUnmarked (s ++ t) = (isUnmarked s && isUnmarked t) := by
  rw [isUnmarked, String.toList_append, List.all_append]
  rfl

theorem isUnmarked_ofList {cs : List Char} (h : ∀ c ∈ cs, isUnmarkedChar c = true) :
    isUnmarked (String.ofList cs) = true := by
  rw [isUnmarked, String.toList_ofList]
  exact List.all_eq_true.mpr h

theorem isUnmarked_toString_nat (n : Nat) : isUnmarked (toString n) = true :=
  isUnmarked_ofList fun _ hc => isUnmarkedChar_of_mem_toDigits hc

theorem isUnmarked_toString_int (n : Int) : isUnmarked (toString n) = true := by
  cases n with
  | ofNat m => exact isUnmarked_toString_nat m
  | negSucc m =>
      change isUnmarked ("-" ++ toString (m + 1)) = true
      rw [isUnmarked_append, isUnmarked_toString_nat]
      decide

/-- The positional text of a decimal number consists of digits and a point. -/
theorem isUnmarked_decimalText (d : Text.Decimal) : isUnmarked d.text = true := by
  have hzero : isUnmarkedChar '0' = true := by decide
  have hshown : ∀ c ∈ ((Nat.toDigits 10 d.digits).reverse.dropWhile (· == '0')).reverse,
      isUnmarkedChar c = true := by
    intro c hc
    have hdropped := (List.dropWhile_sublist _).mem (List.mem_reverse.mp hc)
    exact isUnmarkedChar_of_mem_toDigits (List.mem_reverse.mp hdropped)
  have hpadded : ∀ n, ∀ c ∈ List.replicate n '0' ++
      ((Nat.toDigits 10 d.digits).reverse.dropWhile (· == '0')).reverse,
      isUnmarkedChar c = true := by
    intro n c hc
    rcases List.mem_append.mp hc with hc | hc
    · rw [List.eq_of_mem_replicate hc]
      exact hzero
    · exact hshown c hc
  unfold Text.Decimal.text
  dsimp only
  split_ifs
  · refine isUnmarked_ofList fun c hc => ?_
    rcases List.mem_append.mp hc with hc | hc
    · exact hshown c hc
    · rw [List.eq_of_mem_replicate hc]
      exact hzero
  · refine isUnmarked_ofList fun c hc => ?_
    rcases List.mem_append.mp hc with hc | hc
    · exact hpadded _ c (List.mem_of_mem_take hc)
    · rcases List.mem_cons.mp hc with rfl | hc
      · decide
      · exact hpadded _ c (List.mem_of_mem_drop hc)

/-- The text of a floating-point number (`Text.floatText`) has no quote and no question mark. -/
theorem isUnmarked_floatText (x : Float) : isUnmarked (Text.floatText x) = true := by
  unfold Text.floatText
  dsimp only
  generalize hs : (if x.toBits.toNat < Text.powerUp 2 63 then "" else "-") = sign
  have hsign : isUnmarked sign = true := by
    rw [← hs]
    split_ifs <;> decide
  split_ifs
  · decide
  · rw [isUnmarked_append, hsign]
    decide
  · rw [isUnmarked_append, hsign]
    decide
  · rw [isUnmarked_append, hsign, isUnmarked_decimalText]
    rfl

/-- A whole number with a point added is still unmarked. -/
theorem isUnmarked_floatLiteral (x : Float) : isUnmarked (floatLiteral x) = true := by
  unfold floatLiteral
  dsimp only
  split_ifs
  · exact isUnmarked_floatText x
  · rw [isUnmarked_append, isUnmarked_floatText]
    decide

/-! ## Identifiers and literals -/

/-- A plain word consists of letters, digits and underscores. -/
theorem isUnmarked_of_isPlainName {s : String} (h : isPlainName s.toList = true) :
    isUnmarked s = true := by
  unfold isUnmarked
  cases hs : s.toList with
  | nil => rfl
  | cons c rest =>
      rw [hs, isPlainName, Bool.and_eq_true] at h
      rw [List.all_cons, Bool.and_eq_true]
      refine ⟨isUnmarkedChar_of_class (fun c => c.isAlpha || c == '_') (by decide) h.1, ?_⟩
      refine List.all_eq_true.mpr fun d hd => ?_
      exact isUnmarkedChar_of_class (fun d => d.isAlphanum || d == '_') (by decide)
        (List.all_eq_true.mp h.2 d hd)

/-- **Every identifier is sealed**, `Sealed (identifier name)`: it is a plain word, or in doubled
quotes. -/
theorem sealed_identifier (name : String) : Sealed (identifier name) := by
  unfold identifier
  split_ifs with h
  · exact sealed_of_isUnmarked (isUnmarked_of_isPlainName h)
  · exact sealed_doubled .double name

/-- `Text.doubleQuotes` leaves a text without the quote as it is. -/
theorem doubleQuotes_of_not_mem {quote : Char} {cs : List Char} (h : quote ∉ cs) :
    Text.doubleQuotes quote cs = cs := by
  induction cs with
  | nil => rfl
  | cons c cs ih =>
      rw [List.mem_cons, not_or] at h
      rw [Text.doubleQuotes, if_neg (Ne.symm h.1), ih h.2]

/-- A hexadecimal digit is no quote. -/
theorem quote_not_mem_hexByte (b : UInt8) : '\'' ∉ Text.hexByte 'A' b := by
  have hdigit : ∀ n < 16, '\'' ≠ Text.hexByte.digit 'A' n := by decide
  have hb := b.toNat_lt
  intro h
  rcases List.mem_cons.mp h with h | h
  · exact hdigit (b.toNat / 16) (by omega) h
  · exact hdigit (b.toNat % 16) (by omega) (List.mem_singleton.mp h)

/-- Bytes are written between quotes that would double their digits if there were any quotes, so
`sealed_doubled` applies. -/
theorem literal_blob (bytes : List UInt8) :
    literal (.blob bytes) = "X" ++ Text.doubled '\'' (Text.hexBytes 'A' bytes) := by
  have hquote : '\'' ∉ bytes.flatMap (Text.hexByte 'A') := by
    intro h
    obtain ⟨b, -, hb⟩ := List.mem_flatMap.mp h
    exact quote_not_mem_hexByte b hb
  rw [← String.toList_inj]
  simp [literal, Text.doubled, Text.hexBytes, doubleQuotes_of_not_mem hquote]

/-- **Every literal is sealed**, `Sealed (literal v)`, by the way in which its kind is written. -/
theorem sealed_literal (v : Value) : Sealed (literal v) := by
  cases v with
  | null => exact sealed_of_isUnmarked (by decide)
  | boolean b => cases b <;> exact sealed_of_isUnmarked (by decide)
  | integer n => exact sealed_of_isUnmarked (isUnmarked_toString_int n.toInt)
  | float x => exact sealed_of_isUnmarked (isUnmarked_floatLiteral x)
  | text s => exact sealed_doubled .single s
  | blob bytes =>
      rw [literal_blob]
      exact (sealed_of_isUnmarked (by decide)).append (sealed_doubled .single _)

end DataAccess.Dialect
