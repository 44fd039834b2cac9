import DataAccess.Dialect.Rendering
import Mathlib.Data.String.Basic

/-!
# Name reader: the names in a text of SQL

A name stands in a text of SQL as a plain word, or between double quotes, where a quote written
twice stands for itself. `readName?` is a reader of such names: it gives the name at the front of a
text and what follows it.

* **Runs** (`takeWhile_append_of_head?`): characters of one sort are read up to the first one of
  another sort.
* **Quoted texts** (`readQuoted?_doubleQuotes`): a text is read back from between quotes.
* **Names** (`readName?_identifier`): every name whatsoever is read back from how it is written, if
  what follows does not continue it (`EndsName`).
* **Two texts** (`identifier_append_inj`): texts that begin with names are alike only if the names
  and the rests are. That goes for names by themselves (`identifier_inj`) and for names with dots
  behind them (`identifier_dot_inj`).
* **Tables** (`tableText_append_inj`): so it is for the names of tables, each behind that of its
  schema if there is one.
-/

namespace DataAccess.Dialect

open Catalog Text

/-! ## Runs of characters -/

section Runs

variable {p : Char → Bool} {front front' rest rest' : List Char}

/-- **Runs**: characters of one sort `p` are read up to the first one of another sort. -/
theorem takeWhile_append_of_head? (hfront : ∀ c ∈ front, p c = true)
    (hrest : ∀ c ∈ rest.head?, p c = false) :
    (front ++ rest).takeWhile p = front ∧ (front ++ rest).dropWhile p = rest := by
  rw [List.takeWhile_append_of_pos hfront, List.dropWhile_append_of_pos hfront]
  cases rest with
  | nil => exact ⟨List.append_nil front, rfl⟩
  | cons c rest =>
      have hc : ¬ p c = true := by simp [hrest c rfl]
      rw [List.takeWhile_cons_of_neg hc, List.dropWhile_cons_of_neg hc, List.append_nil]
      exact ⟨rfl, rfl⟩

/-- Texts that begin with runs of `p` are equal only if the runs and the rests are. -/
theorem append_inj_of_head? (hfront : ∀ c ∈ front, p c = true)
    (hrest : ∀ c ∈ rest.head?, p c = false) (hfront' : ∀ c ∈ front', p c = true)
    (hrest' : ∀ c ∈ rest'.head?, p c = false) (h : front ++ rest = front' ++ rest') :
    front = front' ∧ rest = rest' := by
  obtain ⟨htake, hdrop⟩ := takeWhile_append_of_head? hfront hrest
  obtain ⟨htake', hdrop'⟩ := takeWhile_append_of_head? hfront' hrest'
  exact ⟨htake.symm.trans (h ▸ htake'), hdrop.symm.trans (h ▸ hdrop')⟩

end Runs

/-! ## Quoted texts -/

/-- A text up to the `quote` that closes it, and what follows. A quote that is written twice stands
for one, and there is no result if no quote closes the text. -/
def readQuoted? (quote : Char) : List Char → Option (List Char × List Char)
  | [] => none
  | [c] => if c = quote then some ([], []) else none
  | c :: d :: rest =>
      if c = quote then
        if d = quote then (readQuoted? quote rest).map fun (front, back) => (quote :: front, back)
        else some ([], d :: rest)
      else (readQuoted? quote (d :: rest)).map fun (front, back) => (c :: front, back)

section Quoted

variable {quote c : Char}

/-- Any character but the quote stands for itself. -/
theorem readQuoted?_cons (h : c ≠ quote) (cs : List Char) :
    readQuoted? quote (c :: cs) = (readQuoted? quote cs).map fun (front, back) =>
      (c :: front, back) := by
  cases cs with
  | nil => simp [readQuoted?, h]
  | cons d cs => rw [readQuoted?, if_neg h]

/-- `readQuoted?` ends at a quote if no other one follows it. -/
theorem readQuoted?_close {rest : List Char} (h : ∀ c ∈ rest.head?, c ≠ quote) :
    readQuoted? quote (quote :: rest) = some ([], rest) := by
  cases rest with
  | nil => simp [readQuoted?]
  | cons c rest => rw [readQuoted?, if_pos rfl, if_neg (h c rfl)]

/-- **Quoted texts**: a text with its quotes written twice (`doubleQuotes`) is read back. -/
theorem readQuoted?_doubleQuotes (cs : List Char) {rest : List Char}
    (h : ∀ c ∈ rest.head?, c ≠ quote) :
    readQuoted? quote (doubleQuotes quote cs ++ quote :: rest) = some (cs, rest) := by
  induction cs with
  | nil => exact readQuoted?_close h
  | cons c cs ih =>
      by_cases hc : c = quote
      · rw [doubleQuotes, if_pos hc, List.cons_append, List.cons_append, readQuoted?, if_pos rfl,
          if_pos rfl, ih, hc]
        rfl
      · rw [doubleQuotes, if_neg hc, List.cons_append, readQuoted?_cons hc, ih]
        rfl

end Quoted

/-! ## Names -/

/-- Whether a plain word may begin with a character. -/
def beginsWord (c : Char) : Bool := c.isAlpha || c == '_'

/-- Whether a plain word may go on with a character. -/
def continuesWord (c : Char) : Bool := c.isAlphanum || c == '_'

/-- The name at the front of a text, and what follows it: a text in double quotes (`readQuoted?`),
or a plain word. -/
def readName? : List Char → Option (String × List Char)
  | [] => none
  | c :: rest =>
      if c = '"' then (readQuoted? '"' rest).map fun (front, back) => (String.ofList front, back)
      else if beginsWord c then some (String.ofList (c :: rest.takeWhile continuesWord),
        rest.dropWhile continuesWord)
      else none

/-- Whether the text `rest` does not continue a name that stands before it: it begins neither with a
character of a word nor with a quote. -/
def EndsName (rest : List Char) : Prop :=
  ∀ c ∈ rest.head?, continuesWord c = false ∧ c ≠ '"'

/-- Nothing at all ends a name. -/
theorem endsName_empty : EndsName "".toList := nofun

/-- `EndsName` holds of what begins with a dot. -/
theorem endsName_dot (rest : List Char) : EndsName ('.' :: rest) := by
  intro c hc
  obtain rfl := Option.some.inj hc
  decide

/-- `readName?` reads a plain word up to its end. -/
theorem readName?_word {cs rest : List Char} (h : isPlainName cs = true) (hrest : EndsName rest) :
    readName? (cs ++ rest) = some (String.ofList cs, rest) := by
  cases cs with
  | nil => cases h
  | cons c cs =>
      obtain ⟨hfirst, hothers⟩ := Bool.and_eq_true_iff.mp h
      have hbegins : beginsWord c = true := hfirst
      have hcontinues : ∀ d ∈ cs, continuesWord d = true := List.all_eq_true.mp hothers
      have hquote : c ≠ '"' := by
        rintro rfl
        exact absurd hbegins (by decide)
      obtain ⟨htake, hdrop⟩ := takeWhile_append_of_head? hcontinues fun d hd => (hrest d hd).1
      rw [List.cons_append, readName?, if_neg hquote, if_pos hbegins, htake, hdrop]

/-- **Names**: every name is read back from its `identifier`, before any text that `EndsName`. -/
theorem readName?_identifier (name : String) {rest : List Char} (hrest : EndsName rest) :
    readName? ((identifier name).toList ++ rest) = some (name, rest) := by
  unfold identifier
  by_cases hplain : isPlainName name.toList = true
  · rw [if_pos hplain, readName?_word hplain hrest, String.ofList_toList]
  · rw [if_neg hplain, doubled, String.toList_ofList, List.cons_append, List.append_assoc,
      List.singleton_append,
      readName?, if_pos rfl, readQuoted?_doubleQuotes _ fun c hc => (hrest c hc).2]
    exact congrArg some (congrArg (·, rest) String.ofList_toList)

/-- **Two texts** that begin with `identifier` are equal only if the names and the rests are. -/
theorem identifier_append_inj {a b rest rest' : String} (hrest : EndsName rest.toList)
    (hrest' : EndsName rest'.toList) : identifier a ++ rest = identifier b ++ rest' ↔ a = b ∧
      rest = rest' := by
  constructor
  · intro h
    have hread := readName?_identifier a hrest
    rw [← String.toList_append, h, String.toList_append, readName?_identifier b hrest'] at hread
    obtain ⟨hname, hback⟩ := Prod.mk.inj (Option.some.inj hread)
    exact ⟨hname.symm, String.toList_inj.mp hback.symm⟩
  · rintro ⟨rfl, rfl⟩
    rfl

/-- The function `identifier` is injective. -/
theorem identifier_inj {a b : String} : identifier a = identifier b ↔ a = b := by
  have h := identifier_append_inj (a := a) (b := b) endsName_empty endsName_empty
  rw [String.append_empty, String.append_empty] at h
  exact h.trans (and_iff_left rfl)

/-- What begins with a dot does not continue a name. -/
theorem endsName_dot_append (s : String) : EndsName ("." ++ s).toList := by
  rw [String.toList_append]
  exact endsName_dot s.toList

/-- `identifier_append_inj` for names with a dot behind them. -/
theorem identifier_dot_inj {a b s t : String} :
    identifier a ++ "." ++ s = identifier b ++ "." ++ t ↔ a = b ∧ s = t := by
  have hdot : "." ++ s = "." ++ t ↔ s = t := String.append_right_inj "."
  rw [String.append_assoc, String.append_assoc, ← hdot]
  exact identifier_append_inj (endsName_dot_append s) (endsName_dot_append t)

/-! ## Tables -/

/-- Whether the text `rest` does not continue the name of a table that stands before it: it
`EndsName`, and does not begin with a dot. -/
def EndsTable (rest : List Char) : Prop :=
  EndsName rest ∧ rest.head? ≠ some '.'

/-- Nothing at all ends the name of a table. -/
theorem endsTable_empty : EndsTable "".toList := ⟨endsName_empty, nofun⟩

/-- What ends the name of a table does not begin with a dot. -/
theorem EndsTable.ne_dot_append {rest : String} (h : EndsTable rest.toList) (s : String) :
    rest ≠ "." ++ s := by
  rintro rfl
  refine h.2 ?_
  rw [String.toList_append]
  rfl

/-- **Tables**: texts that begin with tables (`tableText`) are equal only if their schemas, their
names and the rests are. -/
theorem tableText_append_inj {t u : Table} {rest rest' : String} (hrest : EndsTable rest.toList)
    (hrest' : EndsTable rest'.toList) : tableText t ++ rest = tableText u ++ rest' ↔
      t.schemaName = u.schemaName ∧ t.name = u.name ∧ rest = rest' := by
  unfold tableText
  cases t.schemaName with
  | none =>
      cases u.schemaName with
      | none => exact (identifier_append_inj hrest.1 hrest'.1).trans (and_iff_right rfl).symm
      | some schema' =>
          refine iff_of_false (fun h => ?_) (fun h => nomatch h.1)
          rw [String.append_assoc, String.append_assoc] at h
          exact hrest.ne_dot_append _
            ((identifier_append_inj hrest.1 (endsName_dot_append _)).mp h).2
  | some schema =>
      cases u.schemaName with
      | none =>
          refine iff_of_false (fun h => ?_) (fun h => nomatch h.1)
          rw [String.append_assoc, String.append_assoc] at h
          exact hrest'.ne_dot_append _
            ((identifier_append_inj (endsName_dot_append _) hrest'.1).mp h).2.symm
      | some schema' =>
          show identifier schema ++ "." ++ identifier t.name ++ rest =
            identifier schema' ++ "." ++ identifier u.name ++ rest' ↔ _
          rw [@String.append_assoc _ _ rest, @String.append_assoc _ _ rest', identifier_dot_inj,
            identifier_append_inj hrest.1 hrest'.1, Option.some_inj]

/-- Tables are written alike by `tableText` only if their schemas and their names are the same. -/
theorem tableText_eq_iff {t u : Table} :
    tableText t = tableText u ↔ t.schemaName = u.schemaName ∧ t.name = u.name := by
  have h := tableText_append_inj (t := t) (u := u) endsTable_empty endsTable_empty
  rw [String.append_empty, String.append_empty] at h
  exact h.trans (and_congr_right fun _ => and_iff_left rfl)

end DataAccess.Dialect
