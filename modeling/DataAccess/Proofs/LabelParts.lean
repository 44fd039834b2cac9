import DataAccess.Catalog.Resolution
import Mathlib.Data.List.Forall2

/-!
# Label parts: names at the front of a label

A label is read by removing known names from its front. This file says what that makes of a label,
whatever it is made of, and what it makes of a label that was put together of names without dots,
quotes and blanks.

* **Case** (`mem_of_equalIgnoringCase`, `equalIgnoringCase_iff_of_isAscii`): dots and quotes have no
  case, and for ASCII texts the rules for case agree.
* **Tokens** (`stripToken?_eq_some_iff`): a token is removed exactly if a delimiter follows it.
* **Written labels** (`normalize_join`, `stripName?_written`, `unquote_written`): the first name,
  and no other, is removed from the front of a label that was written down.
-/

namespace DataAccess.Text

/-! ## Case -/

/-- Only the capital letters of ASCII, `65 ≤ c.toNat ≤ 90`, change by `Char.toLower`, and they move
by `32`. -/
theorem toLower_cases (c : Char) :
    c.toLower = c ∨ 65 ≤ c.toNat ∧ c.toNat ≤ 90 ∧ c.toLower.toNat = c.toNat + 32 := by
  unfold Char.toLower
  split
  · rename_i hupper
    have hle : 65 ≤ c.val.toNat := hupper.1
    have hge : c.val.toNat ≤ 90 := hupper.2
    refine .inr ⟨hle, hge, ?_⟩
    show (c.val + 32).toNat = c.val.toNat + 32
    rw [UInt32.toNat_add]
    apply Nat.mod_eq_of_lt
    show c.val.toNat + 32 < 2 ^ 32
    omega
  · exact .inl rfl

/-- A class `p` of characters without letters does not depend on case: `p c.toLower = p c`. -/
theorem apply_toLower {p : Char → Bool} (h : ∀ c : Char, 65 ≤ c.toNat → c.toNat ≤ 122 → p c = false)
    (c : Char) : p c.toLower = p c := by
  rcases toLower_cases c with hsame | ⟨hle, hge, hlower⟩
  · rw [hsame]
  · rw [h c hle (by omega), h c.toLower (by omega) (by omega)]

/-- `Char.toLower` does not change a character below the letters. -/
theorem toLower_of_lt {d : Char} (hd : d.toNat < 65) : d.toLower = d := by
  rcases toLower_cases d with hsame | ⟨hle, -, -⟩
  · exact hsame
  · omega

/-- A character below the letters that is the lower-case form of another one is the same. -/
theorem eq_of_toLower_eq {c d : Char} (hd : d.toNat < 65) (h : c.toLower = d) : c = d := by
  rcases toLower_cases c with hsame | ⟨hle, -, hlower⟩
  · rw [← h, hsame]
  · rw [h] at hlower
    omega

@[simp]
theorem isBlank_toLower (c : Char) : isBlank c.toLower = isBlank c := by
  apply apply_toLower
  intro c hle hge
  simp only [isBlank, Bool.or_eq_false_iff, Bool.and_eq_false_iff, decide_eq_false_iff_not,
    beq_eq_false_iff_ne]
  omega

/-- Whether a character is in ASCII: `c.toNat < 0x80`. -/
def IsAscii (c : Char) : Prop := c.toNat < 0x80

instance (c : Char) : Decidable (IsAscii c) := inferInstanceAs (Decidable (c.toNat < 0x80))

theorem isAscii_toLower {c : Char} : IsAscii c.toLower ↔ IsAscii c := by
  unfold IsAscii
  rcases toLower_cases c with hsame | ⟨hle, hge, hlower⟩
  · rw [hsame]
  · omega

theorem lowerChar_of_isAscii {c : Char} (h : IsAscii c) : lowerChar c = [c.toLower] :=
  if_pos h

/-- The letters of `lowerRuns` have letters as their lower-case forms. -/
theorem le_of_image? {n m : Nat} (h : lowerRuns.findSome? (·.image? n) = some m) : 0x61 ≤ m := by
  obtain ⟨r, hr, himage⟩ := List.exists_of_findSome?_eq_some h
  have hruns : lowerRuns.all (fun r => 0x61 ≤ r.image) = true := by decide +kernel
  have hle := of_decide_eq_true (List.all_eq_true.mp hruns r hr)
  unfold CaseRun.image? at himage
  split at himage
  · have hm := Option.some.inj himage
    omega
  · cases himage

/-- A code point that is no character stands for the null character. -/
theorem toNat_ofNat_cases (n : Nat) : (Char.ofNat n).toNat = n ∨ (Char.ofNat n).toNat = 0 := by
  by_cases hvalid : n.isValidChar
  · left
    rw [Char.ofNat, dif_pos hvalid]
    rfl
  · right
    rw [Char.ofNat, dif_neg hvalid]
    rfl

/-- A character `d` below the letters is in `lowerChar c` only for `c = d`. -/
theorem eq_of_mem_lowerChar {c d : Char} (hpos : 0 < d.toNat) (hd : d.toNat < 65)
    (h : d ∈ lowerChar c) :
    c = d := by
  unfold lowerChar at h
  split at h
  · exact eq_of_toLower_eq hd (List.mem_singleton.mp h).symm
  · split at h
    · rcases List.mem_pair.mp h with rfl | rfl
      · exact absurd hd (by decide)
      · exact absurd hd (by decide)
    · split at h
      · rename_i n hn
        obtain rfl := List.mem_singleton.mp h
        have hle := le_of_image? hn
        rcases toNat_ofNat_cases n with hn | hn <;> omega
      · exact (List.mem_singleton.mp h).symm

/-- `lowerChar d = [d]` for a character below the letters. -/
theorem lowerChar_of_lt {d : Char} (hd : d.toNat < 65) : lowerChar d = [d] := by
  have hascii : IsAscii d := by
    unfold IsAscii
    omega
  rw [lowerChar_of_isAscii hascii, toLower_of_lt hd]

/-- It has no other case. -/
theorem eq_of_equalCharIgnoringCase {c d : Char} (hpos : 0 < d.toNat) (hd : d.toNat < 65)
    (h : equalCharIgnoringCase c d = true) : c = d := by
  rw [equalCharIgnoringCase, Bool.or_eq_true, beq_iff_eq, beq_iff_eq, lowerChar_of_lt hd] at h
  rcases h with hsame | hlower
  · exact hsame
  · exact eq_of_mem_lowerChar hpos hd (hlower ▸ List.mem_singleton_self d)

/-- Such a character is in the lower-case form of a text (`lowerFrom`) exactly if it is in the
text. -/
theorem mem_lowerFrom {d : Char} (hpos : 0 < d.toNat) (hd : d.toNat < 65) (before cs : List Char) :
    d ∈ lowerFrom before cs ↔ d ∈ cs := by
  induction cs generalizing before with
  | nil => simp [lowerFrom]
  | cons c cs ih =>
      have hfirst : d ∈ (if c = 'Σ' then
          if reachesCased before && !reachesCased cs then ['ς'] else ['σ'] else lowerChar c) ↔
            d = c := by
        split
        · rename_i hsigma
          subst hsigma
          have hsigmas : d ≠ 'Σ' ∧ d ≠ 'ς' ∧ d ≠ 'σ' := by
            refine ⟨?_, ?_, ?_⟩ <;> rintro rfl <;> exact absurd hd (by decide)
          split <;> simp [hsigmas]
        · constructor
          · intro hmem
            exact (eq_of_mem_lowerChar hpos hd hmem).symm
          · rintro rfl
            rw [lowerChar_of_lt hd]
            exact List.mem_singleton_self d
      rw [lowerFrom, List.mem_append, hfirst, ih, List.mem_cons]

/-- **Case**: dots and quotes, and all other characters below the letters, are in both of two names
or in none of them if the names differ in case alone (`equalIgnoringCase`). -/
theorem mem_of_equalIgnoringCase {a b : String} {d : Char} (hpos : 0 < d.toNat) (hd : d.toNat < 65)
    (h : equalIgnoringCase a b = true) : d ∈ a.toList ↔ d ∈ b.toList := by
  have hlower : lowerChars a.toList = lowerChars b.toList :=
    String.ofList_injective (equalIgnoringCase_iff.mp h)
  rw [← mem_lowerFrom hpos hd [] a.toList, ← mem_lowerFrom hpos hd [] b.toList]
  exact iff_of_eq (congrArg (d ∈ ·) hlower)

/-- The lower-case form of a text in ASCII is that of its characters, `cs.map Char.toLower`: there
is no capital sigma. -/
theorem lowerFrom_of_isAscii {cs : List Char} (h : ∀ c ∈ cs, IsAscii c) (before : List Char) :
    lowerFrom before cs = cs.map Char.toLower := by
  induction cs generalizing before with
  | nil => rfl
  | cons c cs ih =>
      obtain ⟨hc, hcs⟩ := List.forall_mem_cons.mp h
      have hsigma : c ≠ 'Σ' := by
        rintro rfl
        exact absurd (show 'Σ'.toNat < 0x80 from hc) (by decide)
      rw [lowerFrom, if_neg hsigma, lowerChar_of_isAscii hc, ih hcs, List.map_cons,
        List.singleton_append]

/-- **Case**: for texts in ASCII the rules `equalIgnoringCase` and `equalIgnoringAsciiCase`
agree. -/
theorem equalIgnoringCase_iff_of_isAscii {a b : String} (ha : ∀ c ∈ a.toList, IsAscii c)
    (hb : ∀ c ∈ b.toList, IsAscii c) : equalIgnoringCase a b = true ↔
      equalIgnoringAsciiCase a b = true := by
  rw [equalIgnoringCase_iff, equalIgnoringAsciiCase_iff, lowercase, lowercase,
    lowerChars, lowerChars,
    lowerFrom_of_isAscii ha, lowerFrom_of_isAscii hb]
  exact String.ofList_inj

/-- For characters in ASCII `equalCharIgnoringCase` compares `Char.toLower`. -/
theorem equalCharIgnoringCase_iff_of_isAscii {a b : Char} (ha : IsAscii a) (hb : IsAscii b) :
    equalCharIgnoringCase a b = true ↔ a.toLower = b.toLower := by
  rw [equalCharIgnoringCase, Bool.or_eq_true, beq_iff_eq, beq_iff_eq, lowerChar_of_isAscii ha,
    lowerChar_of_isAscii hb, List.singleton_inj]
  constructor
  · rintro (rfl | hlower)
    · rfl
    · exact hlower
  · exact .inr

end DataAccess.Text

namespace DataAccess.Catalog.Label

open Text

variable {case : Case} {token label rest : List Char} {quoted : Bool} {part next : String}
    {parts : List String}

/-! ## Ends of a text -/

section Ends

variable {p : Char → Bool} {cs ends : List Char}

/-- Nothing is dropped if the first character stays. -/
theorem dropWhile_eq_self (h : ∀ c ∈ cs.head?, p c = false) : cs.dropWhile p = cs := by
  cases cs with
  | nil => rfl
  | cons c cs => simp [h c rfl]

/-- What is dropped ends where the first character stays. -/
theorem dropWhile_append (hends : ∀ c ∈ ends, p c = true) (h : ∀ c ∈ cs.head?, p c = false) :
    (ends ++ cs).dropWhile p = cs := by
  rw [List.dropWhile_append_of_pos hends, dropWhile_eq_self h]

/-- `trimWith p` does nothing to a text whose first and last characters have no `p`. -/
theorem trimWith_eq_self_of_ends (hfirst : ∀ c ∈ cs.head?, p c = false)
    (hlast : ∀ c ∈ cs.getLast?, p c = false) :
    trimWith p cs = cs := by
  rw [← List.head?_reverse] at hlast
  rw [trimWith, dropWhile_eq_self hfirst, dropWhile_eq_self hlast, List.reverse_reverse]

/-- Trimming does nothing to a text of which nothing is to be stripped. -/
theorem trimWith_eq_self (h : ∀ c ∈ cs, p c = false) : trimWith p cs = cs :=
  trimWith_eq_self_of_ends (fun c hc => h c (List.mem_of_mem_head? hc))
    (fun c hc => h c (List.mem_of_mem_getLast? hc))

/-- The last character of `trimWith p cs` has no `p`. -/
theorem getLast?_trimWith : ∀ c ∈ (trimWith p cs).getLast?, p c = false := by
  intro c hc
  rw [trimWith, List.getLast?_reverse] at hc
  have hhead := List.head?_dropWhile_not p (cs.dropWhile p).reverse
  rw [Option.mem_def.mp hc] at hhead
  exact hhead

/-- `trimWith p cs` is a part of `cs`. -/
theorem trimWith_sublist : (trimWith p cs).Sublist cs := by
  have hfront : (cs.dropWhile p).Sublist cs := List.dropWhile_sublist p
  have hback := (List.dropWhile_sublist p (l := (cs.dropWhile p).reverse)).reverse
  rw [List.reverse_reverse] at hback
  exact hback.trans hfront

/-- Trimming takes `ends` from a text `cs ++ ends`, where `p` holds of all of `ends` and of none of
`cs`. -/
theorem trimWith_append (hcs : ∀ c ∈ cs, p c = false) (hne : cs ≠ [])
    (hends : ∀ c ∈ ends, p c = true) : trimWith p (cs ++ ends) = cs := by
  have hfirst : (cs ++ ends).dropWhile p = cs ++ ends := by
    apply dropWhile_eq_self
    rw [List.head?_append_of_ne_nil _ hne]
    exact fun c hc => hcs c (List.mem_of_mem_head? hc)
  rw [trimWith, hfirst, List.reverse_append, List.dropWhile_append_of_pos (by simpa using hends)]
  rw [dropWhile_eq_self (fun c hc => hcs c (List.mem_reverse.mp (List.mem_of_mem_head? hc)))]
  exact List.reverse_reverse cs

/-- A character without `p` is not trimmed. -/
theorem mem_trimWith {c : Char} (hp : p c = false) (hc : c ∈ cs) :
    c ∈ trimWith p cs := by
  have hdrop : ∀ ds : List Char, c ∈ ds → c ∈ ds.dropWhile p := by
    intro ds hds
    rw [← List.takeWhile_append_dropWhile (p := p) (l := ds)] at hds
    rcases List.mem_append.mp hds with htaken | hleft
    · have hstripped := List.all_eq_true.mp List.all_takeWhile c htaken
      rw [hp] at hstripped
      cases hstripped
    · exact hleft
  unfold trimWith
  exact List.mem_reverse.mpr (hdrop _ (List.mem_reverse.mpr (hdrop _ hc)))

end Ends

/-! ## Tokens -/

/-- Whether `text` spells `token`, character by character under a rule for case (`sameChar`). -/
def Spells (case : Case) (text token : List Char) : Prop :=
  List.Forall₂ (fun actual expected => sameChar case actual expected = true) text token

/-- `Spells .sensitive text token` holds for `text = token` alone. -/
theorem spells_sensitive {text : List Char} : Spells .sensitive text token ↔ text = token := by
  simp [Spells, sameChar]

/-- Without case a token in ASCII is spelled by the texts in ASCII with the same `Char.toLower`
forms. -/
theorem spells_insensitive {text : List Char} (htext : ∀ c ∈ text, IsAscii c)
    (htoken : ∀ c ∈ token, IsAscii c) :
    Spells .insensitive text token ↔ text.map Char.toLower = token.map Char.toLower := by
  induction text generalizing token with
  | nil => cases token <;> simp [Spells]
  | cons a text ih =>
      cases token with
      | nil => simp [Spells]
      | cons e token =>
          obtain ⟨ha, htext⟩ := List.forall_mem_cons.mp htext
          obtain ⟨he, htoken⟩ := List.forall_mem_cons.mp htoken
          simp only [Spells, List.forall₂_cons, List.map_cons, List.cons.injEq]
          exact and_congr (equalCharIgnoringCase_iff_of_isAscii ha he) (ih htext htoken)

/-- What spells a token under some rule spells it under `.insensitive`. -/
theorem Spells.ignoringCase {text : List Char} (h : Spells case text token) :
    Spells .insensitive text token := by
  refine h.imp fun a e hsame => ?_
  cases case with
  | sensitive => simp [sameChar, equalCharIgnoringCase, beq_iff_eq.mp hsame]
  | insensitive => exact hsame

/-- The two delimiters are `.` and `"`. -/
theorem isDelimiter_iff {c : Char} : isDelimiter c = true ↔ c = '.' ∨ c = '"' := by
  simp [isDelimiter]

/-- A quote is a delimiter. -/
theorem isDelimiter_of_isQuote {c : Char} (h : isQuote c = true) : isDelimiter c = true :=
  isDelimiter_iff.mpr (.inr (beq_iff_eq.mp h))

/-- Delimiters are no letters. -/
@[simp]
theorem isDelimiter_toLower (c : Char) : isDelimiter c.toLower = isDelimiter c := by
  apply apply_toLower
  intro c hle _
  rcases hc : isDelimiter c with _ | _
  · rfl
  · rcases isDelimiter_iff.mp hc with rfl | rfl <;> exact absurd hle (by decide)

/-- `sameChar` tells delimiters from other characters, under either rule. -/
theorem isDelimiter_of_sameChar {a e : Char} (h : sameChar case a e = true) :
    isDelimiter a = isDelimiter e := by
  have hsame : equalCharIgnoringCase a e = true := by
    cases case with
    | sensitive => simp [equalCharIgnoringCase, beq_iff_eq.mp h]
    | insensitive => exact h
  have hother : ∀ {c d : Char}, isDelimiter d = true →
      equalCharIgnoringCase c d = true → c = d := by
    intro c d hd
    rcases isDelimiter_iff.mp hd with rfl | rfl
    · exact eq_of_equalCharIgnoringCase (by decide) (by decide)
    · exact eq_of_equalCharIgnoringCase (by decide) (by decide)
  rcases he : isDelimiter e with _ | _
  · rcases ha : isDelimiter a with _ | _
    · rfl
    · have hback : equalCharIgnoringCase e a = true := by
        rwa [equalCharIgnoringCase, BEq.comm, BEq.comm (a := lowerChar e)]
      rw [hother ha hback, ha] at he
      cases he
  · rw [hother he hsame, he]

/-- A text that `Spells` a token without delimiters has none. -/
theorem Spells.noDelimiter {text : List Char} (h : Spells case text token)
    (htoken : ∀ c ∈ token, isDelimiter c = false) : ∀ c ∈ text, isDelimiter c = false := by
  induction h with
  | nil => nofun
  | cons hsame _ ih =>
      obtain ⟨he, htoken⟩ := List.forall_mem_cons.mp htoken
      exact List.forall_mem_cons.mpr ⟨(isDelimiter_of_sameChar hsame).trans he, ih htoken⟩

/-- What follows a token is what follows a text that `Spells` it: `label = text ++ rest`. -/
theorem afterToken?_eq_some_iff :
    afterToken? case token label = some rest ↔ ∃ text, label = text ++ rest ∧
      Spells case text token := by
  induction token generalizing label with
  | nil =>
      constructor
      · intro h
        exact ⟨[], Option.some.inj h, .nil⟩
      · rintro ⟨text, rfl, hspells⟩
        cases hspells
        rfl
  | cons expected token ih =>
      cases label with
      | nil =>
          constructor
          · nofun
          · rintro ⟨text, hlabel, hspells⟩
            cases hspells
            cases hlabel
      | cons actual label =>
          rw [afterToken?]
          constructor
          · intro h
            split at h
            · rename_i hsame
              obtain ⟨text, rfl, hspells⟩ := ih.mp h
              exact ⟨actual :: text, rfl, .cons hsame hspells⟩
            · cases h
          · rintro ⟨text, hlabel, hspells⟩
            cases hspells with
            | cons hsame hspells =>
                obtain ⟨rfl, rfl⟩ := List.cons.inj hlabel
                rw [if_pos hsame]
                exact ih.mpr ⟨_, rfl, hspells⟩

/-- **Tokens**: `stripToken?` removes a text that spells the token and the delimiters after it, of
which there must be one. The rest does not begin with a delimiter. -/
theorem stripToken?_eq_some_iff :
    stripToken? case token label = some rest ↔ token ≠ [] ∧ ∃ text delimiters,
      label = text ++ (delimiters ++ rest) ∧ Spells case text token ∧ delimiters ≠ [] ∧
        (∀ c ∈ delimiters, isDelimiter c = true) ∧ ∀ c ∈ rest.head?, isDelimiter c = false := by
  unfold stripToken?
  constructor
  · intro h
    split at h
    · cases h
    · rename_i hempty
      refine ⟨fun hnil => hempty (List.isEmpty_iff.mpr hnil), ?_⟩
      split at h
      · rename_i c after hafter
        obtain ⟨text, rfl, hspells⟩ := afterToken?_eq_some_iff.mp hafter
        split at h
        · rename_i hc
          obtain rfl := Option.some.inj h
          refine ⟨text, (c :: after).takeWhile isDelimiter, ?_, hspells, ?_, ?_, ?_⟩
          · rw [List.takeWhile_append_dropWhile]
          · simp [hc]
          · exact List.all_eq_true.mp List.all_takeWhile
          · intro d hd
            have hhead := List.head?_dropWhile_not isDelimiter (c :: after)
            rw [Option.mem_def.mp hd] at hhead
            simpa using hhead
        · cases h
      · cases h
  · rintro ⟨htoken, text, delimiters, rfl, hspells, hdelimiters, hall, hrest⟩
    rw [if_neg (by simpa using htoken)]
    rw [afterToken?_eq_some_iff.mpr ⟨text, rfl, hspells⟩]
    cases delimiters with
    | nil => exact absurd rfl hdelimiters
    | cons c delimiters =>
        have hdrop := dropWhile_append hall hrest
        rw [List.cons_append] at hdrop ⊢
        simp [hall c List.mem_cons_self, hdrop]

/-! ## Written labels -/

/-- Whether a name may be a part of a label: it is not empty, and has no dots, quotes and blanks. -/
structure IsPart (part : String) : Prop where
  /-- It is not empty. -/
  nonempty : part.toList ≠ []
  /-- It has no dots and quotes. -/
  noDelimiter : ∀ c ∈ part.toList, isDelimiter c = false
  /-- It has no blanks. -/
  noBlank : ∀ c ∈ part.toList, isBlank c = false

theorem isPart_iff : IsPart part ↔ part.toList ≠ [] ∧
    part.toList.all (fun c => !isDelimiter c) = true ∧
      part.toList.all (fun c => !isBlank c) = true := by
  simp only [List.all_eq_true, Bool.not_eq_true']
  exact ⟨fun h => ⟨h.nonempty, h.noDelimiter, h.noBlank⟩, fun h => ⟨h.1, h.2.1, h.2.2⟩⟩

instance (part : String) : Decidable (IsPart part) :=
  decidable_of_iff _ isPart_iff.symm

/-- The quotes on one side of a name, one or none. -/
def quotes (quoted : Bool) : List Char :=
  if quoted then ['"'] else []

/-- What stands between two names: a dot, and on each side of it the `quotes`. -/
def between (quoted : Bool) : List Char :=
  quotes quoted ++ '.' :: quotes quoted

/-- Names with dots between them, without the first quotes: the label as it is after `normalize`. -/
def written (quoted : Bool) : List String → List Char
  | [] => []
  | [part] => part.toList ++ quotes quoted
  | part :: next :: parts => part.toList ++ (between quoted ++ written quoted (next :: parts))

/-- The label of some names, with dots between them and, if `quoted`, quotes around each. -/
def join (quoted : Bool) (parts : List String) : String :=
  String.ofList (quotes quoted ++ written quoted parts)

/-- `quotes` has but quotes. -/
theorem isQuote_of_mem_quotes {c : Char} (h : c ∈ quotes quoted) : isQuote c = true := by
  cases quoted with
  | false => cases h
  | true => simpa [isQuote] using List.mem_singleton.mp h

/-- `between` has but delimiters. -/
theorem isDelimiter_of_mem_between {c : Char} (h : c ∈ between quoted) : isDelimiter c = true := by
  rcases List.mem_append.mp h with hquote | hafter
  · exact isDelimiter_of_isQuote (isQuote_of_mem_quotes hquote)
  · rcases List.mem_cons.mp hafter with rfl | hquote
    · exact isDelimiter_iff.mpr (.inl rfl)
    · exact isDelimiter_of_isQuote (isQuote_of_mem_quotes hquote)

/-- A delimiter is no blank. -/
theorem not_isBlank_of_isDelimiter {c : Char} (h : isDelimiter c = true) : isBlank c = false := by
  rcases isDelimiter_iff.mp h with rfl | rfl <;> decide

/-- Names have no quotes. -/
theorem IsPart.not_isQuote (h : IsPart part) : ∀ c ∈ part.toList, isQuote c = false := by
  intro c hc
  rcases hquote : isQuote c with _ | _
  · rfl
  · exact (isDelimiter_of_isQuote hquote).symm.trans (h.noDelimiter c hc)

/-- `written` begins with the first character of the first part, which is no delimiter. -/
theorem head?_written (h : IsPart part) (parts : List String) :
    ∀ c ∈ (written quoted (part :: parts)).head?, isDelimiter c = false := by
  intro c hc
  have hfirst : (written quoted (part :: parts)).head? = part.toList.head? := by
    cases parts with
    | nil => exact List.head?_append_of_ne_nil _ h.nonempty
    | cons next parts => exact List.head?_append_of_ne_nil _ h.nonempty
  rw [hfirst] at hc
  exact h.noDelimiter c (List.mem_of_mem_head? hc)

/-- `written` has no blanks. -/
theorem not_isBlank_of_mem_written : (parts : List String) → (∀ part ∈ parts, IsPart part) →
    ∀ c ∈ written quoted parts, isBlank c = false
  | [], _, c, hc => nomatch hc
  | [part], h, c, hc => by
      rcases List.mem_append.mp hc with hname | hquote
      · exact (h part List.mem_cons_self).noBlank c hname
      · exact not_isBlank_of_isDelimiter (isDelimiter_of_isQuote (isQuote_of_mem_quotes hquote))
  | part :: next :: parts, h, c, hc => by
      obtain ⟨hpart, hmore⟩ := List.forall_mem_cons.mp h
      rcases List.mem_append.mp hc with hname | hafter
      · exact hpart.noBlank c hname
      · rcases List.mem_append.mp hafter with hbetween | hrest
        · exact not_isBlank_of_isDelimiter (isDelimiter_of_mem_between hbetween)
        · exact not_isBlank_of_mem_written (next :: parts) hmore c hrest

/-- The label of some names is not empty. -/
theorem written_ne_nil (h : IsPart part) (parts : List String) :
    written quoted (part :: parts) ≠ [] := by
  cases parts with
  | nil => exact List.append_ne_nil_of_left_ne_nil h.nonempty _
  | cons next parts => exact List.append_ne_nil_of_left_ne_nil h.nonempty _

/-- **Written labels**: only the first quotes of a label are taken away before it is read:
`normalize (join quoted parts) = written quoted parts`. -/
theorem normalize_join (hparts : ∀ part ∈ parts, IsPart part) :
    normalize (join quoted parts) = written quoted parts := by
  have hblank : ∀ c ∈ quotes quoted ++ written quoted parts, isBlank c = false := by
    intro c hc
    rcases List.mem_append.mp hc with hquote | hrest
    · exact not_isBlank_of_isDelimiter (isDelimiter_of_isQuote (isQuote_of_mem_quotes hquote))
    · exact not_isBlank_of_mem_written parts hparts c hrest
  rw [normalize, join, String.toList_ofList, trimChars, trimWith_eq_self hblank]
  apply dropWhile_append fun c hc => isQuote_of_mem_quotes hc
  intro c hc
  cases parts with
  | nil => cases hc
  | cons part parts =>
      rcases hquote : isQuote c with _ | _
      · rfl
      · have hfirst := head?_written (hparts part List.mem_cons_self) parts c hc
        exact (isDelimiter_of_isQuote hquote).symm.trans hfirst

/-- A name ends where a delimiter stands. -/
theorem dropWhile_name {name delimiters after : List Char}
    (hname : ∀ c ∈ name, isDelimiter c = false) (hne : delimiters ≠ [])
    (hdelimiters : ∀ c ∈ delimiters, isDelimiter c = true) :
    (name ++ (delimiters ++ after)).dropWhile (fun c => !isDelimiter c) = delimiters ++ after := by
  apply dropWhile_append
  · simpa using hname
  · rw [List.head?_append_of_ne_nil _ hne]
    intro c hc
    simpa using hdelimiters c (List.mem_of_mem_head? hc)

/-- **Written labels**: `stripName?` removes just the names that the first part `Spells` from the
front of a label, together with what stands between it and the next part. -/
theorem stripName?_written {name : String} (hname : IsPart name) (hpart : IsPart part)
    (hnext : IsPart next) :
    stripName? case name (written quoted (part :: next :: parts)) = some rest ↔
      Spells case part.toList name.toList ∧ rest = written quoted (next :: parts) := by
  unfold stripName?
  rw [stripToken?_eq_some_iff]
  constructor
  · rintro ⟨-, text, delimiters, hlabel, hspells, hne, hdelimiters, hrest⟩
    have hbetween : between quoted ≠ [] := by simp [between]
    have hafter := congrArg (List.dropWhile fun c => !isDelimiter c) hlabel
    rw [written, dropWhile_name hpart.noDelimiter hbetween fun c hc =>
      isDelimiter_of_mem_between hc,
      dropWhile_name (hspells.noDelimiter hname.noDelimiter) hne hdelimiters] at hafter
    refine ⟨?_, ?_⟩
    · rw [written, hafter] at hlabel
      rw [List.append_cancel_right hlabel]
      exact hspells
    · have hdrop := congrArg (List.dropWhile isDelimiter) hafter
      rw [dropWhile_append hdelimiters hrest] at hdrop
      rw [dropWhile_append (fun c hc => isDelimiter_of_mem_between hc) (head?_written hnext parts)]
        at hdrop
      exact hdrop.symm
  · rintro ⟨hspells, rfl⟩
    refine ⟨hname.nonempty, part.toList, between quoted, rfl, hspells, ?_, ?_,
      head?_written hnext parts⟩
    · simp [between]
    · exact fun c hc => isDelimiter_of_mem_between hc

/-- **Written labels**: a name is read without the quotes around it:
`unquote (written quoted [part]) = part`. -/
theorem unquote_written (h : IsPart part) : unquote (written quoted [part]) = part := by
  rw [unquote, written, trimWith_append h.not_isQuote h.nonempty fun c hc =>
    isQuote_of_mem_quotes hc]
  exact String.ofList_toList

/-- A label of several names keeps its dots if it is read as one name. -/
theorem dot_mem_unquote_written :
    '.' ∈ (unquote (written quoted (part :: next :: parts))).toList := by
  rw [unquote, String.toList_ofList]
  apply mem_trimWith (by decide)
  simp [written, between]

end DataAccess.Catalog.Label
